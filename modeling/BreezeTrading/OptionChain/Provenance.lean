/-
This file proves from which chains the strategies trade. The source of a chain is checked on each
entry path with a list of strategies of its own, and Strategy B is on neither: without a broker
gateway it trades a contract of the fallback chain. In every other case a trade has the quote of a
real chain.
-/

import BreezeTrading.OptionChain.ContractSelector
import BreezeTrading.Strategy.Service
import BreezeTrading.Strategy.Sizing

namespace BreezeTrading

namespace OptionChain

/-! ### The entry paths -/

/-- How an entry comes about: a signal of a cycle, or an operator. -/
inductive EntryPath where
  | cycle
  | forced
  deriving DecidableEq, Repr

/-- An entry that has come as far as the selection of its contract. -/
structure EntryAttempt where
  path : EntryPath
  strategy : StrategyName
  direction : TradeDirection
  /-- the entry of the underlying that the signal states, if it does -/
  underlyingEntry : Option ℚ
  /-- the spot the signal refers to, or the one an operator enters at -/
  spot : ℚ
  structuralStop : ℚ
  asOf : Option SelectionTime
  premiumCap : Option ℚ
  mode : AutoTradingMode
  systemArmed : Bool
  liveOrdersEnabled : Bool
  selection : OptionSelectionConfig
  sizing : SizingLimits
  strategyELots : Int
  costs : PaperCosts

/-- A trade as it is created: its contract, size and price, and the source of its quote. -/
structure CreatedTrade where
  strategy : StrategyName
  contract : Selected
  lots : Int
  quantity : Int
  entryPrice : ℚ
  entryQuoteSource : String
  deriving DecidableEq

/-- `_uses_delta_aware_selector`, and the strategies sized by their structural risk. -/
def usesDeltaAwareSelector (strategy : StrategyName) : Bool :=
  decide (strategy = .trendPullback ∨ strategy = .diContinuation)

/-- The chain is ready for the delta-aware strategies: `strategy_a_option_execution_ready`. -/
def optionExecutionReady (chain : Chain) : Bool :=
  decide (chain.source ∈ realSources) &&
    chain.capabilities.any Capabilities.contractSelectionReady

/-- The strategies whose chain a cycle checks. -/
def cycleChecksSource (strategy : StrategyName) : Bool :=
  decide (strategy = .trendPullback ∨ strategy = .diContinuation ∨
    strategy = .srMomentumBreakout ∨ strategy = .pivotVwapScalp)

/-- The strategies whose chain a forced entry checks. -/
def forcedChecksSource (strategy : StrategyName) : Bool := decide (strategy = .trendPullback)

/-- The path checks the source of the chain of the strategy. -/
def checksSource : EntryPath → StrategyName → Bool
  | .cycle => cycleChecksSource
  | .forced => forcedChecksSource

/-- The price of the underlying the contract is selected and sized for. -/
def EntryAttempt.underlying (attempt : EntryAttempt) : Option ℚ :=
  match attempt.path with
  | .forced => some attempt.spot
  | .cycle =>
      if usesDeltaAwareSelector attempt.strategy then attempt.underlyingEntry
      else some attempt.spot

/-- The selection uses the deltas of the chain. -/
def EntryAttempt.deltaAware (attempt : EntryAttempt) : Bool :=
  match attempt.path with
  | .cycle => usesDeltaAwareSelector attempt.strategy
  | .forced => decide (attempt.strategy = .trendPullback)

/-- An operator may force the strategy, and a delta-aware live entry of a cycle needs a chain that
is ready for it. -/
def EntryAttempt.admitted (attempt : EntryAttempt) (chain : Chain) : Bool :=
  match attempt.path with
  | .forced => (resolveStrategyExecutionPolicy attempt.strategy attempt.mode).forceEntryAllowed
  | .cycle =>
      !(usesDeltaAwareSelector attempt.strategy && decide (attempt.mode = .live) &&
        !optionExecutionReady chain)

/-- Lots and quantity of an entry into a contract. -/
def EntryAttempt.size (attempt : EntryAttempt) (underlying : ℚ) (contract : Selected) :
    Except Raised (Int × Int) :=
  if attempt.deltaAware then
    UnderlyingRiskSizer.size attempt.sizing underlying attempt.structuralStop contract.delta
      contract.lotSize contract.askPrice
  else
    let sized := calculatePositionSize attempt.sizing contract.askPrice contract.lotSize
    if attempt.path = .cycle ∧ attempt.strategy = .pivotVwapScalp then
      let lots := min sized.1 attempt.strategyELots
      .ok (lots, lots * contract.lotSize)
    else .ok sized

/-- A live entry needs the permission of the server, and an armed system. -/
def EntryAttempt.passesLiveGate (attempt : EntryAttempt) : Bool :=
  decide (attempt.mode ≠ .live) || attempt.liveOrdersEnabled && attempt.systemArmed

/-- The contract that an attempt selects from a chain, before the check of its source. -/
def EntryAttempt.selected (attempt : EntryAttempt) (chain : Chain) : Option (ℚ × Selected) :=
  if attempt.admitted chain then
    attempt.underlying.bind fun underlying =>
      match selectContract attempt.selection attempt.direction underlying chain
          attempt.premiumCap attempt.asOf attempt.deltaAware with
      | .error _ => none
      | .ok contract => some (underlying, contract)
  else none

/-- The trade an attempt sizes a contract to, if the size and the live gate allow one. -/
def EntryAttempt.sized (attempt : EntryAttempt) (chain : Chain) (underlying : ℚ)
    (contract : Selected) : Option CreatedTrade :=
  match attempt.size underlying contract with
  | .error _ => none
  | .ok (lots, quantity) =>
      if lots < 1 ∨ attempt.passesLiveGate = false then none
      else some
        { strategy := attempt.strategy
          contract := contract
          lots := lots
          quantity := quantity
          entryPrice := roundTo 2 (contract.askPrice +
            if attempt.mode = .paper ∨ attempt.mode = .shadowOnly then
              attempt.costs.slippagePoints
            else 0)
          entryQuoteSource := chain.source }

/-- The trade an attempt would come to if no source was checked. -/
def EntryAttempt.unchecked (attempt : EntryAttempt) (chain : Chain) : Option CreatedTrade :=
  (attempt.selected chain).bind fun (underlying, contract) =>
    attempt.sized chain underlying contract

/-- The trade an attempt creates: contract selection, the check of the source, sizing and the live
gate. -/
def EntryAttempt.create (attempt : EntryAttempt) (state : ProviderState) : Option CreatedTrade :=
  let chain := getOptionChain state
  (attempt.selected chain).bind fun (underlying, contract) =>
    if checksSource attempt.path attempt.strategy && decide (chain.source ∉ realSources) then none
    else attempt.sized chain underlying contract

/-! ### Real quotes -/

/-- The trade has a contract and a price of a chain of a real source. -/
structure CreatedTrade.HasRealQuote (created : CreatedTrade) (state : ProviderState) : Prop where
  source : created.entryQuoteSource ∈ realSources
  chain : created.entryQuoteSource = (getOptionChain state).source
  contract : created.contract.IsLegOf (getOptionChain state)

theorem EntryAttempt.create_spec {attempt : EntryAttempt} {state : ProviderState}
    {created : CreatedTrade} (creates : attempt.create state = some created) :
    created.strategy = attempt.strategy ∧
      created.entryQuoteSource = (getOptionChain state).source ∧
      created.contract.IsLegOf (getOptionChain state) ∧
      attempt.unchecked (getOptionChain state) = some created ∧
      (checksSource attempt.path attempt.strategy = true →
        (getOptionChain state).source ∈ realSources) := by
  obtain ⟨⟨underlying, contract⟩, selects, rest⟩ := Option.bind_eq_some_iff.mp creates
  have leg : contract.IsLegOf (getOptionChain state) := by
    unfold EntryAttempt.selected at selects
    split at selects
    · obtain ⟨price, -, chosen⟩ := Option.bind_eq_some_iff.mp selects
      split at chosen
      · cases chosen
      · rename_i picked selectedOk
        cases chosen
        exact isLegOf_of_selectContract selectedOk
    · cases selects
  dsimp only at rest
  split at rest
  · cases rest
  · rename_i passes
    have sized := rest
    unfold EntryAttempt.sized at rest
    split at rest
    · cases rest
    · split at rest
      · cases rest
      · cases rest
        refine ⟨rfl, rfl, leg, ?_, fun checks => ?_⟩
        · unfold EntryAttempt.unchecked
          rw [selects]
          exact sized
        · simpa [checks] using passes

theorem checksSource_of_selected {attempt : EntryAttempt} {chain : Chain} {found : ℚ × Selected}
    (selects : attempt.selected chain = some found)
    (other : attempt.strategy ≠ .volatilityBreakout) :
    checksSource attempt.path attempt.strategy = true := by
  unfold EntryAttempt.selected at selects
  split at selects
  · rename_i admitted
    unfold EntryAttempt.admitted at admitted
    split at admitted
    · rename_i forced
      simp [resolveStrategyExecutionPolicy, other] at admitted
    · rename_i cycle
      rw [cycle]
      cases strategy : attempt.strategy <;> first | rfl | exact absurd strategy other
  · cases selects

/-! ### Synthetic prices -/

/-- No broker is wired; the local master lists an expiry nine days ahead with three calls. -/
def offline : ProviderState where
  gateway := none
  today := 20000
  localExpiries := .ok [20009]
  latest := fun _ => none
  instruments := fun _ => .ok
    [⟨"INST-NIFTY-A", "NIFTY22900CE", some 22900, some .call, 75⟩,
      ⟨"INST-NIFTY-B", "NIFTY23500CE", some 23500, some .call, 75⟩,
      ⟨"INST-NIFTY-C", "NIFTY24250CE", some 24250, some .call, 75⟩]
  seeded := .ok ()

/-- A bullish entry of Strategy B on paper. -/
def breakoutEntry (path : EntryPath) : EntryAttempt where
  path := path
  strategy := .volatilityBreakout
  direction := .bullish
  underlyingEntry := none
  spot := 23217
  structuralStop := 23150
  asOf := some ⟨0, 20000⟩
  premiumCap := none
  mode := .paper
  systemArmed := false
  liveOrdersEnabled := false
  selection := {}
  sizing := ⟨50000, 500000, 1, 30, 5⟩
  strategyELots := 1
  costs := .standard

theorem breakout_trades_model_price (path : EntryPath) :
    ((breakoutEntry path).create offline).map
      (fun created => (created.contract.instrumentId, created.entryQuoteSource)) =
        some ("INST-NIFTY-C", "UNAVAILABLE") := by
  cases path <;> decide +kernel

end OptionChain

end BreezeTrading
