/-
This file models the selection of an option contract from a chain. The delta-aware
selection asks for a verified delta and a fresh quote; the legacy one filters by premium
and liquidity only, and never looks at where the chain comes from. Both take a leg of the
chain on the nearest expiry that has enough sessions left.
-/

import BreezeTrading.OptionChain.Service

namespace BreezeTrading

namespace OptionChain

/-! ### Configuration -/

/-- The constraints on a contract. -/
structure OptionSelectionConfig where
  maxOptionPremium : ℚ := 70
  minOptionPremium : ℚ := 15
  minOpenInterest : Int := 10000
  maxBidAskSpreadPct : ℚ := 3
  preferredDeltaMin : ℚ := 6 / 10
  preferredDeltaMax : ℚ := 65 / 100
  allowedDeltaMin : ℚ := 55 / 100
  allowedDeltaMax : ℚ := 7 / 10
  minimumExpirySessionsRemaining : Nat := 2
  maxQuoteAgeSeconds : ℚ := 30
  minimumVolume : Int := 0
  exchangeHolidays : List Int := []
  deriving DecidableEq

structure SelectionTime where
  moment : Int
  day : Int
  deriving DecidableEq, Repr

/-- Day zero was a Thursday. -/
def isTradingDay (holidays : List Int) (day : Int) : Bool :=
  decide ((day + 3) % 7 < 5) && decide (day ∉ holidays)

/-- Count exchange sessions strictly after a day through expiry. -/
def tradingSessionsRemaining (asOf expiry : Int) (holidays : List Int) : Nat :=
  ((List.range (expiry - asOf).toNat).filter fun offset =>
    isTradingDay holidays (asOf + 1 + (offset : Int))).length

/-! ### Candidates -/

/-- A leg with what the selection computes of it. -/
structure Candidate where
  strike : ℚ
  leg : OptionLeg
  expiry : Option Int
  quoteTimestamp : RawTimestamp
  deriving DecidableEq

namespace Candidate

/-- The spread in percent of the middle. -/
def spreadPct (candidate : Candidate) : ℚ :=
  (candidate.leg.ask - candidate.leg.bid) / ((candidate.leg.bid + candidate.leg.ask) / 2) * 100

/-- The quote has two sides that are not crossed. -/
def quoted (candidate : Candidate) : Bool :=
  decide (0 < candidate.leg.bid ∧ candidate.leg.bid ≤ candidate.leg.ask)

/-- The contract is known, and on the nearest expiry. -/
def listed (candidate : Candidate) (nearest : Int) : Bool :=
  decide (candidate.expiry = some nearest ∧ candidate.leg.instrumentId ≠ "" ∧
    0 < candidate.leg.lotSize)

/-- The age of the quote at a moment, where it has one that is not in the future. -/
def age (candidate : Candidate) (now : Int) : Option Int :=
  match candidate.quoteTimestamp with
  | .at moment => if now < moment then none else some (now - moment)
  | _ => none

/-- `strategy_a=False`: premium and liquidity. -/
def legacyEligible (candidate : Candidate) (config : OptionSelectionConfig) (cap : Option ℚ)
    (nearest : Int) : Bool :=
  candidate.listed nearest && candidate.quoted &&
    decide (candidate.leg.ask ≤ cap.getD config.maxOptionPremium) &&
    decide (config.minOptionPremium ≤ candidate.leg.ask) &&
    decide (config.minOpenInterest ≤ candidate.leg.openInterest) &&
    decide (candidate.spreadPct ≤ config.maxBidAskSpreadPct)

/-- `strategy_a=True`: delta, freshness and liquidity. -/
def deltaEligible (candidate : Candidate) (config : OptionSelectionConfig) (now nearest : Int) :
    Bool :=
  candidate.listed nearest && candidate.quoted &&
    candidate.leg.delta.any (fun delta =>
      decide (config.allowedDeltaMin ≤ |delta| ∧ |delta| ≤ config.allowedDeltaMax)) &&
    (candidate.age now).any (fun age => decide ((age : ℚ) / 1000000 ≤ config.maxQuoteAgeSeconds)) &&
    decide (candidate.spreadPct ≤ config.maxBidAskSpreadPct) &&
    decide (config.minimumVolume ≤ candidate.leg.volume) &&
    decide (config.minOpenInterest ≤ candidate.leg.openInterest)

/-- The distance of the delta from the preferred band. -/
def deltaDistance (candidate : Candidate) (config : OptionSelectionConfig) : ℚ :=
  let delta := |candidate.leg.delta.getD 0|
  if config.preferredDeltaMin ≤ delta ∧ delta ≤ config.preferredDeltaMax then 0
  else min |delta - config.preferredDeltaMin| |delta - config.preferredDeltaMax|

/-- The delta is in the preferred band. -/
def preferred (candidate : Candidate) (config : OptionSelectionConfig) : Bool :=
  let delta := |candidate.leg.delta.getD 0|
  decide (config.preferredDeltaMin ≤ delta ∧ delta ≤ config.preferredDeltaMax)

/-- The spread as it is ranked: a spread of zero counts as no spread. -/
def rankedSpread (candidate : Candidate) : Option ℚ :=
  if roundTo 4 candidate.spreadPct = 0 then none else some (roundTo 4 candidate.spreadPct)

end Candidate

/-- A number comes before none. -/
def compareOrInf : Option ℚ → Option ℚ → Ordering
  | some first, some second => compare first second
  | some _, none => .lt
  | none, some _ => .gt
  | none, none => .eq

/-- The legacy ranking: the dearest first, then spread, open interest, strike and id. -/
def legacyBefore (first second : Candidate) : Bool :=
  ((compare second.leg.ask first.leg.ask).then <|
    (compare (roundTo 4 first.spreadPct) (roundTo 4 second.spreadPct)).then <|
    (compare second.leg.openInterest first.leg.openInterest).then <|
    (compare first.strike second.strike).then <|
    compare first.leg.instrumentId second.leg.instrumentId).isLT

/-- The delta-aware ranking: the preferred band, the distance to it, freshness, spread, open
interest, volume, strike and id. -/
def deltaBefore (config : OptionSelectionConfig) (now : Int) (first second : Candidate) : Bool :=
  ((compare (second.preferred config) (first.preferred config)).then <|
    (compare (first.deltaDistance config) (second.deltaDistance config)).then <|
    (compare ((first.age now).getD 0) ((second.age now).getD 0)).then <|
    (compareOrInf first.rankedSpread second.rankedSpread).then <|
    (compare second.leg.openInterest first.leg.openInterest).then <|
    (compare second.leg.volume first.leg.volume).then <|
    (compare first.strike second.strike).then <|
    compare first.leg.instrumentId second.leg.instrumentId).isLT

/-- The first element of a list that is sorted stably. -/
def firstBy {Element : Type} (before : Element → Element → Bool) : List Element → Option Element
  | [] => none
  | element :: rest =>
      match firstBy before rest with
      | none => some element
      | some best => if before best element then some best else some element

theorem mem_of_firstBy {Element : Type} {before : Element → Element → Bool}
    {elements : List Element} {best : Element} (found : firstBy before elements = some best) :
    best ∈ elements := by
  induction elements generalizing best with
  | nil => cases found
  | cons element rest inductionHypothesis =>
    unfold firstBy at found
    split at found
    · exact Option.some.inj found ▸ List.mem_cons_self
    · rename_i other first
      split at found
      · exact Option.some.inj found ▸ List.mem_cons_of_mem _ (inductionHypothesis first)
      · exact Option.some.inj found ▸ List.mem_cons_self

/-! ### Selection -/

/-- The option contract chosen. -/
structure Selected where
  instrumentId : String
  symbol : String
  expiry : Int
  strike : ℚ
  optionType : OptionType
  askPrice : ℚ
  bidPrice : ℚ
  openInterest : Int
  volume : Int
  spreadPct : ℚ
  lotSize : Int
  ltp : ℚ
  delta : Option ℚ
  deriving DecidableEq

/-- The legs of a chain for a kind of option, as the selection inspects them. -/
def candidatesOf (chain : Chain) (optionType : OptionType) : List Candidate :=
  chain.strikes.filterMap fun row => (row.leg optionType).map fun leg =>
    { strike := row.strike
      leg := leg
      expiry := leg.expiry <|> row.expiry <|> chain.expiry
      quoteTimestamp :=
        if leg.quoteTimestamp = .missing then chain.timestamp else leg.quoteTimestamp }

/-- The expiries of all rows, also of those without a leg. -/
def expiriesOf (chain : Chain) (optionType : OptionType) : List Int :=
  chain.strikes.filterMap fun row =>
    (row.leg optionType).bind OptionLeg.expiry <|> row.expiry <|> chain.expiry

/-- The nearest expiry with enough sessions left. -/
def nearestExpiry (config : OptionSelectionConfig) (chain : Chain) (optionType : OptionType)
    (day : Int) : Option Int :=
  ((expiriesOf chain optionType).filter fun expiry =>
    decide (config.minimumExpirySessionsRemaining ≤
      tradingSessionsRemaining day expiry (config.exchangeHolidays ++ chain.holidays))).min?

/-- The contract of a candidate. -/
def Candidate.select (candidate : Candidate) (optionType : OptionType) (expiry : Int) :
    Selected where
  instrumentId := candidate.leg.instrumentId
  symbol :=
    if candidate.leg.symbol = "" then
      "NIFTY" ++ toString candidate.strike.floor ++ (if optionType = .call then "CE" else "PE")
    else candidate.leg.symbol
  expiry := expiry
  strike := candidate.strike
  optionType := optionType
  askPrice := candidate.leg.ask
  bidPrice := candidate.leg.bid
  openInterest := candidate.leg.openInterest
  volume := candidate.leg.volume
  spreadPct := roundTo 4 candidate.spreadPct
  lotSize := candidate.leg.lotSize
  ltp := candidate.leg.ltp
  delta := candidate.leg.delta

/-- The option a direction buys. -/
def optionTypeFor (direction : TradeDirection) : OptionType :=
  if direction = .bullish then .call else .put

def bestCandidate (config : OptionSelectionConfig) (chain : Chain) (optionType : OptionType)
    (cap : Option ℚ) (strategyA : Bool) (now nearest : Int) : Option Candidate :=
  let candidates := candidatesOf chain optionType
  if strategyA then
    firstBy (deltaBefore config now)
      (candidates.filter fun candidate => candidate.deltaEligible config now nearest)
  else
    firstBy legacyBefore
      (candidates.filter fun candidate => candidate.legacyEligible config cap nearest)

/-- `select_contract`, at a given time; a time without a zone is refused. Returns the contract, or
the reason why there is none. -/
def selectContract (config : OptionSelectionConfig) (direction : TradeDirection)
    (underlying : ℚ) (chain : Chain) (cap : Option ℚ) (asOf : Option SelectionTime)
    (strategyA : Bool) : Except String Selected :=
  let optionType := optionTypeFor direction
  if underlying ≤ 0 then .error "INVALID_UNDERLYING_PRICE"
  else
    match asOf with
    | none => .error "NAIVE_SELECTION_TIMESTAMP"
    | some asOf =>
        match chain.capabilities.filter fun capabilities =>
            strategyA && !capabilities.verifiedDeltaAvailable with
        | some capabilities =>
            .error (if capabilities.rejectionReason = "" then "VERIFIED_OPTION_DELTA_UNAVAILABLE"
              else capabilities.rejectionReason)
        | none =>
            if chain.strikes = [] then .error "NO_STRIKES_IN_OPTION_CHAIN"
            else
              match nearestExpiry config chain optionType asOf.day with
              | none => .error "NO_ELIGIBLE_EXPIRY_TWO_TRADING_SESSIONS"
              | some nearest =>
                  match bestCandidate config chain optionType cap strategyA asOf.moment nearest with
                  | none => .error "NO_ELIGIBLE_DELTA_AWARE_CONTRACT"
                  | some best => .ok (best.select optionType nearest)

/-! ### What is selected -/

/-- The contract is a leg of the chain, at the leg's ask. -/
structure Selected.IsLegOf (selected : Selected) (chain : Chain) : Prop where
  leg : ∃ row ∈ chain.strikes, ∃ leg, row.leg selected.optionType = some leg ∧
    leg.instrumentId = selected.instrumentId ∧ leg.ask = selected.askPrice ∧
    row.strike = selected.strike

theorem bestCandidate_mem {config : OptionSelectionConfig} {chain : Chain}
    {optionType : OptionType} {cap : Option ℚ} {strategyA : Bool} {now nearest : Int}
    {best : Candidate}
    (found : bestCandidate config chain optionType cap strategyA now nearest = some best) :
    best ∈ candidatesOf chain optionType := by
  unfold bestCandidate at found
  split at found
  · exact (List.mem_filter.mp (mem_of_firstBy found)).1
  · exact (List.mem_filter.mp (mem_of_firstBy found)).1

theorem isLegOf_of_selectContract {config : OptionSelectionConfig} {direction : TradeDirection}
    {underlying : ℚ} {chain : Chain} {cap : Option ℚ} {asOf : Option SelectionTime}
    {strategyA : Bool} {selected : Selected}
    (selects : selectContract config direction underlying chain cap asOf strategyA = .ok selected) :
    selected.IsLegOf chain := by
  unfold selectContract at selects
  dsimp only at selects
  split at selects
  · cases selects
  · split at selects
    · cases selects
    · split at selects
      · cases selects
      · split at selects
        · cases selects
        · split at selects
          · cases selects
          · split at selects
            · cases selects
            · rename_i best found
              cases selects
              obtain ⟨row, member, candidate⟩ :=
                List.mem_filterMap.mp (bestCandidate_mem found)
              obtain ⟨leg, hasLeg, rfl⟩ := Option.map_eq_some_iff.mp candidate
              exact ⟨row, member, leg, hasLeg, rfl, rfl, rfl⟩

end OptionChain

end BreezeTrading
