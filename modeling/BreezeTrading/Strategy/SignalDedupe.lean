/-
This file models how an evaluation cycle takes a frozen or a scalp signal only once. The signals
and trades are read back from two limited lists before an entry, and a cycle may be cut at any
write. It proves when a signal has at most one trade, and when one without a trade may still get
it.
-/

import BreezeTrading.Lib.Run
import BreezeTrading.Strategy.CandidateRuntime
import BreezeTrading.Strategy.Service

namespace BreezeTrading.SignalDedupe

open StrategyService

/-! ### The stored signals -/

/-- A row of `strategy_signals`, with the columns a cycle reads. -/
structure SignalRow where
  signalId : String
  strategy : StrategyName
  timestamp : String
  deriving DecidableEq, Repr

/-- `INSERT OR REPLACE`: a signal takes the place of the row with its id. -/
def saveStrategySignal (signals : List SignalRow) (signal : TimedSignal) : List SignalRow :=
  (signals.filter fun row => decide (row.signalId ≠ signal.signalId)) ++
    [⟨signal.signalId, signal.strategy, signal.timestamp.text⟩]

/-- `list_strategy_signals`: the latest signals, by the text of their time. -/
def listStrategySignals (limit : Nat) (signals : List SignalRow) : List SignalRow :=
  (signals.insertionSort fun first second => second.timestamp ≤ first.timestamp).take limit

/-! ### State -/

/-- The tables of signals and trades, and every trade a signal was given, as it was created. -/
structure Books where
  signals : List SignalRow
  trades : List ActiveTrade
  created : List ActiveTrade

/-- The books, the bar Strategy E processed last, and the one its stored runtime says. -/
structure Desk where
  books : Books
  lastProcessedCandle : Option Int
  runtime : Option Int

def fresh : Desk := ⟨⟨[], [], []⟩, none, none⟩

/-! ### The input of a cycle -/

/-- The latest completed bar of Strategy E, with the signal its rules make of it. -/
structure ScalpBar where
  endTime : Int
  signal : Option TimedSignal
  ofStrategyE : ∀ made ∈ signal, made.strategy = .pivotVwapScalp

/-- A signal of Strategy A or B. -/
structure OwnSignal where
  signal : TimedSignal
  ofStrategyAB : signal.strategy = .trendPullback ∨ signal.strategy = .volatilityBreakout

/-- What a cycle meets: the clock, the configuration and the market, what the strategies and the
monitors expose, the contract that was selected and sized, if any, and after how many of its
writes it is cut. -/
structure CycleInput where
  now : Int
  config : AutoTradingConfig
  market : MarketView
  lastLossExitTime : Option Int
  ownSignal : Option OwnSignal
  activeCandidateTrade : Option CandidateRow
  statusD : StrategyDStatus
  strategyESignalDataFresh : Bool
  bar : Option ScalpBar
  contract : Option SelectedContract
  cut : Option Nat

/-! ### The cycle -/

section

variable (desk : Desk) (input : CycleInput)

def todayTrades : List ActiveTrade :=
  tradesOfDay input.now (listTrades 1000 desk.books.trades)

def memory : Memory where
  objects := fun _ => input.config
  current := 0
  activeTradesCache := getActiveTrades desk.books.trades
  lastLossExitTime := input.lastLossExitTime

/-- The gates a cycle passes before it evaluates the strategies. -/
def gates : Option String :=
  if input.config.mode = .live ∧ input.config.systemArmed = true ∧
      input.market.executionFeedHealthy = false then
    some "LIVE_RUNTIME_HEALTH_AUTO_DISARMED"
  else
    entryGate (memory desk input) input.now input.market <|>
      dayGate input.config input.now (todayTrades desk input)

/-- The signal of the strategies A to D: the first of them that has one. -/
def frozenSignal : Option TimedSignal :=
  input.ownSignal.map OwnSignal.signal <|>
    (if input.config.tunables.diContinuationEnabled then
      strategyCSignalFromStatus input.activeCandidateTrade input.now
    else none) <|>
    if input.config.tunables.srMomentumBreakoutEnabled then
      strategyDSignalFromStatus input.statusD input.now
    else none

def isCandidateExecutionStrategy (strategy : StrategyName) : Bool :=
  decide (strategy ∈ [StrategyName.diContinuation, .srMomentumBreakout])

/-- A signal, with whether it is stored already, unless it is and has a trade today. -/
def dedupe (signal : TimedSignal) : Option (TimedSignal × Bool) :=
  let priorIds := (listStrategySignals 1000 desk.books.signals).map SignalRow.signalId
  let alreadyPersisted := decide (signal.signalId ∈ priorIds)
  if alreadyPersisted &&
      (todayTrades desk input).any fun trade =>
        decide (trade.signalId.getD "" = signal.signalId) then none
  else some (signal, alreadyPersisted)

/-- The signal of the strategies A to D that is left; those of C and D are looked up. -/
def firstSignal : Option (TimedSignal × Bool) :=
  (frozenSignal input).bind fun signal =>
    if isCandidateExecutionStrategy signal.strategy then dedupe desk input signal
    else some (signal, false)

/-- Strategy E is evaluated, and on fresh data. -/
def evaluatesScalp : Bool :=
  (firstSignal desk input).isNone && input.config.tunables.pivotVwapScalpEnabled &&
    input.market.executionFeedHealthy && input.strategyESignalDataFresh

/-- The bar Strategy E has not processed yet. -/
def newBar : Option ScalpBar :=
  if evaluatesScalp desk input then
    input.bar.filter fun bar => decide (desk.lastProcessedCandle ≠ some bar.endTime)
  else none

/-- The signal a cycle goes on with. -/
def chosenSignal : Option (TimedSignal × Bool) :=
  firstSignal desk input <|>
    ((newBar desk input).bind ScalpBar.signal).bind fun signal => dedupe desk input signal

/-- The trade that is opened for a signal, when a contract was selected and may be bought. -/
def tradeOf (signal : TimedSignal) : Option ActiveTrade := do
  let contract ← input.contract
  let executionMode :=
    executionModeForStrategy input.config signal.strategy signal.optionType
  guard (1 ≤ contract.lots)
  guard (liveOrderGate input.config executionMode contract = none)
  return signalTrade input.config.costs executionMode signal.toEntrySignal contract input.now

/-- A write of a cycle, to memory or to a table. -/
inductive Effect where
  | consumeBar (endTime : Int)
  | saveRuntime
  | saveStrategySignal (signal : TimedSignal)
  | saveTrade (trade : ActiveTrade)

/-- What Strategy E leaves of its evaluation. -/
def scalpEffects : List Effect :=
  if evaluatesScalp desk input then
    match newBar desk input with
    | some bar => [.consumeBar bar.endTime, .saveRuntime]
    | none => [.saveRuntime]
  else []

/-- The writes for the signal a cycle goes on with. -/
def entryEffects : List Effect :=
  match chosenSignal desk input with
  | none => []
  | some (signal, alreadyPersisted) =>
    match signalGate (memory desk input) signal.strategy (todayTrades desk input) with
    | some _ => []
    | none =>
      (if alreadyPersisted then [] else [Effect.saveStrategySignal signal]) ++
        ((tradeOf input signal).map Effect.saveTrade).toList

/-- The writes of a cycle, in their order. -/
def effects : List Effect :=
  match gates desk input with
  | some _ => [.saveRuntime]
  | none => (.saveRuntime :: scalpEffects desk input) ++ entryEffects desk input

end

def Books.apply (books : Books) : Effect → Books
  | .saveStrategySignal signal =>
      { books with signals := saveStrategySignal books.signals signal }
  | .saveTrade trade =>
      { books with trades := putTrade books.trades trade, created := books.created ++ [trade] }
  | _ => books

def Desk.apply (desk : Desk) (effect : Effect) : Desk where
  books := desk.books.apply effect
  lastProcessedCandle :=
    match effect with
    | .consumeBar endTime => some endTime
    | _ => desk.lastProcessedCandle
  runtime :=
    match effect with
    | .saveRuntime => desk.lastProcessedCandle
    | _ => desk.runtime

/-- The writes of a cycle that are done before it is cut. -/
def performed (desk : Desk) (input : CycleInput) : List Effect :=
  match input.cut with
  | some count => (effects desk input).take count
  | none => effects desk input

def evaluateCycle (desk : Desk) (input : CycleInput) : Desk :=
  (performed desk input).foldl Desk.apply desk

/-! ### The system -/

/-- A change of a trade that management makes, which leaves its identity alone. -/
structure Revision where
  change : ActiveTrade → ActiveTrade
  tradeId : ∀ trade, (change trade).tradeId = trade.tradeId
  signalId : ∀ trade, (change trade).signalId = trade.signalId
  entryTime : ∀ trade, (change trade).entryTime = trade.entryTime

/-- What a forced entry is made of. -/
structure ForcedEntry where
  costs : PaperCosts
  mode : AutoTradingMode
  strategy : StrategyName
  direction : TradeDirection
  optionType : OptionType
  contract : SelectedContract
  now : Int
  market : MarketView

def ForcedEntry.trade (entry : ForcedEntry) : ActiveTrade :=
  forcedTrade entry.costs entry.mode entry.strategy entry.direction entry.optionType entry.contract
    entry.now entry.market

/-- What happens, one after another: the evaluation lock keeps cycles apart. -/
inductive Op where
  | cycle (input : CycleInput)
  | manage (trade : ActiveTrade) (revision : Revision)
  | forceEntry (entry : ForcedEntry)
  | restart

def step (desk : Desk) : Op → Desk
  | .cycle input => evaluateCycle desk input
  | .manage trade revision =>
      if trade ∈ desk.books.trades then
        { desk with books.trades := putTrade desk.books.trades (revision.change trade) }
      else desk
  | .forceEntry entry => { desk with books.trades := putTrade desk.books.trades entry.trade }
  | .restart => { desk with lastProcessedCandle := desk.runtime }

/-! ### What a cycle writes -/

section

variable {desk : Desk} {input : CycleInput}

theorem books_foldl (effects : List Effect) (desk : Desk) :
    (effects.foldl Desk.apply desk).books = effects.foldl Books.apply desk.books := by
  induction effects generalizing desk with
  | nil => rfl
  | cons effect rest inductionHypothesis => exact inductionHypothesis (desk.apply effect)

/-- The writes that concern no signal and no trade. -/
def Effect.Quiet : Effect → Prop
  | .consumeBar _ | .saveRuntime => True
  | .saveStrategySignal _ | .saveTrade _ => False

theorem foldl_quiet {effects : List Effect} (quiet : ∀ effect ∈ effects, effect.Quiet)
    (books : Books) : effects.foldl Books.apply books = books := by
  induction effects with
  | nil => rfl
  | cons effect rest inductionHypothesis =>
    have same : books.apply effect = books := by
      have isQuiet := quiet effect List.mem_cons_self
      cases effect with
      | consumeBar endTime => rfl
      | saveRuntime => rfl
      | saveStrategySignal | saveTrade => exact isQuiet.elim
    rw [List.foldl_cons, same]
    exact inductionHypothesis fun other member => quiet other (List.mem_cons_of_mem _ member)

theorem quiet_scalpEffects : ∀ effect ∈ Effect.saveRuntime :: scalpEffects desk input,
    effect.Quiet := by
  unfold scalpEffects
  split
  · split <;> simp [Effect.Quiet]
  · simp [Effect.Quiet]

theorem performed_eq_take (desk : Desk) (input : CycleInput) :
    ∃ count, performed desk input = (effects desk input).take count ∧
      (input.cut = none → (effects desk input).length ≤ count) := by
  unfold performed
  cases input.cut with
  | some count => exact ⟨count, rfl, nofun⟩
  | none => exact ⟨_, (List.take_length).symm, fun _ => le_rfl⟩

/-- The books with a signal stored, unless it is stored already. -/
def withSignal (books : Books) (signal : TimedSignal) (alreadyPersisted : Bool) : Books :=
  if alreadyPersisted then books else books.apply (.saveStrategySignal signal)

theorem written_cases {books after : Books} {signal : TimedSignal} {alreadyPersisted : Bool}
    {trade : Option ActiveTrade} {cut : Option Nat} {count : Nat}
    (written : after = (((if alreadyPersisted then [] else [Effect.saveStrategySignal signal]) ++
      (trade.map Effect.saveTrade).toList).take count).foldl Books.apply books)
    (complete : cut = none →
      ((if alreadyPersisted then [] else [Effect.saveStrategySignal signal]) ++
        (trade.map Effect.saveTrade).toList).length ≤ count) :
    after = books ∨
      (after = withSignal books signal alreadyPersisted ∧ (cut ≠ none ∨ trade = none)) ∨
      ∃ opened, trade = some opened ∧
        after = (withSignal books signal alreadyPersisted).apply (.saveTrade opened) := by
  match alreadyPersisted, trade, count with
  | _, _, 0 => exact .inl written
  | true, none, _ + 1 => exact .inl written
  | true, some opened, _ + 1 =>
    exact .inr (.inr ⟨opened, rfl, by simpa [withSignal] using written⟩)
  | false, none, _ + 1 => exact .inr (.inl ⟨by simpa [withSignal] using written, .inr rfl⟩)
  | false, some opened, 1 =>
    refine .inr (.inl ⟨by simpa [withSignal] using written, .inl fun uncut => ?_⟩)
    have enough := complete uncut
    simp at enough
  | false, some opened, _ + 2 =>
    exact .inr (.inr ⟨opened, rfl, by simpa [withSignal] using written⟩)

/-- A cycle leaves the books as they are, or it goes on with a signal that passed the gates: it
stores the signal, if it is new, and then it is cut or has no contract to buy, or it creates the
trade as well. -/
theorem evaluateCycle_cases (desk : Desk) (input : CycleInput) :
    (evaluateCycle desk input).books = desk.books ∨
    ∃ signal alreadyPersisted, gates desk input = none ∧
      chosenSignal desk input = some (signal, alreadyPersisted) ∧
      signalGate (memory desk input) signal.strategy (todayTrades desk input) = none ∧
      (((evaluateCycle desk input).books = withSignal desk.books signal alreadyPersisted ∧
          (input.cut ≠ none ∨ tradeOf input signal = none)) ∨
        ∃ trade, tradeOf input signal = some trade ∧ (evaluateCycle desk input).books =
          (withSignal desk.books signal alreadyPersisted).apply (.saveTrade trade)) := by
  obtain ⟨count, taken, whole⟩ := performed_eq_take desk input
  have folded : (evaluateCycle desk input).books =
      ((effects desk input).take count).foldl Books.apply desk.books := by
    rw [evaluateCycle, books_foldl, taken]
  cases gated : gates desk input with
  | some status =>
    left
    rw [folded, effects, gated]
    refine foldl_quiet (fun effect member => ?_) _
    rw [List.mem_singleton.mp (List.mem_of_mem_take member)]
    trivial
  | none =>
    have searched : (evaluateCycle desk input).books =
        ((entryEffects desk input).take (count - (scalpEffects desk input).length - 1)).foldl
          Books.apply desk.books := by
      rw [folded, effects, gated]
      rw [List.take_append, List.foldl_append, foldl_quiet fun effect member =>
        quiet_scalpEffects effect (List.mem_of_mem_take member), List.length_cons, Nat.sub_sub]
    have complete : input.cut = none → (entryEffects desk input).length ≤
        count - (scalpEffects desk input).length - 1 := by
      intro uncut
      have enough := whole uncut
      rw [effects, gated] at enough
      simp only [List.length_append, List.length_cons] at enough
      omega
    cases chosen : chosenSignal desk input with
    | none =>
      left
      rw [searched, entryEffects, chosen, List.take_nil]
      rfl
    | some pair =>
      obtain ⟨signal, alreadyPersisted⟩ := pair
      cases limited : signalGate (memory desk input) signal.strategy (todayTrades desk input) with
      | some status =>
        left
        rw [searched, entryEffects, chosen]
        simp only [limited, List.take_nil, List.foldl_nil]
      | none =>
        simp only [entryEffects, chosen, limited] at searched complete
        rcases written_cases searched complete with same | outcome
        · exact .inl same
        · exact .inr ⟨signal, alreadyPersisted, rfl, rfl, limited, outcome⟩

end

/-! ### One trade for a signal -/

/-- The strategies whose signals are exposed more than once. -/
def isExposed (strategy : StrategyName) : Bool :=
  isCandidateExecutionStrategy strategy || decide (strategy = .pivotVwapScalp)

/-- No two trades were created for one exposed signal. -/
def OneTradeEach (desk : Desk) : Prop :=
  ((desk.books.created.filter fun trade => isExposed trade.strategy).map
    ActiveTrade.signalId).Nodup

/-- A trade was created for the signal with an id. -/
def Traded (books : Books) (signalId : String) : Prop :=
  ∃ trade ∈ books.created, trade.signalId = some signalId

/-- A monitor exposes the signal to a cycle, or it is what Strategy E makes of the latest bar. -/
def Offers (input : CycleInput) (signal : TimedSignal) : Prop :=
  frozenSignal input = some signal ∨
    (frozenSignal input = none ∧ input.config.tunables.pivotVwapScalpEnabled = true ∧
      input.market.executionFeedHealthy = true ∧ input.strategyESignalDataFresh = true ∧
      ∃ bar, input.bar = some bar ∧ bar.signal = some signal)

/-- A stored signal without a trade gets its trade in a cycle that is offered it, passes the gates
and its limits, has a contract to buy and is not cut. -/
def MayRetry (desk : Desk) : Prop :=
  ∀ row ∈ desk.books.signals, isExposed row.strategy = true → ¬Traded desk.books row.signalId →
    ∀ input signal, Offers input signal → signal.signalId = row.signalId →
      signal.strategy = row.strategy → gates desk input = none →
      signalGate (memory desk input) signal.strategy (todayTrades desk input) = none →
      (tradeOf input signal).isSome = true → input.cut = none →
      Traded (evaluateCycle desk input).books row.signalId

/-- The signals a cycle looks up among the stored ones. -/
def lookedUp (desk : Desk) (input : CycleInput) : List TimedSignal :=
  ((frozenSignal input).filter fun signal => isCandidateExecutionStrategy signal.strategy).toList ++
    ((newBar desk input).bind ScalpBar.signal).toList

/-- What a cycle that passes its gates must meet: the stored row of a signal it looks up is among
the latest thousand, a trade of it is among those of today, no trade was entered in the same
second, and a new signal of Strategy E that passes its limits has a contract to buy and no cut. -/
@[mk_iff]
structure Dedupes (desk : Desk) (input : CycleInput) : Prop where
  recent : ∀ signal ∈ lookedUp desk input, ∀ row ∈ desk.books.signals,
    row.signalId = signal.signalId → row ∈ listStrategySignals 1000 desk.books.signals
  today : ∀ signal ∈ lookedUp desk input, ∀ trade ∈ desk.books.trades,
    trade.signalId = some signal.signalId → trade ∈ todayTrades desk input
  second : ∀ trade ∈ desk.books.trades, trade.tradeId ≠ "TRD-" ++ toString (input.now / 1000000)
  scalp : ∀ signal ∈ (newBar desk input).bind ScalpBar.signal,
    dedupe desk input signal ≠ none →
    signalGate (memory desk input) signal.strategy (todayTrades desk input) = none →
    (tradeOf input signal).isSome = true ∧ input.cut = none

/-- The condition on a step. -/
def Admitted (desk : Desk) : Op → Prop
  | .cycle input => gates desk input = none → Dedupes desk input
  | _ => True

/-! ### The invariant -/

/-- Every created trade stands in the table under its signal, which is stored; no other row has a
signal; an exposed signal has one trade, and a stored one of Strategy E has it, unless it is the
pending one. -/
structure Sound (pending : Option String) (books : Books) : Prop where
  unique : (books.trades.map ActiveTrade.tradeId).Nodup
  named : ∀ trade ∈ books.created, ∃ second : Int, trade.tradeId = "TRD-" ++ toString second
  standing : ∀ trade ∈ books.created, ∃ row ∈ books.trades, row.signalId = trade.signalId ∧
    row.tradeId = trade.tradeId
  origin : ∀ row ∈ books.trades, row.signalId ≠ none →
    ∃ trade ∈ books.created, trade.signalId = row.signalId ∧ trade.tradeId = row.tradeId
  stored : ∀ trade ∈ books.created, ∀ signalId, trade.signalId = some signalId →
    signalId ∈ books.signals.map SignalRow.signalId
  once : ((books.created.filter fun trade => isExposed trade.strategy).map
    ActiveTrade.signalId).Nodup
  scalped : ∀ row ∈ books.signals, row.strategy = .pivotVwapScalp →
    some row.signalId ≠ pending → Traded books row.signalId

theorem sound_fresh : Sound none fresh.books where
  unique := List.nodup_nil
  named _ member := absurd member List.not_mem_nil
  standing _ member := absurd member List.not_mem_nil
  origin _ member := absurd member List.not_mem_nil
  stored _ member := absurd member List.not_mem_nil
  once := List.nodup_nil
  scalped _ member := absurd member List.not_mem_nil

theorem mem_saveStrategySignal {signals : List SignalRow} {signal : TimedSignal}
    {row : SignalRow} : row ∈ saveStrategySignal signals signal ↔
      (row ∈ signals ∧ row.signalId ≠ signal.signalId) ∨
        row = ⟨signal.signalId, signal.strategy, signal.timestamp.text⟩ := by
  unfold saveStrategySignal
  rw [List.mem_append, List.mem_filter, List.mem_singleton, decide_eq_true_eq]

theorem signalId_mem_saveStrategySignal {signals : List SignalRow} {signal : TimedSignal}
    {signalId : String} (before : signalId ∈ signals.map SignalRow.signalId) :
    signalId ∈ (saveStrategySignal signals signal).map SignalRow.signalId := by
  obtain ⟨row, member, rfl⟩ := List.mem_map.mp before
  by_cases same : row.signalId = signal.signalId
  · exact List.mem_map.mpr ⟨_, mem_saveStrategySignal.mpr (.inr rfl), same.symm⟩
  · exact List.mem_map.mpr ⟨row, mem_saveStrategySignal.mpr (.inl ⟨member, same⟩), rfl⟩

section

variable {books : Books} {signal : TimedSignal} {alreadyPersisted : Bool}

theorem Sound.withSignal (sound : Sound none books) (signal : TimedSignal)
    (alreadyPersisted : Bool) :
    Sound (some signal.signalId) (withSignal books signal alreadyPersisted) := by
  cases alreadyPersisted with
  | true =>
    exact { sound with scalped := fun row member scalp _ => sound.scalped row member scalp nofun }
  | false =>
    refine { sound with stored := fun trade member signalId named => ?_, scalped := ?_ }
    · exact signalId_mem_saveStrategySignal (sound.stored trade member signalId named)
    · intro row member scalp other
      rcases mem_saveStrategySignal.mp member with ⟨before, _⟩ | rfl
      · exact sound.scalped row before scalp nofun
      · exact absurd rfl other

theorem Sound.settle (sound : Sound none books) (other : signal.strategy ≠ .pivotVwapScalp) :
    Sound none (SignalDedupe.withSignal books signal alreadyPersisted) := by
  cases alreadyPersisted with
  | true => exact sound
  | false =>
    refine { sound.withSignal signal false with
      scalped := fun row member scalp _ => ?_ }
    rcases mem_saveStrategySignal.mp member with ⟨before, _⟩ | rfl
    · exact sound.scalped row before scalp nofun
    · exact absurd scalp other

theorem Sound.saveTrade {trade : ActiveTrade} {signalId : String}
    (sound : Sound (some signalId) books) (signalled : trade.signalId = some signalId)
    (stored : signalId ∈ books.signals.map SignalRow.signalId)
    (named : ∃ second : Int, trade.tradeId = "TRD-" ++ toString second)
    (second : ∀ row ∈ books.trades, row.tradeId ≠ trade.tradeId)
    (first : isExposed trade.strategy = true → ¬Traded books signalId) :
    Sound none (books.apply (.saveTrade trade)) := by
  have later : ∀ {signalId}, Traded books signalId →
      Traded (books.apply (.saveTrade trade)) signalId :=
    fun ⟨created, member, same⟩ => ⟨created, List.mem_append_left _ member, same⟩
  have now : Traded (books.apply (.saveTrade trade)) signalId :=
    ⟨trade, List.mem_concat_self, signalled⟩
  refine ⟨nodup_putTrade sound.unique trade, ?_, ?_, ?_, ?_, ?_, ?_⟩
  · intro created member
    rcases Stored.mem_concat.mp member with before | rfl
    · exact sound.named created before
    · exact named
  · intro created member
    rcases Stored.mem_concat.mp member with before | rfl
    · obtain ⟨row, standing, same⟩ := sound.standing created before
      exact ⟨row, mem_putTrade.mpr (.inl ⟨standing, second row standing⟩), same⟩
    · exact ⟨created, mem_putTrade.mpr (.inr rfl), rfl, rfl⟩
  · intro row member isSignalled
    rcases mem_putTrade.mp member with ⟨before, _⟩ | rfl
    · obtain ⟨created, standing, same⟩ := sound.origin row before isSignalled
      exact ⟨created, List.mem_append_left _ standing, same⟩
    · exact ⟨row, List.mem_concat_self, rfl, rfl⟩
  · intro created member signalId' same
    rcases Stored.mem_concat.mp member with before | rfl
    · exact sound.stored created before signalId' same
    · rw [signalled] at same
      cases same
      exact stored
  · show (((books.created ++ [trade]).filter fun trade => isExposed trade.strategy).map
      ActiveTrade.signalId).Nodup
    rw [List.filter_append, List.map_append]
    refine List.Nodup.append sound.once ?_ ?_
    · exact List.Nodup.sublist (List.filter_sublist.map ActiveTrade.signalId)
        (List.nodup_singleton trade.signalId)
    · intro found before new
      obtain ⟨created, member, same⟩ := List.mem_map.mp before
      obtain ⟨opened, isNew, rfl⟩ := List.mem_map.mp new
      obtain ⟨isTrade, exposed⟩ := List.mem_filter.mp isNew
      rw [List.mem_singleton.mp isTrade] at exposed same
      exact first exposed ⟨created, (List.mem_filter.mp member).1, same.trans signalled⟩
  · intro row member scalp _
    by_cases pending : row.signalId = signalId
    · exact pending ▸ now
    · exact later (sound.scalped row member scalp fun same => pending (Option.some.inj same))

theorem Sound.putTrade {pending : Option String} {trade : ActiveTrade} (sound : Sound pending books)
    (apart : ∀ row ∈ books.trades, row.tradeId = trade.tradeId → row.signalId = trade.signalId)
    (origin : trade.signalId ≠ none → ∃ created ∈ books.created,
      created.signalId = trade.signalId ∧ created.tradeId = trade.tradeId) :
    Sound pending { books with trades := BreezeTrading.putTrade books.trades trade } := by
  refine { sound with
    unique := nodup_putTrade sound.unique trade
    standing := fun created member => ?_
    origin := fun row member isSignalled => ?_ }
  · obtain ⟨row, standing, signalled, named⟩ := sound.standing created member
    by_cases same : row.tradeId = trade.tradeId
    · exact ⟨trade, mem_putTrade.mpr (.inr rfl), (apart row standing same).symm.trans signalled,
        same.symm.trans named⟩
    · exact ⟨row, mem_putTrade.mpr (.inl ⟨standing, same⟩), signalled, named⟩
  · rcases mem_putTrade.mp member with ⟨before, _⟩ | rfl
    · exact sound.origin row before isSignalled
    · exact origin isSignalled

end

/-! ### Steps -/

theorem letter_not_mem_toString (second : Int) : 'F' ∉ (toString second).toList := by
  have digits : ∀ number : Nat, 'F' ∉ (toString number).toList := by
    intro number member
    rw [show toString number = String.ofList (Nat.toDigits 10 number) from rfl,
      String.toList_ofList] at member
    have digit := Nat.isDigit_of_mem_toDigits (by decide) (by decide) member
    revert digit
    decide
  cases second with
  | ofNat number => exact digits number
  | negSucc number =>
    intro member
    rw [show toString (Int.negSucc number) = "-" ++ toString (number + 1) from rfl,
      String.toList_append, List.mem_append] at member
    rcases member with sign | digit
    · revert sign
      decide
    · exact digits _ digit

theorem forced_ne (forced second : Int) :
    "TRD-FORCED-" ++ toString forced ≠ "TRD-" ++ toString second := by
  intro same
  have member : 'F' ∈ ("TRD-FORCED-" ++ toString forced).toList := by
    rw [String.toList_append]
    exact List.mem_append_left _ (by decide)
  rw [same, String.toList_append, List.mem_append] at member
  rcases member with inside | digit
  · revert inside
    decide
  · exact letter_not_mem_toString second digit

section

variable {desk : Desk} {input : CycleInput} {signal : TimedSignal} {alreadyPersisted : Bool}

theorem dedupe_eq {found : TimedSignal × Bool} (left : dedupe desk input signal = some found) :
    found.1 = signal := by
  unfold dedupe at left
  simp only at left
  split at left
  · cases left
  · cases left
    rfl

/-- The signal of the strategies A to D is none of Strategy E, and has an id when it is looked
up. -/
theorem frozenSignal_cases (frozen : frozenSignal input = some signal) :
    (signal.strategy ≠ .pivotVwapScalp ∧ isCandidateExecutionStrategy signal.strategy = false) ∨
      (signal.strategy ≠ .pivotVwapScalp ∧ isCandidateExecutionStrategy signal.strategy = true ∧
        signal.signalId ≠ "") := by
  unfold frozenSignal at frozen
  simp only [Option.orElse_eq_orElse, Option.orElse_eq_or, Option.or_eq_some_iff] at frozen
  rcases frozen with own | ⟨_, monitorC | ⟨_, monitorD⟩⟩
  · obtain ⟨⟨made, ofStrategyAB⟩, _, rfl⟩ := Option.map_eq_some_iff.mp own
    left
    rcases ofStrategyAB with same | same <;> simp [same, isCandidateExecutionStrategy]
  · split at monitorC
    · have ⟨same, named, _⟩ := strategyC_of_status monitorC
      exact .inr ⟨by simp [same], by simp [same, isCandidateExecutionStrategy], named⟩
    · exact absurd monitorC (by simp)
  · split at monitorD
    · have ⟨same, named, _⟩ := strategyD_of_status monitorD
      exact .inr ⟨by simp [same], by simp [same, isCandidateExecutionStrategy], named⟩
    · exact absurd monitorD (by simp)

theorem chosenSignal_cases (chosen : chosenSignal desk input = some (signal, alreadyPersisted)) :
    (isExposed signal.strategy = false ∧ alreadyPersisted = false) ∨
      (signal ∈ lookedUp desk input ∧
        dedupe desk input signal = some (signal, alreadyPersisted) ∧
        (signal.strategy = .pivotVwapScalp →
          signal ∈ (newBar desk input).bind ScalpBar.signal)) := by
  unfold chosenSignal at chosen
  simp only [Option.orElse_eq_orElse, Option.orElse_eq_or, Option.or_eq_some_iff] at chosen
  rcases chosen with first | ⟨_, second⟩
  · obtain ⟨frozen, found, left⟩ := Option.bind_eq_some_iff.mp first
    split at left
    · rename_i candidate
      obtain rfl : signal = frozen := dedupe_eq left
      have member : signal ∈ lookedUp desk input := by
        unfold lookedUp
        rw [found, Option.filter_some, if_pos candidate]
        exact List.mem_append_left _ List.mem_cons_self
      refine .inr ⟨member, left, fun scalp => ?_⟩
      rcases frozenSignal_cases found with ⟨other, _⟩ | ⟨other, _⟩ <;> exact absurd scalp other
    · rename_i own
      cases left
      rcases frozenSignal_cases found with ⟨other, _⟩ | ⟨other, _⟩ <;>
        exact .inl ⟨by simp [isExposed, own, other], rfl⟩
  · obtain ⟨made, found, left⟩ := Option.bind_eq_some_iff.mp second
    obtain rfl : signal = made := dedupe_eq left
    refine .inr ⟨?_, left, fun _ => found⟩
    unfold lookedUp
    rw [found]
    exact List.mem_concat_self

theorem not_traded_of_chosen {pending : Option String} (sound : Sound pending desk.books)
    (dedupes : Dedupes desk input)
    (chosen : chosenSignal desk input = some (signal, alreadyPersisted))
    (exposed : isExposed signal.strategy = true) : ¬Traded desk.books signal.signalId := by
  rintro ⟨created, member, same⟩
  rcases chosenSignal_cases chosen with ⟨own, _⟩ | ⟨isLookedUp, left, _⟩
  · exact Bool.false_ne_true (own.symm.trans exposed)
  obtain ⟨row, standing, signalled, _⟩ := sound.standing created member
  obtain ⟨stored, isStored, named⟩ := List.mem_map.mp (sound.stored created member _ same)
  have listed := dedupes.recent signal isLookedUp stored isStored named
  have today := dedupes.today signal isLookedUp row standing (signalled.trans same)
  have persisted : signal.signalId ∈
      (listStrategySignals 1000 desk.books.signals).map SignalRow.signalId :=
    named ▸ List.mem_map_of_mem listed
  have traded : (todayTrades desk input).any (fun trade =>
      decide (trade.signalId.getD "" = signal.signalId)) = true :=
    List.any_eq_true.mpr ⟨row, today, by simp [signalled.trans same]⟩
  simp [dedupe, persisted, traded] at left

theorem tradeOf_eq {trade : ActiveTrade} (opened : tradeOf input signal = some trade) :
    trade.signalId = some signal.signalId ∧ trade.strategy = signal.strategy ∧
      trade.tradeId = "TRD-" ++ toString (input.now / 1000000) := by
  unfold tradeOf at opened
  simp only [bind, Option.bind_eq_some_iff, Option.guard_eq_some', pure, Option.some.injEq]
    at opened
  obtain ⟨contract, _, _, _, _, _, rfl⟩ := opened
  exact ⟨rfl, rfl, rfl⟩

theorem mem_signals_of_dedupe (left : dedupe desk input signal = some (signal, true)) :
    signal.signalId ∈ desk.books.signals.map SignalRow.signalId := by
  unfold dedupe at left
  simp only at left
  split at left
  · cases left
  · have persisted := of_decide_eq_true (congrArg Prod.snd (Option.some.inj left))
    obtain ⟨row, listed, same⟩ := List.mem_map.mp persisted
    exact List.mem_map.mpr ⟨row, (List.mem_insertionSort _).mp (List.mem_of_mem_take listed), same⟩

theorem mem_signals_withSignal
    (chosen : chosenSignal desk input = some (signal, alreadyPersisted)) :
    signal.signalId ∈
      (withSignal desk.books signal alreadyPersisted).signals.map SignalRow.signalId := by
  cases alreadyPersisted with
  | false =>
    exact List.mem_map.mpr ⟨_, mem_saveStrategySignal.mpr (.inr rfl), rfl⟩
  | true =>
    rcases chosenSignal_cases chosen with ⟨_, new⟩ | ⟨_, left, _⟩
    · cases new
    · exact mem_signals_of_dedupe left

theorem withSignal_trades (books : Books) (signal : TimedSignal) (alreadyPersisted : Bool) :
    (withSignal books signal alreadyPersisted).trades = books.trades ∧
      (withSignal books signal alreadyPersisted).created = books.created := by
  cases alreadyPersisted <;> exact ⟨rfl, rfl⟩

theorem Sound.cycle (sound : Sound none desk.books)
    (admitted : gates desk input = none → Dedupes desk input) :
    Sound none (evaluateCycle desk input).books := by
  rcases evaluateCycle_cases desk input with same |
    ⟨signal, alreadyPersisted, passed, chosen, limited, outcome⟩
  · rw [same]
    exact sound
  have dedupes := admitted passed
  rcases outcome with ⟨stored, unfinished⟩ | ⟨trade, opened, created⟩
  · rw [stored]
    refine sound.settle fun scalp => ?_
    rcases chosenSignal_cases chosen with ⟨own, _⟩ | ⟨_, left, made⟩
    · simp [isExposed, scalp] at own
    · obtain ⟨bought, uncut⟩ := dedupes.scalp signal (made scalp) (by simp [left]) limited
      rcases unfinished with cut | unsized
      · exact cut uncut
      · rw [unsized] at bought
        cases bought
  · rw [created]
    obtain ⟨signalled, strategy, tradeId⟩ := tradeOf_eq opened
    refine (sound.withSignal _ _).saveTrade signalled (mem_signals_withSignal chosen) ⟨_, tradeId⟩ ?_ ?_
    · rw [(withSignal_trades _ _ _).1, tradeId]
      exact dedupes.second
    · rw [strategy]
      intro exposed traded
      unfold Traded at traded
      rw [(withSignal_trades _ _ _).2] at traded
      exact not_traded_of_chosen sound dedupes chosen exposed traded

theorem Sound.step (sound : Sound none desk.books) {op : Op} (admitted : Admitted desk op) :
    Sound none (step desk op).books := by
  cases op with
  | cycle input => exact sound.cycle admitted
  | restart => exact sound
  | manage trade revision =>
    by_cases member : trade ∈ desk.books.trades
    swap
    · rw [SignalDedupe.step, if_neg member]
      exact sound
    rw [SignalDedupe.step, if_pos member]
    have only : ∀ row ∈ desk.books.trades, row.tradeId = trade.tradeId → row = trade :=
      fun row isRow same => List.inj_on_of_nodup_map sound.unique isRow member same
    refine sound.putTrade (fun row isRow same => ?_) fun isSignalled => ?_
    · rw [revision.signalId, only row isRow (same.trans (revision.tradeId trade))]
    · rw [revision.signalId] at isSignalled ⊢
      rw [revision.tradeId]
      exact sound.origin trade member isSignalled
  | forceEntry entry =>
    refine sound.putTrade (fun row isRow same => ?_) fun isSignalled => absurd rfl isSignalled
    by_contra isSignalled
    obtain ⟨created, isCreated, _, sameId⟩ := sound.origin row isRow isSignalled
    obtain ⟨second, named⟩ := sound.named created isCreated
    exact forced_ne (entry.now / 1000000) second ((same.symm.trans sameId.symm).trans named)

/-- A cycle that passes its gates with a signal and a contract, and is not cut, creates the
trade. -/
theorem evaluateCycle_complete {trade : ActiveTrade} (passed : gates desk input = none)
    (chosen : chosenSignal desk input = some (signal, alreadyPersisted))
    (limited : signalGate (memory desk input) signal.strategy (todayTrades desk input) = none)
    (opened : tradeOf input signal = some trade) (uncut : input.cut = none) :
    (evaluateCycle desk input).books =
      (withSignal desk.books signal alreadyPersisted).apply (.saveTrade trade) := by
  rw [evaluateCycle, books_foldl, performed, uncut]
  rw [effects, passed]
  rw [List.foldl_append, foldl_quiet quiet_scalpEffects, entryEffects, chosen]
  simp only [limited, opened]
  cases alreadyPersisted <;> rfl

theorem chosenSignal_of_offered (sound : Sound none desk.books)
    (frozen : frozenSignal input = some signal)
    (candidate : isCandidateExecutionStrategy signal.strategy = true)
    (untraded : ¬Traded desk.books signal.signalId) :
    ∃ alreadyPersisted, chosenSignal desk input = some (signal, alreadyPersisted) := by
  have named : signal.signalId ≠ "" := by
    rcases frozenSignal_cases frozen with ⟨_, other⟩ | ⟨_, _, named⟩
    · exact absurd candidate (Bool.eq_false_iff.mp other)
    · exact named
  have without : (todayTrades desk input).any (fun trade =>
      decide (trade.signalId.getD "" = signal.signalId)) = false := by
    rw [List.any_eq_false]
    intro trade today same
    rw [decide_eq_true_eq] at same
    cases signalled : trade.signalId with
    | none => exact named (by rw [← same, signalled]; rfl)
    | some signalId =>
      have standing := mem_of_mem_listTrades (List.mem_of_mem_filter today)
      obtain ⟨created, member, sameSignal, _⟩ := sound.origin trade standing (by simp [signalled])
      refine untraded ⟨created, member, ?_⟩
      rw [sameSignal, signalled, ← same, signalled]
      rfl
  refine ⟨decide (signal.signalId ∈
    (listStrategySignals 1000 desk.books.signals).map SignalRow.signalId), ?_⟩
  rw [chosenSignal, firstSignal, frozen, Option.bind_some, if_pos candidate, dedupe]
  simp only [without, Bool.and_false, Bool.false_eq_true, if_false]
  rfl

theorem Sound.mayRetry (sound : Sound none desk.books) : MayRetry desk := by
  intro row isRow exposed untraded input signal offers named strategy passed limited bought uncut
  have other : row.strategy ≠ .pivotVwapScalp := fun scalp =>
    untraded (sound.scalped row isRow scalp nofun)
  have candidate : isCandidateExecutionStrategy signal.strategy = true := by
    rw [strategy]
    simpa [isExposed, other] using exposed
  have frozen : frozenSignal input = some signal := by
    rcases offers with frozen | ⟨_, _, _, _, bar, _, made⟩
    · exact frozen
    · exact absurd (strategy.symm.trans (bar.ofStrategyE signal made)) other
  rw [← named] at untraded ⊢
  obtain ⟨alreadyPersisted, chosen⟩ := chosenSignal_of_offered sound frozen candidate untraded
  obtain ⟨trade, opened⟩ := Option.isSome_iff_exists.mp bought
  rw [evaluateCycle_complete passed chosen limited opened uncut]
  exact ⟨trade, List.mem_concat_self, (tradeOf_eq opened).1⟩

end

/-- In a run from a fresh desk whose cycles meet their condition, every exposed signal has at most
one trade, and a stored one without a trade may still get it. -/
theorem evaluateCycle_one_trade_per_signal (ops : List Op)
    (admitted : Run.Along step Admitted fresh ops) :
    Run.Along step (fun desk op => OneTradeEach (step desk op) ∧ MayRetry (step desk op)) fresh
      ops := by
  have keeps : ∀ desk op, Sound none desk.books → Admitted desk op →
      Sound none (step desk op).books := fun _ _ sound isAdmitted => sound.step isAdmitted
  refine admitted.of_invariant keeps (fun desk op sound isAdmitted => ?_) sound_fresh
  exact ⟨(keeps desk op sound isAdmitted).once, (keeps desk op sound isAdmitted).mayRetry⟩

/-! ### Runs -/

instance (desk : Desk) (input : CycleInput) : Decidable (Dedupes desk input) :=
  decidable_of_iff' _ (dedupes_iff desk input)

instance (desk : Desk) (op : Op) : Decidable (Admitted desk op) :=
  match op with
  | .cycle input => inferInstanceAs (Decidable (gates desk input = none → Dedupes desk input))
  | .manage _ _ | .forceEntry _ | .restart => inferInstanceAs (Decidable True)

/-- A market in which nothing blocks an entry. -/
def openMarket : MarketView where
  executionFeedHealthy := true
  strategyBSignalDataFresh := true
  hasFuturesCandles := true
  hasStrategyECandles := true
  dataReady := true
  breakoutDataReady := true
  activeCandidateTrade := true
  executionSignal := true
  bypassEntryWindow := false
  strategyAWindow := true
  strategyBWindow := true
  strategyEWindow := true
  spotPrice := 24000
  futuresPrice := 24010
  atr5m := 20

def oneLot : SelectedContract :=
  ⟨"NIFTY25JAN24000CE", "I-1", "2025-01-30", 24000, 100, 100, 1, 75, false⟩

/-- Two positions may be open at once. -/
def twoPositions : AutoTradingConfig :=
  { risk := .twoPositions }

/-- A cycle at a second, to which nothing is exposed. -/
def quietCycle (second : Int) : CycleInput where
  now := second * 1000000
  config := twoPositions
  market := openMarket
  lastLossExitTime := none
  ownSignal := none
  activeCandidateTrade := none
  statusD := ⟨none, none, none, none⟩
  strategyESignalDataFresh := true
  bar := none
  contract := some oneLot
  cut := none

def candidate : CandidateRow where
  lifecycleStatus := some "OPEN"
  candidateSignalId := some "C-1"
  entryTime := some ⟨0, "2025-01-06T09:45:00+05:30"⟩
  direction := some "CALL"
  entryPrice := .number 24010
  initialStop := .number 23960

def breakout : SignalPayload where
  timestamp := some ⟨0, "2025-01-06T09:45:00+05:30"⟩
  direction := some .bullish
  optionType := some .call
  entryPrice := .number 24010
  initialStop := .number 23970
  riskPoints := .number 40

def scalp : ScalpBar where
  endTime := 0
  signal := some
    { signalId := "STRATEGY-E-TREND_LONG-F-0"
      strategy := .pivotVwapScalp
      direction := .bullish
      optionType := .call
      underlyingEntry := 24010
      rPoints := 20
      timestamp := ⟨0, "2025-01-06T09:45:00+05:30"⟩ }
  ofStrategyE := by simp

/-- Strategy C is stored without a contract, its cycle is repeated after a crash, and shown again
when it has a trade; then Strategy E has one. -/
def retried : List Op :=
  [.cycle { quietCycle 1 with activeCandidateTrade := some candidate, contract := none },
    .cycle { quietCycle 2 with activeCandidateTrade := some candidate, cut := some 1 },
    .restart,
    .cycle { quietCycle 3 with activeCandidateTrade := some candidate },
    .cycle { quietCycle 4 with activeCandidateTrade := some candidate, bar := some scalp }]

theorem evaluateCycle_one_trade_per_signal_retried :
    (retried.foldl step fresh).books.created.map ActiveTrade.signalId =
        [some "C-1", some "STRATEGY-E-TREND_LONG-F-0"] ∧
      Run.Along step (fun desk op => OneTradeEach (step desk op) ∧ MayRetry (step desk op)) fresh
        retried :=
  ⟨by decide +kernel, evaluateCycle_one_trade_per_signal retried (by decide +kernel)⟩

/-- Strategy D is entered in the second of the trade of Strategy C, whose row it replaces; then
Strategy C is shown again. -/
def replaced : List Op :=
  [.cycle { quietCycle 1 with activeCandidateTrade := some candidate },
    .cycle { quietCycle 1 with
      statusD := ⟨some breakout, some "STRAT-D-1", none, none⟩ },
    .cycle { quietCycle 2 with activeCandidateTrade := some candidate }]

/-- The signal of Strategy E is stored without a contract. -/
def unsized : List Op := [.cycle { quietCycle 1 with bar := some scalp, contract := none }]

/-- A row that is replaced is forgotten, and Strategy E processes a bar once: one signal gets two
trades, and another none although it is shown again with a contract. -/
theorem evaluateCycle_two_trades_or_none :
    ¬OneTradeEach (replaced.foldl step fresh) ∧ ¬MayRetry (unsized.foldl step fresh) := by
  constructor
  · unfold OneTradeEach
    decide +kernel
  · intro mayRetry
    have before : (unsized.foldl step fresh).books.created = [] := by decide +kernel
    have after : (evaluateCycle (unsized.foldl step fresh)
        { quietCycle 2 with bar := some scalp }).books.created = [] := by decide +kernel
    have untraded : ¬Traded (unsized.foldl step fresh).books "STRATEGY-E-TREND_LONG-F-0" :=
      fun ⟨_, member, _⟩ => absurd (before ▸ member) List.not_mem_nil
    obtain ⟨trade, created, _⟩ := mayRetry
      ⟨"STRATEGY-E-TREND_LONG-F-0", .pivotVwapScalp, "2025-01-06T09:45:00+05:30"⟩
      (by decide +kernel) rfl untraded { quietCycle 2 with bar := some scalp } _
      (.inr ⟨rfl, rfl, rfl, rfl, scalp, rfl, rfl⟩) rfl rfl (by decide +kernel) (by decide +kernel)
      (by decide +kernel) rfl
    exact absurd (after ▸ created) List.not_mem_nil

end BreezeTrading.SignalDedupe
