/-
This file proves when the setups of Strategy A expire. An evaluation compares the expiry of a
setup, an index in the window it was found in, with an index in its own window. The two agree as
long as windows grow and miss no bar; in windows of a fixed length no setup gets old.
-/

import BreezeTrading.Lib.Fallible
import BreezeTrading.Lib.Run
import BreezeTrading.Strategy.PullbackRules

namespace BreezeTrading

/-- The setup that waits for its trigger. -/
def StrategyStateSnapshot.waitingSetup : StrategyStateSnapshot → Option StrategySetup
  | .setup waiting | .armed waiting => some waiting
  | .flat | .entered _ _ | .cooldown _ => none

namespace TrendPullbackStrategy

open Fallible

/-! ### Triggers -/

section Triggers

variable {config : PullbackConfig} {strategy : TrendPullbackStrategy} {bar : FuturesFeature}

/-- The clock is beyond the expiry of a setup, and the index of the bar is not. -/
def Overdue (setup : StrategySetup) (bar : FuturesFeature) : Prop :=
  setup.setupExpiryTimestamp < bar.candleTimestamp ∧ bar.barIndex ≤ setup.setupExpiryBarIndex

instance (setup : StrategySetup) (bar : FuturesFeature) : Decidable (Overdue setup bar) :=
  inferInstanceAs (Decidable (_ ∧ _))

/-- A bar leaves a setup valid and reaches its trigger, not too far beyond it, while entries are
allowed. -/
def reachesTrigger (config : PullbackConfig) (setup : StrategySetup) (bar : FuturesFeature) :
    Bool :=
  !invalidated setup bar && entryAllowed config bar.candleTimestamp &&
    (triggeredAt setup bar).any fun entryPrice => decide
      (chase setup entryPrice ≤ config.maximumChaseAtr * bar.atr14 + 1 / 1000000000)

/-- A new bar, before the forced exit. -/
def evaluatesSetup (config : PullbackConfig) (strategy : TrendPullbackStrategy)
    (bar : FuturesFeature) : Bool :=
  processes strategy bar && !forcedExit config bar.candleTimestamp

theorem evaluateSetup_isSome (setup : StrategySetup) :
    (evaluateSetup config strategy setup bar).2.isSome =
      (decide (bar.barIndex ≤ setup.setupExpiryBarIndex) && reachesTrigger config setup bar) := by
  unfold evaluateSetup reachesTrigger
  by_cases expired : setup.setupExpiryBarIndex < bar.barIndex
  · rw [if_pos (.inl expired), decide_eq_false (not_le.mpr expired)]
    rfl
  rw [decide_eq_true (not_lt.mp expired), Bool.true_and]
  by_cases breached : invalidated setup bar = true
  · rw [if_pos (.inr breached), breached]
    rfl
  rw [if_neg (not_or.mpr ⟨expired, breached⟩), Bool.eq_false_iff.mpr breached]
  cases triggeredAt setup bar with
  | none => exact (Bool.and_false _).symm
  | some entryPrice =>
    dsimp only
    rw [Option.any_some]
    split_ifs with close allowed
    · rw [decide_eq_true close, allowed]
      rfl
    · rw [Bool.eq_false_iff.mpr allowed]
      rfl
    · rw [decide_eq_false close, Bool.and_false]
      rfl

def noted (strategy : TrendPullbackStrategy) (bar : FuturesFeature) : TrendPullbackStrategy :=
  { strategy with
    activeContractId := some bar.contractId
    lastProcessedCandle := some bar.candleTimestamp }

theorem evaluate_of_processes (isNew : processes strategy bar = true) :
    evaluate config strategy (some bar) = evaluateBar config (noted strategy bar) bar := by
  obtain ⟨sameContract, notLast⟩ := Bool.and_eq_true_iff.mp isNew
  have noRollover : (strategy.activeContractId.any fun contractId =>
      decide (contractId ≠ bar.contractId)) = false := by
    cases active : strategy.activeContractId with
    | none => rfl
    | some contractId =>
      rw [active, Option.all_some] at sameContract
      exact decide_eq_false (not_not.mpr (of_decide_eq_true sameContract))
  unfold evaluate
  dsimp only
  rw [noRollover, if_neg Bool.false_ne_true, if_neg (of_decide_eq_true notLast)]
  rfl

theorem evaluate_of_not_processes (notNew : ¬processes strategy bar = true) :
    (evaluate config strategy (some bar)).2 = none ∧
      ((evaluate config strategy (some bar)).1.snapshot = .flat ∨
        (evaluate config strategy (some bar)).1.snapshot = strategy.snapshot) := by
  rcases evaluate_cases config strategy bar with ⟨isNew, -⟩ | same
  · exact absurd isNew notNew
  · exact same

theorem evaluateBar_isSome :
    (evaluateBar config strategy bar).2.isSome = strategy.snapshot.waitingSetup.any fun setup =>
      !forcedExit config bar.candleTimestamp &&
        (decide (bar.barIndex ≤ setup.setupExpiryBarIndex) && reachesTrigger config setup bar) := by
  unfold evaluateBar
  cases shown : strategy.snapshot with
  | flat =>
    rw [if_neg fun forced => forced.2 rfl]
    rfl
  | entered setup entryTimestamp => split_ifs <;> rfl
  | cooldown cooldownUntil =>
    dsimp only
    split_ifs <;> rfl
  | setup waiting =>
    cases forced : forcedExit config bar.candleTimestamp with
    | true =>
      rfl
    | false =>
      exact evaluateSetup_isSome waiting
  | armed waiting =>
    cases forced : forcedExit config bar.candleTimestamp with
    | true =>
      rfl
    | false =>
      exact evaluateSetup_isSome waiting

/-- An evaluation gives a signal exactly where a new bar reaches the trigger of a setup that waits,
and has no higher index than the setup expires at. -/
theorem evaluate_isSome :
    (evaluate config strategy (some bar)).2.isSome =
      strategy.snapshot.waitingSetup.any fun setup => evaluatesSetup config strategy bar &&
        (decide (bar.barIndex ≤ setup.setupExpiryBarIndex) && reachesTrigger config setup bar) := by
  unfold evaluatesSetup
  by_cases isNew : processes strategy bar = true
  · rw [evaluate_of_processes isNew, evaluateBar_isSome, isNew]
    rfl
  · rw [(evaluate_of_not_processes isNew).1, Bool.eq_false_iff.mpr isNew]
    exact Option.any_false.symm

variable {setup : StrategySetup}

theorem evaluateSetup_timestamp {signal : PullbackSignal}
    (isSignal : signal ∈ (evaluateSetup config strategy setup bar).2) :
    signal.timestamp = bar.candleTimestamp := by
  unfold evaluateSetup at isSignal
  split at isSignal
  · cases isSignal
  split at isSignal
  · cases isSignal
  · split_ifs at isSignal
    · obtain rfl := Option.mem_some_iff.mp isSignal
      rfl
    · cases isSignal
    · cases isSignal

theorem evaluate_timestamp {signal : PullbackSignal}
    (isSignal : signal ∈ (evaluate config strategy (some bar)).2) :
    signal.timestamp = bar.candleTimestamp := by
  by_cases isNew : processes strategy bar = true
  · rw [evaluate_of_processes isNew] at isSignal
    rcases evaluateBar_cases config (noted strategy bar) bar with
      ⟨-, silent⟩ | ⟨setup, -, evaluated⟩ | ⟨silent, -⟩
    · rw [silent] at isSignal
      cases isSignal
    · rw [evaluated] at isSignal
      exact evaluateSetup_timestamp isSignal
    · rw [silent] at isSignal
      cases isSignal
  · rw [(evaluate_of_not_processes isNew).1] at isSignal
    cases isSignal

/-! ### Setups -/

/-- A setup waits that was found on the bar. -/
def Finds (config : PullbackConfig) (bar : FuturesFeature) (setup : StrategySetup) : Prop :=
  entryAllowed config bar.candleTimestamp = true ∧
    ∃ direction, bar.qualified direction = some setup

theorem evaluateFlat_setup (isFlat : strategy.snapshot = .flat)
    (waits : setup ∈ (evaluateFlat config strategy bar).snapshot.waitingSetup) :
    Finds config bar setup := by
  unfold evaluateFlat at waits
  split at waits
  · rename_i allowed
    cases found : searchSetup strategy bar with
    | none =>
      rw [found, isFlat] at waits
      cases waits
    | some pair =>
      rw [found] at waits
      obtain rfl := Option.mem_some_iff.mp waits
      obtain ⟨direction, -, isFound⟩ := List.exists_of_findSome?_eq_some found
      split_ifs at isFound
      obtain ⟨qualified, isQualified, rfl⟩ := Option.map_eq_some_iff.mp isFound
      exact ⟨allowed, direction, isQualified⟩
  · rw [isFlat] at waits
    cases waits

theorem evaluateSetup_setup {waiting : StrategySetup}
    (waits : setup ∈ (evaluateSetup config strategy waiting bar).1.snapshot.waitingSetup) :
    setup = waiting := by
  rcases evaluateSetup_cases config strategy waiting bar with ⟨flat, -⟩ | ⟨armed, -⟩
  · rw [flat] at waits
    cases waits
  · rw [armed] at waits
    exact (Option.mem_some_iff.mp waits).symm

theorem evaluateBar_setup
    (waits : setup ∈ (evaluateBar config strategy bar).1.snapshot.waitingSetup) :
    setup ∈ strategy.snapshot.waitingSetup ∨ Finds config bar setup := by
  unfold evaluateBar at waits
  split at waits
  · cases waits
  cases shown : strategy.snapshot with
  | flat =>
    rw [shown] at waits
    exact .inr (evaluateFlat_setup shown waits)
  | entered entered entryTimestamp =>
    simp only [shown] at waits
    cases waits
  | cooldown cooldownUntil =>
    simp only [shown] at waits
    split_ifs at waits
    · simp only [shown] at waits
      cases waits
    · exact .inr (evaluateFlat_setup rfl waits)
  | setup | armed =>
    simp only [shown] at waits
    exact .inl (evaluateSetup_setup waits ▸ rfl)

theorem evaluate_setup
    (waits : setup ∈ (evaluate config strategy (some bar)).1.snapshot.waitingSetup) :
    setup ∈ strategy.snapshot.waitingSetup ∨ Finds config bar setup := by
  by_cases isNew : processes strategy bar = true
  · rw [evaluate_of_processes isNew] at waits
    have kept := evaluateBar_setup waits
    exact kept
  · rcases (evaluate_of_not_processes isNew).2 with flat | same
    · rw [flat] at waits
      cases waits
    · rw [same] at waits
      exact .inl waits

end Triggers

/-! ### Runs -/

section Runs

variable (config : PullbackTunables)

/-- A signal of a call is of a setup that waits, and of a bar that ends by its expiry. -/
def WithinExpiry (strategy : TrendPullbackStrategy) (call : PullbackCall) : Prop :=
  ∀ signal ∈ (evaluateCall config strategy call).2, ∃ setup ∈ strategy.snapshot.waitingSetup,
    signal.timestamp ≤ setup.setupExpiryTimestamp

/-- An overdue bar of a call reaches the trigger of the setup that waits. -/
def OverdueTrigger (strategy : TrendPullbackStrategy) (call : PullbackCall) : Prop :=
  ∃ bar ∈ callFeature config call, ∃ setup ∈ strategy.snapshot.waitingSetup,
    Overdue setup bar ∧ evaluatesSetup (sessionOf config call) strategy bar = true ∧
      reachesTrigger (sessionOf config call) setup bar = true

instance (strategy : TrendPullbackStrategy) (call : PullbackCall) :
    Decidable (OverdueTrigger config strategy call) :=
  inferInstanceAs (Decidable (∃ bar ∈ callFeature config call,
    ∃ setup ∈ strategy.snapshot.waitingSetup, _))

/-- The bars that the features of a call are built from. -/
def streamOf (call : PullbackCall) : Option (List MarketCandle) :=
  (featuresForInput call.futures call.asOf).toOption.bind fun input =>
    (canonicalActiveFuturesStream input.1 call.asOf "15m").toOption

/-- Later than the validity of a setup is more bars later, from each bar that may find a setup. -/
def Covered (bars : List MarketCandle) : Prop :=
  ∀ first ∈ bars.zipIdx, ∀ later ∈ bars.zipIdx,
    entryAllowed config.toPullbackConfig first.1.endTime = true →
      first.1.endTime + 900000000 * (config.triggerValidityBars : Int) < later.1.endTime →
        first.2 + config.triggerValidityBars < later.2

instance (bars : List MarketCandle) : Decidable (Covered config bars) :=
  inferInstanceAs (Decidable (∀ first ∈ bars.zipIdx, _))

/-- The windows of the calls grow, and miss no bar of the validity of a setup. -/
structure GrowingWindows (calls : List PullbackCall) : Prop where
  session : ∀ call ∈ calls, sessionOf config call = config.toPullbackConfig
  grows : calls.Pairwise fun earlier later =>
    ∀ bars ∈ streamOf earlier, ∀ extended ∈ streamOf later, bars <+: extended
  covered : ∀ call ∈ calls, ∀ bars ∈ streamOf call, Covered config bars

variable {config} {strategy : TrendPullbackStrategy} {call : PullbackCall}

theorem withinExpiry_iff :
    WithinExpiry config strategy call ↔ ¬OverdueTrigger config strategy call := by
  unfold WithinExpiry OverdueTrigger evaluateCall
  cases callFeature config call with
  | none =>
    refine iff_of_true (fun signal none => by cases none) ?_
    rintro ⟨bar, none, -⟩
    cases none
  | some bar =>
    have fires : (evaluate (sessionOf config call) strategy (some bar)).2.isSome = _ :=
      evaluate_isSome
    constructor
    · rintro within ⟨late, isLate, setup, waits, overdue, evaluates, reaches⟩
      obtain rfl := Option.mem_some_iff.mp isLate
      have isSome : (evaluate (sessionOf config call) strategy (some bar)).2.isSome = true := by
        rw [fires, Option.mem_def.mp waits, Option.any_some, evaluates, reaches,
          decide_eq_true overdue.2]
        rfl
      obtain ⟨signal, isSignal⟩ := Option.isSome_iff_exists.mp isSome
      obtain ⟨waiting, isWaiting, inTime⟩ := within signal isSignal
      obtain rfl := Option.some_inj.mp (waits.symm.trans isWaiting)
      rw [evaluate_timestamp isSignal] at inTime
      exact absurd overdue.1 (not_lt.mpr inTime)
    · intro notLate signal isSignal
      rw [Option.isSome_of_mem isSignal] at fires
      obtain ⟨setup, waits, passes⟩ := (Option.any_eq_true _ _).mp fires.symm
      obtain ⟨evaluates, index, reaches⟩ := by
        simpa only [Bool.and_eq_true, decide_eq_true_eq] using passes
      refine ⟨setup, waits, ?_⟩
      rw [evaluate_timestamp isSignal]
      by_contra late
      exact notLate ⟨bar, rfl, setup, waits, ⟨not_le.mp late, index⟩, evaluates, reaches⟩

theorem featuresForInput_build {futures : List MarketCandle} {asOf : Option Int}
    {input : List MarketCandle × FuturesFeatureSnapshot}
    (isInput : featuresForInput futures asOf = .ok input) :
    FuturesFeatureEngine.build input.1 asOf = .ok input.2 := by
  unfold featuresForInput at isInput
  split at isInput
  · cases isInput
  obtain ⟨raw, -, isInput⟩ := ok_of_bind isInput
  split at isInput
  · cases isInput
  split at isInput
  · cases isInput
  · obtain ⟨feature, isBuilt, rfl⟩ := ok_of_map isInput
    exact isBuilt

theorem callFeature_stream {bar : FuturesFeature} (isBar : bar ∈ callFeature config call) :
    ∃ bars last raw, bars ∈ streamOf call ∧ bars.getLast? = some last ∧
      bar = featureOf config raw (FuturesFeatureEngine.snapshotOf bars last) := by
  obtain ⟨input, isInput, rfl⟩ := Option.map_eq_some_iff.mp isBar
  have isBuilt := featuresForInput_build (ok_of_toOption isInput)
  obtain ⟨bars, isStream, isSnapshot⟩ := ok_of_bind isBuilt
  split at isSnapshot
  · cases isSnapshot
  rename_i last isLast
  refine ⟨bars, last, input.1, ?_, isLast, ?_⟩
  · unfold streamOf
    rw [isInput, Option.mem_def, Option.bind_some, isStream]
    rfl
  · rw [Except.ok.inj isSnapshot]

/-- The setup that waits was found on a bar of a stream, and expires some bars after it. -/
def Rooted (config : PullbackTunables) (strategy : TrendPullbackStrategy)
    (bars : List MarketCandle) : Prop :=
  ∀ setup ∈ strategy.snapshot.waitingSetup, ∃ index bar, bars[index]? = some bar ∧
    entryAllowed config.toPullbackConfig bar.endTime = true ∧
    setup.setupExpiryTimestamp = bar.endTime + 900000000 * (config.triggerValidityBars : Int) ∧
    setup.setupExpiryBarIndex = index + config.triggerValidityBars

variable {bars : List MarketCandle}

theorem Rooted.extend {extended : List MarketCandle} (rooted : Rooted config strategy bars)
    (grows : bars <+: extended) : Rooted config strategy extended := by
  intro setup waits
  obtain ⟨index, bar, isBar, rest⟩ := rooted setup waits
  obtain ⟨later, rfl⟩ := grows
  have inside := (List.getElem?_eq_some_iff.mp isBar).1
  exact ⟨index, bar, (List.getElem?_append_left inside).trans isBar, rest⟩

theorem buildSetup_expiry {feature : FuturesFeatureSnapshot} {direction : StrategyDirection}
    {level : ℚ} {setup : StrategySetup}
    (isBuilt : buildSetup config feature direction level = some setup) :
    setup.setupExpiryTimestamp =
        feature.candleTimestamp + 900000000 * (config.triggerValidityBars : Int) ∧
      setup.setupExpiryBarIndex = feature.barIndex + config.triggerValidityBars := by
  unfold buildSetup at isBuilt
  dsimp only at isBuilt
  split_ifs at isBuilt
  all_goals
    obtain rfl := Option.some_inj.mp isBuilt
    exact ⟨rfl, rfl⟩

theorem finds_expiry {raw : List MarketCandle} {last : MarketCandle} {setup : StrategySetup}
    {session : PullbackConfig}
    (finds : Finds session (featureOf config raw (FuturesFeatureEngine.snapshotOf bars last)) setup)
    : entryAllowed session last.endTime = true ∧
      setup.setupExpiryTimestamp = last.endTime + 900000000 * (config.triggerValidityBars : Int) ∧
      setup.setupExpiryBarIndex = bars.length - 1 + config.triggerValidityBars := by
  obtain ⟨allowed, direction, isQualified⟩ := finds
  change qualifiedSetup config raw (FuturesFeatureEngine.snapshotOf bars last) direction =
    some setup at isQualified
  unfold qualifiedSetup at isQualified
  split_ifs at isQualified
  obtain ⟨level, -, isBuilt⟩ := Option.bind_eq_some_iff.mp isQualified
  exact ⟨allowed, buildSetup_expiry isBuilt⟩

theorem Rooted.step (rooted : Rooted config strategy bars)
    (session : sessionOf config call = config.toPullbackConfig) (isStream : bars ∈ streamOf call) :
    Rooted config (stepCall config strategy call) bars := by
  intro setup waits
  unfold stepCall evaluateCall at waits
  rw [session] at waits
  cases called : callFeature config call with
  | none =>
    rw [called] at waits
    exact rooted setup waits
  | some bar =>
    rw [called] at waits
    rcases evaluate_setup waits with before | finds
    · exact rooted setup before
    · obtain ⟨stream, last, raw, isOwn, isLast, rfl⟩ := callFeature_stream called
      obtain rfl := Option.some_inj.mp (isStream.symm.trans isOwn)
      have isLastIndex : bars[bars.length - 1]? = some last := by
        rw [← List.getLast?_eq_getElem?]
        exact isLast
      exact ⟨bars.length - 1, last, isLastIndex, finds_expiry finds⟩

theorem stepCall_of_streamOf (isNone : streamOf call = none) :
    stepCall config strategy call = strategy := by
  unfold stepCall evaluateCall
  cases called : callFeature config call with
  | none => rfl
  | some bar =>
    obtain ⟨bars, -, -, isStream, -⟩ := callFeature_stream called
    rw [isNone] at isStream
    cases isStream

/-- Where the setup that waits was found on a bar of the stream, and the stream misses no bar, no
overdue bar triggers. -/
theorem Rooted.withinExpiry (covered : ∀ bars ∈ streamOf call, Covered config bars)
    (rooted : ∀ bars ∈ streamOf call, Rooted config strategy bars) :
    WithinExpiry config strategy call := by
  refine withinExpiry_iff.mpr ?_
  rintro ⟨bar, isBar, setup, waits, overdue, -⟩
  obtain ⟨bars, last, raw, isStream, isLast, rfl⟩ := callFeature_stream isBar
  obtain ⟨index, first, isFirst, allowed, onClock, onIndex⟩ := rooted bars isStream setup waits
  have isLastIndex : bars[bars.length - 1]? = some last := by
    rw [← List.getLast?_eq_getElem?]
    exact isLast
  have later : setup.setupExpiryTimestamp < last.endTime := overdue.1
  have notLater : bars.length - 1 ≤ setup.setupExpiryBarIndex := overdue.2
  rw [onClock] at later
  rw [onIndex] at notLater
  have isMore := covered bars isStream (first, index) (List.mem_zipIdx_iff_getElem?.mpr isFirst)
    (last, bars.length - 1) (List.mem_zipIdx_iff_getElem?.mpr isLastIndex) allowed later
  exact absurd notLater (not_le.mpr isMore)

theorem along_of_growing {calls : List PullbackCall} (growing : GrowingWindows config calls)
    (rooted : ∀ call ∈ calls, ∀ bars ∈ streamOf call, Rooted config strategy bars) :
    Run.Along (stepCall config) (WithinExpiry config) strategy calls := by
  induction calls generalizing strategy with
  | nil => trivial
  | cons call rest inductionHypothesis =>
    obtain ⟨grows, restGrows⟩ := List.pairwise_cons.mp growing.grows
    have isFirst : call ∈ call :: rest := List.mem_cons_self
    have later : GrowingWindows config rest :=
      ⟨fun other member => growing.session other (List.mem_cons_of_mem call member), restGrows,
        fun other member => growing.covered other (List.mem_cons_of_mem call member)⟩
    refine ⟨Rooted.withinExpiry (growing.covered call isFirst) (rooted call isFirst),
      inductionHypothesis later fun other member extended isExtended => ?_⟩
    cases isStream : streamOf call with
    | none =>
      rw [stepCall_of_streamOf isStream]
      exact rooted other (List.mem_cons_of_mem call member) extended isExtended
    | some bars =>
      have kept := (rooted call isFirst bars isStream).step (growing.session call isFirst) isStream
      exact kept.extend (grows other member bars isStream extended isExtended)

/-- In every run the signals are within the expiry of their setups exactly where no overdue bar
triggers one, as in windows that grow and miss no bar. -/
theorem setups_expire (config : PullbackTunables) (calls : List PullbackCall) :
    (Run.Along (stepCall config) (WithinExpiry config) initial calls ↔
      Run.Along (stepCall config) (fun strategy call => ¬OverdueTrigger config strategy call)
        initial calls) ∧
    (GrowingWindows config calls →
      Run.Along (stepCall config) (WithinExpiry config) initial calls) := by
  refine ⟨Run.along_congr (fun strategy call => withinExpiry_iff) initial calls, fun growing => ?_⟩
  exact along_of_growing growing fun call _ bars _ setup waits => by cases waits

end Runs

/-- A bar of a quarter of an hour from 09:15 of a day, by its number. -/
def quarterBar (index : Nat) (openPrice high low close : ℚ) : MarketCandle where
  startTime := 86400000000 * 20717 - 19800000000 + 60000000 * (555 + 15 * index)
  endTime := 86400000000 * 20717 - 19800000000 + 60000000 * (570 + 15 * index)
  openPrice
  high
  low
  close
  instrumentId := "INST-NIFTY-FUT-2026-09-24"
  interval := "15m"
  volume := 1000
  source := "KITE"

/-- The last of these bars makes a setup with its trigger above 107. -/
def risingBars : List MarketCandle :=
  [quarterBar 0 100 100 99 99, quarterBar 1 99 101 97 98, quarterBar 2 98 103 98 101,
    quarterBar 3 101 102 100 101, quarterBar 4 101 102 98 100, quarterBar 5 100 105 100 103,
    quarterBar 6 103 107 103 106, quarterBar 7 106 106 105 106, quarterBar 8 106 107 106 106,
    quarterBar 9 106 109 106 107, quarterBar 10 107 109 105 108, quarterBar 11 108 109 104 106,
    quarterBar 12 106 109 104 107, quarterBar 13 107 107 104 106, quarterBar 14 106 108 104 105,
    quarterBar 15 105 106 104 105, quarterBar 16 105 107 104 107]

/-- Three bars of which only the last one, a bar after the expiry, reaches the trigger. -/
def waitingBars : List MarketCandle :=
  risingBars ++ [quarterBar 17 106 107 105 106, quarterBar 18 106 107 105 106,
    quarterBar 19 106 108 105 107]

/-- A bar that reaches the trigger before the expiry. -/
def reachingBars : List MarketCandle := risingBars ++ [quarterBar 17 106 108 105 107]

def callOn (bars : List MarketCandle) : PullbackCall :=
  ⟨bars, bars.getLast?.map fun bar => bar.endTime, false⟩

/-- Windows of seventeen bars. -/
def slidingCalls : List PullbackCall :=
  [callOn (waitingBars.take 17), callOn ((waitingBars.drop 1).take 17),
    callOn ((waitingBars.drop 2).take 17), callOn ((waitingBars.drop 3).take 17)]

def growingCalls : List PullbackCall := [callOn risingBars, callOn reachingBars]

/-- The end of the bar of a signal. -/
def signalTime (strategy : TrendPullbackStrategy) (call : PullbackCall) : Option Int :=
  (evaluateCall .standard strategy call).2.map PullbackSignal.timestamp

theorem setups_expire_growing :
    Run.outputs (stepCall .standard) signalTime initial growingCalls =
        [(quarterBar 17 106 108 105 107).endTime] ∧
      Run.Along (stepCall .standard) (WithinExpiry .standard) initial growingCalls := by
  have growing : GrowingWindows .standard growingCalls :=
    ⟨by decide +kernel, by decide +kernel, by decide +kernel⟩
  exact ⟨by decide +kernel, (setups_expire .standard growingCalls).2 growing⟩

/-- In windows of one length the index never passes that of the expiry. -/
theorem sliding_setup_never_expires :
    (slidingCalls.map fun call => call.futures.length) = [17, 17, 17, 17] ∧
      Run.outputs (stepCall .standard) signalTime initial slidingCalls =
        [(quarterBar 19 106 108 105 107).endTime] ∧
      ¬∀ (config : PullbackTunables) (calls : List PullbackCall),
        Run.Along (stepCall config) (WithinExpiry config) initial calls := by
  refine ⟨by decide +kernel, by decide +kernel, fun always => ?_⟩
  have notOverdue := (Run.along_congr (fun strategy call => withinExpiry_iff) initial
    slidingCalls).mp (always .standard slidingCalls)
  exact absurd notOverdue (by decide +kernel)

end TrendPullbackStrategy

end BreezeTrading
