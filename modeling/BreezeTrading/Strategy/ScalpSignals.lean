/-
This file proves what a signal of Strategy E says, whichever of the four rules gave it: where its
stop and its target lie about the close, and how much risk and reward there is between them. It
also proves when the engine signals at most once for each completed bar. The end of the last bar is
all it remembers, and a call on an older bar overwrites it.
-/

import BreezeTrading.Lib.Run
import BreezeTrading.Strategy.PivotVwapScalp
import BreezeTrading.Strategy.Rounding

namespace BreezeTrading.PivotVwapScalpStrategy

/-! ### Levels -/

section Levels

variable {config : StrategyEConfig} {price points : ℚ} {levels : List ℚ}

variable {level : ℚ}

theorem le_of_nearestAbove {nearest : ℚ} (isNearest : nearestAbove price levels = some nearest)
    (member : level ∈ levels) (above : price < level) : nearest ≤ level :=
  (List.min?_eq_some_iff.mp isNearest).2 level (List.mem_filter.mpr ⟨member, decide_eq_true above⟩)

theorem le_of_nearestBelow {nearest : ℚ} (isNearest : nearestBelow price levels = some nearest)
    (member : level ∈ levels) (positive : 0 < level) (below : level < price) : level ≤ nearest :=
  (List.max?_eq_some_iff.mp isNearest).2 level
    (List.mem_filter.mpr ⟨member, decide_eq_true ⟨positive, below⟩⟩)

section

variable (member : level ∈ levels)

include member

theorem exists_nearestAbove (above : price < level) :
    ∃ nearest, nearestAbove price levels = some nearest := by
  refine Option.isSome_iff_exists.mp (List.isSome_min?_of_ne_nil ?_)
  exact List.ne_nil_of_mem (List.mem_filter.mpr ⟨member, decide_eq_true above⟩)

theorem exists_nearestBelow (positive : 0 < level) (below : level < price) :
    ∃ nearest, nearestBelow price levels = some nearest := by
  refine Option.isSome_iff_exists.mp (List.isSome_max?_of_ne_nil ?_)
  exact List.ne_nil_of_mem (List.mem_filter.mpr ⟨member, decide_eq_true ⟨positive, below⟩⟩)

theorem targetBelow_le (above : price < level) :
    targetBelow config price points (nearestAbove price levels) ≤
      roundTo 2 (level - config.srBufferPoints) := by
  obtain ⟨nearest, isNearest⟩ := exists_nearestAbove member above
  rw [isNearest]
  refine roundTo_mono 2 ((min_le_right _ _).trans ?_)
  exact sub_le_sub_right (le_of_nearestAbove isNearest member above) _

theorem le_targetAbove (positive : 0 < level) (below : level < price) :
    roundTo 2 (level + config.srBufferPoints) ≤
      targetAbove config price points (nearestBelow price levels) := by
  obtain ⟨nearest, isNearest⟩ := exists_nearestBelow member positive below
  rw [isNearest]
  refine roundTo_mono 2 (le_trans ?_ (le_max_right _ _))
  exact add_le_add_left (le_of_nearestBelow isNearest member positive below) _

end

end Levels

/-! ### Signals -/

section Signals

variable (config : StrategyEConfig) (view : StrategyEView)

/-- The levels that limit the target of a signal. -/
def opposingLevels : StrategyESignalType → List ℚ
  | .trendLong => view.establishedHighs
  | .trendShort => view.establishedLows
  | .counterLong => counterResistanceLevels view
  | .counterShort => counterSupportLevels view

/-- The risk and the reward of a signal are within the limits. -/
structure WithinLimits (risk reward : ℚ) : Prop where
  positive : 0 < risk
  maxStop : risk ≤ config.maxStopPoints
  room : config.minRoomToLevelPoints ≤ reward
  ratio : config.minRewardRisk ≤ reward / risk

/-- A signal is of the latest bar, with its risk and its reward on the two sides of the close. -/
structure Geometry (signal : StrategyESignal) : Prop where
  onBar : signal.timestamp = view.latest.endTime ∧
    signal.futuresContract = view.latest.instrumentId ∧
    signal.spotReferencePrice = roundTo 2 view.latest.close
  sided : signal.direction = signal.signalType.direction ∧
    (signal.optionType = .call ↔ signal.direction = .bullish)
  long : signal.direction = .bullish →
    WithinLimits config (view.latest.close - signal.structuralStop)
        (signal.targetPrice - view.latest.close) ∧
      ∀ level ∈ opposingLevels view signal.signalType, view.latest.close < level →
        signal.targetPrice ≤ roundTo 2 (level - config.srBufferPoints)
  short : signal.direction = .bearish →
    WithinLimits config (signal.structuralStop - view.latest.close)
        (view.latest.close - signal.targetPrice) ∧
      ∀ level ∈ opposingLevels view signal.signalType, 0 < level → level < view.latest.close →
        roundTo 2 (level + config.srBufferPoints) ≤ signal.targetPrice

variable {config view} {signal : StrategyESignal}

variable {signalType : StrategyESignalType} {stop : ℚ} {invalidStop insufficientRoom : String}
  {decision : StrategyEDecision}

theorem checkedSignal_signal {target risk reward : ℚ} (gives : signal ∈ (checkedSignal config view
      signalType stop target risk reward invalidStop insufficientRoom).signal) :
    WithinLimits config risk reward ∧
      signal ∈ (buildSignal view signalType stop target).signal := by
  unfold checkedSignal at gives
  split_ifs at gives with invalid wide small poor
  · cases gives
  · cases gives
  · cases gives
  · cases gives
  · exact ⟨⟨not_le.mp invalid, not_lt.mp wide, not_lt.mp small, not_lt.mp poor⟩, gives⟩

theorem geometry_long {points : ℚ} (isLong : signalType.direction = .bullish) (gives : signal ∈
      (checkedSignal config view signalType stop (targetBelow config view.latest.close points
      (nearestAbove view.latest.close (opposingLevels view signalType))) (view.latest.close - stop)
      (targetBelow config view.latest.close points (nearestAbove view.latest.close (opposingLevels
      view signalType)) - view.latest.close) invalidStop insufficientRoom).signal) :
    Geometry config view signal := by
  obtain ⟨limits, isBuilt⟩ := checkedSignal_signal gives
  obtain rfl := Option.mem_some_iff.mp isBuilt
  refine ⟨⟨rfl, rfl, rfl⟩, ⟨rfl, ?_⟩, fun _ => ⟨limits, ?_⟩, fun isShort => ?_⟩
  · simp [isLong]
  · exact fun level member above => targetBelow_le member above
  · simp [isLong] at isShort

theorem geometry_short {points : ℚ} (isShort : signalType.direction = .bearish) (gives : signal ∈
      (checkedSignal config view signalType stop (targetAbove config view.latest.close points
      (nearestBelow view.latest.close (opposingLevels view signalType))) (stop - view.latest.close)
      (view.latest.close - targetAbove config view.latest.close points (nearestBelow
      view.latest.close (opposingLevels view signalType))) invalidStop insufficientRoom).signal) :
    Geometry config view signal := by
  obtain ⟨limits, isBuilt⟩ := checkedSignal_signal gives
  obtain rfl := Option.mem_some_iff.mp isBuilt
  refine ⟨⟨rfl, rfl, rfl⟩, ⟨rfl, ?_⟩, fun isLong => ?_, fun _ => ⟨limits, ?_⟩⟩
  · simp [isShort]
  · simp [isShort] at isLong
  · exact fun level member positive below => le_targetAbove member positive below

theorem trendLong_geometry (fires : trendLong config view = some decision)
    (gives : signal ∈ decision.signal) : Geometry config view signal := by
  unfold trendLong at fires
  dsimp only at fires
  split_ifs at fires with trends
  obtain ⟨pullback, -, fires⟩ := Option.bind_eq_some_iff.mp fires
  obtain ⟨breakout, -, fires⟩ := Option.bind_eq_some_iff.mp fires
  split_ifs at fires
  obtain rfl := Option.some_inj.mp fires
  exact geometry_long rfl gives

theorem trendShort_geometry (fires : trendShort config view = some decision)
    (gives : signal ∈ decision.signal) : Geometry config view signal := by
  unfold trendShort at fires
  dsimp only at fires
  split_ifs at fires with trends
  obtain ⟨pullback, -, fires⟩ := Option.bind_eq_some_iff.mp fires
  obtain ⟨breakout, -, fires⟩ := Option.bind_eq_some_iff.mp fires
  split_ifs at fires
  obtain rfl := Option.some_inj.mp fires
  exact geometry_short rfl gives

theorem counterLong_geometry (fires : counterLong config view = some decision)
    (gives : signal ∈ decision.signal) : Geometry config view signal := by
  unfold counterLong at fires
  dsimp only at fires
  split_ifs at fires
  obtain ⟨support, -, fires⟩ := Option.bind_eq_some_iff.mp fires
  split_ifs at fires
  obtain rfl := Option.some_inj.mp fires
  exact geometry_long rfl gives

theorem counterShort_geometry (fires : counterShort config view = some decision)
    (gives : signal ∈ decision.signal) : Geometry config view signal := by
  unfold counterShort at fires
  dsimp only at fires
  split_ifs at fires
  obtain ⟨resistance, -, fires⟩ := Option.bind_eq_some_iff.mp fires
  split_ifs at fires
  obtain rfl := Option.some_inj.mp fires
  exact geometry_short rfl gives

theorem geometry_getD {first second : Option StrategyEDecision} {rest : StrategyEDecision}
    (left : ∀ decision, first = some decision → signal ∈ decision.signal →
      Geometry config view signal)
    (right : ∀ decision, second = some decision → signal ∈ decision.signal →
      Geometry config view signal)
    (otherwise : signal ∈ rest.signal → Geometry config view signal)
    (gives : signal ∈ ((first <|> second).getD rest).signal) : Geometry config view signal := by
  cases fires : first with
  | some decision =>
    rw [fires] at gives
    exact left decision fires gives
  | none =>
    rw [fires] at gives
    cases firesSecond : second with
    | some decision =>
      rw [firesSecond] at gives
      exact right decision firesSecond gives
    | none =>
      rw [firesSecond] at gives
      exact otherwise gives

theorem decideView_signal (gives : signal ∈ (decideView config view).signal) :
    Geometry config view signal ∧ view.choppy = false ∧
      config.entryStart ≤ PositionManager.minutesOfDay view.latest.endTime ∧
      PositionManager.minutesOfDay view.latest.endTime ≤ config.entryEnd := by
  unfold decideView at gives
  by_cases inWindow : config.entryStart ≤ PositionManager.minutesOfDay view.latest.endTime ∧
      PositionManager.minutesOfDay view.latest.endTime ≤ config.entryEnd
  · rw [if_neg (not_not.mpr inWindow)] at gives
    split at gives
    · cases gives
    rename_i calm
    split at gives
    · cases gives
    refine ⟨geometry_getD (fun _ => trendLong_geometry) (fun _ => trendShort_geometry) ?_ gives,
      Bool.eq_false_iff.mpr calm, inWindow⟩
    intro counter
    split at counter
    · cases counter
    · exact geometry_getD (fun _ => counterLong_geometry) (fun _ => counterShort_geometry)
        (fun none => by cases none) counter
  · rw [if_pos inWindow] at gives
    cases gives

end Signals

/-! ### Calls -/

section Calls

variable {config : StrategyEConfig} {strategy : PivotVwapScalpStrategy} {call : StrategyECall}
  {signal : StrategyESignal}

/-- What a signal says of its call: the latest completed bar is new, and the rules gave the signal
for the view of its session and of the one before. -/
structure Signals (config : StrategyEConfig) (strategy : PivotVwapScalpStrategy)
    (call : StrategyECall) (latest : MarketCandle) (view : StrategyEView)
    (signal : StrategyESignal) : Prop where
  last : (validCompleted call.futures5m call.asOf).getLast? = some latest
  enough : minimumBars config ≤ (validCompleted call.futures5m call.asOf).length
  new : strategy.lastProcessedCandle ≠ some latest.endTime
  processed : step config strategy call = ⟨some latest.endTime⟩
  viewed : ∃ date ∈ previousDateOf (validCompleted call.futures5m call.asOf) latest,
    view = viewOf config
      (barsOf (validCompleted call.futures5m call.asOf) (sessionDate latest))
      (barsOf (validCompleted call.futures5m call.asOf) date) latest
  gives : signal ∈ (decideView config view).signal

theorem analyze_signal {candles : List MarketCandle} {latest : MarketCandle}
    (gives : signal ∈ (analyze config candles latest).signal) :
    ∃ date ∈ previousDateOf candles latest, signal ∈ (decideView config (viewOf config
      (barsOf candles (sessionDate latest)) (barsOf candles date) latest)).signal := by
  unfold analyze at gives
  dsimp only at gives
  split at gives
  · cases gives
  · rename_i date isPrevious
    split at gives
    · cases gives
    · exact ⟨date, isPrevious, gives⟩

theorem evaluate_signal (gives : signal ∈ (evaluate config strategy call).2.signal) :
    ∃ latest view, Signals config strategy call latest view signal := by
  have stepped : step config strategy call = (evaluate config strategy call).1 := rfl
  unfold evaluate at gives stepped
  by_cases short : (validCompleted call.futures5m call.asOf).length < minimumBars config
  · rw [if_pos short] at gives
    cases gives
  rw [if_neg short] at gives stepped
  cases last : (validCompleted call.futures5m call.asOf).getLast? with
  | none =>
    simp only [last] at gives
    cases gives
  | some latest =>
    simp only [last] at gives stepped
    by_cases known : strategy.lastProcessedCandle = some latest.endTime
    · rw [if_pos known] at gives
      cases gives
    rw [if_neg known] at gives stepped
    by_cases stale : isStale config call latest = true
    · rw [if_pos stale] at gives
      cases gives
    rw [if_neg stale] at gives stepped
    obtain ⟨date, isPrevious, decided⟩ := analyze_signal gives
    exact ⟨latest, _, last, not_lt.mp short, known, stepped, ⟨date, isPrevious, rfl⟩, decided⟩

theorem Signals.view_latest {latest : MarketCandle} {view : StrategyEView}
    (signals : Signals config strategy call latest view signal) : view.latest = latest := by
  obtain ⟨date, -, rfl⟩ := signals.viewed
  rfl

/-! ### One signal for each bar -/

/-- The contract and the end of the bar of a signal. -/
def signalBar (config : StrategyEConfig) (strategy : PivotVwapScalpStrategy)
    (call : StrategyECall) : Option (String × Int) :=
  (evaluate config strategy call).2.signal.map fun signal =>
    (signal.futuresContract, signal.timestamp)

/-- The latest completed bar of the call does not end before the last one that was processed. -/
def LatestForward (config : StrategyEConfig) (strategy : PivotVwapScalpStrategy)
    (call : StrategyECall) : Prop :=
  minimumBars config ≤ (validCompleted call.futures5m call.asOf).length →
    ∀ latest ∈ (validCompleted call.futures5m call.asOf).getLast?,
      ∀ last ∈ strategy.lastProcessedCandle, last ≤ latest.endTime

instance (config : StrategyEConfig) (strategy : PivotVwapScalpStrategy) (call : StrategyECall) :
    Decidable (LatestForward config strategy call) :=
  inferInstanceAs (Decidable (_ → _))

/-- The last processed bar does not end before a time. -/
def Reached (strategy : PivotVwapScalpStrategy) (time : Int) : Prop :=
  ∃ last ∈ strategy.lastProcessedCandle, time ≤ last

theorem step_cases (config : StrategyEConfig) (strategy : PivotVwapScalpStrategy)
    (call : StrategyECall) :
    step config strategy call = strategy ∨
      minimumBars config ≤ (validCompleted call.futures5m call.asOf).length ∧
        ∃ latest ∈ (validCompleted call.futures5m call.asOf).getLast?,
          step config strategy call = ⟨some latest.endTime⟩ := by
  unfold step evaluate
  by_cases short : (validCompleted call.futures5m call.asOf).length < minimumBars config
  · rw [if_pos short]
    exact .inl rfl
  rw [if_neg short]
  cases last : (validCompleted call.futures5m call.asOf).getLast? with
  | none => exact .inl rfl
  | some latest =>
    dsimp only
    split_ifs
    · exact .inl rfl
    · exact .inr ⟨not_lt.mp short, latest, rfl, rfl⟩
    · exact .inr ⟨not_lt.mp short, latest, rfl, rfl⟩

theorem Reached.step {time : Int} (reached : Reached strategy time)
    (forward : LatestForward config strategy call) : Reached (step config strategy call) time := by
  obtain ⟨last, isLast, le⟩ := reached
  rcases step_cases config strategy call with stays | ⟨enough, latest, isLatest, processed⟩
  · rw [stays]
    exact ⟨last, isLast, le⟩
  · rw [processed]
    exact ⟨latest.endTime, rfl, le.trans (forward enough latest isLatest last isLast)⟩

/-- In every run whose latest completed bar never goes back, the bars that are signalled end later
and later, so that each has at most one signal. -/
theorem one_signal_per_bar {calls : List StrategyECall}
    (forward : Run.Along (step config) (LatestForward config) initial calls) :
    (Run.outputs (step config) (signalBar config) initial calls).Pairwise fun first second =>
      first.2 < second.2 := by
  have keeps : ∀ strategy call (bar : String × Int), LatestForward config strategy call →
      Reached strategy bar.2 → Reached (step config strategy call) bar.2 :=
    fun strategy call bar isForward reached => reached.step isForward
  refine forward.pairwise_outputs keeps ?_ ?_
  · rintro strategy call bar isForward ⟨last, isLast, le⟩ later isLater
    obtain ⟨signal, isSignal, rfl⟩ := Option.map_eq_some_iff.mp isLater
    obtain ⟨latest, view, signals⟩ := evaluate_signal isSignal
    have timestamp : signal.timestamp = latest.endTime := by
      rw [(decideView_signal signals.gives).1.onBar.1, signals.view_latest]
    have notBefore := isForward signals.enough latest signals.last last isLast
    have notSame : last ≠ latest.endTime := fun same =>
      signals.new (same ▸ Option.mem_def.mp isLast)
    show bar.2 < signal.timestamp
    rw [timestamp]
    exact le.trans_lt (lt_of_le_of_ne notBefore notSame)
  · intro strategy call isForward bar isBar
    obtain ⟨signal, isSignal, rfl⟩ := Option.map_eq_some_iff.mp isBar
    obtain ⟨latest, view, signals⟩ := evaluate_signal isSignal
    have timestamp : signal.timestamp = latest.endTime := by
      rw [(decideView_signal signals.gives).1.onBar.1, signals.view_latest]
    rw [signals.processed]
    exact ⟨latest.endTime, rfl, timestamp.le⟩

end Calls

/-- A bar of the session of a day that starts at 10:00, by its number. -/
def scalpBar (day : Int) (index : Nat) (openPrice high low close : ℚ) : MarketCandle where
  startTime := 86400000000 * day + 16200000000 + 300000000 * index
  endTime := 86400000000 * day + 16500000000 + 300000000 * index
  openPrice
  high
  low
  close
  instrumentId := "INST-NIFTY-FUT"
  interval := "5m"
  volume := 1000
  source := "KITE"

/-- Settings by which a few bars make a setup. -/
def scalpConfig : StrategyEConfig :=
  { StrategyEConfig.standard with
    swingLookback := 1
    volumeLookback := 5
    counterTargetPoints := 10
    minRoomToLevelPoints := 5
    chopCrossThreshold := 3
    flatVwapThresholdPoints := 1 / 10 }

/-- Bars that form a swing high at 103 and a pullback low above their pivot. -/
def pullbackBars : List MarketCandle :=
  [scalpBar 0 0 100 101 99 100, scalpBar 0 1 100 101 99 100,
    scalpBar 1 0 (501 / 5) 101 100 (503 / 5), scalpBar 1 1 (503 / 5) 103 (201 / 2) 102,
    scalpBar 1 2 102 (511 / 5) (501 / 5) (504 / 5),
    scalpBar 1 3 (504 / 5) (506 / 5) (499 / 5) (201 / 2),
    scalpBar 1 4 (201 / 2) 102 (502 / 5) (508 / 5)]

/-- The bar that breaks the swing high. -/
def breakingBar : MarketCandle := scalpBar 1 5 (508 / 5) 104 (1013 / 10) (207 / 2)

/-- A call some seconds after the end of the breaking bar. -/
def scalpCall (bars : List MarketCandle) (seconds : Int) : StrategyECall :=
  ⟨bars, breakingBar.endTime + 1000000 * seconds, none⟩

/-- The breaking bar is there, is dropped by the feed, and comes back. -/
def regressingCalls : List StrategyECall :=
  [scalpCall (pullbackBars ++ [breakingBar]) 0, scalpCall pullbackBars 1,
    scalpCall (pullbackBars ++ [breakingBar]) 2]

/-- The calls of a feed that grows. -/
def growingCalls : List StrategyECall :=
  [scalpCall pullbackBars (-299), scalpCall (pullbackBars ++ [breakingBar]) 1,
    scalpCall (pullbackBars ++ [breakingBar]) 2]

theorem one_signal_per_bar_growing :
    Run.outputs (step scalpConfig) (signalBar scalpConfig) initial growingCalls =
        [("INST-NIFTY-FUT", breakingBar.endTime)] ∧
      (Run.outputs (step scalpConfig) (signalBar scalpConfig) initial growingCalls).Pairwise
        fun first second => first.2 < second.2 :=
  ⟨by decide +kernel, one_signal_per_bar (by decide +kernel)⟩

/-- A bar that is dropped and restored is signalled twice: the older bar in between is remembered
in its place, although it is too old to be traded. -/
theorem restored_bar_is_signalled_twice :
    (regressingCalls.map StrategyECall.asOf).Pairwise (· ≤ ·) ∧
      Run.outputs (step scalpConfig) (signalBar scalpConfig) initial regressingCalls =
        [("INST-NIFTY-FUT", breakingBar.endTime), ("INST-NIFTY-FUT", breakingBar.endTime)] ∧
      ¬∀ (config : StrategyEConfig) (calls : List StrategyECall),
        (calls.map StrategyECall.asOf).Pairwise (· ≤ ·) →
        (Run.outputs (step config) (signalBar config) initial calls).Nodup := by
  have ordered : (regressingCalls.map StrategyECall.asOf).Pairwise (· ≤ ·) := by decide +kernel
  have twice : Run.outputs (step scalpConfig) (signalBar scalpConfig) initial regressingCalls =
      [("INST-NIFTY-FUT", breakingBar.endTime), ("INST-NIFTY-FUT", breakingBar.endTime)] := by
    decide +kernel
  refine ⟨ordered, twice, fun once => ?_⟩
  have nodup := once scalpConfig regressingCalls ordered
  rw [twice] at nodup
  simp at nodup

end BreezeTrading.PivotVwapScalpStrategy
