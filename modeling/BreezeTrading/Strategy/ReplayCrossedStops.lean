/-
This file proves when a replayed bar survives a stop that it crosses: only where it also reaches a
favorable level, some of its minutes are available, and these touch neither stop. The order they
tell is then believed although it does not account for the crossing.
-/

import BreezeTrading.Strategy.ReplayLifecycle
import BreezeTrading.Strategy.ReplayStopTarget

namespace BreezeTrading

open ReplayLifecycle ReplayIntrabar

/-! ### Minutes that tell of no stop -/

section Minutes

variable (direction : TradeDirection) (activeStop level newStop : ℚ)

/-- No minute touches the new stop, and the first one that touches the old stop or the level
opens at the level if it touches the old stop. -/
def SurvivesMinutes (candles : List Candle) : Prop :=
  (∀ candle ∈ candles, stopHit direction candle newStop = false) ∧
    ∀ candle ∈ candles.find? (touchesEither direction activeStop level),
      stopHit direction candle activeStop = true →
        levelHit direction candle level = true ∧
          hitsStop direction candle.openPrice activeStop = false ∧
          reachesLevel direction candle.openPrice level = true

/-- The resolution neither gives up nor tells of a stop. -/
def IntrabarResolution.Survives (resolution : IntrabarResolution) : Prop :=
  resolution.ambiguous = false ∧ resolution.event ≠ .structuralStop ∧
    resolution.event ≠ .transitionThenStop

@[simp] theorem not_survives_structuralStop (candle : Candle) (stop : ℚ) :
    ¬(exitAt direction .structuralStop candle stop).Survives := fun survives => survives.2.1 rfl

@[simp] theorem not_survives_transitionThenStop (candle : Candle) (stop : ℚ) :
    ¬(exitAt direction .transitionThenStop candle stop).Survives := fun survives =>
  survives.2.2 rfl

@[simp] theorem not_survives_unordered (candle : Candle) (detail : String) :
    ¬(unordered candle detail).Survives := fun survives => nomatch survives.1

theorem survives_after_iff (candles : List Candle) :
    (transitionOrder direction activeStop level newStop true candles).Survives ↔
      ∀ candle ∈ candles, stopHit direction candle newStop = false := by
  induction candles with
  | nil => simp [transitionOrder, IntrabarResolution.Survives]
  | cons candle rest inductionHypothesis =>
    cases touched : stopHit direction candle newStop
    · simpa [transitionOrder, touched] using inductionHypothesis
    · simp [transitionOrder, touched]

theorem survives_iff (candles : List Candle) :
    (transitionOrder direction activeStop level newStop false candles).Survives ↔
      SurvivesMinutes direction activeStop level newStop candles := by
  induction candles with
  | nil => simp [transitionOrder, IntrabarResolution.Survives, SurvivesMinutes]
  | cons candle rest inductionHypothesis =>
    have after := survives_after_iff direction activeStop level newStop rest
    unfold SurvivesMinutes at inductionHypothesis ⊢
    cases touched : stopHit direction candle newStop
    · cases stopped : stopHit direction candle activeStop <;>
        cases reached : levelHit direction candle level
      · simpa [transitionOrder, touchesEither, stopped, reached, touched] using inductionHypothesis
      · simpa [transitionOrder, touchesEither, stopped, reached, touched] using after
      · simp [transitionOrder, touchesEither, stopped, reached]
      · cases opensStopped : hitsStop direction candle.openPrice activeStop <;>
          cases opens : reachesLevel direction candle.openPrice level <;>
          simp [transitionOrder, touchesEither, stopped, reached, touched, opensStopped, opens,
            after]
    · cases stopped : stopHit direction candle activeStop <;>
        cases reached : levelHit direction candle level <;>
        cases opensStopped : hitsStop direction candle.openPrice activeStop <;>
        cases opens : reachesLevel direction candle.openPrice level <;>
        simp [transitionOrder, stopped, reached, touched, opensStopped, opens]

end Minutes

namespace HistoricalPositionManagerReplayer

/-! ### A later bar -/

section Bar

variable (replayer : HistoricalPositionManagerReplayer) (position : ManagedReplayPosition)
  (bar priceBar : InstrumentCandle) (running : List InstrumentCandle)

/-- A bar that crosses the stop a position of Strategy A or B had at its start. -/
structure CrossedBar : Prop where
  active : position.entryBar.endTime ≤ bar.startTime
  managed : position.record.strategyId = StrategyName.trendPullback.value ∨
    position.record.strategyId = StrategyName.volatilityBreakout.value
  underlying : replayer.underlyingBar position.record bar = some priceBar
  crossed : ∃ decision,
    evaluateReplayCandle (directionOf position.record.direction) priceBar.toCandle
      position.trade.currentTrailingStop false false = .ok decision ∧ decision.crossed = true

/-- Whenever the bar is advanced, the position is settled there. -/
def Settles : Prop :=
  ∀ goesOn after, replayer.advanceRecord position bar running = .ok (goesOn, after) →
    goesOn = false ∧
      (after.record.lifecycleStatus = .resolved ∨ after.record.lifecycleStatus = .ambiguous)

/-- The bar reaches a favorable level, its available minutes tell of no stop, and the manager keeps
the trade at its close. -/
structure Overlooked (level price : ℚ) : Prop where
  favorable : nextFavorableLevel position.trade priceBar.toCandle = some (level, price)
  available : replayer.minutes priceBar ≠ []
  positivePrice : 0 < price
  positiveStop : 0 < replayer.transitionedStop (trackExcursions position.trade priceBar.toCandle)
    (replayer.features bar running) price bar
  survives : SurvivesMinutes (directionOf position.record.direction)
    position.trade.currentTrailingStop price
    (replayer.transitionedStop (trackExcursions position.trade priceBar.toCandle)
      (replayer.features bar running) price bar) (sortByStart (replayer.minutes priceBar))
  kept : ∀ reason ∈ (replayer.completedBar (trackExcursions position.trade priceBar.toCandle)
    (replayer.features bar running) priceBar bar).2, reason ∈ targetReasons

variable {replayer position bar priceBar running}

theorem evaluateReplayCandle_positive {direction : TradeDirection} {candle : Candle} {stop : ℚ}
    {entryCandle : Bool} {decision : ReplayStopDecision}
    (evaluated : evaluateReplayCandle direction candle stop entryCandle false = .ok decision) :
    0 < stop := by
  by_contra notPositive
  rw [evaluateReplayCandle, if_pos (not_lt.mp notPositive)] at evaluated
  exact nomatch evaluated

theorem CrossedBar.advanceRecord_eq (crossed : replayer.CrossedBar position bar priceBar) :
    replayer.advanceRecord position bar running =
      replayer.advanceManaged position bar priceBar running := by
  have others : position.record.strategyId ≠ StrategyName.diContinuation.value ∧
      position.record.strategyId ≠ StrategyName.srMomentumBreakout.value ∧
      position.record.strategyId ≠ StrategyName.pivotVwapScalp.value := by
    rcases crossed.managed with same | same <;> rw [same] <;> decide
  unfold advanceRecord
  rw [if_neg (not_lt.mpr crossed.active), if_neg others.1, if_neg others.2.1, if_neg others.2.2,
    crossed.underlying]

theorem settles_of_markAmbiguous {trade : ManagedTrade} {timestamp : Int}
    (advanced : replayer.advanceRecord position bar running =
      .ok (markAmbiguous position trade timestamp)) : replayer.Settles position bar running := by
  intro goesOn after same
  rw [advanced, Except.ok.injEq, markAmbiguous, Prod.mk.injEq] at same
  obtain ⟨rfl, rfl⟩ := same
  exact ⟨rfl, .inr rfl⟩

theorem settles_of_exitInside {trade : ManagedTrade} {features : MarketFeatures} {price : ℚ}
    {timestamp : Int} (advanced : replayer.advanceRecord position bar running =
      .ok (replayer.exitInside position trade features price timestamp)) :
    replayer.Settles position bar running := by
  intro goesOn after same
  rw [advanced, Except.ok.injEq, exitInside, Prod.mk.injEq] at same
  obtain ⟨rfl, rfl⟩ := same
  exact ⟨rfl, .inl rfl⟩

theorem settles_of_error {message : String}
    (advanced : replayer.advanceRecord position bar running = .error message) :
    replayer.Settles position bar running := by
  intro goesOn after same
  rw [advanced] at same
  exact nomatch same

theorem settles_settleBar_iff {features : MarketFeatures} {trade : ManagedTrade}
    {reason : Option String} (advanced : replayer.advanceRecord position bar running =
      .ok (settleBar position features bar trade reason)) :
    replayer.Settles position bar running ↔ ¬∀ known ∈ reason, known ∈ targetReasons := by
  unfold Settles
  rw [advanced]
  unfold settleBar
  cases kept : reason.filter fun known => decide (known ∉ targetReasons) with
  | none =>
    refine iff_of_false (fun settles => ?_) (not_not.mpr ?_)
    · exact nomatch (settles _ _ rfl).1
    · simpa [Option.filter_eq_none_iff] using kept
  | some known =>
    refine iff_of_true ?_ fun all => ?_
    · rintro goesOn after same
      obtain ⟨rfl, rfl⟩ := same
      exact ⟨rfl, .inl rfl⟩
    · rw [Option.filter_eq_some_iff] at kept
      exact absurd (all known kept.1) (of_decide_eq_true kept.2)

variable {decision : ReplayStopDecision}

variable (running) in
theorem CrossedBar.advanceRecord_of_order (crossed : replayer.CrossedBar position bar priceBar)
    (evaluated : evaluateReplayCandle (directionOf position.record.direction) priceBar.toCandle
      position.trade.currentTrailingStop false false = .ok decision)
    (crosses : decision.crossed = true) :
    replayer.advanceRecord position bar running =
      match replayer.intrabarOrder position.record
        (trackExcursions position.trade priceBar.toCandle) (replayer.features bar running)
        priceBar bar true with
      | .error message => .error message
      | .ok .unavailable => .ok (markAmbiguous position
          (trackExcursions position.trade priceBar.toCandle) bar.endTime)
      | .ok .notNeeded => .ok (replayer.settleOrder position
          (trackExcursions position.trade priceBar.toCandle) (replayer.features bar running)
          priceBar bar decision none)
      | .ok (.resolved resolution) =>
          if resolution.ambiguous then .ok (markAmbiguous position
            (trackExcursions position.trade priceBar.toCandle)
            (resolution.eventTime.getD bar.endTime))
          else .ok (replayer.settleOrder position
            (trackExcursions position.trade priceBar.toCandle) (replayer.features bar running)
            priceBar bar decision (some resolution)) := by
  have stopEvaluated : evaluateReplayCandle (directionOf position.record.direction)
      priceBar.toCandle (trackExcursions position.trade priceBar.toCandle).currentTrailingStop
      false false = .ok decision := evaluated
  rw [crossed.advanceRecord_eq]
  unfold advanceManaged
  dsimp only
  rw [stopEvaluated]
  simp only [bind, Except.bind, crosses]
  cases replayer.intrabarOrder position.record (trackExcursions position.trade priceBar.toCandle)
    (replayer.features bar running) priceBar bar true with
  | error message => rfl
  | ok order =>
    cases order with
    | unavailable => rfl
    | notNeeded => rfl
    | resolved resolution =>
      dsimp only
      split <;> rfl

section Order

variable {trade : ManagedTrade} {features : MarketFeatures} {resolution : Option IntrabarResolution}

theorem settleOrder_stop (crosses : decision.crossed = true)
    (stops : ∀ known ∈ resolution, known.event = .structuralStop) :
    replayer.settleOrder position trade features priceBar bar decision resolution =
      replayer.exitInside position trade features
        (orPrice decision.exitPrice trade.currentTrailingStop)
        ((resolution.bind IntrabarResolution.eventTime).getD priceBar.startTime) := by
  unfold settleOrder
  rw [if_pos ⟨crosses, by simpa [Option.all_eq_true] using stops⟩]

variable {known : IntrabarResolution}

theorem settles_of_transition (transitions : known.event = .transitionThenStop)
    (advanced : replayer.advanceRecord position bar running =
      .ok (replayer.settleOrder position trade features priceBar bar decision (some known))) :
    replayer.Settles position bar running := by
  unfold settleOrder at advanced
  rw [if_neg (by simp [transitions]), Option.filter_some_pos (by simp [transitions])] at advanced
  exact settles_of_exitInside advanced

theorem settleOrder_survives (survives : known.Survives) :
    replayer.settleOrder position trade features priceBar bar decision (some known) =
      settleBar position features bar (replayer.completedBar trade features priceBar bar).1
        (replayer.completedBar trade features priceBar bar).2 := by
  unfold settleOrder
  rw [if_neg (by simp [survives.2.1]), Option.filter_some_neg (by simp [survives.2.2])]

end Order

theorem CrossedBar.settles_of_unfavorable (crossed : replayer.CrossedBar position bar priceBar)
    (unfavorable : nextFavorableLevel position.trade priceBar.toCandle = none) :
    replayer.Settles position bar running := by
  obtain ⟨decision, evaluated, crosses⟩ := crossed.crossed
  have order : replayer.intrabarOrder position.record
      (trackExcursions position.trade priceBar.toCandle) (replayer.features bar running)
      priceBar bar true = .ok .notNeeded := by
    unfold intrabarOrder
    rw [show nextFavorableLevel (trackExcursions position.trade priceBar.toCandle)
      priceBar.toCandle = none from unfavorable]
  have advanced := crossed.advanceRecord_of_order running evaluated crosses
  rw [order] at advanced
  rw [settleOrder_stop crosses (by simp)] at advanced
  exact settles_of_exitInside advanced

section Favorable

variable {level price : ℚ}

section

variable (favorable : nextFavorableLevel position.trade priceBar.toCandle = some (level, price))

include favorable

theorem intrabarOrder_favorable (available : replayer.minutes priceBar ≠ []) :
    replayer.intrabarOrder position.record (trackExcursions position.trade priceBar.toCandle)
        (replayer.features bar running) priceBar bar true =
      (resolveActiveStopTransition (directionOf position.record.direction)
        position.trade.currentTrailingStop price
        (replayer.transitionedStop (trackExcursions position.trade priceBar.toCandle)
          (replayer.features bar running) price bar) (replayer.minutes priceBar)).map
        .resolved := by
  unfold intrabarOrder
  rw [show nextFavorableLevel (trackExcursions position.trade priceBar.toCandle)
    priceBar.toCandle = some (level, price) from favorable]
  dsimp only
  rw [if_neg (by simp), if_neg available]
  rfl

theorem intrabarOrder_unavailable (unavailable : replayer.minutes priceBar = []) :
    replayer.intrabarOrder position.record (trackExcursions position.trade priceBar.toCandle)
      (replayer.features bar running) priceBar bar true = .ok .unavailable := by
  unfold intrabarOrder
  rw [show nextFavorableLevel (trackExcursions position.trade priceBar.toCandle)
    priceBar.toCandle = some (level, price) from favorable]
  dsimp only
  rw [if_neg (by simp), if_pos unavailable]

end

theorem resolveActiveStopTransition_eq {direction : TradeDirection} {activeStop newStop : ℚ}
    {candles : List Candle} (positiveStop : 0 < activeStop) :
    resolveActiveStopTransition direction activeStop price newStop candles =
      if 0 < price ∧ 0 < newStop then
        .ok (transitionOrder direction activeStop price newStop false (sortByStart candles))
      else .error "stop and transition levels must be positive" := by
  have same : min (min activeStop price) newStop ≤ 0 ↔ ¬(0 < price ∧ 0 < newStop) := by
    rw [← not_lt, lt_min_iff, lt_min_iff, and_iff_right positiveStop]
  unfold resolveActiveStopTransition
  simp only [same, ite_not]

theorem CrossedBar.settles_iff_of_favorable (crossed : replayer.CrossedBar position bar priceBar)
    (favorable : nextFavorableLevel position.trade priceBar.toCandle = some (level, price)) :
    replayer.Settles position bar running ↔
      ¬replayer.Overlooked position bar priceBar running level price := by
  obtain ⟨decision, evaluated, crosses⟩ := crossed.crossed
  have advanced := crossed.advanceRecord_of_order running evaluated crosses
  by_cases available : replayer.minutes priceBar = []
  · rw [intrabarOrder_unavailable favorable available] at advanced
    exact iff_of_true (settles_of_markAmbiguous advanced) fun crossing =>
      crossing.available available
  rw [intrabarOrder_favorable favorable available,
    resolveActiveStopTransition_eq (evaluateReplayCandle_positive evaluated)] at advanced
  by_cases positive : 0 < price ∧
      0 < replayer.transitionedStop (trackExcursions position.trade priceBar.toCandle)
        (replayer.features bar running) price bar
  swap
  · rw [if_neg positive] at advanced
    exact iff_of_true (settles_of_error advanced) fun crossing =>
      positive ⟨crossing.positivePrice, crossing.positiveStop⟩
  rw [if_pos positive] at advanced
  dsimp only [Except.map] at advanced
  have survives := survives_iff (directionOf position.record.direction)
    position.trade.currentTrailingStop price
    (replayer.transitionedStop (trackExcursions position.trade priceBar.toCandle)
      (replayer.features bar running) price bar) (sortByStart (replayer.minutes priceBar))
  generalize transitionOrder _ _ _ _ _ _ = known at advanced survives
  have settled (stopped : ¬known.Survives) (settles : replayer.Settles position bar running) :
      replayer.Settles position bar running ↔
        ¬replayer.Overlooked position bar priceBar running level price :=
    iff_of_true settles fun crossing => stopped (survives.mpr crossing.survives)
  cases flagged : known.ambiguous with
  | true =>
    rw [flagged, if_pos rfl] at advanced
    exact settled (fun passes => nomatch flagged.symm.trans passes.1)
      (settles_of_markAmbiguous advanced)
  | false =>
    rw [flagged, if_neg Bool.false_ne_true] at advanced
    by_cases stops : known.event = .structuralStop
    · rw [settleOrder_stop crosses (by simpa using stops)] at advanced
      exact settled (fun passes => passes.2.1 stops) (settles_of_exitInside advanced)
    by_cases transitions : known.event = .transitionThenStop
    · exact settled (fun passes => passes.2.2 transitions)
        (settles_of_transition transitions advanced)
    have passes : known.Survives := ⟨flagged, stops, transitions⟩
    rw [settleOrder_survives passes] at advanced
    rw [settles_settleBar_iff advanced, not_iff_not]
    exact ⟨fun kept => ⟨favorable, available, positive.1, positive.2, survives.mp passes, kept⟩,
      fun crossing => crossing.kept⟩

theorem CrossedBar.settles_iff (crossed : replayer.CrossedBar position bar priceBar) :
    replayer.Settles position bar running ↔
      ¬∃ level price, replayer.Overlooked position bar priceBar running level price := by
  rcases favorable : nextFavorableLevel position.trade priceBar.toCandle with _ | ⟨level, price⟩
  · refine iff_of_true (crossed.settles_of_unfavorable favorable) ?_
    rintro ⟨level, price, crossing⟩
    exact nomatch favorable.symm.trans crossing.favorable
  · rw [crossed.settles_iff_of_favorable favorable, not_iff_not]
    refine ⟨fun crossing => ⟨level, price, crossing⟩, ?_⟩
    rintro ⟨other, otherPrice, crossing⟩
    have same := favorable.symm.trans crossing.favorable
    rw [Option.some.injEq, Prod.mk.injEq] at same
    rwa [same.1, same.2]

end Favorable

end Bar

/-! ### The entry bar -/

section Entry

variable (replayer : HistoricalPositionManagerReplayer) (record : LifecycleRecord)
  (trade : ManagedTrade) (entryBar priceBar : InstrumentCandle)

/-- An intrabar entry of Strategy A or B, in a bar that crosses the stop. -/
structure CrossedEntry : Prop where
  managed : record.strategyId = StrategyName.trendPullback.value ∨
    record.strategyId = StrategyName.volatilityBreakout.value
  entered : entryTrade record replayer.instrumentId = .ok trade
  found : replayer.entryBarOf record = some entryBar
  intrabar : record.entryOccurredIntrabar = true
  underlying : replayer.underlyingBar record entryBar = some priceBar
  crossed : ∃ decision,
    evaluateReplayCandle (directionOf record.direction) priceBar.toCandle
      trade.currentTrailingStop true false = .ok decision ∧ decision.crossed = true

/-- The bar has a candle for each of its minutes. -/
def Covered : Prop :=
  ∀ number : Nat, priceBar.startTime + 60000000 * number < priceBar.endTime →
    ∃ minute ∈ replayer.minutes priceBar, minute.startTime = priceBar.startTime + 60000000 * number

/-- The record opens no position. -/
def StaysClosed : Prop :=
  ∀ after position, replayer.startRecord record ≠ .ok (after, some position)

/-- The available minutes tell of the trigger and of no stop. -/
structure EntryOverlooked : Prop where
  positive : 0 < record.triggerLevel
  triggered : ∃ minute ∈ replayer.minutes priceBar,
    levelHit (directionOf record.direction) minute record.triggerLevel = true
  untouched : ∀ minute ∈ replayer.minutes priceBar,
    stopHit (directionOf record.direction) minute trade.currentTrailingStop = false

theorem entryOrder_survives_iff (direction : TradeDirection) (trigger stop : ℚ)
    (sawTrigger : Bool) (candles : List Candle) :
    (entryOrder direction trigger stop sawTrigger candles).event = .entryAndSurvive ↔
      (sawTrigger = true ∨ ∃ candle ∈ candles, levelHit direction candle trigger = true) ∧
        ∀ candle ∈ candles, stopHit direction candle stop = false := by
  induction candles generalizing sawTrigger with
  | nil => cases sawTrigger <;> simp [entryOrder]
  | cons candle rest inductionHypothesis =>
    cases stopped : stopHit direction candle stop
    · cases reached : levelHit direction candle trigger <;> cases sawTrigger <;>
        simp [entryOrder, barEvent, reached, stopped, inductionHypothesis]
    · -- each minute that touches the stop ends the loop
      refine iff_of_false ?_ (by simp [stopped])
      cases reached : levelHit direction candle trigger <;> cases sawTrigger <;>
        cases opensStopped : hitsStop direction candle.openPrice stop <;>
        cases opens : reachesLevel direction candle.openPrice trigger <;>
        simp [entryOrder, barEvent, reached, stopped, opensStopped, opens]

theorem entryOrder_event (direction : TradeDirection) (trigger stop : ℚ) (sawTrigger : Bool)
    (candles : List Candle) :
    (entryOrder direction trigger stop sawTrigger candles).event ∈
      [IntrabarEvent.entryAndSurvive, .adverseBeforeEntry, .stillAmbiguous, .entryThenStop] := by
  fun_induction entryOrder <;> simp_all

theorem resolveEntryCandle_event {direction : TradeDirection} {trigger stop : ℚ}
    {candles : List Candle} {resolution : IntrabarResolution}
    (resolved : resolveEntryCandle direction trigger stop candles = .ok resolution) :
    resolution.event ∈
      [IntrabarEvent.entryAndSurvive, .adverseBeforeEntry, .stillAmbiguous, .entryThenStop] := by
  unfold resolveEntryCandle at resolved
  split at resolved
  · exact nomatch resolved
  · rw [← Except.ok.inj resolved]
    exact entryOrder_event direction trigger stop false _

variable {replayer record trade entryBar priceBar}

theorem CrossedEntry.startRecord_eq
    (crossed : replayer.CrossedEntry record trade entryBar priceBar) :
    replayer.startRecord record = (replayer.entryResolution record trade entryBar).map fun answer =>
        if answer.1 then (answer.2, some { record := answer.2, trade, entryBar })
        else (answer.2, none) := by
  have notFrozen : record.strategyId ≠ StrategyName.diContinuation.value := by
    rcases crossed.managed with same | same <;> rw [same] <;> decide
  unfold startRecord
  rw [crossed.entered]
  simp only [bind, Except.bind, crossed.found, crossed.intrabar, if_true]
  cases replayer.entryResolution record trade entryBar with
  | error message => rfl
  | ok answer =>
    obtain ⟨opens, settled⟩ := answer
    cases opens
    · rfl
    · simp only [notFrozen, if_false]
      rfl

theorem CrossedEntry.entryResolution_eq
    (crossed : replayer.CrossedEntry record trade entryBar priceBar) :
    replayer.entryResolution record trade entryBar =
      if replayer.minutes priceBar = [] then
        .ok (false, finish record trade .ambiguous "AMBIGUOUS_ENTRY_CANDLE" entryBar.endTime none
          true)
      else
        (resolveEntryCandle (directionOf record.direction) record.triggerLevel
          trade.currentTrailingStop (replayer.minutes priceBar)).map
          (replayer.settleEntry record trade entryBar) := by
  obtain ⟨decision, evaluated, crosses⟩ := crossed.crossed
  unfold entryResolution
  rw [crossed.underlying]
  simp only [evaluated, bind, Except.bind, crosses, Bool.true_eq_false, if_false]
  split
  · rfl
  · cases resolveEntryCandle (directionOf record.direction) record.triggerLevel
      trade.currentTrailingStop (replayer.minutes priceBar) <;> rfl

theorem settleEntry_opens_iff {resolution : IntrabarResolution} {opens : Bool}
    {after : LifecycleRecord}
    (settled : replayer.settleEntry record trade entryBar resolution = (opens, after)) :
    opens = true ↔ resolution.event ∉
      [IntrabarEvent.adverseBeforeEntry, .stillAmbiguous, .entryThenStop] := by
  have opensEq : (replayer.settleEntry record trade entryBar resolution).1 = opens :=
    congrArg Prod.fst settled
  rw [← opensEq]
  unfold settleEntry
  cases resolution.event <;> simp

theorem entryOverlooked_iff (positiveStop : 0 < trade.currentTrailingStop) :
    replayer.EntryOverlooked record trade priceBar ↔
      ∃ resolution,
        resolveEntryCandle (directionOf record.direction) record.triggerLevel
          trade.currentTrailingStop (replayer.minutes priceBar) = .ok resolution ∧
        resolution.event = .entryAndSurvive := by
  have survives := entryOrder_survives_iff (directionOf record.direction) record.triggerLevel
    trade.currentTrailingStop false (sortByStart (replayer.minutes priceBar))
  have sorted (minute : Candle) : minute ∈ sortByStart (replayer.minutes priceBar) ↔
      minute ∈ replayer.minutes priceBar := List.mem_insertionSort _
  simp only [Bool.false_eq_true, false_or, sorted] at survives
  unfold resolveEntryCandle
  by_cases positive : record.triggerLevel ≤ 0 ∨ trade.currentTrailingStop ≤ 0
  · rw [if_pos positive]
    refine iff_of_false (fun crossing => ?_) (by simp)
    exact positive.elim (not_le.mpr crossing.positive) (not_le.mpr positiveStop)
  · rw [if_neg positive]
    simp only [Except.ok.injEq, exists_eq_left', survives]
    have positiveTrigger := not_le.mp fun none => positive (.inl none)
    exact ⟨fun crossing => ⟨crossing.triggered, crossing.untouched⟩,
      fun told => ⟨positiveTrigger, told.1, told.2⟩⟩

theorem CrossedEntry.staysClosed_iff
    (crossed : replayer.CrossedEntry record trade entryBar priceBar) :
    replayer.StaysClosed record ↔ ¬replayer.EntryOverlooked record trade priceBar := by
  obtain ⟨decision, evaluated, -⟩ := crossed.crossed
  have started := crossed.startRecord_eq
  rw [crossed.entryResolution_eq] at started
  by_cases available : replayer.minutes priceBar = []
  · rw [if_pos available] at started
    refine iff_of_true (fun after position => ?_) fun crossing => ?_
    · rw [started]
      exact nofun
    · obtain ⟨minute, member, -⟩ := crossing.triggered
      rw [available] at member
      exact nomatch member
  rw [if_neg available] at started
  rw [entryOverlooked_iff (evaluateReplayCandle_positive evaluated)]
  unfold StaysClosed
  rw [started]
  cases resolved : resolveEntryCandle (directionOf record.direction) record.triggerLevel
    trade.currentTrailingStop (replayer.minutes priceBar) with
  | error message => simp [Except.map]
  | ok resolution =>
    have event := resolveEntryCandle_event resolved
    rcases settled : replayer.settleEntry record trade entryBar resolution with ⟨opens, after⟩
    have opensIff := settleEntry_opens_iff settled
    by_cases survives : resolution.event = .entryAndSurvive
    · have opened : opens = true := opensIff.mpr (by simp [survives])
      simp [Except.map, settled, opened, survives]
    · have stays : opens = false := Bool.eq_false_iff.mpr fun opened =>
        opensIff.mp opened ((List.mem_cons.mp event).resolve_left survives)
      simp [Except.map, settled, stays, survives]

end Entry

/-! ### The replayer -/

/-- A stop that a bar crosses is settled there unless the available minutes overlook it; an entry
bar that crosses the stop and is not covered opens nothing unless they overlook it. -/
theorem crossed_stop_is_settled_iff (replayer : HistoricalPositionManagerReplayer) :
    (∀ position bar priceBar running, replayer.CrossedBar position bar priceBar →
      (replayer.Settles position bar running ↔
        ¬∃ level price, replayer.Overlooked position bar priceBar running level price)) ∧
    ∀ record trade entryBar priceBar, replayer.CrossedEntry record trade entryBar priceBar →
      ((¬replayer.Covered priceBar → replayer.StaysClosed record) ↔
        replayer.Covered priceBar ∨ ¬replayer.EntryOverlooked record trade priceBar) := by
  refine ⟨fun _ _ _ _ crossed => crossed.settles_iff, fun _ _ _ _ crossed => ?_⟩
  rw [crossed.staysClosed_iff, or_iff_not_imp_left]

/-- A breakout entered at 100 with its stop at 90. -/
def replayedRecord : LifecycleRecord where
  replaySignalId := "B-1"
  strategyId := StrategyName.volatilityBreakout.value
  direction := .call
  tradingDate := "2026-01-05"
  triggerLevel := 100
  simulatedEntryTimestamp := 16200000000
  simulatedEntryPrice := 100
  entry5mCandleTimestamp := 16200000000
  entryOccurredIntrabar := true
  initialStructuralStop := 90
  initialRiskPoints := 10
  currentTrailingStop := 90
  boxHigh := some 99
  boxLow := some 80
  atrAtLock := some 20

def replayedTrade : ManagedTrade :=
  { ManagedTrade.entered "B-1" .paper .volatilityBreakout .bullish 1 1 16200000000 100 0 90 0 with
    contractSymbol := "HISTORICAL-SPOT"
    contractInstrumentId := "NIFTY"
    expiry := "2026-01-05"
    boxHigh := some 99
    boxLow := some 80
    atrAtLock := some 20
    highestCloseSinceEntry := some 100
    lowestCloseSinceEntry := some 100 }

/-- A bar from 95 to 105 that falls to 85 on the way. -/
def dippingBar (startTime : Int) (high : ℚ) : InstrumentCandle where
  startTime
  endTime := startTime + 300000000
  openPrice := 95
  high
  low := 85
  close := 105
  instrumentId := "NIFTY"

/-- The last minute of a bar that closes at 105. -/
def lastMinute (startTime : Int) (high : ℚ) : InstrumentCandle where
  startTime := startTime + 240000000
  endTime := startTime + 300000000
  openPrice := 98
  high
  low := 98
  close := 105
  instrumentId := "NIFTY"

/-- Of two bars that fall to 85, only the last minutes are available. -/
def dippingReplay : HistoricalPositionManagerReplayer where
  manager := PositionManager.defaults fun _ => ""
  instrumentId := "NIFTY"
  session := [dippingBar 15900000000 105, dippingBar 16200000000 111]
  futures := []
  oneMinute := [lastMinute 15900000000 105, lastMinute 16200000000 111]
  features := fun bar _ =>
    { timestamp := bar.endTime
      spotPrice := bar.close
      futuresPrice := 105
      futuresVwap := 100
      closed5mPrice := some bar.close
      closed5mTime := some bar.endTime
      plusDi5m := 30
      minusDi5m := 10
      ema95m := 102
      ema205m := 100
      rsi5m := 60 }
  advanceFrozen := fun _ position _ => .ok (true, position)

def dippingPosition : ManagedReplayPosition where
  record := replayedRecord
  trade := replayedTrade
  entryBar := dippingBar 15900000000 105

theorem dipping_bar_crosses :
    dippingReplay.CrossedBar dippingPosition (dippingBar 16200000000 111)
      (dippingBar 16200000000 111) where
  active := by decide
  managed := .inr rfl
  underlying := by decide +kernel
  crossed := ⟨_, rfl, rfl⟩

theorem dipping_entry_crosses :
    dippingReplay.CrossedEntry replayedRecord replayedTrade (dippingBar 15900000000 105)
      (dippingBar 15900000000 105) where
  managed := .inr rfl
  entered := by decide +kernel
  found := by decide +kernel
  intrabar := rfl
  underlying := by decide +kernel
  crossed := ⟨_, rfl, rfl⟩

theorem crossed_stop_is_settled_iff_dipping :
    (dippingReplay.Settles dippingPosition (dippingBar 16200000000 111) [] ↔
      ¬∃ level price, dippingReplay.Overlooked dippingPosition (dippingBar 16200000000 111)
        (dippingBar 16200000000 111) [] level price) ∧
    ((¬dippingReplay.Covered (dippingBar 15900000000 105) →
        dippingReplay.StaysClosed replayedRecord) ↔
      dippingReplay.Covered (dippingBar 15900000000 105) ∨
        ¬dippingReplay.EntryOverlooked replayedRecord replayedTrade (dippingBar 15900000000 105)) :=
  ⟨(crossed_stop_is_settled_iff dippingReplay).1 _ _ _ _ dipping_bar_crosses,
    (crossed_stop_is_settled_iff dippingReplay).2 _ _ _ _ dipping_entry_crosses⟩

/-- The stop at 90 is crossed, and the position goes on. -/
theorem crossed_stop_is_survived :
    ¬∀ (replayer : HistoricalPositionManagerReplayer) (position : ManagedReplayPosition)
      (bar priceBar : InstrumentCandle) (running : List InstrumentCandle),
      replayer.CrossedBar position bar priceBar → replayer.Settles position bar running := by
  intro settles
  have settled := settles dippingReplay dippingPosition (dippingBar 16200000000 111) _ []
    dipping_bar_crosses
  have goesOn : (dippingReplay.advanceRecord dippingPosition (dippingBar 16200000000 111)
      []).toOption.map Prod.fst = some true := by decide +kernel
  cases advanced : dippingReplay.advanceRecord dippingPosition (dippingBar 16200000000 111) [] with
  | error message => simp [advanced, Except.toOption] at goesOn
  | ok answer =>
    have stopped := (settled answer.1 answer.2 advanced).1
    simp [advanced, Except.toOption, stopped] at goesOn

end HistoricalPositionManagerReplayer

end BreezeTrading
