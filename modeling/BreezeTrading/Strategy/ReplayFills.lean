/-
This file compares the stop of a bar with the stop of its minutes. A complete list of minutes
touches a stop exactly when the bar crosses it, but the two disagree on the price of the fill: an
exit that the minutes have ordered is recorded at the fill of the bar, which sees no gap
inside it. It proves when the recorded price is the price of the minute.
-/

import BreezeTrading.Strategy.ReplayCrossedStops

namespace BreezeTrading

open ReplayLifecycle ReplayIntrabar

/-! ### Aggregation -/

/-- The bar is the aggregate of all its minutes, each with its open between its low and its high. -/
structure Aggregates (minutes : List Candle) (bar : Candle) : Prop where
  opens : (sortByStart minutes).head?.map Candle.openPrice = some bar.openPrice
  closes : (sortByStart minutes).getLast?.map Candle.close = some bar.close
  highest : (∀ minute ∈ minutes, minute.high ≤ bar.high) ∧ ∃ minute ∈ minutes,
    minute.high = bar.high
  lowest : (∀ minute ∈ minutes, bar.low ≤ minute.low) ∧ ∃ minute ∈ minutes, minute.low = bar.low
  ordered : ∀ minute ∈ minutes, minute.low ≤ minute.openPrice ∧ minute.openPrice ≤ minute.high

section Aggregates

variable {direction : TradeDirection} {minutes : List Candle} {bar : Candle} {stop : ℚ}

section

variable (aggregates : Aggregates minutes bar)

include aggregates

theorem Aggregates.low_le_iff {level : ℚ} :
    bar.low ≤ level ↔ ∃ minute ∈ minutes, minute.low ≤ level := by
  constructor
  · intro below
    obtain ⟨minute, member, same⟩ := aggregates.lowest.2
    exact ⟨minute, member, same.le.trans below⟩
  · rintro ⟨minute, member, below⟩
    exact (aggregates.lowest.1 minute member).trans below

theorem Aggregates.le_high_iff {level : ℚ} :
    level ≤ bar.high ↔ ∃ minute ∈ minutes, level ≤ minute.high := by
  constructor
  · intro above
    obtain ⟨minute, member, same⟩ := aggregates.highest.2
    exact ⟨minute, member, above.trans same.ge⟩
  · rintro ⟨minute, member, above⟩
    exact above.trans (aggregates.highest.1 minute member)

theorem Aggregates.stopHit_iff :
    stopHit direction bar stop = true ↔ ∃ minute ∈ minutes, stopHit direction minute stop = true := by
  cases direction
  · simp only [stopHit, hitsStop, if_true, decide_eq_true_eq]
    exact aggregates.low_le_iff
  · simp only [stopHit, hitsStop, reduceCtorEq, if_false, decide_eq_true_eq]
    exact aggregates.le_high_iff

theorem Aggregates.levelHit_iff {level : ℚ} : levelHit direction bar level = true ↔
      ∃ minute ∈ minutes, levelHit direction minute level = true := by
  cases direction
  · simp only [levelHit, reachesLevel, if_true, decide_eq_true_eq]
    exact aggregates.le_high_iff
  · simp only [levelHit, reachesLevel, reduceCtorEq, if_false, decide_eq_true_eq]
    exact aggregates.low_le_iff

theorem Aggregates.low_le_high : bar.low ≤ bar.high := by
  obtain ⟨minute, member, same⟩ := aggregates.highest.2
  have inside := aggregates.ordered minute member
  exact (aggregates.lowest.1 minute member).trans ((inside.1.trans inside.2).trans same.le)

end

theorem stopHit_of_opens {minute : Candle}
    (ordered : minute.low ≤ minute.openPrice ∧ minute.openPrice ≤ minute.high)
    (opens : hitsStop direction minute.openPrice stop = true) :
    stopHit direction minute stop = true := by
  cases direction
  · exact decide_eq_true (ordered.1.trans (of_decide_eq_true opens))
  · exact decide_eq_true (le_trans (of_decide_eq_true opens) ordered.2)

theorem Aggregates.evaluate (aggregates : Aggregates minutes bar) (positive : 0 < stop) :
    ∃ decision, evaluateReplayCandle direction bar stop false false = .ok decision ∧
      (decision.crossed = true ↔ ∃ minute ∈ minutes, stopHit direction minute stop = true) ∧
      (decision.crossed = true → decision.exitPrice = some (stopFill direction bar stop)) := by
  unfold evaluateReplayCandle
  rw [if_neg (not_le.mpr positive), if_neg (not_lt.mpr aggregates.low_le_high),
    ← aggregates.stopHit_iff]
  cases touched : stopHit direction bar stop
  · exact ⟨_, rfl, by simp, by simp⟩
  · exact ⟨_, rfl, by simp, fun _ => rfl⟩

/-! ### Fills -/

variable (direction minutes bar stop) in
/-- The first minute that touches the stop opens at it or short of it, or the bar itself opens
beyond it, at a price that is not zero. -/
def FillsAlike : Prop :=
  ∀ minute ∈ (sortByStart minutes).find? fun minute => stopHit direction minute stop,
    hitsStop direction minute.openPrice stop = true →
      minute.openPrice = stop ∨ hitsStop direction bar.openPrice stop = true ∧ bar.openPrice ≠ 0

theorem Aggregates.first_of_opens (aggregates : Aggregates minutes bar)
    (opens : hitsStop direction bar.openPrice stop = true) {minute : Candle}
    (found : (sortByStart minutes).find? (fun minute => stopHit direction minute stop) =
      some minute) : minute.openPrice = bar.openPrice := by
  obtain ⟨first, head, same⟩ := Option.map_eq_some_iff.mp aggregates.opens
  obtain ⟨rest, sorted⟩ := List.head?_eq_some_iff.mp head
  have sortedMember : first ∈ sortByStart minutes := by
    rw [sorted]
    exact List.mem_cons_self
  have member : first ∈ minutes := (List.mem_insertionSort _).mp sortedMember
  have touched : stopHit direction first stop = true :=
    stopHit_of_opens (aggregates.ordered first member) (same ▸ opens)
  simp only [sorted, List.find?_cons, touched, Option.some.injEq] at found
  rw [← found, same]

theorem Aggregates.fill_eq_iff (aggregates : Aggregates minutes bar) (positive : 0 < stop)
    {minute : Candle}
    (found : (sortByStart minutes).find? (fun minute => stopHit direction minute stop) =
      some minute) :
    orPrice (some (stopFill direction bar stop)) stop = stopFill direction minute stop ↔
      FillsAlike direction minutes bar stop := by
  unfold FillsAlike
  rw [found]
  simp only [Option.mem_def, Option.some.injEq, forall_eq']
  unfold orPrice orNumber stopFill
  simp only [Option.getD_some]
  cases opens : hitsStop direction bar.openPrice stop
  · cases minuteOpens : hitsStop direction minute.openPrice stop
    · simp
    · simp [positive.ne', eq_comm]
  · have same := aggregates.first_of_opens opens found
    rw [same, opens]
    by_cases zero : bar.openPrice = 0
    · simp [zero, positive.ne', positive.ne]
    · simp [zero]

end Aggregates

/-! ### Exits by minutes -/

section Exit

variable (direction : TradeDirection) (activeStop level newStop : ℚ)

theorem transitionOrder_after_ne (candles : List Candle) :
    (transitionOrder direction activeStop level newStop true candles).event ≠
      .structuralStop := by
  induction candles with
  | nil => exact nofun
  | cons candle rest inductionHypothesis =>
    cases touched : stopHit direction candle newStop
    · simpa [transitionOrder, touched] using inductionHypothesis
    · simp [transitionOrder, touched, exitAt]

theorem transitionOrder_structuralStop {candles : List Candle}
    (stops : (transitionOrder direction activeStop level newStop false candles).event =
      .structuralStop) :
    ∃ minute, candles.find? (fun candle => stopHit direction candle activeStop) = some minute ∧
      transitionOrder direction activeStop level newStop false candles =
        exitAt direction .structuralStop minute activeStop := by
  induction candles with
  | nil => exact nomatch stops
  | cons candle rest inductionHypothesis =>
    have after := transitionOrder_after_ne direction activeStop level newStop rest
    rw [List.find?_cons]
    cases stopped : stopHit direction candle activeStop
    · cases reached : levelHit direction candle level <;>
        cases touched : stopHit direction candle newStop <;>
        cases opens : reachesLevel direction candle.openPrice level <;>
        simp_all [transitionOrder, exitAt, unordered]
    · refine ⟨candle, rfl, ?_⟩
      cases reached : levelHit direction candle level <;>
        cases touched : stopHit direction candle newStop <;>
        cases opensStopped : hitsStop direction candle.openPrice activeStop <;>
        cases opens : reachesLevel direction candle.openPrice level <;>
        simp_all [transitionOrder, exitAt, unordered]

end Exit

namespace HistoricalPositionManagerReplayer

section Stopped

variable (replayer : HistoricalPositionManagerReplayer) (position : ManagedReplayPosition)
  (bar priceBar : InstrumentCandle) (running : List InstrumentCandle)
  (resolution : IntrabarResolution)

/-- All the minutes of a bar are available, and they resolve it as an exit at the stop. -/
structure StoppedBar : Prop where
  active : position.entryBar.endTime ≤ bar.startTime
  managed : position.record.strategyId = StrategyName.trendPullback.value ∨
    position.record.strategyId = StrategyName.volatilityBreakout.value
  underlying : replayer.underlyingBar position.record bar = some priceBar
  complete : Aggregates (replayer.minutes priceBar) priceBar.toCandle
  resolved : ∃ decision,
    evaluateReplayCandle (directionOf position.record.direction) priceBar.toCandle
      position.trade.currentTrailingStop false false = .ok decision ∧
    replayer.intrabarOrder position.record (trackExcursions position.trade priceBar.toCandle)
      (replayer.features bar running) priceBar bar decision.crossed = .ok (.resolved resolution)
  stopped : resolution.event = .structuralStop

variable {replayer position bar priceBar running resolution}

theorem intrabarOrder_resolved {record : LifecycleRecord} {trade : ManagedTrade}
    {features : MarketFeatures} {crossed : Bool}
    (resolved : replayer.intrabarOrder record trade features priceBar bar crossed =
      .ok (.resolved resolution)) :
    ∃ price newStop, resolution = transitionOrder (directionOf record.direction)
      trade.currentTrailingStop price newStop false (sortByStart (replayer.minutes priceBar)) := by
  unfold intrabarOrder at resolved
  split at resolved
  · exact nomatch resolved
  · rename_i price _
    dsimp only at resolved
    split at resolved
    · exact nomatch resolved
    split at resolved
    · exact nomatch resolved
    unfold resolveActiveStopTransition at resolved
    split at resolved
    · exact nomatch resolved
    · have same := Except.ok.inj resolved
      rw [IntrabarOrder.resolved.injEq] at same
      exact ⟨price, _, same.symm⟩

section

variable (stopped : replayer.StoppedBar position bar priceBar running resolution)

include stopped

theorem StoppedBar.exit : ∃ minute, (sortByStart (replayer.minutes priceBar)).find? (fun candle =>
        stopHit (directionOf position.record.direction) candle
          position.trade.currentTrailingStop) = some minute ∧
      resolution = exitAt (directionOf position.record.direction) .structuralStop minute
        position.trade.currentTrailingStop := by
  obtain ⟨decision, -, resolved⟩ := stopped.resolved
  obtain ⟨price, newStop, told⟩ := intrabarOrder_resolved resolved
  have stops := stopped.stopped
  rw [told] at stops ⊢
  exact transitionOrder_structuralStop _ _ _ _ stops

theorem StoppedBar.decided : ∃ decision,
      evaluateReplayCandle (directionOf position.record.direction) priceBar.toCandle
        position.trade.currentTrailingStop false false = .ok decision ∧
      decision.crossed = true ∧
      decision.exitPrice = some (stopFill (directionOf position.record.direction)
        priceBar.toCandle position.trade.currentTrailingStop) ∧
      replayer.intrabarOrder position.record (trackExcursions position.trade priceBar.toCandle)
        (replayer.features bar running) priceBar bar true = .ok (.resolved resolution) := by
  obtain ⟨decision, evaluated, resolved⟩ := stopped.resolved
  obtain ⟨minute, found, -⟩ := stopped.exit
  have touched : stopHit (directionOf position.record.direction) minute
      position.trade.currentTrailingStop = true := by simpa using List.find?_some found
  have member : minute ∈ replayer.minutes priceBar :=
    (List.mem_insertionSort _).mp (List.mem_of_find?_eq_some found)
  obtain ⟨other, otherEvaluated, crossedIff, fill⟩ :=
    stopped.complete.evaluate (evaluateReplayCandle_positive evaluated)
  have same := Except.ok.inj (evaluated.symm.trans otherEvaluated)
  subst same
  have crosses := crossedIff.mpr ⟨minute, member, touched⟩
  rw [crosses] at resolved
  exact ⟨decision, evaluated, crosses, fill crosses, resolved⟩

theorem StoppedBar.crossed : replayer.CrossedBar position bar priceBar where
  active := stopped.active
  managed := stopped.managed
  underlying := stopped.underlying
  crossed := by
    obtain ⟨decision, evaluated, crosses, -⟩ := stopped.decided
    exact ⟨decision, evaluated, crosses⟩

theorem StoppedBar.advance :
    ∃ after, replayer.advanceRecord position bar running = .ok (false, after) ∧
      after.record.exitPrice = some (orPrice (some (stopFill
        (directionOf position.record.direction) priceBar.toCandle
        position.trade.currentTrailingStop)) position.trade.currentTrailingStop) := by
  obtain ⟨decision, evaluated, crosses, fill, ordered⟩ := stopped.decided
  obtain ⟨minute, -, exits⟩ := stopped.exit
  have unambiguous : resolution.ambiguous = false := by rw [exits, exitAt]
  have advanced := stopped.crossed.advanceRecord_of_order running evaluated crosses
  rw [ordered] at advanced
  dsimp only at advanced
  rw [unambiguous, if_neg Bool.false_ne_true,
    settleOrder_stop crosses (by simpa using stopped.stopped), fill] at advanced
  exact ⟨_, advanced, rfl⟩

end

end Stopped

/-! ### The replayer -/

/-- A complete list of minutes touches a stop exactly when the bar crosses it, and an exit they order
is recorded at their price exactly when the fills are alike. -/
theorem replay_fills_agree_iff (replayer : HistoricalPositionManagerReplayer) :
    (∀ direction minutes bar stop, Aggregates minutes bar → 0 < stop →
      ∃ decision, evaluateReplayCandle direction bar stop false false = .ok decision ∧
        (decision.crossed = true ↔
          ∃ minute ∈ minutes, stopHit direction minute stop = true)) ∧
    ∀ position bar priceBar running resolution,
      replayer.StoppedBar position bar priceBar running resolution →
      ∃ after, replayer.advanceRecord position bar running = .ok (false, after) ∧
        (after.record.exitPrice = resolution.exitPrice ↔
          FillsAlike (directionOf position.record.direction) (replayer.minutes priceBar)
            priceBar.toCandle position.trade.currentTrailingStop) := by
  refine ⟨fun direction minutes bar stop aggregates positive => ?_,
    fun position bar priceBar running resolution stopped => ?_⟩
  · obtain ⟨decision, evaluated, crossedIff, -⟩ := aggregates.evaluate positive
    exact ⟨decision, evaluated, crossedIff⟩
  · obtain ⟨after, advanced, recorded⟩ := stopped.advance
    obtain ⟨minute, found, exits⟩ := stopped.exit
    obtain ⟨decision, evaluated, -⟩ := stopped.decided
    refine ⟨after, advanced, ?_⟩
    rw [recorded, exits, exitAt, Option.some.injEq]
    exact stopped.complete.fill_eq_iff (evaluateReplayCandle_positive evaluated) found

/-- A bar of a position with its stop at 90, which reaches +1R at 110. -/
def gapBar : InstrumentCandle where
  startTime := 16200000000
  endTime := 16500000000
  openPrice := 105
  high := 111
  low := 85
  close := 105
  instrumentId := "NIFTY"

/-- The minute of a bar by its number, with its open, high, low and close. -/
def gapMinute (number : Nat) (openPrice high low close : ℚ) : InstrumentCandle where
  startTime := 16200000000 + 60000000 * number
  endTime := 16260000000 + 60000000 * number
  openPrice
  high
  low
  close
  instrumentId := "NIFTY"

/-- The second minute opens at 85, far below the stop. -/
def gapReplay : HistoricalPositionManagerReplayer :=
  { dippingReplay with
    session := [dippingBar 15900000000 105, gapBar]
    oneMinute :=
      [gapMinute 0 105 106 104 104, gapMinute 1 85 86 85 86, gapMinute 2 86 100 86 100,
        gapMinute 3 100 111 100 110, gapMinute 4 110 110 105 105] }

/-- What the minutes tell: an exit at the open of the second minute. -/
def gapResolution : IntrabarResolution where
  event := .structuralStop
  ambiguous := false
  eventTime := some 16260000000
  exitPrice := some 85

theorem gap_aggregates : Aggregates (gapReplay.minutes gapBar) gapBar.toCandle where
  opens := by decide +kernel
  closes := by decide +kernel
  highest := by decide +kernel
  lowest := by decide +kernel
  ordered := by decide +kernel

theorem gap_bar_stops : gapReplay.StoppedBar dippingPosition gapBar gapBar [] gapResolution where
  active := by decide
  managed := .inr rfl
  underlying := by decide +kernel
  complete := gap_aggregates
  resolved := ⟨_, rfl, by decide +kernel⟩
  stopped := rfl

theorem replay_fills_agree_iff_gap :
    (∃ decision, evaluateReplayCandle .bullish gapBar.toCandle 90 false false = .ok decision ∧
      (decision.crossed = true ↔
        ∃ minute ∈ gapReplay.minutes gapBar, stopHit .bullish minute 90 = true)) ∧
    ∃ after, gapReplay.advanceRecord dippingPosition gapBar [] = .ok (false, after) ∧
      (after.record.exitPrice = gapResolution.exitPrice ↔
        FillsAlike (directionOf dippingPosition.record.direction) (gapReplay.minutes gapBar)
          gapBar.toCandle dippingPosition.trade.currentTrailingStop) :=
  ⟨(replay_fills_agree_iff gapReplay).1 .bullish _ _ 90 gap_aggregates (by decide +kernel),
    (replay_fills_agree_iff gapReplay).2 _ _ _ _ _ gap_bar_stops⟩

/-- The exit at 85 is recorded at the stop. -/
theorem gap_is_recorded_at_stop :
    ¬∀ (replayer : HistoricalPositionManagerReplayer) (position : ManagedReplayPosition)
      (bar priceBar : InstrumentCandle) (running : List InstrumentCandle)
      (resolution : IntrabarResolution),
      replayer.StoppedBar position bar priceBar running resolution →
      ∀ after, replayer.advanceRecord position bar running = .ok (false, after) →
        after.record.exitPrice = resolution.exitPrice := by
  intro agrees
  obtain ⟨after, advanced, recorded⟩ := gap_bar_stops.advance
  have same := agrees _ _ _ _ _ _ gap_bar_stops after advanced
  rw [recorded] at same
  exact absurd same (by decide +kernel)

end HistoricalPositionManagerReplayer

end BreezeTrading
