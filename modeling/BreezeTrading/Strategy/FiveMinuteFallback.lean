/-
This file compares the lifecycle of Strategy D by five-minute bars with the one by the minutes
they aggregate. A position is reduced to whether it was scaled out, which the lifecycle refines.
The bars give no more than the minutes exactly when no fill at an open beyond the stop is worth
less.
-/

import BreezeTrading.Strategy.LifecycleStability

namespace BreezeTrading.StrategyDPositionManager

open EarlyReturn

/-! ### A position by its phase -/

section Phase

variable (config : StrategyDConfig) (signal : StrategyDSignal)

/-- The stop in force before and after half of the position is scaled out. -/
def stopOf (scaledOut : Bool) : ℚ := if scaledOut = true then signal.entryPrice else signal.initialStop

/-- What a position is worth, in R, that is closed at a price before or after it is scaled out. -/
def worth (scaledOut : Bool) (price : ℚ) : ℚ :=
  if scaledOut = true then
    config.scaleOutFraction * config.scaleOutR + (1 - config.scaleOutFraction) * r signal price
  else r signal price

/-- The stop is checked first; a candle that scales out is checked against the new stop, and then
the next pivot is. -/
def phaseCandle (scaledOut : Bool) (candle : Candle) : Except ℚ Bool :=
  if stopHit signal candle (stopOf signal scaledOut) = true then
    .error (worth config signal scaledOut (stopFill signal candle (stopOf signal scaledOut)))
  else if scaledOut = true ∨ targetHit signal candle (scalePrice config signal) = true then
    if scaledOut = false ∧ stopHit signal candle signal.entryPrice = true then
      .error (worth config signal true signal.entryPrice)
    else if pivotHit signal candle = true then
      .error (worth config signal true (signal.nextPivotPrice.getD 0))
    else .ok true
  else .ok false

/-- A completed bar may close the position at its close. -/
def phaseClose (phase : Bool × List ℚ) (bar : Candle) : Except ℚ (Bool × List ℚ) :=
  let closes := phase.2 ++ [bar.close]
  if phase.1 = true ∧ emaExit signal bar.close (FeatureEngine.calculateEma closes 9) = true then
    .error (worth config signal phase.1 bar.close)
  else if isStrategyDForceExitTime config bar.endTime = true then
    .error (worth config signal phase.1 bar.close)
  else .ok (phase.1, closes)

/-- One bar that is read, ordered by some candles. -/
def phaseBar (candlesOf : MarketCandle → List Candle) (phase : Bool × List ℚ)
    (bar : MarketCandle) : Except ℚ (Bool × List ℚ) :=
  if isPostEntry signal bar = true then
    match loop (phaseCandle config signal) phase.1 (candlesOf bar) with
    | .error total => .error total
    | .ok scaledOut => phaseClose config signal (scaledOut, phase.2) bar.toCandle
  else .ok phase

/-- The total of a position, in R: where no bar closes it, it is closed at the last close. -/
def phaseReplay (candlesOf : MarketCandle → List Candle) (phase : Bool × List ℚ)
    (bars : List MarketCandle) : ℚ :=
  match loop (phaseBar config signal candlesOf) phase bars with
  | .error total => total
  | .ok ended => worth config signal ended.1 (ended.2.getLastD 0)

/-- The candles that order a bar, given the minutes that are available. -/
def candlesBy (oneMinuteBars : List MarketCandle) (bar : MarketCandle) : List Candle :=
  orderedBy (completeMinutes bar oneMinuteBars) bar.toCandle

/-- A position as it is entered. -/
def enteredPhase (history : List MarketCandle) : Bool × List ℚ :=
  (false, history.map fun bar => bar.close)

end Phase

/-! ### The lifecycle refines the phases -/

section Refines

variable (config : StrategyDConfig) (signal : StrategyDSignal)

structure InPhase (runner : StrategyDRunner) (scaledOut : Bool) : Prop where
  isScaled : runner.scaleTime.isSome = scaledOut
  accounted : Accounted config runner
  stop : runner.stop = stopOf signal scaledOut

/-- The realized R of a result is a total, rounded. -/
def Realizes (result : StrategyDLifecycleResult) (total : ℚ) : Prop :=
  result.realizedR = roundTo 6 total

variable {config signal} {runner : StrategyDRunner} {scaledOut : Bool}

theorem InPhase.result (phase : InPhase config signal runner scaledOut) (bar : Candle) (price : ℚ)
    (reason : String) :
    Realizes (result config signal runner bar price reason) (worth config signal scaledOut price) := by
  obtain ⟨isScaled, accounted, -⟩ := phase
  show roundTo 6 (runner.realizedComponent + runner.remainingFraction * r signal price) = _
  unfold Accounted at accounted
  unfold worth
  rw [isScaled] at accounted
  split_ifs at accounted ⊢
  · rw [accounted.1, accounted.2]
  · rw [accounted.1, accounted.2, zero_add, one_mul]

theorem InPhase.tracked (phase : InPhase config signal runner scaledOut) (bar : Candle) :
    InPhase config signal (tracked signal runner bar) scaledOut :=
  ⟨phase.isScaled, phase.accounted, phase.stop⟩

theorem inPhase_scaled (config : StrategyDConfig) (signal : StrategyDSignal)
    (runner : StrategyDRunner) (bar : Candle) :
    InPhase config signal (scaled config signal runner bar) true :=
  ⟨rfl, ⟨rfl, rfl⟩, rfl⟩

/-- The runner is in a phase, with some closes. -/
def Stands (config : StrategyDConfig) (signal : StrategyDSignal) (closes : List ℚ)
    (runner : StrategyDRunner) (scaledOut : Bool) : Prop :=
  InPhase config signal runner scaledOut ∧ runner.closes = closes

theorem pivotExit_related {closes : List ℚ} (stands : Stands config signal closes runner true)
    (bar : Candle) :
    Related (Stands config signal closes) Realizes (pivotExit config signal runner bar)
      (if pivotHit signal bar = true then
        .error (worth config signal true (signal.nextPivotPrice.getD 0)) else .ok true) := by
  unfold pivotExit
  split_ifs
  · exact stands.1.result bar _ _
  · exact stands

theorem orderCandle_related {closes : List ℚ}
    (stands : Stands config signal closes runner scaledOut) (ambiguous : String) (bar : Candle) :
    Related (Stands config signal closes) Realizes (orderCandle config signal runner ambiguous bar)
      (phaseCandle config signal scaledOut bar) := by
  have trackedPhase := stands.1.tracked bar
  have trackedStands : Stands config signal closes (tracked signal runner bar) scaledOut :=
    ⟨trackedPhase, stands.2⟩
  have scaledPhase := inPhase_scaled config signal runner bar
  have scaledStands : Stands config signal closes (scaled config signal runner bar) true :=
    ⟨scaledPhase, stands.2⟩
  have stop : (updateExcursions signal runner bar).stop = stopOf signal scaledOut := stands.1.stop
  have isScaled : (updateExcursions signal runner bar).scaleTime.isSome = scaledOut :=
    stands.1.isScaled
  unfold orderCandle phaseCandle
  dsimp only
  rw [stop]
  by_cases hit : stopHit signal bar (stopOf signal scaledOut) = true
  · rw [if_pos hit, if_pos hit, if_pos hit]
    split
    · exact trackedPhase.result bar _ _
    · exact trackedPhase.result bar _ _
  rw [if_neg hit, if_neg hit, if_neg hit]
  split
  · rename_i unscaled
    rw [unscaled] at isScaled
    obtain rfl : scaledOut = false := isScaled.symm
    simp only [Bool.false_eq_true, false_or, true_and]
    by_cases reached : targetHit signal bar (scalePrice config signal) = true
    · rw [if_pos reached, if_pos reached]
      by_cases spans : stopHit signal bar signal.entryPrice = true
      · rw [if_pos spans, if_pos (show stopHit signal bar (scaleOut config signal
          (updateExcursions signal runner bar) bar).stop = true from spans)]
        exact scaledPhase.result bar signal.entryPrice ambiguous
      · rw [if_neg spans, if_neg (show ¬stopHit signal bar (scaleOut config signal
          (updateExcursions signal runner bar) bar).stop = true from spans)]
        exact pivotExit_related scaledStands bar
    · rw [if_neg reached, if_neg reached]
      exact trackedStands
  · rename_i scaleTime known
    rw [known] at isScaled
    obtain rfl : scaledOut = true := isScaled.symm
    simp only [true_or, if_true, Bool.true_eq_false, false_and, if_false]
    exact pivotExit_related trackedStands bar

theorem closeBar_related {phase : Bool × List ℚ}
    (stands : Stands config signal phase.2 runner phase.1) (bar : Candle) :
    Related (fun after closed => Stands config signal closed.2 after closed.1 ∧
        after.lastBar = runner.lastBar ∧ closed.2.getLast? = some bar.close) Realizes
      (closeBar config signal runner bar) (phaseClose config signal phase bar) := by
  obtain ⟨inPhase, closes⟩ := stands
  have counted : InPhase config signal { runner with closes := runner.closes ++ [bar.close] }
      phase.1 := ⟨inPhase.isScaled, inPhase.accounted, inPhase.stop⟩
  have isScaled : runner.scaleTime.isSome = phase.1 := inPhase.isScaled
  unfold closeBar phaseClose withClose
  dsimp only
  rw [isScaled, closes]
  split
  · rw [← closes]
    exact counted.result bar bar.close "EMA9_CLOSE_CROSS"
  · split
    · rw [← closes]
      exact counted.result bar bar.close "SESSION_FORCE_EXIT"
    · refine ⟨⟨?_, rfl⟩, rfl, List.getLast?_concat⟩
      rw [← closes]
      exact counted

theorem orderEvents_eq_candlesBy (config : StrategyDConfig) (signal : StrategyDSignal)
    (runner : StrategyDRunner) (oneMinuteBars : List MarketCandle) (bar : MarketCandle) :
    ∃ ambiguous, orderEvents config signal runner (completeMinutes bar oneMinuteBars)
        bar.toCandle =
      loop (fun state => orderCandle config signal state ambiguous) runner
        (candlesBy oneMinuteBars bar) :=
  orderEvents_eq_loop config signal runner (completeMinutes bar oneMinuteBars) bar.toCandle

/-- The runner stands where its phase does, and the last close is that of the last bar. -/
def Follows (config : StrategyDConfig) (signal : StrategyDSignal) (runner : StrategyDRunner)
    (phase : Bool × List ℚ) : Prop :=
  Stands config signal phase.2 runner phase.1 ∧
    ∀ bar ∈ runner.lastBar, phase.2.getLast? = some bar.close

theorem advanceBar_related {phase : Bool × List ℚ} (follows : Follows config signal runner phase)
    (oneMinuteBars : List MarketCandle) (bar : MarketCandle) :
    Related (Follows config signal) Realizes (advanceBar config signal oneMinuteBars runner bar)
      (phaseBar config signal (candlesBy oneMinuteBars) phase bar) := by
  unfold advanceBar phaseBar
  split
  · have opened : Stands config signal phase.2 { runner with lastBar := some bar.toCandle }
        phase.1 :=
      ⟨⟨follows.1.1.isScaled, follows.1.1.accounted, follows.1.1.stop⟩, follows.1.2⟩
    obtain ⟨ambiguous, isLoop⟩ := orderEvents_eq_candlesBy config signal
      { runner with lastBar := some bar.toCandle } oneMinuteBars bar
    have lasts := orderEvents_lastBar config signal
      { runner with lastBar := some bar.toCandle } (completeMinutes bar oneMinuteBars)
      bar.toCandle
    have ordered : Related (Stands config signal phase.2) Realizes
        (loop (fun state => orderCandle config signal state ambiguous)
          { runner with lastBar := some bar.toCandle } (candlesBy oneMinuteBars bar))
        (loop (phaseCandle config signal) phase.1 (candlesBy oneMinuteBars bar)) :=
      loop_related (fun candle _ state scaledOut stands =>
        orderCandle_related stands ambiguous candle) opened
    dsimp only at lasts ⊢
    rw [isLoop] at lasts ⊢
    generalize loop (fun state => orderCandle config signal state ambiguous)
      { runner with lastBar := some bar.toCandle } (candlesBy oneMinuteBars bar) = outcome
      at ordered lasts ⊢
    generalize loop (phaseCandle config signal) phase.1 (candlesBy oneMinuteBars bar) = abstract
      at ordered ⊢
    cases outcome with
    | error closed =>
      cases abstract with
      | error total => exact ordered
      | ok scaledOut => exact ordered.elim
    | ok after =>
      cases abstract with
      | error total => exact ordered.elim
      | ok scaledOut =>
        have stands : Stands config signal (scaledOut, phase.2).2 after (scaledOut, phase.2).1 :=
          ordered
        have completed := closeBar_related stands bar.toCandle
        dsimp only
        generalize closeBar config signal after bar.toCandle = closed at completed ⊢
        generalize phaseClose config signal (scaledOut, phase.2) bar.toCandle = phaseClosed
          at completed ⊢
        cases closed with
        | error closed =>
          cases phaseClosed with
          | error total => exact completed
          | ok ended => exact completed.elim
        | ok closed =>
          cases phaseClosed with
          | error total => exact completed.elim
          | ok ended =>
            obtain ⟨stands, sameLast, lastClose⟩ := completed
            refine ⟨stands, fun read isLast => ?_⟩
            rw [sameLast, show after.lastBar = some bar.toCandle from lasts] at isLast
            obtain rfl := Option.mem_some_iff.mp isLast
            exact lastClose
  · exact follows

theorem replay_realizes {history futureBars oneMinuteBars : List MarketCandle}
    {closed : StrategyDLifecycleResult}
    (replayed : replayUnderlyingLifecycle config signal history futureBars oneMinuteBars =
      .ok closed) :
    closed.realizedR = roundTo 6 (phaseReplay config signal (candlesBy oneMinuteBars)
      (enteredPhase history) futureBars) := by
  have start : Follows config signal (entered signal history) (enteredPhase history) :=
    ⟨⟨⟨rfl, ⟨rfl, rfl⟩, rfl⟩, rfl⟩, fun bar none => by cases none⟩
  have related := loop_related (fun bar (_ : bar ∈ futureBars) runner phase follows =>
    advanceBar_related follows oneMinuteBars bar) start
  unfold replayUnderlyingLifecycle at replayed
  unfold phaseReplay
  split at replayed
  · cases replayed
  generalize loop (advanceBar config signal oneMinuteBars) (entered signal history)
    futureBars = outcome at related replayed
  generalize loop (phaseBar config signal (candlesBy oneMinuteBars)) (enteredPhase history)
    futureBars = abstract at related ⊢
  cases outcome with
  | error result =>
    cases abstract with
    | ok ended => exact related.elim
    | error total =>
      cases replayed
      exact related
  | ok runner =>
    cases abstract with
    | error total => exact related.elim
    | ok ended =>
      dsimp only at replayed ⊢
      split at replayed
      · cases replayed
      · rename_i bar last
        cases replayed
        have lastClose : ended.2.getLastD 0 = bar.close := by
          rw [List.getLastD_eq_getLast?, related.2 bar last]
          rfl
        rw [lastClose]
        exact related.1.1.result bar bar.close "DATA_END"

end Refines

end BreezeTrading.StrategyDPositionManager
