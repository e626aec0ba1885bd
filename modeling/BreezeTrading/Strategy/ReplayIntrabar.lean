/-
This file models the replay-only ordering of events inside a bar: from one-minute candles, which
of two levels was reached first, and at which price a stop was filled. A minute that reaches
both levels is ordered by its opening print alone, and is ambiguous without it.
-/

import BreezeTrading.Strategy.PositionManager
import BreezeTrading.Strategy.ReplayExecution

namespace BreezeTrading

/-! ### Resolutions -/

inductive IntrabarEvent where
  | adverseBeforeEntry
  | entryThenStop
  | entryAndSurvive
  | stillAmbiguous
  | structuralStop
  | transitionThenStop
  | transitionAndSurvive
  | target
  | noEvent
  deriving DecidableEq, Repr

structure IntrabarResolution where
  event : IntrabarEvent
  ambiguous : Bool
  eventTime : Option Int := none
  exitPrice : Option ℚ := none
  detail : Option String := none
  deriving DecidableEq

namespace ReplayIntrabar

/-! ### Levels and candles -/

/-- A price is at a favorable level or beyond it. -/
def reachesLevel (direction : TradeDirection) (price level : ℚ) : Bool :=
  if direction = .bullish then decide (level ≤ price) else decide (price ≤ level)

section Candle

variable (direction : TradeDirection) (candle : Candle)

/-- The candle touches a stop. -/
def stopHit (stop : ℚ) : Bool :=
  hitsStop direction (if direction = .bullish then candle.low else candle.high) stop

/-- The candle touches a favorable level. -/
def levelHit (level : ℚ) : Bool :=
  reachesLevel direction (if direction = .bullish then candle.high else candle.low) level

/-- A stop is filled at its level, or at an open that is beyond it. -/
def stopFill (stop : ℚ) : ℚ :=
  if hitsStop direction candle.openPrice stop = true then candle.openPrice else stop

end Candle

/-- Candles by their start, as `sorted` orders them. -/
def sortByStart (candles : List Candle) : List Candle :=
  candles.insertionSort fun first second => first.startTime ≤ second.startTime

/-! ### The entry candle -/

inductive MinuteEvent where
  | trigger
  | stop
  | stopBeforeTrigger
  | triggerBeforeStop
  | sameMinuteAmbiguous
  deriving DecidableEq, Repr

section Entry

variable (direction : TradeDirection) (trigger stop : ℚ)

def barEvent (candle : Candle) : Option MinuteEvent :=
  match levelHit direction candle trigger, stopHit direction candle stop with
  | false, false => none
  | true, false => some .trigger
  | false, true => some .stop
  | true, true =>
      -- an opening print beyond one level is known to have occurred first
      if hitsStop direction candle.openPrice stop then some .stopBeforeTrigger
      else if reachesLevel direction candle.openPrice trigger then some .triggerBeforeStop
      else some .sameMinuteAmbiguous

/-- The minutes of the entry bar, in order, after the trigger was seen or before. -/
def entryOrder : Bool → List Candle → IntrabarResolution
  | true, [] => { event := .entryAndSurvive, ambiguous := false }
  | false, [] =>
      { event := .stillAmbiguous
        ambiguous := true
        detail := some "the supplied 1-minute window did not establish a trigger" }
  | sawTrigger, candle :: rest =>
      match barEvent direction trigger stop candle, sawTrigger with
      | none, _ => entryOrder sawTrigger rest
      | some .trigger, _ => entryOrder true rest
      | some .sameMinuteAmbiguous, _ =>
          { event := .stillAmbiguous
            ambiguous := true
            eventTime := some candle.startTime
            detail := some "trigger and stop both crossed inside one 1-minute candle" }
      | some .stopBeforeTrigger, _ =>
          { event := .adverseBeforeEntry
            ambiguous := false
            eventTime := some candle.startTime
            detail := some "stop level was reached before the trigger" }
      | some .triggerBeforeStop, _ =>
          { event := .entryThenStop
            ambiguous := false
            eventTime := some candle.startTime
            exitPrice := some (stopFill direction candle stop)
            detail := some "trigger and stop were both crossed in one minute with trigger first" }
      | some .stop, true =>
          { event := .entryThenStop
            ambiguous := false
            eventTime := some candle.startTime
            exitPrice := some (stopFill direction candle stop)
            detail := some "stop was crossed after the trigger" }
      | some .stop, false =>
          { event := .adverseBeforeEntry
            ambiguous := false
            eventTime := some candle.startTime
            detail := some "adverse stop touch preceded the trigger" }

/-- Resolve trigger/stop ordering inside one already-identified entry bar. -/
def resolveEntryCandle (candles : List Candle) : Except String IntrabarResolution :=
  if trigger ≤ 0 ∨ stop ≤ 0 then .error "trigger_price and active_stop must be positive"
  else .ok (entryOrder direction trigger stop false (sortByStart candles))

end Entry

/-! ### The transition of a stop -/

section Transition

variable (direction : TradeDirection) (activeStop transitionLevel transitionedStop : ℚ)

/-- An exit at a stop, in a minute. -/
def exitAt (event : IntrabarEvent) (candle : Candle) (stop : ℚ) : IntrabarResolution where
  event
  ambiguous := false
  eventTime := some candle.startTime
  exitPrice := some (stopFill direction candle stop)

/-- A minute whose order is unknown. -/
def unordered (candle : Candle) (detail : String) : IntrabarResolution where
  event := .stillAmbiguous
  ambiguous := true
  eventTime := some candle.startTime
  detail := some detail

/-- The minutes of a bar, in order, after the transition or before. -/
def transitionOrder : Bool → List Candle → IntrabarResolution
  | transitioned, [] =>
      { event := if transitioned then .transitionAndSurvive else .noEvent, ambiguous := false }
  | transitioned, candle :: rest =>
      let newStopHit := stopHit direction candle transitionedStop
      let newStopExit := exitAt direction .transitionThenStop candle transitionedStop
      match transitioned, stopHit direction candle activeStop,
        levelHit direction candle transitionLevel with
      | true, _, _ => if newStopHit then newStopExit else transitionOrder true rest
      | false, true, true =>
          if hitsStop direction candle.openPrice activeStop then
            exitAt direction .structuralStop candle activeStop
          else if reachesLevel direction candle.openPrice transitionLevel then
            if newStopHit then newStopExit else transitionOrder true rest
          else
            unordered candle
              "transition and pre-transition stop crossed in one 1-minute candle"
      | false, true, false => exitAt direction .structuralStop candle activeStop
      | false, false, true =>
          if newStopHit && !reachesLevel direction candle.openPrice transitionLevel then
            unordered candle "new stop was touched in the same minute it became active"
          else if newStopHit then newStopExit
          else transitionOrder true rest
      -- the new stop is checked here too, although it is not active
      | false, false, false => if newStopHit then newStopExit else transitionOrder false rest

/-- Order a favorable transition against the stop it activates. -/
def resolveActiveStopTransition (candles : List Candle) : Except String IntrabarResolution :=
  if min (min activeStop transitionLevel) transitionedStop ≤ 0 then
    .error "stop and transition levels must be positive"
  else
    .ok (transitionOrder direction activeStop transitionLevel transitionedStop false
      (sortByStart candles))

end Transition

/-! ### A fixed stop and target -/

section Target

variable (direction : TradeDirection) (activeStop target : ℚ)

/-- The minutes of a bar, in order. -/
def targetOrder : List Candle → IntrabarResolution
  | [] => { event := .noEvent, ambiguous := false }
  | candle :: rest =>
      let targetExit : IntrabarResolution :=
        { event := .target
          ambiguous := false
          eventTime := some candle.startTime
          exitPrice := some target }
      match stopHit direction candle activeStop, levelHit direction candle target with
      | false, false => targetOrder rest
      | true, true =>
          if hitsStop direction candle.openPrice activeStop then
            exitAt direction .structuralStop candle activeStop
          else if reachesLevel direction candle.openPrice target then targetExit
          else unordered candle "stop and target crossed in one 1-minute candle"
      | true, false => exitAt direction .structuralStop candle activeStop
      | false, true => targetExit

/-- Resolve fixed stop/target chronology conservatively from 1-minute OHLC. -/
def resolveStopTargetOrder (candles : List Candle) : Except String IntrabarResolution :=
  if min activeStop target ≤ 0 then .error "stop and target must be positive"
  else .ok (targetOrder direction activeStop target (sortByStart candles))

end Target

end ReplayIntrabar

end BreezeTrading
