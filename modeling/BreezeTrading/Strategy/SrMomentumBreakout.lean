/-
This file models the lifecycle of Strategy D. Half of a position is scaled out at a multiple of
its risk, the stop of the rest moves to the entry, and the runner is closed at the next pivot, by
its average, at the end of the session, or where the data end. The events inside a bar are ordered
by its minutes when all five are there, and by the bar itself otherwise.
-/

import BreezeTrading.Lib.EarlyReturn
import BreezeTrading.Strategy.Features
import BreezeTrading.Strategy.ReplayIntrabar

namespace BreezeTrading

/-! ### Data -/

/-- The settings the lifecycle reads; the time of the forced exit is in minutes of the day. -/
structure StrategyDConfig where
  scaleOutR : ℚ := 3 / 2
  scaleOutFraction : ℚ := 1 / 2
  forceExit : Int := 920
  deriving DecidableEq

/-- The settings of both variants, which share the lifecycle. -/
def StrategyDConfig.standard : StrategyDConfig := {}

/-- A signal, with the fields the lifecycle reads. -/
structure StrategyDSignal where
  direction : TradeDirection
  timestamp : Int
  entryPrice : ℚ
  initialStop : ℚ
  riskPoints : ℚ
  nextPivotName : Option String
  nextPivotPrice : Option ℚ
  deriving DecidableEq

structure StrategyDLifecycleResult where
  entryTime : Int
  exitTime : Int
  direction : TradeDirection
  entryPrice : ℚ
  initialStop : ℚ
  scaleOutTime : Option Int
  scaleOutPrice : Option ℚ
  scaleOutFraction : ℚ
  runnerExitPrice : ℚ
  runnerExitReason : String
  runnerR : ℚ
  realizedR : ℚ
  mfeR : ℚ
  maeR : ℚ
  finalStop : ℚ
  deriving DecidableEq

/-- What the loop over the bars keeps of a position. -/
structure StrategyDRunner where
  stop : ℚ
  scaleTime : Option Int
  scaleFill : Option ℚ
  remainingFraction : ℚ
  realizedComponent : ℚ
  mfeR : ℚ
  maeR : ℚ
  closes : List ℚ
  lastBar : Option Candle
  deriving DecidableEq

namespace StrategyDPositionManager

/-! ### Prices -/

section Prices

variable (signal : StrategyDSignal)

/-- The multiple of the risk at a price. -/
def r (price : ℚ) : ℚ :=
  favorablePoints signal.direction signal.entryPrice price / signal.riskPoints

def stopHit (bar : Candle) (stop : ℚ) : Bool := ReplayIntrabar.stopHit signal.direction bar stop

def targetHit (bar : Candle) (target : ℚ) : Bool :=
  ReplayIntrabar.levelHit signal.direction bar target

def gapsBeyond (bar : Candle) (stop : ℚ) : Bool :=
  if signal.direction = .bullish then decide (bar.openPrice < stop)
  else decide (stop < bar.openPrice)

/-- The open of the bar is used when a gap already crossed the protective stop. -/
def stopFill (bar : Candle) (stop : ℚ) : ℚ :=
  if gapsBeyond signal bar stop = true then bar.openPrice else stop

def emaExit (close ema9 : ℚ) : Bool := hitsStop signal.direction close ema9

/-- The next pivot, where there is one, is reached. -/
def pivotHit (bar : Candle) : Bool := signal.nextPivotPrice.any (targetHit signal bar)

end Prices

def isStrategyDForceExitTime (config : StrategyDConfig) (asOf : Int) : Bool :=
  decide (config.forceExit ≤ PositionManager.minutesOfDay asOf)

/-- The five native one-minute children of a bar, and none when coverage is not complete. -/
def completeMinutes (parent : MarketCandle) (oneMinuteBars : List MarketCandle) : List Candle :=
  let minutes := ReplayIntrabar.sortByStart ((oneMinuteBars.filter fun bar =>
    decide (bar.interval = "1m" ∧ bar.source ∈ realSources ∧ parent.startTime ≤ bar.startTime ∧
      bar.endTime ≤ parent.endTime)).map fun bar => bar.toCandle)
  let chained := minutes.foldl (fun (cursor : Option Int) minute =>
    if cursor = some minute.startTime then some minute.endTime else none) (some parent.startTime)
  if minutes.length = 5 ∧ chained = some parent.endTime then minutes else []

/-! ### One candle -/

section Candle

variable (config : StrategyDConfig) (signal : StrategyDSignal) (runner : StrategyDRunner)

/-- The price half of the position is scaled out at. -/
def scalePrice : ℚ :=
  levelAbove signal.direction signal.entryPrice (config.scaleOutR * signal.riskPoints)

/-- The result of a position that is closed. What was not scaled out has realized nothing. -/
def result (bar : Candle) (exitPrice : ℚ) (exitReason : String) : StrategyDLifecycleResult :=
  let runnerR := r signal exitPrice
  let totalR := runner.realizedComponent + runner.remainingFraction * runnerR
  { entryTime := signal.timestamp
    exitTime := bar.endTime
    direction := signal.direction
    entryPrice := signal.entryPrice
    initialStop := signal.initialStop
    scaleOutTime := runner.scaleTime
    scaleOutPrice := runner.scaleFill.map (roundTo 6)
    scaleOutFraction := if runner.scaleTime.isSome then config.scaleOutFraction else 0
    runnerExitPrice := roundTo 6 exitPrice
    runnerExitReason := exitReason
    runnerR := roundTo 6 runnerR
    realizedR := roundTo 6 totalR
    mfeR := roundTo 6 runner.mfeR
    maeR := roundTo 6 runner.maeR
    finalStop := roundTo 6 runner.stop }

/-- `update_excursions`: how far the position went either way. -/
def updateExcursions (bar : Candle) : StrategyDRunner :=
  { runner with
    mfeR := max runner.mfeR (max (r signal bar.high) (r signal bar.low))
    maeR := min runner.maeR (min (r signal bar.high) (r signal bar.low)) }

/-- Half of the position is closed at its price, and the stop of the runner moves to the entry. -/
def scaleOut (bar : Candle) : StrategyDRunner :=
  { runner with
    scaleTime := some bar.endTime
    scaleFill := some (scalePrice config signal)
    realizedComponent := config.scaleOutFraction * config.scaleOutR
    remainingFraction := 1 - config.scaleOutFraction
    stop := signal.entryPrice }

/-- The runner is closed at the next pivot that the candle reaches. -/
def pivotExit (bar : Candle) : Except StrategyDLifecycleResult StrategyDRunner :=
  if pivotHit signal bar = true then
    .error (result config signal runner bar (signal.nextPivotPrice.getD 0)
      ("NEXT_PIVOT_" ++ signal.nextPivotName.getD "None"))
  else .ok runner

/-- What a candle does to a position by its prices alone: the stop is checked first. A candle that
scales out and spans the new stop cannot prove the order, which the reason says. -/
def orderCandle (ambiguous : String) (bar : Candle) :
    Except StrategyDLifecycleResult StrategyDRunner :=
  let runner := updateExcursions signal runner bar
  match runner.scaleTime with
  | none =>
      if stopHit signal bar runner.stop = true then
        .error (result config signal runner bar (stopFill signal bar runner.stop) "ATR_HARD_STOP")
      else if targetHit signal bar (scalePrice config signal) = true then
        let scaled := scaleOut config signal runner bar
        if stopHit signal bar scaled.stop = true then
          .error (result config signal scaled bar scaled.stop ambiguous)
        else pivotExit config signal scaled bar
      else .ok runner
  | some _ =>
      if stopHit signal bar runner.stop = true then
        .error (result config signal runner bar (stopFill signal bar runner.stop) "BREAKEVEN_STOP")
      else pivotExit config signal runner bar

/-- A native one-minute child of a bar. -/
def orderMinute (minute : Candle) : Except StrategyDLifecycleResult StrategyDRunner :=
  orderCandle config signal runner "BREAKEVEN_STOP_1M_AMBIGUOUS" minute

/-- A bar without all its children. -/
def orderBar (bar : Candle) : Except StrategyDLifecycleResult StrategyDRunner :=
  orderCandle config signal runner "BREAKEVEN_STOP_5M_AMBIGUOUS" bar

/-- The events inside a bar. -/
def orderEvents (minutes : List Candle) (bar : Candle) :
    Except StrategyDLifecycleResult StrategyDRunner :=
  if minutes = [] then orderBar config signal runner bar
  else EarlyReturn.loop (orderMinute config signal) runner minutes

/-- The runner with the close of a completed bar. -/
def withClose (bar : Candle) : StrategyDRunner :=
  { runner with closes := runner.closes ++ [bar.close] }

/-- The bar is completed: its close may be beyond the average, or the session is over. -/
def closeBar (bar : Candle) : Except StrategyDLifecycleResult StrategyDRunner :=
  if (withClose runner bar).scaleTime.isSome = true ∧
      emaExit signal bar.close (FeatureEngine.calculateEma (withClose runner bar).closes 9) = true then
    .error (result config signal (withClose runner bar) bar bar.close "EMA9_CLOSE_CROSS")
  else if isStrategyDForceExitTime config bar.endTime = true then
    .error (result config signal (withClose runner bar) bar bar.close "SESSION_FORCE_EXIT")
  else .ok (withClose runner bar)

end Candle

/-! ### The lifecycle -/

section Lifecycle

variable (config : StrategyDConfig) (signal : StrategyDSignal)

/-- A bar that the lifecycle reads: a real one of the day of the signal. -/
def isPostEntry (bar : MarketCandle) : Bool :=
  bar.isReal5m && decide (istDay bar.startTime = istDay signal.timestamp)

/-- One bar of the loop. -/
def advanceBar (oneMinuteBars : List MarketCandle) (runner : StrategyDRunner)
    (bar : MarketCandle) : Except StrategyDLifecycleResult StrategyDRunner :=
  if isPostEntry signal bar = true then
    let opened := { runner with lastBar := some bar.toCandle }
    match orderEvents config signal opened (completeMinutes bar oneMinuteBars) bar.toCandle with
    | .error closed => .error closed
    | .ok ordered => closeBar config signal ordered bar.toCandle
  else .ok runner

/-- The position as it is entered. -/
def entered (history : List MarketCandle) : StrategyDRunner where
  stop := signal.initialStop
  scaleTime := none
  scaleFill := none
  remainingFraction := 1
  realizedComponent := 0
  mfeR := 0
  maeR := 0
  closes := history.map fun bar => bar.close
  lastBar := none

/-- Replay Strategy D using native one-minute ordering whenever it is complete. -/
def replayUnderlyingLifecycle (history futureBars oneMinuteBars : List MarketCandle) :
    Except String StrategyDLifecycleResult :=
  if futureBars = [] then .error "Strategy D lifecycle requires at least one post-entry bar"
  else
    match EarlyReturn.loop (advanceBar config signal oneMinuteBars) (entered signal history)
      futureBars with
    | .error closed => .ok closed
    | .ok runner =>
        match runner.lastBar with
        | none => .error "Strategy D lifecycle found no valid post-entry bars"
        | some bar => .ok (result config signal runner bar bar.close "DATA_END")

end Lifecycle

end StrategyDPositionManager

end BreezeTrading
