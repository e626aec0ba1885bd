/-
This file models Strategy E: the pivot of the session before, the volume-weighted average and the
confirmed swings of the session, and the levels they establish. With them a close gives a trend
signal on the break of a swing, or a countertrend signal off a level.
-/

import BreezeTrading.Strategy.Features
import BreezeTrading.Strategy.PositionManager

namespace BreezeTrading

/-! ### Data -/

/-- The settings of Strategy E that the signal engine reads. Times of the day are minutes, and the
age of a signal is in microseconds. -/
structure StrategyEConfig where
  countertrendEnabled : Bool := true
  swingLookback : Nat := 2
  volumeLookback : Nat := 20
  srLookbackBars : Nat := 30
  srBufferPoints : ℚ := 2
  counterZonePoints : ℚ := 6
  stopBufferPoints : ℚ := 2
  maxStopPoints : ℚ := 30
  trendTargetPoints : ℚ := 20
  counterTargetPoints : ℚ := 12
  minRewardRisk : ℚ := 1
  minRoomToLevelPoints : ℚ := 6
  chopLookbackBars : Nat := 6
  chopCrossThreshold : Nat := 2
  flatVwapLookbackBars : Nat := 3
  flatVwapThresholdPoints : ℚ := 3
  maxSignalAge : Int := 180000000
  entryStart : Int := 565
  entryEnd : Int := 885
  deriving DecidableEq

def StrategyEConfig.standard : StrategyEConfig := {}

inductive StrategyESignalType where
  | trendLong
  | trendShort
  | counterLong
  | counterShort
  deriving DecidableEq, Repr

def StrategyESignalType.value : StrategyESignalType → String
  | .trendLong => "TREND_LONG"
  | .trendShort => "TREND_SHORT"
  | .counterLong => "COUNTER_LONG"
  | .counterShort => "COUNTER_SHORT"

def StrategyESignalType.direction : StrategyESignalType → TradeDirection
  | .trendLong | .counterLong => .bullish
  | .trendShort | .counterShort => .bearish

structure StrategyESignal where
  signalType : StrategyESignalType
  direction : TradeDirection
  optionType : OptionType
  timestamp : Int
  spotReferencePrice : ℚ
  structuralStop : ℚ
  rPoints : ℚ
  targetPrice : ℚ
  futuresContract : String
  deriving DecidableEq

/-- A decision; without a signal its result is NO_TRADE. -/
structure StrategyEDecision where
  reason : String
  signal : Option StrategyESignal
  deriving DecidableEq

/-- What the engine keeps between calls. -/
structure PivotVwapScalpStrategy where
  lastProcessedCandle : Option Int
  deriving DecidableEq

structure StrategyECall where
  futures5m : List MarketCandle
  asOf : Int
  expectedCompletedEnd : Option Int
  deriving DecidableEq

/-- What the rules read of the bars. -/
structure StrategyEView where
  latest : MarketCandle
  previousBar : MarketCandle
  sessionLength : Nat
  pivot : ℚ
  vwap : ℚ
  previousVwap : ℚ
  swingHighs : List (Nat × ℚ)
  swingLows : List (Nat × ℚ)
  establishedHighs : List ℚ
  establishedLows : List ℚ
  choppy : Bool

namespace PivotVwapScalpStrategy

def initial : PivotVwapScalpStrategy := ⟨none⟩

/-! ### Bars -/

/-- A real completed five-minute bar with an order to its prices. -/
def validBar (asOf : Int) (bar : MarketCandle) : Bool :=
  bar.isReal5m && decide (bar.endTime ≤ asOf ∧ 0 ≤ bar.volume ∧ 0 < bar.low ∧
    bar.low ≤ min bar.openPrice bar.close ∧ max bar.openPrice bar.close ≤ bar.high)

/-- Of the bars with one start the last one is kept. -/
def lastByStart : List MarketCandle → List MarketCandle
  | [] => []
  | bar :: rest =>
      if rest.any (fun later => decide (later.startTime = bar.startTime)) then lastByStart rest
      else bar :: lastByStart rest

def validCompleted (candles : List MarketCandle) (asOf : Int) : List MarketCandle :=
  (lastByStart (candles.filter (validBar asOf))).insertionSort fun first second =>
    first.startTime ≤ second.startTime

def sessionDate (bar : MarketCandle) : Int := istDay bar.startTime

/-- `_vwap_series`, with the totals so far: until there is volume it is the mean of the typical
prices. -/
def vwapSeriesFrom (totalPv totalVolume fallbackTotal : ℚ) (index : Nat) :
    List MarketCandle → List ℚ
  | [] => []
  | bar :: rest =>
      let typical := (bar.high + bar.low + bar.close) / 3
      let volume : ℚ := max 0 bar.volume
      let pv := totalPv + typical * volume
      let total := totalVolume + volume
      let fallback := fallbackTotal + typical
      (if 0 < total then pv / total else fallback / (index + 1)) ::
        vwapSeriesFrom pv total fallback (index + 1) rest

def vwapSeries (candles : List MarketCandle) : List ℚ := vwapSeriesFrom 0 0 0 0 candles

/-- How often the values change their sign. -/
def crossCount (values : List ℚ) : Nat :=
  let nonzero := values.filter fun value => decide (value ≠ 0)
  ((nonzero.zip nonzero.tail).filter fun pair =>
    decide (0 < pair.1) != decide (0 < pair.2)).length

/-- A high that the bars before it do not reach and the bars after it do not exceed. -/
def swingHighAt (candles : List MarketCandle) (wing index : Nat) : Option (Nat × ℚ) :=
  candles[index]?.bind fun candle =>
    let left := (candles.take index).drop (index - wing)
    let right := (candles.drop (index + 1)).take wing
    if left.all (fun item => decide (item.high < candle.high)) &&
      right.all (fun item => decide (item.high ≤ candle.high)) then some (index, candle.high)
    else none

def swingLowAt (candles : List MarketCandle) (wing index : Nat) : Option (Nat × ℚ) :=
  candles[index]?.bind fun candle =>
    let left := (candles.take index).drop (index - wing)
    let right := (candles.drop (index + 1)).take wing
    if left.all (fun item => decide (candle.low < item.low)) &&
      right.all (fun item => decide (candle.low ≤ item.low)) then some (index, candle.low)
    else none

/-- `_confirmed_swings`: the highs and the lows with a wing of bars on either side. -/
def confirmedSwings (candles : List MarketCandle) (wing : Nat) :
    List (Nat × ℚ) × List (Nat × ℚ) :=
  let indices := List.range' wing (candles.length - 2 * wing)
  (indices.filterMap (swingHighAt candles wing), indices.filterMap (swingLowAt candles wing))

def nearestBelow (price : ℚ) (levels : List ℚ) : Option ℚ :=
  (levels.filter fun level => decide (0 < level ∧ level < price)).max?

def nearestAbove (price : ℚ) (levels : List ℚ) : Option ℚ :=
  (levels.filter fun level => decide (price < level)).min?

/-! ### The view -/

section View

variable (config : StrategyEConfig)

/-- The closes cross the pivot and the average too often, or the average while it is flat. -/
def isChoppy (session : List MarketCandle) (vwaps : List ℚ) (pivot : ℚ) : Bool :=
  let lookback := min config.chopLookbackBars session.length
  let recent := lastItems lookback session
  let recentVwap := lastItems lookback vwaps
  let pivotCrosses := crossCount (recent.map fun bar => bar.close - pivot)
  let vwapCrosses := crossCount ((recent.zip recentVwap).map fun pair => pair.1.close - pair.2)
  let flatLookback := min config.flatVwapLookbackBars (vwaps.length - 1)
  let flatVwap := decide (0 < flatLookback ∧
    |vwaps.getLastD 0 - (vwaps.take (vwaps.length - flatLookback)).getLastD 0| ≤
      config.flatVwapThresholdPoints)
  decide (config.chopCrossThreshold ≤ pivotCrosses ∧ config.chopCrossThreshold ≤ vwapCrosses) ||
    flatVwap && decide (config.chopCrossThreshold ≤ vwapCrosses)

/-- The levels that a session and the one before it establish: its recent swings, what it reached
before its last two bars, and what the other one reached. -/
def established (config : StrategyEConfig) (sessionLength : Nat) (swings : List (Nat × ℚ))
    (before : Option ℚ) (previous : ℚ) : List ℚ :=
  let srStart := sessionLength - config.srLookbackBars
  (swings.filter fun swing => decide (srStart ≤ swing.1)).map Prod.snd ++ before.toList ++ [previous]

def highestOf (candles : List MarketCandle) : Option ℚ := (candles.map fun bar => bar.high).max?

def lowestOf (candles : List MarketCandle) : Option ℚ := (candles.map fun bar => bar.low).min?

/-- `session[:-2]`, of a session that has more bars than these two. -/
def beforeLastTwo (session : List MarketCandle) : List MarketCandle :=
  session.take (session.length - 2)

/-- What the rules read of a session and of the one before it. -/
def viewOf (session previousSession : List MarketCandle) (latest : MarketCandle) : StrategyEView :=
  let previousHigh := (highestOf previousSession).getD 0
  let previousLow := (lowestOf previousSession).getD 0
  let previousClose := (previousSession.getLast?.map fun bar => bar.close).getD 0
  let pivot := (previousHigh + previousLow + previousClose) / 3
  let vwaps := vwapSeries session
  let swings := confirmedSwings session config.swingLookback
  { latest
    previousBar := session.dropLast.getLastD latest
    sessionLength := session.length
    pivot
    vwap := vwaps.getLastD 0
    previousVwap := vwaps.dropLast.getLastD 0
    swingHighs := swings.1
    swingLows := swings.2
    establishedHighs := established config session.length swings.1
      (highestOf (beforeLastTwo session)) previousHigh
    establishedLows := established config session.length swings.2
      (lowestOf (beforeLastTwo session)) previousLow
    choppy := isChoppy config session vwaps pivot }

end View

/-! ### Decisions -/

def noTrade (reason : String) : StrategyEDecision := ⟨reason, none⟩

section Rules

variable (config : StrategyEConfig) (view : StrategyEView)

def buildSignal (signalType : StrategyESignalType) (stop target : ℚ) : StrategyEDecision :=
  let entry := roundTo 2 view.latest.close
  { reason := "SIGNAL_READY"
    signal := some
      { signalType
        direction := signalType.direction
        optionType := if signalType.direction = .bullish then .call else .put
        timestamp := view.latest.endTime
        spotReferencePrice := entry
        structuralStop := stop
        rPoints := |entry - stop|
        targetPrice := target
        futuresContract := view.latest.instrumentId } }

/-- What all four rules check of a stop and a target before they signal. -/
def checkedSignal (signalType : StrategyESignalType) (stop target risk reward : ℚ)
    (invalidStop insufficientRoom : String) : StrategyEDecision :=
  if risk ≤ 0 then noTrade invalidStop
  else if config.maxStopPoints < risk then noTrade "STOP_TOO_WIDE"
  else if reward < config.minRoomToLevelPoints then noTrade insufficientRoom
  else if reward / risk < config.minRewardRisk then noTrade "INSUFFICIENT_REWARD_TO_RISK"
  else buildSignal view signalType stop target

/-- A target above the price, short of a level. -/
def targetBelow (price points : ℚ) (level : Option ℚ) : ℚ :=
  roundTo 2 ((level.map fun level => level - config.srBufferPoints).elim (price + points)
    (min (price + points)))

/-- A target below the price, short of a level. -/
def targetAbove (price points : ℚ) (level : Option ℚ) : ℚ :=
  roundTo 2 ((level.map fun level => level + config.srBufferPoints).elim (price - points)
    (max (price - points)))

/-- Break the swing high that preceded the latest confirmed pullback low. -/
def trendLong : Option StrategyEDecision :=
  let price := view.latest.close
  if view.pivot < price ∧ view.vwap < price then
    view.swingLows.getLast?.bind fun pullback =>
      (view.swingHighs.filter fun swing => decide (swing.1 < pullback.1)).getLast?.bind fun breakout =>
        if view.previousBar.close ≤ breakout.2 ∧ breakout.2 < price ∧
            view.latest.openPrice < view.latest.close then
          let stop := roundTo 2 (pullback.2 - config.stopBufferPoints)
          let target := targetBelow config price config.trendTargetPoints
            (nearestAbove price view.establishedHighs)
          some (checkedSignal config view .trendLong stop target (price - stop) (target - price)
            "INVALID_TREND_LONG_STOP" "INSUFFICIENT_ROOM_TO_RESISTANCE")
        else none
  else none

/-- Trend short: mirror image of trend long. -/
def trendShort : Option StrategyEDecision :=
  let price := view.latest.close
  if price < view.pivot ∧ price < view.vwap then
    view.swingHighs.getLast?.bind fun pullback =>
      (view.swingLows.filter fun swing => decide (swing.1 < pullback.1)).getLast?.bind fun breakout =>
        if breakout.2 ≤ view.previousBar.close ∧ price < breakout.2 ∧
            view.latest.close < view.latest.openPrice then
          let stop := roundTo 2 (pullback.2 + config.stopBufferPoints)
          let target := targetAbove config price config.trendTargetPoints
            (nearestBelow price view.establishedLows)
          some (checkedSignal config view .trendShort stop target (stop - price) (price - target)
            "INVALID_TREND_SHORT_STOP" "INSUFFICIENT_ROOM_TO_SUPPORT")
        else none
  else none

/-- The levels a countertrend long may be stopped by. -/
def counterResistanceLevels : List ℚ :=
  view.establishedHighs ++ [view.pivot] ++
    if view.latest.close < view.vwap then [view.vwap] else []

def counterSupportLevels : List ℚ :=
  view.establishedLows ++ [view.pivot] ++
    if view.vwap < view.latest.close then [view.vwap] else []

/-- Below the pivot, an established support is touched, and the average is reclaimed or a micro
swing confirms. -/
def counterLong : Option StrategyEDecision :=
  let price := view.latest.close
  if price < view.pivot then
    (nearestBelow price view.establishedLows).bind fun support =>
      let supportTouched := view.latest.low ≤ support + config.counterZonePoints ∨
        view.previousBar.low ≤ support + config.counterZonePoints
      let reclaimVwap := view.previousBar.close ≤ view.previousVwap ∧ view.vwap < price
      let bullishMicro := view.previousBar.high < price ∧
        view.previousBar.low ≤ view.latest.low ∧ view.latest.openPrice < view.latest.close
      if supportTouched ∧ (reclaimVwap ∨ bullishMicro) then
        let stop := roundTo 2 (min (min view.latest.low view.previousBar.low) support -
          config.stopBufferPoints)
        let target := targetBelow config price config.counterTargetPoints
          (nearestAbove price (counterResistanceLevels view))
        some (checkedSignal config view .counterLong stop target (price - stop) (target - price)
          "INVALID_COUNTER_LONG_STOP" "INSUFFICIENT_COUNTERTREND_ROOM")
      else none
  else none

/-- Symmetrical resistance rejection. -/
def counterShort : Option StrategyEDecision :=
  let price := view.latest.close
  if view.pivot < price then
    (nearestAbove price view.establishedHighs).bind fun resistance =>
      let resistanceTouched := resistance - config.counterZonePoints ≤ view.latest.high ∨
        resistance - config.counterZonePoints ≤ view.previousBar.high
      let loseVwap := view.previousVwap ≤ view.previousBar.close ∧ price < view.vwap
      let bearishMicro := price < view.previousBar.low ∧
        view.latest.high ≤ view.previousBar.high ∧ view.latest.close < view.latest.openPrice
      if resistanceTouched ∧ (loseVwap ∨ bearishMicro) then
        let stop := roundTo 2 (max (max view.latest.high view.previousBar.high) resistance +
          config.stopBufferPoints)
        let target := targetAbove config price config.counterTargetPoints
          (nearestBelow price (counterSupportLevels view))
        some (checkedSignal config view .counterShort stop target (stop - price) (price - target)
          "INVALID_COUNTER_SHORT_STOP" "INSUFFICIENT_COUNTERTREND_ROOM")
      else none
  else none

/-- The rules, in their order. -/
def decideView : StrategyEDecision :=
  let localTime := PositionManager.minutesOfDay view.latest.endTime
  if ¬(config.entryStart ≤ localTime ∧ localTime ≤ config.entryEnd) then
    noTrade "OUTSIDE_STRATEGY_E_ENTRY_WINDOW"
  else if view.choppy = true then noTrade "CHOPPY_AROUND_PIVOT_VWAP"
  else if view.sessionLength < 2 * config.swingLookback + 3 then
    noTrade "INSUFFICIENT_SESSION_SWING_HISTORY"
  else
    (trendLong config view <|> trendShort config view).getD
      (if config.countertrendEnabled = false then noTrade "NO_TREND_SIGNAL_COUNTERTREND_DISABLED"
      else (counterLong config view <|> counterShort config view).getD (noTrade "NO_SETUP"))

end Rules

section Evaluate

variable (config : StrategyEConfig)

def barsOf (candles : List MarketCandle) (date : Int) : List MarketCandle :=
  candles.filter fun bar => decide (sessionDate bar = date)

/-- The date of the session before that of the latest bar. -/
def previousDateOf (candles : List MarketCandle) (latest : MarketCandle) : Option Int :=
  ((candles.map sessionDate).filter fun date => decide (date < sessionDate latest)).max?

/-- The decision on the completed bars, the last of which is fresh. -/
def analyze (candles : List MarketCandle) (latest : MarketCandle) : StrategyEDecision :=
  let session := barsOf candles (sessionDate latest)
  match previousDateOf candles latest with
  | none => noTrade "PREVIOUS_TRADING_SESSION_UNAVAILABLE"
  | some previousDate =>
      if (session.map fun bar => max 0 bar.volume).sum ≤ 0 then
        noTrade "SESSION_VOLUME_UNAVAILABLE"
      else decideView config (viewOf config session (barsOf candles previousDate) latest)

/-- The last completed bar is behind what is expected, or too old. -/
def isStale (call : StrategyECall) (latest : MarketCandle) : Bool :=
  match call.expectedCompletedEnd with
  | some expected => decide (latest.endTime < expected)
  | none => decide (config.maxSignalAge < max 0 (call.asOf - latest.endTime))

/-- How many completed bars a decision needs. -/
def minimumBars : Nat := max (config.volumeLookback + 1) (2 * config.swingLookback + 5)

def evaluate (strategy : PivotVwapScalpStrategy) (call : StrategyECall) :
    PivotVwapScalpStrategy × StrategyEDecision :=
  let candles := validCompleted call.futures5m call.asOf
  if candles.length < minimumBars config then (strategy, noTrade "INSUFFICIENT_5M_HISTORY")
  else
    match candles.getLast? with
    | none => (strategy, noTrade "INSUFFICIENT_5M_HISTORY")
    | some latest =>
        if strategy.lastProcessedCandle = some latest.endTime then
          (strategy, noTrade "NO_NEW_COMPLETED_5M_BAR")
        else
          -- The bar counts as processed before it is known whether it is stale.
          let processed : PivotVwapScalpStrategy := ⟨some latest.endTime⟩
          if isStale config call latest then (processed, noTrade "STALE_COMPLETED_5M_BAR")
          else (processed, analyze config candles latest)

/-- The strategy as the next call finds it. -/
def step (strategy : PivotVwapScalpStrategy) (call : StrategyECall) : PivotVwapScalpStrategy :=
  (evaluate config strategy call).1

end Evaluate

end PivotVwapScalpStrategy

end BreezeTrading
