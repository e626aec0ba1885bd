/-
This file models what Strategy A makes of the candles of a call: the completed bars of the active
contract with their features, the rules on trend, confirmation, confluence and risk, and the setup
that qualifies in either direction. With them a call is evaluated by the state machine.
-/

import BreezeTrading.Strategy.FuturesSignal
import BreezeTrading.Strategy.TrendPullback

namespace BreezeTrading

/-! ### Data -/

/-- The settings of Strategy A. -/
structure PullbackTunables extends PullbackConfig where
  allowSessionBypass : Bool := false
  momentumAdxMinDelta2bars : ℚ := -2
  momentumEma20SlopeMinAtr : ℚ := 0
  momentumEma20SlopeMaxAtr : ℚ := 3 / 20
  emaSeparationMinAtr : ℚ := 1 / 10
  confluenceDistanceAtr : ℚ := 1 / 4
  srZoneAtr : ℚ := 1 / 10
  confirmationMinBodyRatio : ℚ := 2 / 5
  confirmationCloseLocationPct : ℚ := 3 / 10
  confirmationMaxRangeAtr : ℚ := 3 / 2
  triggerBufferAtr : ℚ := 1 / 20
  triggerValidityBars : Nat := 2
  structuralStopBufferAtr : ℚ := 1 / 10
  minimumStopDistanceAtr : ℚ := 4 / 5
  maximumStopDistanceAtr : ℚ := 3 / 2
  minimumRoomToOpposingSrR : ℚ := 3 / 2
  deriving DecidableEq

/-- From 09:45 to 14:45, forced out at 15:15. -/
def PullbackTunables.standard : PullbackTunables :=
  { entrySessionStart := 585, entrySessionEnd := 885, forcedExitTime := 915,
    maximumChaseAtr := 1 / 4 }

/-- What an evaluation is called with. -/
structure PullbackCall where
  futures : List MarketCandle
  asOf : Option Int
  bypassEntryWindow : Bool
  deriving DecidableEq

namespace TrendPullbackStrategy

/-! ### Input -/

/-- The last quarter of an hour whose bar has to be there, two minutes after its end, and at the
end of the session. -/
def expectedEnd (asOf : Int) : Int :=
  let boundary := quarterStart asOf
  let expected := if asOf - boundary ≤ 120000000 then boundary - 900000000 else boundary
  min expected (86400000000 * istDay asOf - 19800000000 + 915 * 60000000)

/-- The completed bars of the active contract, of fifteen minutes or made of five. -/
def activeBars (futures : List MarketCandle) (asOf : Option Int) (selection : Int) :
    Except String (List MarketCandle) :=
  (canonicalActiveFuturesStream futures (some selection) "15m").bind fun bars =>
    if bars = [] then
      canonicalActiveFuturesStream (aggregateCompleted15m futures asOf) (some selection) "15m"
    else .ok bars

def featuresForInput (futures : List MarketCandle) (asOf : Option Int) :
    Except String (List MarketCandle × FuturesFeatureSnapshot) :=
  match asOf.or (futures.map fun candle => candle.endTime).max? with
  | none => .error "no futures timestamp available"
  | some selection =>
      (activeBars futures asOf selection).bind fun raw =>
        match raw.getLast? with
        | none => .error "no completed futures 15m candles"
        | some last =>
            if asOf.isSome = true ∧ last.endTime < expectedEnd selection then
              .error "STALE_FUTURES_DATA"
            else (FuturesFeatureEngine.build raw asOf).map fun feature => (raw, feature)

/-! ### Rules -/

section Rules

variable (config : PullbackTunables)

/-- The features of the two bars before, each of the window up to it. -/
def momentumContext (raw : List MarketCandle) (feature : FuturesFeatureSnapshot) :
    Option (FuturesFeatureSnapshot × FuturesFeatureSnapshot) :=
  (raw.findIdx? fun candle => decide (candle.endTime = feature.candleTimestamp ∧
      candle.instrumentId = feature.contractId)).bind fun index =>
    if 2 ≤ index ∧ 0 < feature.atr14 then
      raw[index - 1]?.bind fun previousBar =>
        raw[index - 2]?.bind fun previous2Bar =>
          (FuturesFeatureEngine.build (raw.take index) (some previousBar.endTime)).toOption.bind
            fun previous =>
              (FuturesFeatureEngine.build (raw.take (index - 1))
                (some previous2Bar.endTime)).toOption.map fun previous2 => (previous, previous2)
    else none

/-- The averages and the indicators are in the order of a direction. -/
def trendRegime (feature : FuturesFeatureSnapshot) : StrategyDirection → Bool
  | .call => decide (feature.ema50 < feature.ema20 ∧ feature.minusDi14 < feature.plusDi14)
  | .put => decide (feature.ema20 < feature.ema50 ∧ feature.plusDi14 < feature.minusDi14)

/-- `_trend_ok`: the regime is confirmed, the index does not decay too fast, and the slope of the
fast average is within its band. -/
def trendOk (raw : List MarketCandle) (feature : FuturesFeatureSnapshot)
    (direction : StrategyDirection) : Bool :=
  decide (0 < feature.atr14) && (momentumContext raw feature).any fun context =>
    let rise := (feature.ema20 - context.1.ema20) / feature.atr14
    let slope := match direction with
      | .call => rise
      | .put => -rise
    trendRegime feature direction &&
      decide (config.emaSeparationMinAtr * feature.atr14 ≤ |feature.ema20 - feature.ema50| ∧
        config.momentumAdxMinDelta2bars ≤ feature.adx14 - context.2.adx14 + 1 / 1000000000000 ∧
        config.momentumEma20SlopeMinAtr ≤ slope + 1 / 1000000000000 ∧
        slope < config.momentumEma20SlopeMaxAtr - 1 / 1000000000000)

/-- `_confirmation_ok`: a bar of the direction that closes near its end, with a body and not too
wide a range. -/
def confirmationOk (feature : FuturesFeatureSnapshot) (direction : StrategyDirection) : Bool :=
  let range := feature.high - feature.low
  decide (0 < range ∧
    config.confirmationMinBodyRatio ≤
      |feature.close - feature.openPrice| / range + 1 / 1000000000000 ∧
    range ≤ config.confirmationMaxRangeAtr * feature.atr14 + 1 / 1000000000) &&
  match direction with
  | .call => decide (feature.openPrice < feature.close ∧
      feature.high - config.confirmationCloseLocationPct * range ≤ feature.close)
  | .put => decide (feature.close < feature.openPrice ∧
      feature.close ≤ feature.low + config.confirmationCloseLocationPct * range)

/-- A price of the bar is near a level. -/
def near (feature : FuturesFeatureSnapshot) (distance level : ℚ) : Bool :=
  decide (|feature.close - level| ≤ distance ∨ |feature.low - level| ≤ distance ∨
    |feature.high - level| ≤ distance)

/-- `_confluence`: the level of the direction that the bar touches, with an average near. -/
def confluence (feature : FuturesFeatureSnapshot) (direction : StrategyDirection) : Option ℚ :=
  let zone := config.srZoneAtr * feature.atr14
  let distance := config.confluenceDistanceAtr * feature.atr14
  let level := match direction with
    | .call => feature.support
    | .put => feature.resistance
  if 0 < feature.atr14 then
    level.filter fun level =>
      decide (feature.low - zone ≤ level ∧ level ≤ feature.high + zone) &&
        (near feature distance feature.ema20 || near feature distance feature.sessionVwap)
  else none

/-- The trigger beyond a bar, and the stop beyond its structural extreme. -/
def triggerAndStop (feature : FuturesFeatureSnapshot) : StrategyDirection → ℚ × ℚ
  | .call =>
      (feature.high + config.triggerBufferAtr * feature.atr14,
        (feature.support.elim feature.low (min feature.low)) -
          config.structuralStopBufferAtr * feature.atr14)
  | .put =>
      (feature.low - config.triggerBufferAtr * feature.atr14,
        (feature.resistance.elim feature.high (max feature.high)) +
          config.structuralStopBufferAtr * feature.atr14)

/-- The level beyond the trigger that an entry has to leave room to. -/
def opposingLevel (feature : FuturesFeatureSnapshot) (trigger : ℚ) : StrategyDirection → Option ℚ
  | .call => feature.resistance.filter fun level => decide (level ≠ 0 ∧ trigger < level)
  | .put => feature.support.filter fun level => decide (level ≠ 0 ∧ level < trigger)

/-- What the model of a setup checks of its prices. -/
def pricesValid (direction : StrategyDirection) (feature : FuturesFeatureSnapshot)
    (trigger stop level : ℚ) : Bool :=
  decide (0 < feature.low ∧ feature.low < feature.high ∧ 0 < trigger ∧ 0 < stop ∧ 0 < level) &&
  match direction with
  | .call => decide (stop < trigger)
  | .put => decide (trigger < stop)

/-- `_build_setup`: it expires a number of bars after the bar it is made on, which is a time on the
clock and an index in the window. -/
def buildSetup (feature : FuturesFeatureSnapshot) (direction : StrategyDirection) (level : ℚ) :
    Option StrategySetup :=
  let trigger := (triggerAndStop config feature direction).1
  let stop := (triggerAndStop config feature direction).2
  let risk := |trigger - stop|
  let riskAtr := if 0 < feature.atr14 then risk / feature.atr14 else 0
  if riskAtr < config.minimumStopDistanceAtr - 1 / 1000000000 then none
  else if config.maximumStopDistanceAtr + 1 / 1000000000 < riskAtr then none
  else if (opposingLevel feature trigger direction).any fun opposing =>
      decide (|opposing - trigger| / risk < config.minimumRoomToOpposingSrR - 1 / 1000000000) then
    none
  else if pricesValid direction feature trigger stop level then
    some
      { direction
        setupTimestamp := feature.candleTimestamp
        triggerPrice := trigger
        structuralStop := stop
        setupExpiryTimestamp :=
          feature.candleTimestamp + 900000000 * (config.triggerValidityBars : Int)
        setupExpiryBarIndex := feature.barIndex + config.triggerValidityBars }
  else none

/-- The setup that qualifies on a bar in a direction. -/
def qualifiedSetup (raw : List MarketCandle) (feature : FuturesFeatureSnapshot)
    (direction : StrategyDirection) : Option StrategySetup :=
  if trendOk config raw feature direction && confirmationOk config feature direction then
    (confluence config feature direction).bind (buildSetup config feature direction)
  else none

/-- What the state machine reads of a bar. -/
def featureOf (raw : List MarketCandle) (feature : FuturesFeatureSnapshot) : FuturesFeature where
  contractId := feature.contractId
  candleTimestamp := feature.candleTimestamp
  barIndex := feature.barIndex
  openPrice := feature.openPrice
  high := feature.high
  low := feature.low
  close := feature.close
  atr14 := feature.atr14
  qualified := qualifiedSetup config raw feature

/-! ### Calls -/

/-- The session of a call, which a simulation may open for the whole day. -/
def sessionOf (call : PullbackCall) : PullbackConfig :=
  if config.allowSessionBypass && call.bypassEntryWindow then
    { config.toPullbackConfig with entrySessionStart := 0, entrySessionEnd := 1439 }
  else config.toPullbackConfig

/-- The bar of a call, if its features can be built. -/
def callFeature (call : PullbackCall) : Option FuturesFeature :=
  (featuresForInput call.futures call.asOf).toOption.map fun input =>
    featureOf config input.1 input.2

/-- `evaluate`, of the candles of a call. -/
def evaluateCall (strategy : TrendPullbackStrategy) (call : PullbackCall) :
    TrendPullbackStrategy × Option PullbackSignal :=
  evaluate (sessionOf config call) strategy (callFeature config call)

/-- The strategy as the next call finds it. -/
def stepCall (strategy : TrendPullbackStrategy) (call : PullbackCall) : TrendPullbackStrategy :=
  (evaluateCall config strategy call).1

end Rules

end TrendPullbackStrategy

end BreezeTrading
