/-
This file models the feature engine of the strategies: the indicators it computes from closes and
candles, the evidence it reads from an option chain, and the features of a moment. What is computed
is computed from completed candles; which futures candles those are is decided by an interval that
is looked up before anything is filtered. The square root is a parameter.
-/

import BreezeTrading.Strategy.FuturesSignal
import BreezeTrading.Strategy.VolatilityBreakout

namespace BreezeTrading

/-! ### Data -/

/-- A candle with its open interest, where it has one. -/
structure FuturesCandle extends MarketCandle where
  openInterest : Option Int
  deriving DecidableEq

/-- What an option chain says of one side of a strike; what is missing is nought. -/
structure OiSide where
  openInterest : ℚ := 0
  oiChange : ℚ := 0
  oiVelocity : ℚ := 0
  deriving DecidableEq

structure OiStrike where
  strike : ℚ
  call : Option OiSide
  put : Option OiSide
  deriving DecidableEq

structure OiChain where
  source : String
  strikes : List OiStrike
  atmStrike : Option ℚ
  deriving DecidableEq

/-- The parts of the scores of a chain. -/
structure DerivativesScore where
  putOiSupport : ℚ
  callOiWallPenalty : ℚ
  callOiPressure : ℚ
  callOiWallBonus : ℚ
  deriving DecidableEq

/-- All features of a moment. -/
structure ComputedFeatures extends BreakoutFeatures where
  futuresAtr5m : ℚ
  dataReady : Bool
  dataReason : String
  spotChangePct : ℚ
  ema915m : ℚ
  ema2015m : ℚ
  ema5015m : ℚ
  ema20Slope15m : ℚ
  ema20SlopeNorm15m : ℚ
  adx15m : ℚ
  plusDi15m : ℚ
  minusDi15m : ℚ
  atr15m : ℚ
  dailyAtr : ℚ
  derivativesScoreComponents : DerivativesScore
  expectedDailyPoints : ℚ
  remainingSessionPoints : ℚ
  atmStraddlePrice : ℚ
  trendRegime : String
  deriving DecidableEq

namespace FeatureEngine

open FuturesFeatureEngine

/-! ### Indicators of closes -/

/-- `calculate_ema_series`: what is appended is rounded, what is carried on is not. -/
def calculateEmaSeries (closes : List ℚ) (period : Nat) : List ℚ :=
  if closes.length < period then closes.map fun _ => mean closes
  else
    let k : ℚ := 2 / (period + 1)
    let first := (closes.take period).sum / period
    List.replicate period first ++
      ((closes.drop period).scanl (fun curr price => price * k + curr * (1 - k)) first).tail.map
        (roundTo 2)

/-- The gains of closes: the rises from one to the next. -/
def gains (closes : List ℚ) : List ℚ :=
  (closes.zip closes.tail).map fun pair => if 0 ≤ pair.2 - pair.1 then pair.2 - pair.1 else 0

/-- The losses of closes, as positive numbers. -/
def losses (closes : List ℚ) : List ℚ :=
  (closes.zip closes.tail).map fun pair => if 0 ≤ pair.2 - pair.1 then 0 else |pair.2 - pair.1|

/-- `calculate_rsi`, over a period that is not nought. -/
def calculateRsi (closes : List ℚ) (period : Nat) : ℚ :=
  if closes.length ≤ period then 50
  else
    let averageGain := wilder period (gains closes)
    let averageLoss := wilder period (losses closes)
    if averageLoss = 0 then 100
    else roundTo 2 (100 - 100 / (1 + averageGain / averageLoss))

def calculateBollingerBandwidth (sqrt : ℚ → ℚ) (closes : List ℚ) (period : Nat) (numStd : ℚ) : ℚ :=
  let sub := lastItems period closes
  let middle := sub.sum / period
  let std := sqrt ((sub.map fun close => (close - middle) ^ 2).sum / period)
  if closes.length < period ∨ middle = 0 then 15 / 1000
  else (middle + numStd * std - (middle - numStd * std)) / middle

/-- `calculate_bb_percentile`: the rank of the width among the ones before it. -/
def calculateBbPercentile (sqrt : ℚ → ℚ) (closes : List ℚ) (history : Nat) : ℚ :=
  if closes.length < 40 then 100
  else
    let start := max 20 (closes.length - history)
    let widths := (List.range' start (closes.length - start)).map fun index =>
      calculateBollingerBandwidth sqrt ((closes.take index).drop (index - 20)) 20 2
    let current := calculateBollingerBandwidth sqrt closes 20 2
    100 * ((widths.countP fun width => decide (width < current) : ℚ) +
      1 / 2 * (widths.countP fun width => decide (width = current) : ℚ)) / widths.length

/-! ### Indicators of candles -/

/-- The moves from each candle to the next. -/
def movements (candles : List MarketCandle) : List Movement :=
  (candles.zip candles.tail).map fun pair => movementOf pair.1 pair.2

def calculateAtr (candles : List MarketCandle) (period : Nat) : ℚ :=
  let ranges := (movements candles).map Movement.range
  if candles.length < 2 then 25
  else if ranges.length < period then roundTo 2 (ranges.sum / ranges.length)
  else roundTo 2 (wilder period ranges)

/-- The directional indicators of smoothed sums, and their index. -/
def indicatorsOf (sums : Movement) : ℚ × ℚ × ℚ :=
  let plusDi := 100 * sums.plus / max (1 / 1000) sums.range
  let minusDi := 100 * sums.minus / max (1 / 1000) sums.range
  (100 * |plusDi - minusDi| / max (1 / 1000) (plusDi + minusDi), plusDi, minusDi)

/-- `calculate_adx`: the average index and the last two indicators. -/
def calculateAdx (candles : List MarketCandle) (period : Nat) : ℚ × ℚ × ℚ :=
  let moves := movements candles
  let smoothed :=
    ((moves.drop period).scanl (smoothSums period) (firstSums (moves.take period))).tail
  match (smoothed.map indicatorsOf).getLast? with
  | none => (22, 25, 20)
  | some last =>
      let indices := smoothed.map fun sums => (indicatorsOf sums).1
      let first : ℚ := (indices.take period).sum / (min period indices.length : Nat)
      let average := (indices.drop period).foldl
        (fun (adx index : ℚ) => (adx * (period - 1) + index) / period) first
      (roundTo 2 average, roundTo 2 last.2.1, roundTo 2 last.2.2)

/-- The bands of a trend, and its direction. -/
structure Supertrend where
  atr : ℚ
  upper : ℚ
  lower : ℚ
  bullish : Bool

def middleOf (candle : MarketCandle) : ℚ := (candle.high + candle.low) / 2

/-- A band moves when the new one is narrower, or when the last close is beyond it. -/
def supertrendStep (period : Nat) (multiplier : ℚ) (state : Supertrend)
    (pair : MarketCandle × MarketCandle) : Supertrend :=
  let atr := (state.atr * (period - 1) + (movementOf pair.1 pair.2).range) / period
  let basicUpper := middleOf pair.2 + multiplier * atr
  let basicLower := middleOf pair.2 - multiplier * atr
  let upper := if basicUpper < state.upper ∨ state.upper < pair.1.close then basicUpper
    else state.upper
  let lower := if state.lower < basicLower ∨ pair.1.close < state.lower then basicLower
    else state.lower
  { atr, upper, lower
    bullish :=
      if state.bullish then decide (lower ≤ pair.2.close) else decide (upper < pair.2.close) }

def calculateSupertrend (candles : List MarketCandle) (period : Nat) (multiplier : ℚ) : String :=
  match candles.drop period with
  | [] => "NEUTRAL"
  | first :: rest =>
      let atr := (((movements candles).map Movement.range).take period).sum / period
      let start : Supertrend :=
        { atr
          upper := middleOf first + multiplier * atr
          lower := middleOf first - multiplier * atr
          bullish := decide (middleOf first ≤ first.close) }
      if (((first :: rest).zip rest).foldl (supertrendStep period multiplier) start).bullish then
        "BULLISH"
      else "BEARISH"

/-- The middle of numbers, or of the two in the middle. -/
def median (values : List ℚ) : ℚ :=
  let sorted := values.insertionSort (· ≤ ·)
  let half := values.length / 2
  if values.length % 2 = 1 then sorted.getD half 0
  else (sorted.getD (half - 1) 0 + sorted.getD half 0) / 2

/-- `calculate_futures_vwap`, of the session of the last candle. -/
def calculateFuturesVwap (candles : List MarketCandle) : ℚ :=
  match candles.getLast? with
  | none => 0
  | some last =>
      let session := candles.filter fun candle =>
        decide (istDay candle.startTime = istDay last.startTime)
      let volume := (session.map fun candle => (max 0 candle.volume : ℚ)).sum
      let value := (session.map fun candle =>
        (candle.high + candle.low + candle.close) / 3 * (max 0 candle.volume : ℚ)).sum
      if volume = 0 then 0 else roundTo 2 (value / volume)

/-- The time of the day of a moment, in IST. -/
def timeOfDay (moment : Int) : Int := (moment + 19800000000) % 86400000000

/-- `calculate_rvol`: against the same time of earlier days, or else the same day. -/
def calculateRvol (candles : List MarketCandle) : ℚ :=
  match candles.getLast? with
  | none => 0
  | some latest =>
      let before := candles.dropLast
      let sameTime := before.filter fun candle =>
        decide (istDay candle.startTime < istDay latest.startTime ∧
          timeOfDay candle.startTime = timeOfDay latest.startTime)
      let sameDay := before.filter fun candle =>
        decide (istDay candle.startTime = istDay latest.startTime)
      let volumes := (if sameTime = [] then sameDay else sameTime).map fun candle =>
        (candle.volume : ℚ)
      let base := if volumes = [] then 0 else median volumes
      if 0 < base then roundTo 2 (latest.volume / base) else 0

/-! ### Option chains -/

section Chain

/-- A number of a side of a strike. -/
def sideValue (side : Option OiSide) (value : OiSide → ℚ) : ℚ := (side.map value).getD 0

/-- The strikes around the one nearest to a price, five on either side. -/
def nearStrikes (strikes : List OiStrike) (price : ℚ) : List OiStrike :=
  let sorted := strikes.insertionSort fun first second => first.strike ≤ second.strike
  let distances := sorted.map fun row => |row.strike - price|
  let atm := distances.findIdx fun distance => distances.all fun other => decide (distance ≤ other)
  (sorted.drop (atm - 5)).take (atm + 6 - (atm - 5))

/-- The nearest strike ahead holds much more open interest than the others. -/
def isWall (near ahead : List OiStrike) (side : OiStrike → Option OiSide) : Bool :=
  let interest := near.map fun row => sideValue (side row) OiSide.openInterest
  ahead.head?.any fun row =>
    let target := sideValue (side row) OiSide.openInterest
    decide (3 ≤ near.length ∧ 0 < median interest ∧ median interest < target ∧
      9 / 10 ≤ (interest.countP fun other => decide (other ≤ target) : ℚ) / interest.length)

structure OiEvidence where
  bull : Nat
  bear : Nat
  bullishWall : Bool
  bearishWall : Bool

/-- `breakout_oi_features`: five factors, and the walls. -/
def breakoutOiFeatures (chain : Option OiChain) (price : ℚ) (buildup : String) : OiEvidence :=
  let bull := (decide (buildup = "LONG_BUILDUP")).toNat
  let bear := (decide (buildup = "SHORT_BUILDUP")).toNat
  match chain.filter fun chain => decide (chain.source ∈ realSources ∧ chain.strikes ≠ []) with
  | none => ⟨bull, bear, false, false⟩
  | some chain =>
      let near := nearStrikes chain.strikes price
      let below := near.filter fun row => decide (row.strike ≤ price)
      let above := near.filter fun row => decide (price ≤ row.strike)
      let grows := fun (rows : List OiStrike) (side : OiStrike → Option OiSide) =>
        (rows.any fun row => decide (0 < sideValue (side row) OiSide.oiChange)).toNat
      let shrinks := fun (rows : List OiStrike) (side : OiStrike → Option OiSide) =>
        (rows.any fun row => decide (sideValue (side row) OiSide.oiChange < 0)).toNat
      let surplus := fun (value : OiSide → ℚ) =>
        (near.map fun row => sideValue row.put value - sideValue row.call value).sum
      let balance := surplus OiSide.oiChange
      let velocity := surplus OiSide.oiVelocity
      { bull := bull + grows below OiStrike.put + shrinks above OiStrike.call +
          (decide (0 < balance)).toNat + (decide (0 < velocity)).toNat
        bear := bear + grows above OiStrike.call + shrinks below OiStrike.put +
          (decide (balance < 0)).toNat + (decide (velocity < 0)).toNat
        bullishWall := isWall near above OiStrike.call
        bearishWall := isWall near below.reverse OiStrike.put }

/-- The scores of a chain: which side holds more open interest, and a wall of calls above. -/
def derivativesScore (chain : Option OiChain) (spotPrice : ℚ) : DerivativesScore :=
  match chain with
  | none => ⟨0, 0, 0, 0⟩
  | some chain =>
      let interest := fun (rows : List OiStrike) (side : OiStrike → Option OiSide) =>
        (rows.map fun row => sideValue (side row) OiSide.openInterest).sum
      let puts := interest chain.strikes OiStrike.put
      let calls := interest chain.strikes OiStrike.call
      let above := (chain.strikes.filter fun row =>
        decide (chain.atmStrike.getD spotPrice < row.strike)).take 3
      let wall := interest above OiStrike.call
      { putOiSupport := if calls < puts then 1 else 0
        callOiWallPenalty := if 500000 < wall then -1 else 0
        callOiPressure := if puts < calls then 1 else 0
        callOiWallBonus := if 500000 < wall then 1 else 0 }

end Chain

/-! ### Features -/

/-- A completed candle of a real source, of an interval and as long as it, with an order to its
prices. -/
def isCompletedCandle (now : Int) (interval : String) (span : Int) (candle : MarketCandle) : Bool :=
  decide (candle.endTime ≤ now) &&
    decide (candle.source ∈ realSources ∧ candle.interval = interval ∧ 0 < candle.low ∧
      candle.low ≤ min candle.openPrice candle.close ∧
      max candle.openPrice candle.close ≤ candle.high ∧ candle.endTime - candle.startTime = span)

/-- `completed`: of the candles that start at one time the last is kept, and they are sorted. -/
def completed {Bar : Type} (candleOf : Bar → MarketCandle) (now : Int) (interval : String)
    (span : Int) (bars : List Bar) : List Bar :=
  let valid := bars.filter fun bar => isCompletedCandle now interval span (candleOf bar)
  let starts := (valid.map fun bar => (candleOf bar).startTime).dedup.insertionSort (· ≤ ·)
  starts.filterMap fun start =>
    (valid.filter fun bar => decide ((candleOf bar).startTime = start)).getLast?

/-- The interval of the futures candles: a quarter of an hour if any of them has it. -/
def futuresInterval (futures : List FuturesCandle) : String × Int :=
  if futures.any fun candle => decide (candle.interval = "15m") then ("15m", 900000000)
  else ("5m", 300000000)

/-- What the last two futures candles say of the positions that are built up. -/
def futuresBuildup (futures : List FuturesCandle) : String :=
  match lastItems 2 futures with
  | [previous, current] =>
      let priceChange := current.close - previous.close
      let oiChange := current.openInterest.getD 0 - previous.openInterest.getD 0
      if previous.openInterest.getD 0 = 0 ∨ current.openInterest.getD 0 = 0 then "NEUTRAL"
      else if 0 < priceChange ∧ 0 < oiChange then "LONG_BUILDUP"
      else if priceChange < 0 ∧ 0 < oiChange then "SHORT_BUILDUP"
      else if 0 < priceChange ∧ oiChange < 0 then "SHORT_COVERING"
      else if priceChange < 0 ∧ oiChange < 0 then "LONG_UNWINDING"
      else "NEUTRAL"
  | _ => "NEUTRAL"

/-- The lows, or the highs, that turn at a candle. -/
def swings (candles : List MarketCandle) (price : MarketCandle → ℚ) : List ℚ :=
  ((candles.zip (candles.drop 1)).zip (candles.drop 2)).filterMap fun triple =>
    if price triple.1.2 < price triple.1.1 ∧ price triple.1.2 ≤ price triple.2 then
      some (price triple.1.2)
    else none

/-- The last candle ended at most so long ago, and not in the future. -/
def isFresh (now age : Int) (candles : List MarketCandle) : Bool :=
  candles.getLast?.any fun last => decide (0 ≤ now - last.endTime ∧ now - last.endTime < age)

/-- The baseline of the trend. -/
def trendRegime (ema20 ema50 spotPrice slopeNorm : ℚ) : String :=
  if ema50 < ema20 ∧ ema20 < spotPrice ∧ 1 / 10 ≤ slopeNorm then "BULLISH"
  else if ema20 < ema50 ∧ spotPrice < ema20 ∧ slopeNorm ≤ -(1 / 10) then "BEARISH"
  else "NEUTRAL"

/-- The indicators of enough candles, or noughts. -/
def adxOf (candles : List MarketCandle) : ℚ × ℚ × ℚ :=
  if 29 ≤ candles.length then calculateAdx candles 14 else (0, 0, 0)

/-- The closes of candles, or the spot price where there are none. -/
def closesOf (candles : List MarketCandle) (spotPrice : ℚ) : List ℚ :=
  if candles = [] then [spotPrice] else candles.map fun candle => candle.close

/-- The features of completed candles. -/
def featuresOf (sqrt : ℚ → ℚ) (now : Int) (spotPrice : ℚ) (chain : Option OiChain)
    (candles5m candles15m : List MarketCandle) (futures : List FuturesCandle) : ComputedFeatures :=
  let closes5m := closesOf candles5m spotPrice
  let closes15m := closesOf candles15m spotPrice
  let bars := futures.map FuturesCandle.toMarketCandle
  let ema20 := calculateEma closes15m 20
  let ema50 := calculateEma closes15m 50
  let series := calculateEmaSeries closes15m 20
  let rawSlope := if 3 ≤ series.length then series.getLastD 0 - series.getD (series.length - 3) 0
    else 0
  let atr15m := if candles15m = [] then 0 else calculateAtr candles15m 14
  let atr5m := if candles5m = [] then 0 else calculateAtr candles5m 14
  let slopeNorm := if 0 < atr15m then rawSlope / atr15m else 0
  let adx15m := adxOf candles15m
  let adx5m := adxOf candles5m
  let vwap := calculateFuturesVwap bars
  let buildup := futuresBuildup futures
  let score := derivativesScore chain spotPrice
  let evidence := breakoutOiFeatures chain (closes5m.getLastD spotPrice) buildup
  let ready := decide (29 ≤ candles5m.length ∧ 50 ≤ candles15m.length ∧ 15 ≤ futures.length) &&
    isFresh now 300000000 candles5m && isFresh now 900000000 candles15m &&
    decide (0 < atr5m ∧ 0 < atr15m ∧ 0 < vwap)
  { timestamp := now
    spotPrice
    futuresPrice := (futures.getLast?.map fun last => last.close).getD 0
    futuresVwap := vwap
    closed5mPrice := candles5m.getLast?.map fun last => last.close
    closed5mTime := candles5m.getLast?.map fun last => last.endTime
    plusDi5m := adx5m.2.1
    minusDi5m := adx5m.2.2
    swingLow5m := (swings candles5m fun candle => candle.low).getLast?
    swingHigh5m := ((swings candles5m fun candle => -candle.high).getLast?).map fun low => -low
    ema95m := calculateEma closes5m 9
    ema205m := calculateEma closes5m 20
    rsi5m := calculateRsi closes5m 14
    atr5m
    supertrendDirection :=
      if candles5m = [] then "BULLISH" else calculateSupertrend candles5m 10 3
    futuresBuildup := buildup
    bullDerivativesScore := max 0 (score.putOiSupport + score.callOiWallPenalty)
    bearDerivativesScore := max 0 (score.callOiPressure + score.callOiWallBonus)
    breakoutBullDerivativesScore := evidence.bull
    breakoutBearDerivativesScore := evidence.bear
    breakoutDataReady :=
      decide (40 ≤ candles5m.length ∧ 0 < atr5m) && isFresh now 300000000 candles5m &&
        decide (futures = [] ∨ 15 ≤ futures.length)
    bbWidthPercentile := calculateBbPercentile sqrt closes5m 60
    rvol5m := calculateRvol bars
    bullishOiWall := evidence.bullishWall
    bearishOiWall := evidence.bearishWall
    futuresAtr5m := if 15 ≤ futures.length then calculateAtr bars 14 else 0
    dataReady := ready
    dataReason := if ready then ""
      else "Missing, stale, unaligned or insufficient real spot/futures candles"
    spotChangePct := 0
    ema915m := calculateEma closes15m 9
    ema2015m := ema20
    ema5015m := ema50
    ema20Slope15m := roundTo 2 rawSlope
    ema20SlopeNorm15m := roundTo 4 slopeNorm
    adx15m := adx15m.1
    plusDi15m := adx15m.2.1
    minusDi15m := adx15m.2.2
    atr15m
    dailyAtr := 165
    derivativesScoreComponents := score
    expectedDailyPoints := 165
    remainingSessionPoints := 95
    atmStraddlePrice := 215
    trendRegime := trendRegime ema20 ema50 spotPrice slopeNorm }

/-- `compute_all_features`, at a time. -/
def computeAllFeatures (sqrt : ℚ → ℚ) (candles5m candles15m : List MarketCandle)
    (futures : List FuturesCandle) (chain : Option OiChain) (spotPrice : ℚ) (asOf : Int) :
    ComputedFeatures :=
  -- the interval is looked up among all the futures candles, completed or not
  let interval := futuresInterval futures
  featuresOf sqrt asOf spotPrice chain (completed id asOf "5m" 300000000 candles5m)
    (completed id asOf "15m" 900000000 candles15m)
    (completed FuturesCandle.toMarketCandle asOf interval.1 interval.2 futures)

end FeatureEngine

end BreezeTrading
