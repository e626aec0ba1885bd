/-
This file models the data path of the futures signals: which candles are completed at a time, which
contract is the active one, and the features of the active stream, with the index of the last bar in
the window that was passed.
-/

import BreezeTrading.Lib.StableSort
import BreezeTrading.Strategy.Features
import Mathlib.Data.Prod.Lex
import Mathlib.Data.String.Basic

namespace BreezeTrading

/-! ### Completed candles -/

/-- `_ordered`: by start, end, contract and source. -/
def candleLe (first second : MarketCandle) : Prop :=
  first.startTime < second.startTime ∨ first.startTime = second.startTime ∧
    (first.endTime < second.endTime ∨ first.endTime = second.endTime ∧
      (first.instrumentId < second.instrumentId ∨ first.instrumentId = second.instrumentId ∧
        first.source ≤ second.source))

instance : DecidableRel candleLe := fun _ _ => inferInstanceAs (Decidable (_ ∨ _))

/-- What candles are ordered by. -/
def candleKey (candle : MarketCandle) : Int ×ₗ Int ×ₗ String ×ₗ String :=
  toLex (candle.startTime, toLex (candle.endTime, toLex (candle.instrumentId, candle.source)))

theorem candleLe_iff (first second : MarketCandle) :
    candleLe first second ↔ candleKey first ≤ candleKey second := by
  simp only [candleLe, candleKey, Prod.Lex.le_iff, ofLex_toLex]

instance : Std.Total candleLe := StableSort.total_of_key candleLe_iff

instance : IsTrans MarketCandle candleLe := StableSort.trans_of_key candleLe_iff

def ordered (candles : List MarketCandle) : List MarketCandle := candles.insertionSort candleLe

/-- A candle of an interval that has ended, with an order to its prices. -/
def isCompleted (asOf : Option Int) (interval : String) (candle : MarketCandle) : Bool :=
  decide (candle.interval = interval ∧ candle.startTime < candle.endTime ∧
    candle.endTime ≤ asOf.getD candle.endTime ∧
    max candle.openPrice candle.close ≤ candle.high ∧
    candle.low ≤ min candle.openPrice candle.close ∧ candle.low ≤ candle.high ∧
    0 ≤ candle.volume)

/-- `completed_futures_candles`, without a maximal age. -/
def completedFuturesCandles (candles : List MarketCandle) (asOf : Option Int) (interval : String) :
    List MarketCandle :=
  (ordered candles).filter (isCompleted asOf interval)

/-- The start of the quarter of an hour, in IST as in UTC. -/
def quarterStart (moment : Int) : Int := moment - moment % 900000000

/-- The candle of three five-minute bars from the start of their quarter. -/
def quarterCandle (start : Int) : List MarketCandle → Option MarketCandle
  | [first, second, third] =>
      if first.startTime = start ∧ second.startTime = start + 300000000 ∧
          third.startTime = start + 600000000 then
        some
          { startTime := start
            endTime := start + 900000000
            openPrice := first.openPrice
            high := max (max first.high second.high) third.high
            low := min (min first.low second.low) third.low
            close := third.close
            instrumentId := first.instrumentId
            interval := "15m"
            volume := first.volume + second.volume + third.volume
            source := first.source }
      else none
  | _ => none

/-- By contract and start. -/
def bucketLe (first second : String × Int) : Prop :=
  first.1 < second.1 ∨ first.1 = second.1 ∧ first.2 ≤ second.2

instance : DecidableRel bucketLe := fun _ _ => inferInstanceAs (Decidable (_ ∨ _))

/-- `aggregate_completed_15m`: exactly three contiguous completed bars make a candle. -/
def aggregateCompleted15m (candles5m : List MarketCandle) (asOf : Option Int) :
    List MarketCandle :=
  let source := completedFuturesCandles candles5m asOf "5m"
  let bucket := fun candle : MarketCandle => (candle.instrumentId, quarterStart candle.startTime)
  ((source.map bucket).dedup.insertionSort bucketLe).filterMap fun key =>
    quarterCandle key.2 (ordered (source.filter fun candle => decide (bucket candle = key)))

/-! ### Contracts -/

/-- The days from 1970-01-01 to a date. -/
def dayNumber (year month day : Nat) : Int :=
  let shifted : Int := if month ≤ 2 then year - 1 else year
  let fromMarch : Int := if month ≤ 2 then month + 9 else month - 3
  365 * shifted + shifted / 4 - shifted / 100 + shifted / 400 +
    (153 * fromMarch + 2) / 5 + day - 1 - 719468

def isLeapYear (year : Nat) : Bool :=
  decide (year % 4 = 0 ∧ (year % 100 ≠ 0 ∨ year % 400 = 0))

def daysInMonth (year month : Nat) : Nat :=
  if month = 2 then if isLeapYear year then 29 else 28
  else if month = 4 ∨ month = 6 ∨ month = 9 ∨ month = 11 then 30 else 31

/-- `date.fromisoformat` of the three numbers of a date. -/
def dateOf (year month day : Nat) : Except String Int :=
  if 1 ≤ year ∧ 1 ≤ month ∧ month ≤ 12 ∧ 1 ≤ day ∧ day ≤ daysInMonth year month then
    .ok (dayNumber year month day)
  else .error "ValueError"

/-- The number that digits write, or nothing of other characters. -/
def digitsValue (characters : List Char) : Option Nat :=
  if characters.all Char.isDigit then
    some (characters.foldl (fun value character => 10 * value + (character.toNat - 48)) 0)
  else none

/-- `FUT-` and a date at the start of a text. -/
def expiryPrefix (text : List Char) : Option (Nat × Nat × Nat) :=
  if (text.take 4).map Char.toUpper = ['F', 'U', 'T', '-'] ∧ text.length ≥ 14 ∧
      text.getD 8 ' ' = '-' ∧ text.getD 11 ' ' = '-' then
    (digitsValue ((text.drop 4).take 4)).bind fun year =>
      (digitsValue ((text.drop 9).take 2)).bind fun month =>
        (digitsValue ((text.drop 12).take 2)).map fun day => (year, month, day)
  else none

/-- `contract_expiry`: the first date behind `FUT-`, if there is one and if it is a date. -/
def contractExpiry (instrumentId : String) : Except String (Option Int) :=
  match instrumentId.toList.tails.findSome? expiryPrefix with
  | none => .ok none
  | some (year, month, day) => (dateOf year month day).map some

/-- A contract on the index, by its name. -/
def isNiftyFuture (instrumentId : String) : Bool :=
  (instrumentId.toList.map Char.toUpper).tails.any fun rest => "NIFTY-FUT-".toList.isPrefixOf rest

/-- The order of contracts: those with an expiry first, by expiry and then by name. -/
def contractLe (first second : String × Option Int) : Prop :=
  first.2.isSome = true ∧ second.2.isSome = false ∨ first.2.isSome = second.2.isSome ∧
    (first.2.getD 0 < second.2.getD 0 ∨ first.2.getD 0 = second.2.getD 0 ∧ first.1 ≤ second.1)

instance : DecidableRel contractLe := fun _ _ => inferInstanceAs (Decidable (_ ∨ _))

/-- `resolve_contracts`: the nearest contract that has not expired on the day of a time. -/
def resolveContracts (contracts : List (String × Option Int)) (asOf : Int) : Option String :=
  (((contracts.insertionSort contractLe).filter fun contract =>
    contract.2.all fun expiry => decide (istDay asOf ≤ expiry)).head?).map Prod.fst

/-- The contracts of candles, with their expiries. -/
def contractsOf (candles : List MarketCandle) : Except String (List (String × Option Int)) :=
  ((candles.map fun candle => candle.instrumentId).dedup.filter isNiftyFuture).mapM
    fun instrumentId => (contractExpiry instrumentId).map fun expiry => (instrumentId, expiry)

/-- A time at which the contract that is expected has no candle. -/
structure FuturesDataGap where
  timestamp : Int
  expectedContract : Option String
  deriving DecidableEq

/-- The candle of the expected contract that ends at a time. -/
def activeCandleAt (completed : List MarketCandle) (contracts : List (String × Option Int))
    (timestamp : Int) : Option MarketCandle :=
  (resolveContracts contracts timestamp).bind fun expected =>
    (ordered (completed.filter fun candle => decide (candle.endTime = timestamp))).find?
      fun candle => decide (candle.instrumentId = expected)

/-- The times at which candles end, in their order. -/
def endTimes (candles : List MarketCandle) : List Int :=
  (candles.map fun candle => candle.endTime).dedup.insertionSort (· ≤ ·)

/-- `canonical_active_futures_stream_with_diagnostics`. -/
def canonicalStreamWithDiagnostics (candles : List MarketCandle) (asOf : Option Int)
    (interval : String) : Except String (List MarketCandle × List FuturesDataGap) :=
  let completed := completedFuturesCandles candles asOf interval
  (contractsOf completed).map fun contracts =>
    ((endTimes completed).filterMap (activeCandleAt completed contracts),
      ((endTimes completed).filter fun timestamp =>
        (activeCandleAt completed contracts timestamp).isNone).map fun timestamp =>
          ⟨timestamp, resolveContracts contracts timestamp⟩)

def canonicalActiveFuturesStream (candles : List MarketCandle) (asOf : Option Int)
    (interval : String) : Except String (List MarketCandle) :=
  (canonicalStreamWithDiagnostics candles asOf interval).map Prod.fst

/-! ### Features -/

inductive PivotKind where
  | support
  | resistance
  deriving DecidableEq, Repr

structure ConfirmedPivot where
  kind : PivotKind
  price : ℚ
  pivotTimestamp : Int
  confirmedAt : Int
  barIndex : Nat
  deriving DecidableEq

/-- All inputs of Strategy A at one completed futures bar. -/
structure FuturesFeatureSnapshot where
  contractId : String
  candleTimestamp : Int
  candleStart : Int
  openPrice : ℚ
  high : ℚ
  low : ℚ
  close : ℚ
  ema20 : ℚ
  ema50 : ℚ
  adx14 : ℚ
  plusDi14 : ℚ
  minusDi14 : ℚ
  atr14 : ℚ
  sessionVwap : ℚ
  support : Option ℚ
  resistance : Option ℚ
  pivots : List ConfirmedPivot
  barIndex : Nat
  deriving DecidableEq

namespace FuturesFeatureEngine

/-- The average of the first value is the value itself. -/
def ema (period : Nat) : List ℚ → ℚ
  | [] => 0
  | first :: rest =>
      let alpha : ℚ := 2 / (period + 1)
      rest.foldl (fun value item => alpha * item + (1 - alpha) * value) first

/-- `_true_ranges`, from the close before. -/
def trueRangesFrom : Option ℚ → List MarketCandle → List ℚ
  | _, [] => []
  | previousClose, candle :: rest =>
      max (max (candle.high - candle.low)
            ((previousClose.map fun close => |candle.high - close|).getD 0))
          ((previousClose.map fun close => |candle.low - close|).getD 0) ::
        trueRangesFrom (some candle.close) rest

/-- Wilder's average: the mean of a first period, then smoothed. -/
def wilder (period : Nat) (values : List ℚ) : ℚ :=
  (values.drop period).foldl (fun smoothed value => (smoothed * (period - 1) + value) / period)
    ((values.take period).sum / period)

def atr (period : Nat) (candles : List MarketCandle) : ℚ :=
  let values := trueRangesFrom none candles
  if values = [] then 0
  else if values.length < period then values.sum / values.length
  else wilder period values

/-- The true range and the directional moves of a bar after another one. -/
structure Movement where
  range : ℚ
  plus : ℚ
  minus : ℚ

def movementOf (previous current : MarketCandle) : Movement :=
  let up := current.high - previous.high
  let down := previous.low - current.low
  { range := max (max (current.high - current.low) |current.high - previous.close|)
      |current.low - previous.close|
    plus := if down < up ∧ 0 < up then up else 0
    minus := if up < down ∧ 0 < down then down else 0 }

/-- The sums of a first period. -/
def firstSums (movements : List Movement) : Movement where
  range := (movements.map Movement.range).sum
  plus := (movements.map Movement.plus).sum
  minus := (movements.map Movement.minus).sum

def smoothSums (period : Nat) (sums next : Movement) : Movement where
  range := sums.range - sums.range / period + next.range
  plus := sums.plus - sums.plus / period + next.plus
  minus := sums.minus - sums.minus / period + next.minus

/-- The directional indicators of the sums. -/
def directional (sums : Movement) : ℚ × ℚ :=
  if sums.range = 0 then (0, 0)
  else (100 * sums.plus / sums.range, 100 * sums.minus / sums.range)

def directionalIndex (sums : Movement) : ℚ :=
  let latest := directional sums
  if latest.1 + latest.2 = 0 then 0 else 100 * |latest.1 - latest.2| / (latest.1 + latest.2)

/-- `adx_di`: the average directional index, and the two indicators. Until there is a full period of
indices the average is nought. -/
def adxDi (period : Nat) (candles : List MarketCandle) : ℚ × ℚ × ℚ :=
  let movements := (candles.zip candles.tail).map fun pair => movementOf pair.1 pair.2
  if movements.length < period then (0, 0, 0)
  else
    let sums :=
      (movements.drop period).scanl (smoothSums period) (firstSums (movements.take period))
    let latest := directional (sums.getLastD ⟨0, 0, 0⟩)
    let indices := sums.map directionalIndex
    (if indices.length < period then 0 else wilder period indices, latest.1, latest.2)

/-- The volume-weighted price of the session of the last candle. -/
def sessionVwap (candles : List MarketCandle) : ℚ :=
  match candles.getLast? with
  | none => 0
  | some last =>
      let session := candles.filter fun candle =>
        decide (istDay candle.startTime = istDay last.startTime)
      let value := (session.map fun candle =>
        (candle.high + candle.low + candle.close) / 3 * (max candle.volume 0 : ℚ)).sum
      let volume := (session.map fun candle => (max candle.volume 0 : ℚ)).sum
      if volume = 0 then last.close else value / volume

/-- The pivots of a bar with two bars on either side: below it or above it strictly, and after it
not. -/
def pivotsAt (candles : List MarketCandle) (width index : Nat) : List ConfirmedPivot :=
  let left := (candles.take index).drop (index - width)
  let right := (candles.drop (index + 1)).take width
  match candles[index]?, candles[index + width]? with
  | some current, some confirming =>
      (if left.all (fun candle => decide (current.low < candle.low)) &&
          right.all (fun candle => decide (current.low ≤ candle.low)) then
        [⟨.support, current.low, current.endTime, confirming.endTime, index⟩] else []) ++
      if left.all (fun candle => decide (candle.high < current.high)) &&
          right.all (fun candle => decide (candle.high ≤ current.high)) then
        [⟨.resistance, current.high, current.endTime, confirming.endTime, index⟩] else []
  | _, _ => []

def confirmedPivots (candles : List MarketCandle) (width : Nat) : List ConfirmedPivot :=
  (List.range' width (candles.length - 2 * width)).flatMap (pivotsAt candles width)

/-- The features of the last bar of a stream. -/
def snapshotOf (bars : List MarketCandle) (last : MarketCandle) : FuturesFeatureSnapshot :=
  let pivots :=
    (confirmedPivots bars 2).filter fun pivot => decide (pivot.confirmedAt ≤ last.endTime)
  let indicators := adxDi 14 bars
  { contractId := last.instrumentId
    candleTimestamp := last.endTime
    candleStart := last.startTime
    openPrice := last.openPrice
    high := last.high
    low := last.low
    close := last.close
    ema20 := ema 20 (bars.map fun bar => bar.close)
    ema50 := ema 50 (bars.map fun bar => bar.close)
    adx14 := indicators.1
    plusDi14 := indicators.2.1
    minusDi14 := indicators.2.2
    atr14 := atr 14 bars
    sessionVwap := sessionVwap bars
    support := ((pivots.filter fun pivot =>
      decide (pivot.kind = .support ∧ pivot.price ≤ last.close)).map ConfirmedPivot.price).max?
    resistance := ((pivots.filter fun pivot =>
      decide (pivot.kind = .resistance ∧ last.close ≤ pivot.price)).map ConfirmedPivot.price).min?
    pivots
    -- the index is the one in this window, wherever the window starts
    barIndex := bars.length - 1 }

def build (candles : List MarketCandle) (asOf : Option Int) :
    Except String FuturesFeatureSnapshot :=
  (canonicalActiveFuturesStream candles asOf "15m").bind fun bars =>
    match bars.getLast? with
    | none => .error "at least one completed 15m futures candle is required"
    | some last => .ok (snapshotOf bars last)

end FuturesFeatureEngine

end BreezeTrading
