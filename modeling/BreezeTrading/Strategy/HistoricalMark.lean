/-
This file embeds the historical mark of an option: the close of the candle that ended last by the
time of an event. Candles come in any order, some of them without an offset from UTC, with their
times reversed or without a price.
-/

import BreezeTrading.Lib.Ranking
import Mathlib.Algebra.Order.Field.Rat

namespace BreezeTrading

namespace HistoricalMark

open Ranking

/-! ### The mark -/

/-- A time on the wall, with its offset from UTC unless it is naive. -/
structure Timestamp where
  wall : Int
  offset : Option Int

/-- A float. -/
inductive Close where
  | finite (price : ℚ)
  | infinite (negative : Bool)
  | nan

/-- Not above nought, which is false of no number at all. -/
def Close.notPositive : Close → Bool
  | .finite price => decide (price ≤ 0)
  | .infinite negative => negative
  | .nan => false

def Close.isFinite : Close → Bool
  | .finite _ => true
  | _ => false

structure Candle where
  startTime : Timestamp
  endTime : Timestamp
  close : Close

/-- `_utc_timestamp`: none of a naive time. -/
def utcTimestamp (value : Timestamp) : Option Int := value.offset.map (value.wall - ·)

/-- An eligible candle, with its end and its start. -/
def eligible (event : Int) (candle : Candle) : Option (Int × Int × Candle) :=
  (utcTimestamp candle.startTime).bind fun start =>
    (utcTimestamp candle.endTime).bind fun ended =>
      if ended < start || event < ended || candle.close.notPositive || !candle.close.isFinite then
        none
      else some (ended, start, candle)

/-- `_historical_candle_at`: the first of the candles that end last, and of these start last. -/
def historicalCandleAt (candles : List Candle) (timestamp : Option Timestamp) : Option Candle :=
  (timestamp.bind utcTimestamp).bind fun event =>
    (leastBy (fun item => OrderDual.toDual (toLex (item.1, item.2.1)))
      (candles.filterMap (eligible event))).map fun item => item.2.2

def historicalCloseAt (candles : List Candle) (timestamp : Option Timestamp) : Option Close :=
  (historicalCandleAt candles timestamp).map Candle.close

/-! ### The latest that was known -/

/-- A candle that ends by an event, with a price. -/
structure EndsBy (event : Int) (candle : Candle) (ended : Int) : Prop where
  ends : utcTimestamp candle.endTime = some ended
  byThen : ended ≤ event
  priced : ∃ price, 0 < price ∧ candle.close = .finite price

/-- One that has a start as well, and not after its end. -/
structure CompletedBy (event : Int) (candle : Candle) (ended : Int) : Prop
    extends EndsBy event candle ended where
  starts : ∃ start ≤ ended, utcTimestamp candle.startTime = some start

/-- The candle that ends last of those that were complete by the time of an event. -/
def IsLatest (candles : List Candle) (timestamp : Option Timestamp) (candle : Candle) : Prop :=
  candle ∈ candles ∧ ∃ event, timestamp.bind utcTimestamp = some event ∧
    ∃ ended, CompletedBy event candle ended ∧
      ∀ other ∈ candles, ∀ later, CompletedBy event other later → later ≤ ended

variable {candles : List Candle} {timestamp : Option Timestamp} {event : Int} {candle : Candle}

theorem priced_iff (close : Close) :
    close.notPositive = false ∧ close.isFinite = true ↔
      ∃ price, 0 < price ∧ close = .finite price := by
  cases close with
  | finite price => simp [Close.notPositive, Close.isFinite]
  | infinite | nan => simp [Close.isFinite]

theorem eligible_eq_some_iff {item : Int × Int × Candle} :
    eligible event candle = some item ↔
      CompletedBy event candle item.1 ∧ utcTimestamp candle.startTime = some item.2.1 ∧
        item.2.2 = candle := by
  have passes (start ended : Int) : (ended < start || event < ended || candle.close.notPositive ||
      !candle.close.isFinite) = false ↔
      (start ≤ ended ∧ ended ≤ event) ∧ ∃ price, 0 < price ∧ candle.close = .finite price := by
    rw [← priced_iff, Bool.or_assoc, Bool.or_eq_false_iff, Bool.or_eq_false_iff,
      Bool.or_eq_false_iff, decide_eq_false_iff_not, decide_eq_false_iff_not, not_lt, not_lt,
      Bool.not_eq_false']
  simp only [eligible, Option.bind_eq_some_iff]
  constructor
  · rintro ⟨start, starts, ended, ends, kept⟩
    split at kept
    · cases kept
    rename_i kept_on
    cases kept
    obtain ⟨⟨before, byThen⟩, priced⟩ :=
      (passes start ended).mp (Bool.eq_false_of_not_eq_true kept_on)
    exact ⟨⟨⟨ends, byThen, priced⟩, start, before, starts⟩, starts, rfl⟩
  · rintro ⟨⟨⟨ends, byThen, priced⟩, start, before, startsAt⟩, starts, same⟩
    obtain rfl := Option.some.inj (startsAt.symm.trans starts)
    refine ⟨_, starts, _, ends, ?_⟩
    rw [(passes _ _).mpr ⟨⟨before, byThen⟩, priced⟩, ← same]
    rfl

theorem isLatest_historicalCandleAt (found : historicalCandleAt candles timestamp = some candle) :
    IsLatest candles timestamp candle := by
  obtain ⟨event, isEvent, chosen⟩ := Option.bind_eq_some_iff.mp found
  obtain ⟨best, isBest, rfl⟩ := Option.map_eq_some_iff.mp chosen
  obtain ⟨source, member, isEligible⟩ := List.mem_filterMap.mp (List.argmin_mem isBest)
  obtain ⟨completed, -, same⟩ := eligible_eq_some_iff.mp isEligible
  refine ⟨same ▸ member, event, isEvent, best.1, same ▸ completed,
    fun other isOther later ends => ?_⟩
  obtain ⟨start, -, starts⟩ := ends.starts
  have competes : (later, start, other) ∈ candles.filterMap (eligible event) :=
    List.mem_filterMap.mpr ⟨other, isOther, eligible_eq_some_iff.mpr ⟨ends, starts, rfl⟩⟩
  exact Prod.Lex.monotone_fst _ _
    (OrderDual.toDual_le_toDual.mp (List.le_of_mem_argmin competes isBest))

theorem eligible_eq_none_iff :
    eligible event candle = none ↔ ∀ ended, ¬CompletedBy event candle ended := by
  rw [Option.eq_none_iff_forall_ne_some]
  constructor
  · intro refused ended completed
    obtain ⟨start, -, starts⟩ := completed.starts
    exact refused (ended, start, candle) (eligible_eq_some_iff.mpr ⟨completed, starts, rfl⟩)
  · exact fun never item passes => never item.1 (eligible_eq_some_iff.mp passes).1

/-- The mark of an event is the candle that ended last of those that were complete by then, and
there is none where none was or the event has no time; and its price was known at the event. -/
theorem historicalCandleAt_latest (candles : List Candle) (timestamp : Option Timestamp) :
    (∀ candle, historicalCandleAt candles timestamp = some candle →
      IsLatest candles timestamp candle) ∧
    (historicalCandleAt candles timestamp = none ↔
      ∀ event, timestamp.bind utcTimestamp = some event →
        ∀ candle ∈ candles, ∀ ended, ¬CompletedBy event candle ended) ∧
    ∀ close, historicalCloseAt candles timestamp = some close →
      ∃ candle, IsLatest candles timestamp candle ∧ candle.close = close := by
  refine ⟨fun candle => isLatest_historicalCandleAt, ?_, fun close found => ?_⟩
  · rw [historicalCandleAt, Option.bind_eq_none_iff]
    refine forall_congr' fun event => imp_congr_right fun _ => ?_
    rw [Option.map_eq_none_iff, List.argmin_eq_none, List.filterMap_eq_nil_iff]
    exact forall₂_congr fun candle _ => eligible_eq_none_iff
  · obtain ⟨candle, marked, rfl⟩ := Option.map_eq_some_iff.mp found
    exact ⟨candle, isLatest_historicalCandleAt marked, rfl⟩

/-- A candle whose start is after its end. -/
def reversedCandle : Candle := ⟨⟨10, some 0⟩, ⟨5, some 0⟩, .finite 100⟩

/-- It ended by the event, with a price, and is passed over. -/
theorem reversed_candle_passed_over :
    historicalCandleAt [reversedCandle] (some ⟨10, some 0⟩) = none ∧
      ¬∀ candles timestamp event, timestamp.bind utcTimestamp = some event →
        historicalCandleAt candles timestamp = none →
          ∀ candle ∈ candles, ∀ ended, ¬EndsBy event candle ended := by
  have passed : historicalCandleAt [reversedCandle] (some ⟨10, some 0⟩) = none := rfl
  refine ⟨passed, fun every => ?_⟩
  exact every [reversedCandle] (some ⟨10, some 0⟩) 10 rfl passed reversedCandle List.mem_cons_self 5
    ⟨rfl, by decide, 100, by decide, rfl⟩

end HistoricalMark

end BreezeTrading
