/-
This file compares the three functions that make fifteen-minute bars of five-minute ones. They
bucket by clocks of their own and filter differently. Of candles that do not overlap and whose
prices are in order, each makes one bar of each three contiguous candles of a quarter of an hour,
and none otherwise.
-/

import BreezeTrading.Strategy.FuturesSignal
import Mathlib.Data.List.Pairwise

namespace BreezeTrading

open StableSort

/-! ### Clocks -/

/-- The start of the quarter by the minute of the hour. -/
def rawMinuteStart (moment : Int) : Int :=
  moment - moment % 3600000000 + moment % 3600000000 / 60000000 / 15 * 15 * 60000000

/-- The start of the quarter by the minute of the hour in IST, which is half an hour off. -/
def istQuarterStart (moment : Int) : Int := rawMinuteStart (moment + 19800000000) - 19800000000

theorem rawMinuteStart_eq (moment : Int) : rawMinuteStart moment = quarterStart moment := by
  unfold rawMinuteStart quarterStart
  omega

theorem istQuarterStart_eq (moment : Int) : istQuarterStart moment = quarterStart moment := by
  unfold istQuarterStart rawMinuteStart quarterStart
  omega

/-! ### The other aggregators -/

/-- By start only. -/
def startLe (first second : MarketCandle) : Prop := first.startTime ≤ second.startTime

instance : DecidableRel startLe := fun _ _ => inferInstanceAs (Decidable (_ ≤ _))

instance : Std.Total startLe := ⟨fun first second => le_total first.startTime second.startTime⟩

instance : IsTrans MarketCandle startLe := ⟨fun _ _ _ => le_trans⟩

theorem startTime_le_of_startLe (first second : MarketCandle) (before : startLe first second) :
    first.startTime ≤ second.startTime := before

theorem startTime_le_of_candleLe (first second : MarketCandle) (before : candleLe first second) :
    first.startTime ≤ second.startTime := by
  rcases before with less | ⟨same, -⟩
  · exact less.le
  · exact same.le

/-- Bars of the candles that a clock puts together, as far as three contiguous ones are there. -/
def resample (clock : Int → Int) (sourceOf : MarketCandle → String)
    (candles5m : List MarketCandle) (instrumentId : String) : List MarketCandle :=
  (distinct (candles5m.map fun candle => clock candle.startTime)).filterMap fun start =>
    (quarterCandle start ((candles5m.filter fun candle =>
      decide (clock candle.startTime = start)).insertionSort startLe)).map fun bar =>
        { bar with instrumentId, source := sourceOf bar }

/-- `_resample_to_15m` of the historical service: by the raw minute, as bars of Breeze. -/
def HistoricalService.resampleTo15m : List MarketCandle → String → List MarketCandle :=
  resample rawMinuteStart fun _ => "BREEZE"

/-- `resample_to_15m` of the simulator: in IST, with the source of the first candle. -/
def SimulationEngine.resampleTo15m : List MarketCandle → String → List MarketCandle :=
  resample istQuarterStart fun bar => bar.source

/-! ### Triples -/

@[mk_iff]
structure IsFiveMinutes (candle : MarketCandle) : Prop where
  interval : candle.interval = "5m"
  span : candle.endTime = candle.startTime + 300000000
  volume : 0 ≤ candle.volume

instance (candle : MarketCandle) : Decidable (IsFiveMinutes candle) :=
  decidable_of_iff' _ (isFiveMinutes_iff candle)

/-- Candles of five minutes, no two of one contract with the same start. -/
structure FiveMinuteCandles (candles : List MarketCandle) : Prop where
  each : ∀ candle ∈ candles, IsFiveMinutes candle
  distinctStarts : candles.Pairwise fun first second =>
    first.instrumentId = second.instrumentId → first.startTime ≠ second.startTime

/-- Open and close are between the low and the high. -/
@[mk_iff]
structure PricesInOrder (candle : MarketCandle) : Prop where
  openInside : candle.low ≤ candle.openPrice ∧ candle.openPrice ≤ candle.high
  closeInside : candle.low ≤ candle.close ∧ candle.close ≤ candle.high

instance (candle : MarketCandle) : Decidable (PricesInOrder candle) :=
  decidable_of_iff' _ (pricesInOrder_iff candle)

/-- Candles of one contract do not overlap. -/
def Apart (first second : MarketCandle) : Prop :=
  first.instrumentId = second.instrumentId →
    first.endTime ≤ second.startTime ∨ second.endTime ≤ first.startTime

instance : DecidableRel Apart := fun _ _ => inferInstanceAs (Decidable (_ → _))

/-- Candles of five minutes with their prices in order that do not overlap within a contract. -/
structure WellFormed (candles : List MarketCandle) : Prop extends FiveMinuteCandles candles where
  prices : ∀ candle ∈ candles, PricesInOrder candle
  apart : candles.Pairwise Apart

/-- Three contiguous candles of one contract from the start of a quarter of an hour. -/
structure IsTriple (candles : List MarketCandle) (first second third : MarketCandle) : Prop where
  inFirst : first ∈ candles
  inSecond : second ∈ candles
  inThird : third ∈ candles
  sameSecond : second.instrumentId = first.instrumentId
  sameThird : third.instrumentId = first.instrumentId
  aligned : quarterStart first.startTime = first.startTime
  secondStart : second.startTime = first.startTime + 300000000
  thirdStart : third.startTime = first.startTime + 600000000

/-- The first open, the highest high, the lowest low, the last close and all of the volume. -/
def tripleCandle (first second third : MarketCandle) : MarketCandle where
  startTime := first.startTime
  endTime := first.startTime + 900000000
  openPrice := first.openPrice
  high := max (max first.high second.high) third.high
  low := min (min first.low second.low) third.low
  close := third.close
  instrumentId := first.instrumentId
  interval := "15m"
  volume := first.volume + second.volume + third.volume
  source := first.source

theorem quarterCandle_eq_some_iff {start : Int} {candles : List MarketCandle} {bar : MarketCandle} :
    quarterCandle start candles = some bar ↔
      ∃ first second third, candles = [first, second, third] ∧ first.startTime = start ∧
        second.startTime = start + 300000000 ∧ third.startTime = start + 600000000 ∧
        tripleCandle first second third = bar := by
  constructor
  · intro isBar
    unfold quarterCandle at isBar
    split at isBar
    · rename_i first second third
      split at isBar
      · rename_i contiguous
        obtain ⟨rfl, atSecond, atThird⟩ := contiguous
        exact ⟨first, second, third, rfl, rfl, atSecond, atThird, Option.some.inj isBar⟩
      · cases isBar
    · cases isBar
  · rintro ⟨first, second, third, rfl, rfl, atSecond, atThird, rfl⟩
    exact if_pos ⟨rfl, atSecond, atThird⟩

/-! ### Buckets -/

section Bucket

variable {bucket : List MarketCandle} {start : Int} {bar : MarketCandle}

/-- Candles of one contract that do not overlap and start within a quarter of an hour. -/
structure IsBucket (start : Int) (bucket : List MarketCandle) : Prop where
  each : ∀ candle ∈ bucket, IsFiveMinutes candle
  apart : bucket.Pairwise Apart
  oneContract : ∀ first ∈ bucket, ∀ second ∈ bucket, first.instrumentId = second.instrumentId
  within : ∀ candle ∈ bucket, start ≤ candle.startTime ∧ candle.startTime < start + 900000000

instance : Std.Symm Apart := ⟨fun _ _ apart same => (apart same.symm).symm⟩

section

variable (isBucket : IsBucket start bucket)

include isBucket

theorem IsBucket.nodup : bucket.Nodup := by
  refine isBucket.apart.imp_of_mem ?_
  rintro first second isFirst - apart rfl
  have span := (isBucket.each first isFirst).span
  rcases apart rfl with before | before <;> omega

theorem IsBucket.five_minutes_apart {first second : MarketCandle} (isFirst : first ∈ bucket)
    (isSecond : second ∈ bucket) (different : first ≠ second) :
    first.startTime + 300000000 ≤ second.startTime ∨
      second.startTime + 300000000 ≤ first.startTime := by
  have spanFirst := (isBucket.each first isFirst).span
  have spanSecond := (isBucket.each second isSecond).span
  have apart := isBucket.apart.forall isFirst isSecond different
    (isBucket.oneContract first isFirst second isSecond)
  omega

theorem IsBucket.eq_of_startTime {first second : MarketCandle} (isFirst : first ∈ bucket)
    (isSecond : second ∈ bucket) (same : first.startTime = second.startTime) : first = second := by
  by_contra different
  have apart := isBucket.five_minutes_apart isFirst isSecond different
  omega

theorem IsBucket.mem_iff {first second third : MarketCandle} (isFirst : first ∈ bucket)
    (isSecond : second ∈ bucket) (isThird : third ∈ bucket) (atFirst : first.startTime = start)
    (atSecond : second.startTime = start + 300000000)
    (atThird : third.startTime = start + 600000000) (candle : MarketCandle) :
    candle ∈ bucket ↔ candle ∈ [first, second, third] := by
  constructor
  · intro member
    by_contra other
    simp only [List.mem_cons, List.not_mem_nil, or_false, not_or] at other
    have inside := isBucket.within candle member
    have afterFirst := isBucket.five_minutes_apart member isFirst other.1
    have afterSecond := isBucket.five_minutes_apart member isSecond other.2.1
    have afterThird := isBucket.five_minutes_apart member isThird other.2.2
    omega
  · intro member
    simp only [List.mem_cons, List.not_mem_nil, or_false] at member
    rcases member with rfl | rfl | rfl
    · exact isFirst
    · exact isSecond
    · exact isThird

end

variable {le : MarketCandle → MarketCandle → Prop} [DecidableRel le] [Std.Total le]
  [IsTrans MarketCandle le]

theorem quarterCandle_bucket_iff (isBucket : IsBucket start bucket)
    (byStart : ∀ first second, le first second → first.startTime ≤ second.startTime) :
    quarterCandle start (bucket.insertionSort le) = some bar ↔
      ∃ first ∈ bucket, ∃ second ∈ bucket, ∃ third ∈ bucket, first.startTime = start ∧
        second.startTime = start + 300000000 ∧ third.startTime = start + 600000000 ∧
        tripleCandle first second third = bar := by
  rw [quarterCandle_eq_some_iff]
  constructor
  · rintro ⟨first, second, third, sorted, atFirst, atSecond, atThird, same⟩
    have inBucket : ∀ candle ∈ [first, second, third], candle ∈ bucket := fun candle member =>
      (List.mem_insertionSort le).mp (sorted ▸ member)
    exact ⟨first, inBucket first (by simp), second, inBucket second (by simp), third,
      inBucket third (by simp), atFirst, atSecond, atThird, same⟩
  · rintro ⟨first, isFirst, second, isSecond, third, isThird, atFirst, atSecond, atThird, same⟩
    refine ⟨first, second, third, ?_, atFirst, atSecond, atThird, same⟩
    have before {earlier later : MarketCandle} (less : earlier.startTime < later.startTime) :
        le earlier later := by
      refine (total_of le earlier later).elim id fun back => ?_
      exact absurd (byStart later earlier back) (not_le.mpr less)
    have nodup : [first, second, third].Nodup := by
      simp only [List.nodup_cons, List.mem_cons, List.not_mem_nil, or_false, not_or,
        not_false_eq_true, List.nodup_nil, and_true]
      refine ⟨⟨?_, ?_⟩, ?_⟩ <;> rintro rfl <;> omega
    have perm : bucket.Perm [first, second, third] :=
      (List.perm_ext_iff_of_nodup isBucket.nodup nodup).mpr
        (isBucket.mem_iff isFirst isSecond isThird atFirst atSecond atThird)
    have sorted : [first, second, third].Pairwise le := by
      simp only [List.pairwise_cons, List.mem_cons, List.not_mem_nil, or_false, forall_eq_or_imp,
        forall_eq, false_imp_iff, implies_true, List.Pairwise.nil, and_true]
      exact ⟨⟨before (by omega), before (by omega)⟩, before (by omega)⟩
    rw [insertionSort_eq_of_perm perm fun one isOne other isOther forth back =>
      isBucket.eq_of_startTime isOne isOther (le_antisymm (byStart _ _ forth) (byStart _ _ back))]
    exact sorted.insertionSort_eq

end Bucket

/-! ### The bars of the futures signals -/

section Signals

variable {candles : List MarketCandle} {asOf : Option Int} {key : String × Int}
  {bar : MarketCandle}

/-- What candles are put together by. -/
def bucketKey (candle : MarketCandle) : String × Int :=
  (candle.instrumentId, quarterStart candle.startTime)

/-- The bar of a bucket of the candles that are completed. -/
def quarterOf (candles : List MarketCandle) (asOf : Option Int) (key : String × Int) :
    Option MarketCandle :=
  quarterCandle key.2 (ordered ((completedFuturesCandles candles asOf "5m").filter fun candle =>
    decide (bucketKey candle = key)))

theorem isCompleted_iff {candle : MarketCandle} (five : IsFiveMinutes candle)
    (prices : PricesInOrder candle) :
    isCompleted asOf "5m" candle = true ↔ candle.endTime ≤ asOf.getD candle.endTime := by
  obtain ⟨interval, span, volume⟩ := five
  obtain ⟨⟨lowOpen, openHigh⟩, ⟨lowClose, closeHigh⟩⟩ := prices
  have starts : candle.startTime < candle.endTime := by omega
  rw [isCompleted, decide_eq_true_eq]
  exact ⟨fun both => both.2.2.1, fun ended => ⟨interval, starts, ended, max_le openHigh closeHigh,
    le_min lowOpen lowClose, lowOpen.trans openHigh, volume⟩⟩

/-- The candles of a bucket that are completed. -/
def completedBucket (candles : List MarketCandle) (asOf : Option Int) (key : String × Int) :
    List MarketCandle :=
  (candles.filter (isCompleted asOf "5m")).filter fun candle => decide (bucketKey candle = key)

theorem mem_completedBucket (wellFormed : WellFormed candles) {candle : MarketCandle} :
    candle ∈ completedBucket candles asOf key ↔
      candle ∈ candles ∧ candle.endTime ≤ asOf.getD candle.endTime ∧ bucketKey candle = key := by
  unfold completedBucket
  rw [List.mem_filter, List.mem_filter, decide_eq_true_eq, and_assoc]
  exact and_congr_right fun member => and_congr_left fun _ =>
    isCompleted_iff (wellFormed.each candle member) (wellFormed.prices candle member)

theorem quarterStart_bounds (moment : Int) :
    quarterStart moment ≤ moment ∧ moment < quarterStart moment + 900000000 := by
  unfold quarterStart
  omega

theorem isBucket_completedBucket (wellFormed : WellFormed candles) (asOf : Option Int)
    (key : String × Int) : IsBucket key.2 (completedBucket candles asOf key) where
  each candle member := wellFormed.each candle ((mem_completedBucket wellFormed).mp member).1
  apart := (wellFormed.apart.filter _).filter _
  oneContract first isFirst second isSecond := by
    have ofFirst := ((mem_completedBucket wellFormed).mp isFirst).2.2
    have ofSecond := ((mem_completedBucket wellFormed).mp isSecond).2.2
    exact congrArg Prod.fst (ofFirst.trans ofSecond.symm)
  within candle member := by
    obtain ⟨-, -, rfl⟩ := (mem_completedBucket wellFormed).mp member
    exact quarterStart_bounds candle.startTime

theorem quarterOf_eq : quarterOf candles asOf key =
    quarterCandle key.2 ((completedBucket candles asOf key).insertionSort candleLe) := by
  unfold quarterOf completedFuturesCandles completedBucket ordered
  rw [filter_insertionSort, filter_insertionSort]
  exact congrArg _ (List.pairwise_insertionSort candleLe _).insertionSort_eq

theorem ended_mono {earlier later : Int} (order : earlier ≤ later)
    (ended : later ≤ asOf.getD later) : earlier ≤ asOf.getD earlier := by
  cases asOf with
  | none => exact le_rfl
  | some time => exact order.trans ended

theorem quarterStart_of_aligned {start moment : Int} (aligned : quarterStart start = start)
    (after : start ≤ moment) (inside : moment < start + 900000000) :
    quarterStart moment = start := by
  unfold quarterStart at aligned ⊢
  omega

theorem IsTriple.bucketKeys {first second third : MarketCandle}
    (triple : IsTriple candles first second third) :
    bucketKey first = (first.instrumentId, first.startTime) ∧
      bucketKey second = (first.instrumentId, first.startTime) ∧
      bucketKey third = (first.instrumentId, first.startTime) := by
  obtain ⟨-, -, -, sameSecond, sameThird, aligned, secondStart, thirdStart⟩ := triple
  refine ⟨Prod.ext rfl aligned, Prod.ext sameSecond ?_, Prod.ext sameThird ?_⟩
  · exact quarterStart_of_aligned aligned (by omega) (by omega)
  · exact quarterStart_of_aligned aligned (by omega) (by omega)

theorem quarterOf_eq_some_iff (wellFormed : WellFormed candles) :
    quarterOf candles asOf key = some bar ↔
      ∃ first second third, IsTriple candles first second third ∧
        third.endTime ≤ asOf.getD third.endTime ∧ key = (first.instrumentId, first.startTime) ∧
        tripleCandle first second third = bar := by
  rw [quarterOf_eq, quarterCandle_bucket_iff (isBucket_completedBucket wellFormed asOf key)
    startTime_le_of_candleLe]
  constructor
  · rintro ⟨first, isFirst, second, isSecond, third, isThird, atFirst, atSecond, atThird, same⟩
    obtain ⟨inFirst, -, keyFirst⟩ := (mem_completedBucket wellFormed).mp isFirst
    obtain ⟨inSecond, -, keySecond⟩ := (mem_completedBucket wellFormed).mp isSecond
    obtain ⟨inThird, ended, keyThird⟩ := (mem_completedBucket wellFormed).mp isThird
    have keyed : key = (first.instrumentId, first.startTime) := by
      rw [atFirst, ← keyFirst]
      rfl
    refine ⟨first, second, third, ⟨inFirst, inSecond, inThird, ?_, ?_, ?_, by omega, by omega⟩,
      ended, keyed, same⟩
    · exact congrArg Prod.fst (keySecond.trans keyFirst.symm)
    · exact congrArg Prod.fst (keyThird.trans keyFirst.symm)
    · exact congrArg Prod.snd (keyFirst.trans keyed)
  · rintro ⟨first, second, third, triple, ended, rfl, same⟩
    obtain ⟨keyFirst, keySecond, keyThird⟩ := triple.bucketKeys
    obtain ⟨inFirst, inSecond, inThird, -, -, -, secondStart, thirdStart⟩ := triple
    have spanFirst := (wellFormed.each first inFirst).span
    have spanSecond := (wellFormed.each second inSecond).span
    have spanThird := (wellFormed.each third inThird).span
    refine ⟨first, ?_, second, ?_, third, ?_, rfl, secondStart, thirdStart, same⟩
    · exact (mem_completedBucket wellFormed).mpr ⟨inFirst, ended_mono (by omega) ended, keyFirst⟩
    · exact (mem_completedBucket wellFormed).mpr ⟨inSecond, ended_mono (by omega) ended, keySecond⟩
    · exact (mem_completedBucket wellFormed).mpr ⟨inThird, ended, keyThird⟩

theorem bucketLe_iff (first second : String × Int) :
    bucketLe first second ↔ toLex first ≤ toLex second := by
  rw [Prod.Lex.le_iff]
  rfl

instance : Std.Total bucketLe := total_of_key bucketLe_iff

instance : IsTrans (String × Int) bucketLe := trans_of_key bucketLe_iff

theorem bucketLe_antisymm (first second : String × Int) (forth : bucketLe first second)
    (back : bucketLe second first) : first = second :=
  toLex_inj.mp (key_eq_of_le_of_le bucketLe_iff forth back)

theorem quarterOf_eq_none
    (empty : key ∉ (completedFuturesCandles candles asOf "5m").map bucketKey) :
    quarterOf candles asOf key = none := by
  have nothing : ((completedFuturesCandles candles asOf "5m").filter fun candle =>
      decide (bucketKey candle = key)) = [] := by
    refine List.filter_eq_nil_iff.mpr fun candle member isKey => empty ?_
    exact List.mem_map.mpr ⟨candle, member, of_decide_eq_true isKey⟩
  rw [quarterOf, nothing]
  rfl

theorem aggregateCompleted15m_keys : aggregateCompleted15m candles asOf =
    ((candles.map bucketKey).dedup.insertionSort bucketLe).filterMap (quarterOf candles asOf) := by
  refine (filterMap_insertionSort_dedup bucketLe_antisymm ?_ fun key _ => quarterOf_eq_none).symm
  intro key member
  obtain ⟨candle, isCompleted, rfl⟩ := List.mem_map.mp member
  have inOrdered := (List.mem_filter.mp isCompleted).1
  exact List.mem_map_of_mem ((List.mem_insertionSort candleLe).mp inOrdered)

section

variable (wellFormed : WellFormed candles)

include wellFormed

theorem mem_aggregateCompleted15m : bar ∈ aggregateCompleted15m candles asOf ↔
      ∃ first second third, IsTriple candles first second third ∧
        third.endTime ≤ asOf.getD third.endTime ∧ tripleCandle first second third = bar := by
  rw [aggregateCompleted15m_keys, List.mem_filterMap]
  constructor
  · rintro ⟨key, -, isBar⟩
    obtain ⟨first, second, third, triple, ended, -, same⟩ :=
      (quarterOf_eq_some_iff wellFormed).mp isBar
    exact ⟨first, second, third, triple, ended, same⟩
  · rintro ⟨first, second, third, triple, ended, same⟩
    refine ⟨bucketKey first, ?_, (quarterOf_eq_some_iff wellFormed).mpr
      ⟨first, second, third, triple, ended, triple.bucketKeys.1, same⟩⟩
    exact (List.mem_insertionSort bucketLe).mpr
      (List.mem_dedup.mpr (List.mem_map_of_mem triple.inFirst))

theorem aggregateCompleted15m_once :
    (aggregateCompleted15m candles asOf).Pairwise fun first second =>
      first.instrumentId = second.instrumentId → first.startTime ≠ second.startTime := by
  have nodup : ((candles.map bucketKey).dedup.insertionSort bucketLe).Nodup :=
    (List.perm_insertionSort bucketLe _).nodup_iff.mpr (List.nodup_dedup _)
  rw [aggregateCompleted15m_keys]
  refine List.Pairwise.filterMap _ ?_ nodup
  intro key other different bar isBar late isLate contract start
  obtain ⟨first, second, third, -, -, rfl, rfl⟩ := (quarterOf_eq_some_iff wellFormed).mp isBar
  obtain ⟨one, two, three, -, -, rfl, rfl⟩ := (quarterOf_eq_some_iff wellFormed).mp isLate
  exact different (Prod.ext contract start)

theorem quarterOf_truncated (time : Int) : quarterOf candles (some time) key =
      (quarterOf candles none key).filter fun bar => decide (bar.endTime ≤ time) := by
  ext bar
  rw [Option.filter_eq_some_iff, quarterOf_eq_some_iff wellFormed,
    quarterOf_eq_some_iff wellFormed, decide_eq_true_eq]
  have ends {first second third : MarketCandle} (triple : IsTriple candles first second third) :
      (tripleCandle first second third).endTime = third.endTime := by
    have span := (wellFormed.each third triple.inThird).span
    have thirdStart := triple.thirdStart
    have barEnds : (tripleCandle first second third).endTime = first.startTime + 900000000 := rfl
    omega
  constructor
  · rintro ⟨first, second, third, triple, ended, keyed, rfl⟩
    refine ⟨⟨first, second, third, triple, le_rfl, keyed, rfl⟩, ?_⟩
    rw [ends triple]
    exact ended
  · rintro ⟨⟨first, second, third, triple, -, keyed, rfl⟩, ended⟩
    rw [ends triple] at ended
    exact ⟨first, second, third, triple, ended, keyed, rfl⟩

theorem aggregateCompleted15m_truncated (time : Int) : aggregateCompleted15m candles (some time) =
      (aggregateCompleted15m candles none).filter fun bar => decide (bar.endTime ≤ time) := by
  rw [aggregateCompleted15m_keys, aggregateCompleted15m_keys, List.filter_filterMap]
  exact List.filterMap_congr fun key _ => quarterOf_truncated wellFormed time

end

end Signals

/-! ### Agreement -/

section Agreement

variable {candles : List MarketCandle} {clock : Int → Int} {sourceOf : MarketCandle → String}
  {contract instrumentId : String}

/-- What two aggregators agree on. -/
structure BarValues where
  startTime : Int
  openPrice : ℚ
  high : ℚ
  low : ℚ
  close : ℚ
  volume : Int
  deriving DecidableEq

def MarketCandle.values (bar : MarketCandle) : BarValues where
  startTime := bar.startTime
  openPrice := bar.openPrice
  high := bar.high
  low := bar.low
  close := bar.close
  volume := bar.volume

theorem quarterCandle_congr {start : Int} {bucket other : List MarketCandle}
    (isBucket : IsBucket start bucket) (isOther : IsBucket start other)
    (same : ∀ candle, candle ∈ bucket ↔ candle ∈ other) :
    quarterCandle start (bucket.insertionSort startLe) =
      quarterCandle start (other.insertionSort candleLe) := by
  ext bar
  rw [quarterCandle_bucket_iff isBucket startTime_le_of_startLe,
    quarterCandle_bucket_iff isOther startTime_le_of_candleLe]
  simp only [same]

section

variable (wellFormed : WellFormed candles)
  (oneContract : ∀ candle ∈ candles, candle.instrumentId = contract) (start : Int)

include wellFormed oneContract

theorem isBucket_filter : IsBucket start (candles.filter fun candle =>
      decide (quarterStart candle.startTime = start)) where
  each candle member := wellFormed.each candle (List.mem_filter.mp member).1
  apart := wellFormed.apart.filter _
  oneContract first isFirst second isSecond :=
    (oneContract first (List.mem_filter.mp isFirst).1).trans
      (oneContract second (List.mem_filter.mp isSecond).1).symm
  within candle member := by
    obtain ⟨-, isStart⟩ := List.mem_filter.mp member
    rw [← of_decide_eq_true isStart]
    exact quarterStart_bounds candle.startTime

theorem quarterCandle_eq_quarterOf : quarterCandle start ((candles.filter fun candle =>
      decide (quarterStart candle.startTime = start)).insertionSort startLe) =
        quarterOf candles none (contract, start) := by
  rw [quarterOf_eq]
  refine quarterCandle_congr (isBucket_filter wellFormed oneContract start)
    (isBucket_completedBucket wellFormed none (contract, start)) fun candle => ?_
  rw [List.mem_filter, decide_eq_true_eq, mem_completedBucket wellFormed]
  constructor
  · rintro ⟨member, rfl⟩
    exact ⟨member, le_rfl, Prod.ext (oneContract candle member) rfl⟩
  · rintro ⟨member, -, keyed⟩
    exact ⟨member, congrArg Prod.snd keyed⟩

end

theorem keys_of_one_contract (oneContract : ∀ candle ∈ candles, candle.instrumentId = contract) :
    (candles.map bucketKey).dedup.insertionSort bucketLe =
      (distinct (candles.map fun candle => quarterStart candle.startTime)).map
        (Prod.mk contract) := by
  have keys : candles.map bucketKey =
      (candles.map fun candle => quarterStart candle.startTime).map (Prod.mk contract) := by
    rw [List.map_map]
    exact List.map_congr_left fun candle member => Prod.ext (oneContract candle member) rfl
  have sameOrder : ∀ first second : Int,
      first ≤ second ↔ bucketLe (contract, first) (contract, second) := fun first second =>
    ⟨fun le => .inr ⟨rfl, le⟩, fun le => le.elim (absurd · (lt_irrefl contract)) And.right⟩
  rw [keys, List.dedup_map_of_injective (Prod.mk_right_injective contract), distinct]
  exact (List.map_insertionSort (· ≤ ·) bucketLe (Prod.mk contract) _
    fun first _ second _ => sameOrder first second).symm

section

variable (isQuarter : ∀ moment, clock moment = quarterStart moment)
  (wellFormed : WellFormed candles)
  (oneContract : ∀ candle ∈ candles, candle.instrumentId = contract)

include isQuarter wellFormed oneContract

theorem resample_eq : resample clock sourceOf candles instrumentId =
      (aggregateCompleted15m candles none).map fun bar =>
        { bar with instrumentId, source := sourceOf bar } := by
  obtain rfl : clock = quarterStart := funext isQuarter
  rw [aggregateCompleted15m_keys, keys_of_one_contract oneContract, List.filterMap_map,
    List.map_filterMap]
  refine List.filterMap_congr fun start _ => ?_
  rw [Function.comp_apply, quarterCandle_eq_quarterOf wellFormed oneContract]

theorem resample_values : (resample clock sourceOf candles instrumentId).map MarketCandle.values =
      (aggregateCompleted15m candles none).map MarketCandle.values := by
  rw [resample_eq isQuarter wellFormed oneContract, List.map_map]
  exact List.map_congr_left fun bar _ => rfl

end

end Agreement

/-! ### The law -/

/-- One bar of each triple and none otherwise, whenever it has ended, by each aggregator. -/
structure AggregationLaw (candles : List MarketCandle) : Prop where
  exact : ∀ bar, bar ∈ aggregateCompleted15m candles none ↔
    ∃ first second third, IsTriple candles first second third ∧
      tripleCandle first second third = bar
  once : (aggregateCompleted15m candles none).Pairwise fun first second =>
    first.instrumentId = second.instrumentId → first.startTime ≠ second.startTime
  truncated : ∀ time, aggregateCompleted15m candles (some time) =
    (aggregateCompleted15m candles none).filter fun bar => decide (bar.endTime ≤ time)
  agree : ∀ contract instrumentId, (∀ candle ∈ candles, candle.instrumentId = contract) →
    (HistoricalService.resampleTo15m candles instrumentId).map MarketCandle.values =
        (aggregateCompleted15m candles none).map MarketCandle.values ∧
      (SimulationEngine.resampleTo15m candles instrumentId).map MarketCandle.values =
        (aggregateCompleted15m candles none).map MarketCandle.values

/-- The law holds of candles that do not overlap and whose prices are in order. -/
theorem WellFormed.aggregation_law {candles : List MarketCandle}
    (wellFormed : WellFormed candles) : AggregationLaw candles where
  exact bar := by
    rw [mem_aggregateCompleted15m wellFormed]
    simp only [Option.getD_none, le_refl, true_and]
  once := aggregateCompleted15m_once wellFormed
  truncated := aggregateCompleted15m_truncated wellFormed
  agree _ _ oneContract := ⟨resample_values rawMinuteStart_eq wellFormed oneContract,
    resample_values istQuarterStart_eq wellFormed oneContract⟩

/-- A candle of five minutes from a minute on, with an open and a close. -/
def fiveMinutes (minute : Int) (openPrice close : ℚ) : MarketCandle where
  startTime := minute * 60000000
  endTime := minute * 60000000 + 300000000
  openPrice
  high := 105
  low := 95
  close
  instrumentId := "NIFTY-FUT-2026-01-29"
  interval := "5m"
  volume := 10
  source := "BREEZE"

/-- The three candles of a quarter, whatever their order. -/
theorem aggregation_law_shuffled :
    AggregationLaw [fiveMinutes 10 100 99, fiveMinutes 0 100 101, fiveMinutes 5 101 100] := by
  refine WellFormed.aggregation_law ⟨⟨?_, ?_⟩, ?_, ?_⟩
  · decide +kernel
  · decide +kernel
  · decide +kernel
  · decide +kernel

theorem not_aggregationLaw {candles : List MarketCandle} {first second third : MarketCandle}
    (triple : IsTriple candles first second third)
    (hidden : tripleCandle first second third ∉ aggregateCompleted15m candles none) :
    ¬AggregationLaw candles := fun law =>
  hidden ((law.exact _).mpr ⟨first, second, third, triple, rfl⟩)

/-- A quarter with a candle that starts within its last one. -/
def overlapping : List MarketCandle :=
  [fiveMinutes 0 100 101, fiveMinutes 5 101 100, fiveMinutes 10 100 99, fiveMinutes 12 99 100]

/-- A quarter of which one candle opens above its high. -/
def spiked : List MarketCandle :=
  [fiveMinutes 0 100 101, fiveMinutes 5 110 100, fiveMinutes 10 100 99]

/-- Candles of five minutes with starts of their own can hide a bar: by an overlap or by an open
above the high. -/
theorem overlap_and_spike_hide_bar :
    (FiveMinuteCandles overlapping ∧ ¬AggregationLaw overlapping) ∧
      FiveMinuteCandles spiked ∧ ¬AggregationLaw spiked := by
  have tripleOverlapping : IsTriple overlapping (fiveMinutes 0 100 101) (fiveMinutes 5 101 100)
      (fiveMinutes 10 100 99) := by
    refine ⟨?_, ?_, ?_, rfl, rfl, rfl, rfl, rfl⟩ <;> simp [overlapping]
  have tripleSpiked : IsTriple spiked (fiveMinutes 0 100 101) (fiveMinutes 5 110 100)
      (fiveMinutes 10 100 99) := by
    refine ⟨?_, ?_, ?_, rfl, rfl, rfl, rfl, rfl⟩ <;> simp [spiked]
  refine ⟨⟨⟨?_, ?_⟩, not_aggregationLaw tripleOverlapping ?_⟩, ⟨?_, ?_⟩,
    not_aggregationLaw tripleSpiked ?_⟩
  all_goals decide +kernel

end BreezeTrading
