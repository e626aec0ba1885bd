/-
This file decides when a replay uses each interval once. It keeps one candle for each source and
start: an interval that two sources cover comes twice, and its quarter of an hour makes no bar.
-/

import BreezeTrading.Strategy.QuarterAggregation

namespace BreezeTrading

open StableSort Stored

/-- `_get_recent_candles` of production, of the candles that the historical service returns. -/
def getRecentCandles (now : Int) (interval : String) (candles : List MarketCandle) :
    List MarketCandle :=
  let expected := if ['1', '5'] <:+: interval.toList then 900000000 else 300000000
  (Dictionary.collect (·.startTime) (candles.filter fun candle =>
    decide (candle.source ∈ HistoricalReplaySource.mixed.allowedSources ∧ candle.endTime ≤ now ∧
      candle.interval = interval ∧
      (candle.endTime - candle.startTime - expected).natAbs ≤ 5000000))).values.insertionSort startLe

namespace SimulationEngine

/-- `candle_ist.time()`. -/
def istTime (moment : Int) : Int := (moment + 19800000000) % 86400000000

def copyKey (candle : MarketCandle) : String × Int := (candle.source, candle.startTime)

/-- A replay of a date, and the candles that are cached or fetched for it. -/
structure Replay where
  historicalSource : HistoricalReplaySource
  targetDate : Int
  now : Int
  allCandles : List MarketCandle

namespace Replay

variable (replay : Replay)

/-- The session closes at half past three. -/
def fetchEnd : Int := min replay.now (replay.targetDate * 86400000000 + 36000000000)

def eligible : List MarketCandle :=
  replay.allCandles.filter fun candle => decide (candle.source ∈
    HistoricalReplaySource.mixed.allowedSources ∧ candle.endTime ≤ replay.fetchEnd)

/-- `_fetch_session_candles`: the candles before the session, and those of it. -/
def fetchSessionCandles : List MarketCandle × List MarketCandle :=
  let deduped := (Dictionary.collect copyKey replay.eligible).values.insertionSort startLe
  let selected := deduped.filter fun candle =>
    decide (candle.source ∈ replay.historicalSource.allowedSources)
  (selected.filter fun candle => decide (istDay candle.startTime < replay.targetDate ∨
      istDay candle.startTime = replay.targetDate ∧ istTime candle.startTime < 33300000000),
    selected.filter fun candle => decide (istDay candle.startTime = replay.targetDate ∧
      33300000000 ≤ istTime candle.startTime ∧ istTime candle.startTime < 55800000000))

/-- All that the replay returns. -/
def returned : List MarketCandle :=
  replay.fetchSessionCandles.1 ++ replay.fetchSessionCandles.2

/-- A candle of an allowed source in the window of the replay. -/
def Admits (candle : MarketCandle) : Prop :=
  candle.source ∈ replay.historicalSource.allowedSources ∧
    (istDay candle.startTime < replay.targetDate ∨
      istDay candle.startTime = replay.targetDate ∧ istTime candle.startTime < 55800000000)

instance (candle : MarketCandle) : Decidable (replay.Admits candle) :=
  inferInstanceAs (Decidable (_ ∧ _))

def windowed : List MarketCandle := replay.eligible.filter fun candle => replay.Admits candle

end Replay

def starts (candles : List MarketCandle) : List Int := candles.map (·.startTime)

/-- The starts in a quarter of an hour. -/
def triple (start : Int) : List Int := [start, start + 300000000, start + 600000000]

/-- Each interval is used once, and each aligned triple makes a bar; a replay of all sources sees as
many candles as production on the same data. -/
structure UsesOnce (replay : Replay) : Prop where
  increasing : (starts replay.returned).Pairwise (· < ·)
  bars : ∀ instrumentId start, quarterStart start = start → triple start ⊆ starts replay.returned →
    start ∈ starts (resampleTo15m replay.returned instrumentId)
  sameCount : replay.historicalSource = .mixed → ∀ later, replay.now ≤ later →
    (getRecentCandles later "5m" replay.windowed).length = replay.returned.length

/-- No interval is covered by two sources, and nothing else starts in the quarter of an aligned
triple. -/
structure OneEach (replay : Replay) : Prop where
  oneSource : ∀ first ∈ replay.windowed, ∀ second ∈ replay.windowed,
    first.startTime = second.startTime → first.source = second.source
  onGrid : ∀ start, quarterStart start = start → triple start ⊆ starts replay.windowed →
    ∀ moment ∈ starts replay.windowed, quarterStart moment = start → moment ∈ triple start

variable {replay : Replay}

/-! ### What is returned -/

theorem mem_returned_iff {candle : MarketCandle} : candle ∈ replay.returned ↔
    candle ∈ (Dictionary.collect copyKey replay.eligible).values ∧ replay.Admits candle := by
  simp only [Replay.returned, Replay.fetchSessionCandles, List.mem_append, List.mem_filter,
    List.mem_insertionSort, decide_eq_true_eq, ← and_or_left, and_assoc, Replay.Admits]
  refine and_congr_right fun _ => and_congr_right fun _ => ?_
  omega

/-- The candles are returned in the order of their starts, one for each source and start. -/
theorem returned_pairwise : replay.returned.Pairwise fun first second =>
    first.startTime ≤ second.startTime ∧ copyKey first ≠ copyKey second := by
  have distinctKeys := ((List.perm_insertionSort startLe _).map copyKey).nodup_iff.mpr
    (Dictionary.nodup_values_collect copyKey replay.eligible)
  have selected := ((List.pairwise_insertionSort startLe _).and
    (List.pairwise_map.mp distinctKeys)).filter fun candle =>
      decide (candle.source ∈ replay.historicalSource.allowedSources)
  refine List.pairwise_append.mpr ⟨selected.filter _, selected.filter _, ?_⟩
  intro early isEarly late isLate
  have before := of_decide_eq_true (List.mem_filter.mp isEarly).2
  have after := of_decide_eq_true (List.mem_filter.mp isLate).2
  have less : early.startTime < late.startTime := by
    unfold istDay istTime at before after
    omega
  exact ⟨less.le, fun same => less.ne (congrArg Prod.snd same)⟩

theorem mem_windowed_of_mem_returned {candle : MarketCandle} (member : candle ∈ replay.returned) :
    candle ∈ replay.windowed := by
  obtain ⟨collected, admitted⟩ := mem_returned_iff.mp member
  exact List.mem_filter.mpr
    ⟨Dictionary.mem_of_mem_values_collect collected, decide_eq_true admitted⟩

/-- A candle in the window has a copy of its source and start among those returned. -/
theorem exists_copy {candle : MarketCandle} (member : candle ∈ replay.windowed) :
    ∃ copy ∈ replay.returned, copy.source = candle.source ∧ copy.startTime = candle.startTime := by
  obtain ⟨isEligible, admitted⟩ := List.mem_filter.mp member
  have isKey : copyKey candle ∈ (Dictionary.collect copyKey replay.eligible).values.map copyKey :=
    Dictionary.mem_map_values_collect.mpr (List.mem_map_of_mem isEligible)
  obtain ⟨copy, isCopy, same⟩ := List.mem_map.mp isKey
  obtain ⟨sameSource, sameStart⟩ := Prod.mk.inj same
  refine ⟨copy, mem_returned_iff.mpr ⟨isCopy, ?_⟩, sameSource, sameStart⟩
  unfold Replay.Admits
  rw [sameSource, sameStart]
  exact of_decide_eq_true admitted

theorem mem_starts_returned_iff {moment : Int} :
    moment ∈ starts replay.returned ↔ moment ∈ starts replay.windowed := by
  constructor <;> intro inside
  · obtain ⟨candle, member, rfl⟩ := List.mem_map.mp inside
    exact List.mem_map_of_mem (mem_windowed_of_mem_returned member)
  · obtain ⟨candle, member, rfl⟩ := List.mem_map.mp inside
    obtain ⟨copy, isCopy, -, same⟩ := exists_copy member
    exact List.mem_map.mpr ⟨copy, isCopy, same⟩

theorem increasing_iff : (starts replay.returned).Pairwise (· < ·) ↔
    ∀ first ∈ replay.windowed, ∀ second ∈ replay.windowed,
      first.startTime = second.startTime → first.source = second.source := by
  constructor
  · intro increasing first isFirst second isSecond same
    obtain ⟨one, isOne, oneSource, oneStart⟩ := exists_copy isFirst
    obtain ⟨other, isOther, otherSource, otherStart⟩ := exists_copy isSecond
    have copies : one = other := eq_of_mem (increasing.imp fun less => less.ne) isOne isOther
      (oneStart.trans (same.trans otherStart.symm))
    rw [← oneSource, ← otherSource, copies]
  · intro oneSource
    refine List.pairwise_map.mpr (returned_pairwise.imp_of_mem ?_)
    intro first second isFirst isSecond apart
    refine lt_of_le_of_ne apart.1 fun same => apart.2 (Prod.ext ?_ same)
    exact oneSource first (mem_windowed_of_mem_returned isFirst) second
      (mem_windowed_of_mem_returned isSecond) same

/-! ### The bars of fifteen minutes -/

theorem mem_starts_resample {candles : List MarketCandle}
    (increasing : (starts candles).Pairwise (· < ·)) (instrumentId : String) (start : Int) :
    start ∈ starts (resampleTo15m candles instrumentId) ↔
      (starts candles).filter (fun moment => decide (quarterStart moment = start)) =
        triple start := by
  have clock : istQuarterStart = quarterStart := funext istQuarterStart_eq
  have sorted (start : Int) : (candles.filter fun candle =>
      decide (quarterStart candle.startTime = start)).insertionSort startLe =
        candles.filter fun candle => decide (quarterStart candle.startTime = start) :=
    (((List.pairwise_map.mp increasing).imp fun less => less.le).filter _).insertionSort_eq
  unfold starts resampleTo15m resample
  simp only [clock, sorted, List.filter_map, List.mem_map, List.mem_filterMap,
    Option.map_eq_some_iff, quarterCandle_eq_some_iff]
  constructor
  · rintro ⟨-, ⟨start, -, -, ⟨first, second, third, bucket, rfl, atSecond, atThird, rfl⟩, rfl⟩, rfl⟩
    refine (congrArg (List.map (·.startTime)) bucket).trans ?_
    rw [List.map_cons, List.map_cons, List.map_singleton, atSecond, atThird]
    rfl
  · intro isTriple
    obtain ⟨first, _, bucket, atFirst, others⟩ := List.map_eq_cons_iff.mp isTriple
    obtain ⟨second, _, rfl, atSecond, others⟩ := List.map_eq_cons_iff.mp others
    obtain ⟨third, _, rfl, atThird, others⟩ := List.map_eq_cons_iff.mp others
    obtain rfl := List.map_eq_nil_iff.mp others
    have isFirst : first ∈ candles.filter fun candle =>
        decide (quarterStart candle.startTime = start) := bucket ▸ List.mem_cons_self
    obtain ⟨inside, own⟩ := List.mem_filter.mp isFirst
    refine ⟨_, ⟨start, mem_distinct.mpr (List.mem_map.mpr ⟨first, inside, of_decide_eq_true own⟩),
      _, ⟨first, second, third, bucket, atFirst, atSecond, atThird, rfl⟩, rfl⟩, atFirst⟩

theorem filter_eq_triple_iff {moments : List Int} (increasing : moments.Pairwise (· < ·))
    {start : Int} (aligned : quarterStart start = start) (present : triple start ⊆ moments) :
    moments.filter (fun moment => decide (quarterStart moment = start)) = triple start ↔
      ∀ moment ∈ moments, quarterStart moment = start → moment ∈ triple start := by
  constructor
  · intro same moment inside own
    rw [← same]
    exact List.mem_filter.mpr ⟨inside, decide_eq_true own⟩
  · intro onGrid
    have ordered : (triple start).Pairwise (· < ·) := by simp [triple]
    refine List.Pairwise.eq_of_mem_iff (increasing.filter _) ordered fun moment => ?_
    rw [List.mem_filter, decide_eq_true_eq]
    refine ⟨fun both => onGrid moment both.1 both.2, fun inside => ⟨present inside, ?_⟩⟩
    simp only [triple, List.mem_cons, List.not_mem_nil, or_false] at inside
    exact quarterStart_of_aligned aligned (by omega) (by omega)

/-! ### The law -/

theorem length_getRecentCandles (fiveMinutes : ∀ candle ∈ replay.allCandles, IsFiveMinutes candle)
    {later : Int} (after : replay.now ≤ later) :
    (getRecentCandles later "5m" replay.windowed).length =
      (distinct (starts replay.windowed)).length := by
  have isRecent : ∀ candle ∈ replay.windowed,
      candle.source ∈ HistoricalReplaySource.mixed.allowedSources ∧ candle.endTime ≤ later ∧
        candle.interval = "5m" ∧
        (candle.endTime - candle.startTime - 300000000).natAbs ≤ 5000000 := by
    intro candle member
    obtain ⟨isGiven, isEligible⟩ := List.mem_filter.mp (List.mem_filter.mp member).1
    obtain ⟨provided, ended⟩ := of_decide_eq_true isEligible
    obtain ⟨interval, span, -⟩ := fiveMinutes candle isGiven
    exact ⟨provided, (ended.trans (min_le_left _ _)).trans after, interval, by omega⟩
  have unique := (distinct_pairwise (starts replay.windowed)).imp fun less => less.ne
  have expected : ¬ ['1', '5'] <:+: "5m".toList := by decide
  unfold getRecentCandles
  simp only [if_neg expected]
  rw [List.filter_eq_self.mpr fun candle member => decide_eq_true (isRecent candle member),
    List.length_insertionSort, ← List.length_map (·.startTime)]
  exact ((List.perm_ext_iff_of_nodup (Dictionary.nodup_values_collect _ _) unique).mpr
    fun _ => Dictionary.mem_map_values_collect.trans mem_distinct.symm).length_eq

/-- A replay uses each interval once exactly when no two sources cover one. -/
theorem usesOnce_iff (fiveMinutes : ∀ candle ∈ replay.allCandles, IsFiveMinutes candle) :
    UsesOnce replay ↔ OneEach replay := by
  have present (start : Int) :
      triple start ⊆ starts replay.windowed ↔ triple start ⊆ starts replay.returned :=
    forall_congr' fun _ => imp_congr_right fun _ => mem_starts_returned_iff.symm
  constructor
  · rintro ⟨increasing, bars, -⟩
    refine ⟨increasing_iff.mp increasing, fun start aligned inWindow moment inside => ?_⟩
    have inReturned := (present start).mp inWindow
    have bar := (mem_starts_resample increasing "" start).mp (bars "" start aligned inReturned)
    exact (filter_eq_triple_iff increasing aligned inReturned).mp bar moment
      (mem_starts_returned_iff.mpr inside)
  · rintro ⟨oneSource, onGrid⟩
    have increasing := increasing_iff.mpr oneSource
    refine ⟨increasing, fun instrumentId start aligned inReturned => ?_, fun mixed later after => ?_⟩
    · rw [mem_starts_resample increasing, filter_eq_triple_iff increasing aligned inReturned]
      intro moment inside
      exact onGrid start aligned ((present start).mpr inReturned) moment
        (mem_starts_returned_iff.mp inside)
    · rw [length_getRecentCandles fiveMinutes after, ← eq_distinct increasing
        fun _ => mem_starts_returned_iff, starts, List.length_map]

/-- A quarter of an hour of day 0 of one source, with the candles of another one. -/
def quarterReplay (others : List MarketCandle) : Replay :=
  ⟨.mixed, 0, 18000000000,
    [fiveMinutes 240 100 101, fiveMinutes 245 101 102, fiveMinutes 250 102 103] ++ others⟩

theorem usesOnce_iff_quarter : UsesOnce (quarterReplay []) ↔ OneEach (quarterReplay []) :=
  usesOnce_iff (by decide)

theorem two_sources_use_twice :
    ¬ UsesOnce (quarterReplay [{ fiveMinutes 245 101 102 with source := "KITE" }]) := fun once =>
  absurd once.increasing (by decide +kernel)

end SimulationEngine

end BreezeTrading
