/-
This file proves what the features of a moment know of the candles that end after it. Those of the
feature engine are computed from completed candles, but a quarter of an hour that has not ended
switches the interval of all futures candles: they look ahead exactly where no quarter is known
and some completed five-minute candle is there to be lost.
-/

import BreezeTrading.Strategy.FeatureEngine

namespace BreezeTrading

/-! ### What is known -/

/-- The spot and futures candles that features are computed from. -/
structure FeatureInput where
  candles5m : List MarketCandle
  candles15m : List MarketCandle
  futures : List FuturesCandle
  deriving DecidableEq

/-- The candles that ended by a time. -/
def endedBy {Bar : Type} (candleOf : Bar → MarketCandle) (asOf : Int) (bars : List Bar) :
    List Bar :=
  bars.filter fun bar => decide ((candleOf bar).endTime ≤ asOf)

/-- The part of an input that is known at a time. -/
def FeatureInput.knownAt (input : FeatureInput) (asOf : Int) : FeatureInput where
  candles5m := endedBy id asOf input.candles5m
  candles15m := endedBy id asOf input.candles15m
  futures := endedBy FuturesCandle.toMarketCandle asOf input.futures

/-- Two inputs agree on every candle that ended by a time. -/
def FeatureInput.AgreeAt (asOf : Int) (first second : FeatureInput) : Prop :=
  first.knownAt asOf = second.knownAt asOf

/-- `compute_all_features` of an input. -/
def FeatureInput.features (sqrt : ℚ → ℚ) (chain : Option OiChain) (spotPrice : ℚ) (asOf : Int)
    (input : FeatureInput) : ComputedFeatures :=
  FeatureEngine.computeAllFeatures sqrt input.candles5m input.candles15m input.futures chain
    spotPrice asOf

/-- `FuturesFeatureEngine.build` of the futures of an input. -/
def FeatureInput.futuresFeatures (asOf : Int) (input : FeatureInput) :
    Except String FuturesFeatureSnapshot :=
  FuturesFeatureEngine.build (input.futures.map FuturesCandle.toMarketCandle) (some asOf)

/-! ### The futures signal -/

section Futures

theorem isCompleted_ended {asOf : Int} {interval : String} {candle : MarketCandle}
    (kept : isCompleted (some asOf) interval candle = true) : candle.endTime ≤ asOf :=
  (of_decide_eq_true kept).2.2.1

theorem completedFuturesCandles_endedBy (candles : List MarketCandle) (asOf : Int)
    (interval : String) :
    completedFuturesCandles (endedBy id asOf candles) (some asOf) interval =
      completedFuturesCandles candles (some asOf) interval := by
  unfold completedFuturesCandles ordered endedBy
  rw [StableSort.filter_insertionSort, StableSort.filter_insertionSort, List.filter_filter]
  refine congrArg _ (List.filter_congr fun candle _ => ?_)
  rw [Bool.and_eq_left_iff_imp]
  exact fun kept => decide_eq_true (isCompleted_ended kept)

theorem build_endedBy (candles : List MarketCandle) (asOf : Int) :
    FuturesFeatureEngine.build (endedBy id asOf candles) (some asOf) =
      FuturesFeatureEngine.build candles (some asOf) := by
  unfold FuturesFeatureEngine.build canonicalActiveFuturesStream canonicalStreamWithDiagnostics
  rw [completedFuturesCandles_endedBy]

theorem futuresFeatures_knownAt (asOf : Int) (input : FeatureInput) :
    (input.knownAt asOf).futuresFeatures asOf = input.futuresFeatures asOf := by
  unfold FeatureInput.futuresFeatures
  rw [← build_endedBy (input.futures.map FuturesCandle.toMarketCandle)]
  refine congrArg (FuturesFeatureEngine.build · _) ?_
  unfold endedBy
  rw [List.filter_map]
  rfl

end Futures

/-! ### The feature engine -/

section Engine

open FeatureEngine

variable {Bar : Type} (candleOf : Bar → MarketCandle) (asOf : Int)

theorem completed_endedBy (interval : String) (span : Int) (bars : List Bar) :
    completed candleOf asOf interval span (endedBy candleOf asOf bars) =
      completed candleOf asOf interval span bars := by
  have sameValid :
      (endedBy candleOf asOf bars).filter
          (fun bar => isCompletedCandle asOf interval span (candleOf bar)) =
        bars.filter fun bar => isCompletedCandle asOf interval span (candleOf bar) := by
    unfold endedBy
    rw [List.filter_filter]
    refine List.filter_congr fun bar _ => ?_
    rw [Bool.and_eq_left_iff_imp]
    exact fun kept => (Bool.and_eq_true_iff.mp kept).1
  unfold completed
  rw [sameValid]

variable {candleOf asOf}

theorem mem_completed {interval : String} {span : Int} {bars : List Bar} {bar : Bar}
    (member : bar ∈ completed candleOf asOf interval span bars) :
    bar ∈ bars ∧ isCompletedCandle asOf interval span (candleOf bar) = true := by
  obtain ⟨start, -, isLast⟩ := List.mem_filterMap.mp member
  exact List.mem_filter.mp (List.mem_of_mem_filter (List.mem_of_getLast? isLast))

variable (asOf)

/-- A quarter of an hour is known among the futures candles, or there is no completed candle of five
minutes among them. -/
def IntervalKnown (futures : List FuturesCandle) : Prop :=
  (∃ candle ∈ futures, candle.endTime ≤ asOf ∧ candle.interval = "15m") ∨
    completed FuturesCandle.toMarketCandle asOf "5m" 300000000 futures = []

instance (futures : List FuturesCandle) : Decidable (IntervalKnown asOf futures) :=
  inferInstanceAs (Decidable (_ ∨ _))

variable {asOf} {futures : List FuturesCandle}

theorem futuresInterval_of_known {candle : FuturesCandle} (member : candle ∈ futures)
    (quarter : candle.interval = "15m") : futuresInterval futures = ("15m", 900000000) :=
  if_pos (List.any_eq_true.mpr ⟨candle, member, decide_eq_true quarter⟩)

theorem completed15m_of_unknown
    (unknown : ¬∃ candle ∈ futures, candle.endTime ≤ asOf ∧ candle.interval = "15m") :
    completed FuturesCandle.toMarketCandle asOf "15m" 900000000 futures = [] := by
  refine List.eq_nil_iff_forall_not_mem.mpr fun candle member => unknown ?_
  obtain ⟨isCandle, isCompleted⟩ := mem_completed member
  obtain ⟨ended, valid⟩ := Bool.and_eq_true_iff.mp isCompleted
  exact ⟨candle, isCandle, of_decide_eq_true ended, (of_decide_eq_true valid).2.1⟩

theorem completedFutures_of_known (known : IntervalKnown asOf futures) {others : List FuturesCandle}
    (agree : endedBy FuturesCandle.toMarketCandle asOf futures =
      endedBy FuturesCandle.toMarketCandle asOf others) :
    completed FuturesCandle.toMarketCandle asOf (futuresInterval others).1
        (futuresInterval others).2 others =
      completed FuturesCandle.toMarketCandle asOf (futuresInterval futures).1
        (futuresInterval futures).2 futures := by
  have same : ∀ interval span,
      completed FuturesCandle.toMarketCandle asOf interval span others =
        completed FuturesCandle.toMarketCandle asOf interval span futures := fun interval span => by
    rw [← completed_endedBy _ _ _ _ others, ← agree, completed_endedBy]
  by_cases quarter : ∃ candle ∈ futures, candle.endTime ≤ asOf ∧ candle.interval = "15m"
  · obtain ⟨candle, member, ended, isQuarter⟩ := quarter
    have inOthers : candle ∈ endedBy FuturesCandle.toMarketCandle asOf others := by
      rw [← agree]
      exact List.mem_filter.mpr ⟨member, decide_eq_true ended⟩
    rw [futuresInterval_of_known member isQuarter,
      futuresInterval_of_known (List.mem_of_mem_filter inOthers) isQuarter, same]
  · -- neither interval has a completed candle, whichever of them is looked up
    have noFive := known.resolve_left quarter
    have noQuarter := completed15m_of_unknown quarter
    have nothing : ∀ candles : List FuturesCandle,
        completed FuturesCandle.toMarketCandle asOf (futuresInterval candles).1
          (futuresInterval candles).2 futures = [] := fun candles => by
      unfold futuresInterval
      split
      · exact noQuarter
      · exact noFive
    rw [same, nothing, nothing]

end Engine

/-! ### Features -/

section Features

variable {sqrt : ℚ → ℚ} {chain : Option OiChain} {spotPrice : ℚ} {asOf : Int}
  {input other : FeatureInput}

open FeatureEngine

theorem features_congr (agree : input.AgreeAt asOf other) (sameFutures :
      completed FuturesCandle.toMarketCandle asOf (futuresInterval other.futures).1
          (futuresInterval other.futures).2 other.futures =
        completed FuturesCandle.toMarketCandle asOf (futuresInterval input.futures).1
          (futuresInterval input.futures).2 input.futures) :
    other.features sqrt chain spotPrice asOf = input.features sqrt chain spotPrice asOf := by
  have same5m : endedBy id asOf input.candles5m = endedBy id asOf other.candles5m :=
    congrArg FeatureInput.candles5m agree
  have same15m : endedBy id asOf input.candles15m = endedBy id asOf other.candles15m :=
    congrArg FeatureInput.candles15m agree
  unfold FeatureInput.features computeAllFeatures
  dsimp only
  rw [sameFutures, ← completed_endedBy id asOf "5m" 300000000 other.candles5m, ← same5m,
    completed_endedBy, ← completed_endedBy id asOf "15m" 900000000 other.candles15m, ← same15m,
    completed_endedBy]

theorem endedBy_endedBy {Bar : Type} (candleOf : Bar → MarketCandle) (bars : List Bar) :
    endedBy candleOf asOf (endedBy candleOf asOf bars) = endedBy candleOf asOf bars := by
  unfold endedBy
  rw [List.filter_filter]
  simp only [Bool.and_self]

theorem agreeAt_knownAt (asOf : Int) (input : FeatureInput) :
    input.AgreeAt asOf (input.knownAt asOf) := by
  unfold FeatureInput.AgreeAt FeatureInput.knownAt
  simp only [endedBy_endedBy]

/-- A quarter of an hour that ends in the future. -/
def laterQuarter (asOf : Int) : FuturesCandle where
  startTime := asOf
  endTime := asOf + 1
  openPrice := 1
  high := 1
  low := 1
  close := 1
  instrumentId := "INST-NIFTY-FUT-2026-09-24"
  interval := "15m"
  volume := 0
  source := "KITE"
  openInterest := none

/-- What is known of an input, with a quarter of an hour of the future. -/
def FeatureInput.withLaterQuarter (input : FeatureInput) (asOf : Int) : FeatureInput :=
  { input.knownAt asOf with
    futures := (input.knownAt asOf).futures ++ [laterQuarter asOf] }

theorem agreeAt_withLaterQuarter (asOf : Int) (input : FeatureInput) :
    input.AgreeAt asOf (input.withLaterQuarter asOf) := by
  have notEnded : endedBy FuturesCandle.toMarketCandle asOf [laterQuarter asOf] = [] := by
    simp [endedBy, laterQuarter]
  have futures :
      endedBy FuturesCandle.toMarketCandle asOf
          ((input.knownAt asOf).futures ++ [laterQuarter asOf]) =
        (input.knownAt asOf).futures := by
    unfold endedBy at notEnded ⊢
    rw [List.filter_append, notEnded, List.append_nil]
    exact endedBy_endedBy _ input.futures
  unfold FeatureInput.AgreeAt FeatureInput.withLaterQuarter
  simp only [FeatureInput.knownAt, endedBy_endedBy] at futures ⊢
  rw [futures]

theorem futuresPrice_pos {interval : String} {span : Int} {futures : List FuturesCandle}
    (nonempty : completed FuturesCandle.toMarketCandle asOf interval span futures ≠ []) :
    0 < ((completed FuturesCandle.toMarketCandle asOf interval span futures).getLast?.map
      fun last => last.close).getD 0 := by
  have isLast := List.getLast?_eq_some_getLast nonempty
  obtain ⟨-, isCompleted⟩ := mem_completed (List.mem_of_getLast? isLast)
  obtain ⟨-, -, positive, below, -⟩ :=
    of_decide_eq_true (Bool.and_eq_true_iff.mp isCompleted).2
  rw [isLast]
  exact positive.trans_le (below.trans (min_le_right _ _))

theorem features_futuresPrice (input : FeatureInput) :
    (input.features sqrt chain spotPrice asOf).futuresPrice =
      ((completed FuturesCandle.toMarketCandle asOf (futuresInterval input.futures).1
        (futuresInterval input.futures).2 input.futures).getLast?.map fun last => last.close).getD
          0 := rfl

/-- Without a known quarter the futures candles that are completed are lost to a quarter of the
future. -/
theorem features_look_ahead (sqrt : ℚ → ℚ) (chain : Option OiChain) (spotPrice : ℚ)
    (unknown : ¬IntervalKnown asOf input.futures) :
    (input.withLaterQuarter asOf).features sqrt chain spotPrice asOf ≠
      (input.knownAt asOf).features sqrt chain spotPrice asOf := by
  obtain ⟨noQuarter, someFive⟩ := not_or.mp unknown
  have knownInterval : futuresInterval (input.knownAt asOf).futures = ("5m", 300000000) := by
    refine if_neg fun some15 => noQuarter ?_
    obtain ⟨candle, member, quarter⟩ := List.any_eq_true.mp some15
    obtain ⟨inInput, ended⟩ := List.mem_filter.mp member
    exact ⟨candle, inInput, of_decide_eq_true ended, of_decide_eq_true quarter⟩
  have laterInterval :
      futuresInterval (input.withLaterQuarter asOf).futures = ("15m", 900000000) :=
    futuresInterval_of_known List.mem_concat_self rfl
  have laterNone : completed FuturesCandle.toMarketCandle asOf "15m" 900000000
      (input.withLaterQuarter asOf).futures = [] := by
    refine completed15m_of_unknown fun ⟨candle, member, ended, quarter⟩ => noQuarter ?_
    rcases List.mem_append.mp member with inKnown | isLater
    · exact ⟨candle, (List.mem_filter.mp inKnown).1, ended, quarter⟩
    · rw [List.mem_singleton.mp isLater] at ended
      exact absurd ended (by simp [laterQuarter])
  have knownSome : completed FuturesCandle.toMarketCandle asOf "5m" 300000000
      (input.knownAt asOf).futures ≠ [] := by
    rw [FeatureInput.knownAt, completed_endedBy]
    exact someFive
  intro same
  have samePrice := congrArg (fun features => features.futuresPrice) same
  rw [features_futuresPrice, features_futuresPrice, knownInterval, laterInterval, laterNone]
    at samePrice
  exact (futuresPrice_pos knownSome).ne samePrice

/-- The features of Strategy A never look ahead. Those of the feature engine do not exactly where
the interval of the futures candles is known. -/
theorem no_look_ahead (sqrt : ℚ → ℚ) (chain : Option OiChain) (spotPrice : ℚ) (asOf : Int)
    (input : FeatureInput) :
    ((∀ other, input.AgreeAt asOf other →
        other.features sqrt chain spotPrice asOf = input.features sqrt chain spotPrice asOf) ↔
      IntervalKnown asOf input.futures) ∧
    ∀ other, input.AgreeAt asOf other →
      other.futuresFeatures asOf = input.futuresFeatures asOf := by
  refine ⟨⟨fun blind => ?_, fun known other agree => ?_⟩, fun other agree => ?_⟩
  · by_contra unknown
    refine features_look_ahead sqrt chain spotPrice unknown ?_
    rw [blind _ (agreeAt_withLaterQuarter asOf input), blind _ (agreeAt_knownAt asOf input)]
  · exact features_congr agree
      (completedFutures_of_known known (congrArg FeatureInput.futures agree))
  · rw [← futuresFeatures_knownAt asOf other, ← futuresFeatures_knownAt asOf input, agree]

/-- Five minutes of a futures contract from 10:00 of a day. -/
def tenOClock : FuturesCandle where
  startTime := 86400000000 * 20717 + 16200000000
  endTime := 86400000000 * 20717 + 16500000000
  openPrice := 100
  high := 102
  low := 99
  close := 101
  instrumentId := "INST-NIFTY-FUT-2026-09-24"
  interval := "5m"
  volume := 1000
  source := "KITE"
  openInterest := some 5000

/-- With a quarter that ends after 10:05 the futures price of 10:05 is lost. -/
theorem later_quarter_leaks :
    (FeatureInput.features id none 100 tenOClock.endTime ⟨[], [], [tenOClock]⟩).futuresPrice = 101 ∧
      (FeatureInput.features id none 100 tenOClock.endTime
        ⟨[], [], [tenOClock, laterQuarter tenOClock.endTime]⟩).futuresPrice = 0 ∧
      ¬∀ (sqrt : ℚ → ℚ) (chain : Option OiChain) (spotPrice : ℚ) (asOf : Int)
          (first second : FeatureInput), first.AgreeAt asOf second →
        first.features sqrt chain spotPrice asOf = second.features sqrt chain spotPrice asOf := by
  have known : (FeatureInput.features id none 100 tenOClock.endTime
      ⟨[], [], [tenOClock]⟩).futuresPrice = 101 := by decide +kernel
  have lost : (FeatureInput.features id none 100 tenOClock.endTime
      ⟨[], [], [tenOClock, laterQuarter tenOClock.endTime]⟩).futuresPrice = 0 := by decide +kernel
  have agree : FeatureInput.AgreeAt tenOClock.endTime ⟨[], [], [tenOClock]⟩
      ⟨[], [], [tenOClock, laterQuarter tenOClock.endTime]⟩ := by
    unfold FeatureInput.AgreeAt
    decide +kernel
  refine ⟨known, lost, fun always => ?_⟩
  have same := congrArg (fun features => features.futuresPrice)
    (always id none 100 tenOClock.endTime _ _ agree)
  exact absurd (known.symm.trans (same.trans lost)) (by decide)

end Features

end BreezeTrading
