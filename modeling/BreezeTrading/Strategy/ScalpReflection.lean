/-
This file reflects all prices of the bars of Strategy E about a constant. The highs of the image
are the lows of the bars, and the levels that lie above its close are those that lie below; each of
the rules for longs does to the image what its counterpart for shorts does to the bars. Prices are
rounded, so that the constant has to be an even number of hundredths.
-/

import BreezeTrading.Strategy.Reflection
import BreezeTrading.Strategy.ScalpSignals

namespace BreezeTrading.PivotVwapScalpStrategy

open ReplayIntrabar (opposite reflectCandle)

/-! ### Bars -/

section Bars

variable (center : ℚ)

/-- All prices of a bar are reflected. -/
def reflectBar (bar : MarketCandle) : MarketCandle :=
  { bar with toCandle := reflectCandle center bar.toCandle }

/-- The prices of a bar lie between nought and the center. -/
structure Inside (bar : MarketCandle) : Prop where
  low : 0 < bar.low
  high : bar.high < center

theorem reflect_involutive : Function.Involutive fun price : ℚ => center - price :=
  sub_sub_cancel center

theorem reflectBar_involutive : Function.Involutive (reflectBar center) := by
  intro bar
  unfold reflectBar reflectCandle
  simp only [sub_sub_cancel]

variable {center}

theorem validBar_reflect {bar : MarketCandle} (inside : Inside center bar) (asOf : Int) :
    validBar asOf (reflectBar center bar) = validBar asOf bar := by
  refine congrArg (bar.isReal5m && ·) (decide_eq_decide.mpr ?_)
  show bar.endTime ≤ asOf ∧ 0 ≤ bar.volume ∧ 0 < center - bar.high ∧
      center - bar.high ≤ min (center - bar.openPrice) (center - bar.close) ∧
      max (center - bar.openPrice) (center - bar.close) ≤ center - bar.low ↔ _
  have opposite : 0 < center - bar.high ↔ 0 < bar.low :=
    iff_of_true (sub_pos.mpr inside.high) inside.low
  rw [opposite, le_min_iff, max_le_iff, le_min_iff, max_le_iff, sub_le_sub_iff_left,
    sub_le_sub_iff_left, sub_le_sub_iff_left, sub_le_sub_iff_left]
  tauto

theorem lastByStart_map (image : MarketCandle → MarketCandle)
    (start : ∀ bar, (image bar).startTime = bar.startTime) (bars : List MarketCandle) :
    lastByStart (bars.map image) = (lastByStart bars).map image := by
  induction bars with
  | nil => rfl
  | cons bar rest inductionHypothesis =>
    simp only [List.map_cons, lastByStart, List.any_map, Function.comp_def, start]
    split_ifs
    · exact inductionHypothesis
    · rw [inductionHypothesis, List.map_cons]

theorem validCompleted_reflect {candles : List MarketCandle}
    (inside : ∀ bar ∈ candles, Inside center bar) (asOf : Int) :
    validCompleted (candles.map (reflectBar center)) asOf =
      (validCompleted candles asOf).map (reflectBar center) := by
  have filtered : (candles.map (reflectBar center)).filter (validBar asOf) =
      (candles.filter (validBar asOf)).map (reflectBar center) := by
    rw [List.filter_map]
    exact congrArg _ (List.filter_congr fun bar member => validBar_reflect (inside bar member) asOf)
  unfold validCompleted
  rw [filtered, lastByStart_map (reflectBar center) fun bar => rfl]
  exact (List.map_insertionSort _ _ (reflectBar center)
    (lastByStart (candles.filter (validBar asOf))) fun _ _ _ _ => Iff.rfl).symm

theorem max?_reflect (numbers : List ℚ) :
    (numbers.map (center - ·)).max? = numbers.min?.map (center - ·) := by
  cases numbers with
  | nil => rfl
  | cons first rest =>
    refine congrArg some ?_
    induction rest generalizing first with
    | nil => rfl
    | cons second others inductionHypothesis =>
      rw [List.map_cons, List.foldl_cons, List.foldl_cons, ← inductionHypothesis]
      exact congrArg (fun start : ℚ => (others.map (center - ·)).foldl max start)
        (antitone_const_tsub (c := center)).map_min.symm

theorem min?_reflect (numbers : List ℚ) :
    (numbers.map (center - ·)).min? = numbers.max?.map (center - ·) := by
  have images := @max?_reflect center (numbers.map (center - ·))
  rw [List.map_map, (reflect_involutive center).comp_self, List.map_id] at images
  rw [images, Option.map_map, (reflect_involutive center).comp_self, Option.map_id, id_eq]

theorem highestOf_reflect (candles : List MarketCandle) :
    highestOf (candles.map (reflectBar center)) = (lowestOf candles).map (center - ·) := by
  unfold highestOf lowestOf
  rw [← max?_reflect, List.map_map, List.map_map]
  rfl

theorem lowestOf_reflect (candles : List MarketCandle) :
    lowestOf (candles.map (reflectBar center)) = (highestOf candles).map (center - ·) := by
  unfold highestOf lowestOf
  rw [← min?_reflect, List.map_map, List.map_map]
  rfl

theorem nearestBelow_reflect (price : ℚ) {levels : List ℚ}
    (below : ∀ level ∈ levels, level < center) :
    nearestBelow (center - price) (levels.map (center - ·)) =
      (nearestAbove price levels).map (center - ·) := by
  unfold nearestBelow nearestAbove
  rw [← max?_reflect, List.filter_map]
  refine congrArg (fun filtered : List ℚ => (filtered.map (center - ·)).max?) ?_
  refine List.filter_congr fun level member => decide_eq_decide.mpr ?_
  rw [sub_lt_sub_iff_left]
  exact and_iff_right (sub_pos.mpr (below level member))

theorem nearestAbove_reflect (price : ℚ) {levels : List ℚ} (above : ∀ level ∈ levels, 0 < level) :
    nearestAbove (center - price) (levels.map (center - ·)) =
      (nearestBelow price levels).map (center - ·) := by
  unfold nearestBelow nearestAbove
  rw [← min?_reflect, List.filter_map]
  refine congrArg (fun filtered : List ℚ => (filtered.map (center - ·)).min?) ?_
  refine List.filter_congr fun level member => decide_eq_decide.mpr ?_
  rw [sub_lt_sub_iff_left]
  exact (and_iff_right (above level member)).symm

theorem swingHighAt_reflect (candles : List MarketCandle) (wing index : Nat) :
    swingHighAt (candles.map (reflectBar center)) wing index =
      (swingLowAt candles wing index).map fun swing => (swing.1, center - swing.2) := by
  unfold swingHighAt swingLowAt
  rw [List.getElem?_map]
  cases candles[index]? with
  | none => rfl
  | some candle =>
    have strictly : ∀ item : MarketCandle, decide ((reflectBar center item).high <
        (reflectBar center candle).high) = decide (candle.low < item.low) := fun item =>
      decide_eq_decide.mpr (sub_lt_sub_iff_left center)
    have weakly : ∀ item : MarketCandle, decide ((reflectBar center item).high ≤
        (reflectBar center candle).high) = decide (candle.low ≤ item.low) := fun item =>
      decide_eq_decide.mpr (sub_le_sub_iff_left center)
    simp only [Option.map_some, Option.bind_some, ← List.map_take, ← List.map_drop, List.all_map,
      Function.comp_def, strictly, weakly]
    split_ifs
    · rfl
    · rfl

theorem swingLowAt_reflect (candles : List MarketCandle) (wing index : Nat) :
    swingLowAt (candles.map (reflectBar center)) wing index =
      (swingHighAt candles wing index).map fun swing => (swing.1, center - swing.2) := by
  have back : Function.Involutive fun swing : Nat × ℚ => (swing.1, center - swing.2) :=
    fun swing => Prod.ext rfl (sub_sub_cancel center swing.2)
  have images := @swingHighAt_reflect center (candles.map (reflectBar center)) wing index
  rw [List.map_map, (reflectBar_involutive center).comp_self, List.map_id] at images
  rw [images, Option.map_map, back.comp_self, Option.map_id, id_eq]

variable (center) in
/-- The swings of the image, of the other kind. -/
def reflectSwings (swings : List (Nat × ℚ)) : List (Nat × ℚ) :=
  swings.map fun swing => (swing.1, center - swing.2)

theorem confirmedSwings_reflect (candles : List MarketCandle) (wing : Nat) :
    confirmedSwings (candles.map (reflectBar center)) wing =
      (reflectSwings center (confirmedSwings candles wing).2,
        reflectSwings center (confirmedSwings candles wing).1) := by
  unfold confirmedSwings reflectSwings
  simp only [List.length_map, List.map_filterMap, ← swingHighAt_reflect, ← swingLowAt_reflect]

end Bars

/-! ### Averages -/

section Averages

variable (center : ℚ)

theorem vwapSeriesFrom_reflect (totalPv totalVolume fallback : ℚ) (index : Nat)
    (bars : List MarketCandle) :
    vwapSeriesFrom (center * totalVolume - totalPv) totalVolume (center * index - fallback) index
        (bars.map (reflectBar center)) =
      (vwapSeriesFrom totalPv totalVolume fallback index bars).map (center - ·) := by
  induction bars generalizing totalPv totalVolume fallback index with
  | nil => rfl
  | cons bar rest inductionHypothesis =>
    have typical : ((reflectBar center bar).high + (reflectBar center bar).low +
        (reflectBar center bar).close) / 3 = center - (bar.high + bar.low + bar.close) / 3 := by
      show (center - bar.low + (center - bar.high) + (center - bar.close)) / 3 = _
      ring
    have volume : (reflectBar center bar).volume = bar.volume := rfl
    simp only [List.map_cons, vwapSeriesFrom, typical, volume]
    generalize (bar.high + bar.low + bar.close) / 3 = price
    generalize max 0 (bar.volume : ℚ) = weight
    have pv : center * totalVolume - totalPv + (center - price) * weight =
        center * (totalVolume + weight) - (totalPv + price * weight) := by ring
    have mean : center * (index : ℚ) - fallback + (center - price) =
        center * ((index + 1 : Nat) : ℚ) - (fallback + price) := by
      push_cast
      ring
    rw [pv, mean, inductionHypothesis]
    refine congrArg₂ List.cons ?_ rfl
    split_ifs with traded
    · rw [sub_div, mul_div_cancel_right₀ _ traded.ne']
    · have positive : ((index : ℚ) + 1) ≠ 0 := by positivity
      rw [Nat.cast_add, Nat.cast_one, sub_div, mul_div_cancel_right₀ _ positive]

theorem vwapSeries_reflect (bars : List MarketCandle) :
    vwapSeries (bars.map (reflectBar center)) = (vwapSeries bars).map (center - ·) := by
  have series := vwapSeriesFrom_reflect center 0 0 0 0 bars
  simpa [vwapSeries] using series

variable {center}

/-- A sum of weighted prices that lie between nought and the center. -/
structure Weighed (center total sum : ℚ) : Prop where
  nonneg : 0 ≤ total
  bounded : 0 ≤ sum ∧ sum ≤ center * total
  strict : 0 < total → 0 < sum ∧ sum < center * total

theorem Weighed.add {total sum weight price : ℚ} (weighed : Weighed center total sum)
    (nonneg : 0 ≤ weight) (between : Between center price) :
    Weighed center (total + weight) (sum + price * weight) := by
  have above : 0 ≤ price * weight := mul_nonneg between.1.le nonneg
  have below : price * weight ≤ center * weight := mul_le_mul_of_nonneg_right between.2.le nonneg
  refine ⟨add_nonneg weighed.nonneg nonneg, ⟨add_nonneg weighed.bounded.1 above, ?_⟩,
    fun traded => ?_⟩
  · rw [mul_add]
    exact add_le_add weighed.bounded.2 below
  · rw [mul_add]
    rcases nonneg.lt_or_eq with positive | zero
    · exact ⟨add_pos_of_nonneg_of_pos weighed.bounded.1 (mul_pos between.1 positive),
        add_lt_add_of_le_of_lt weighed.bounded.2 (mul_lt_mul_of_pos_right between.2 positive)⟩
    · rw [← zero, add_zero] at traded
      exact ⟨add_pos_of_pos_of_nonneg (weighed.strict traded).1 above,
        add_lt_add_of_lt_of_le (weighed.strict traded).2 below⟩

theorem Weighed.between {total sum : ℚ} (weighed : Weighed center total sum)
    (traded : 0 < total) : Between center (sum / total) :=
  ⟨div_pos (weighed.strict traded).1 traded, (div_lt_iff₀ traded).mpr (weighed.strict traded).2⟩

/-- The prices of a bar lie in order between nought and the center. -/
structure Priced (center : ℚ) (bar : MarketCandle) : Prop where
  low : 0 < bar.low
  close : bar.low ≤ bar.close ∧ bar.close ≤ bar.high
  high : bar.high < center

variable {bar : MarketCandle}

theorem Priced.between_low (priced : Priced center bar) : Between center bar.low :=
  ⟨priced.low, (priced.close.1.trans priced.close.2).trans_lt priced.high⟩

theorem Priced.between_high (priced : Priced center bar) : Between center bar.high :=
  ⟨priced.low.trans_le (priced.close.1.trans priced.close.2), priced.high⟩

theorem Priced.between_close (priced : Priced center bar) : Between center bar.close :=
  ⟨priced.low.trans_le priced.close.1, priced.close.2.trans_lt priced.high⟩

theorem between_mean {first second third : ℚ} (one : Between center first)
    (two : Between center second) (three : Between center third) :
    Between center ((first + second + third) / 3) := by
  obtain ⟨onePos, oneLt⟩ := one
  obtain ⟨twoPos, twoLt⟩ := two
  obtain ⟨threePos, threeLt⟩ := three
  exact ⟨by positivity, by linarith⟩

theorem vwapSeriesFrom_between {totalPv totalVolume fallback : ℚ} {index : Nat}
    {bars : List MarketCandle} (priced : ∀ bar ∈ bars, Priced center bar)
    (traded : Weighed center totalVolume totalPv) (counted : Weighed center index fallback) :
    ∀ value ∈ vwapSeriesFrom totalPv totalVolume fallback index bars, Between center value := by
  induction bars generalizing totalPv totalVolume fallback index with
  | nil => exact fun value none => by cases none
  | cons bar rest inductionHypothesis =>
    obtain ⟨first, later⟩ := List.forall_mem_cons.mp priced
    have typical : Between center ((bar.high + bar.low + bar.close) / 3) :=
      between_mean first.between_high first.between_low first.between_close
    have nextTraded := traded.add (le_max_left 0 (bar.volume : ℚ)) typical
    have nextCounted : Weighed center ((index + 1 : Nat) : ℚ)
        (fallback + (bar.high + bar.low + bar.close) / 3) := by
      rw [Nat.cast_add, Nat.cast_one]
      simpa only [mul_one] using counted.add zero_le_one typical
    refine List.forall_mem_cons.mpr ⟨?_, inductionHypothesis later nextTraded nextCounted⟩
    split_ifs with isTraded
    · exact nextTraded.between isTraded
    · have counts := nextCounted.between (by positivity)
      rwa [Nat.cast_add, Nat.cast_one] at counts

theorem vwapSeries_between {bars : List MarketCandle} (priced : ∀ bar ∈ bars, Priced center bar) :
    ∀ value ∈ vwapSeries bars, Between center value := by
  have nothing : Weighed center 0 0 := ⟨le_rfl, by simp, fun none => absurd none (lt_irrefl 0)⟩
  exact vwapSeriesFrom_between priced nothing (by simpa using nothing)

theorem vwapSeriesFrom_length (totalPv totalVolume fallback : ℚ) (index : Nat)
    (bars : List MarketCandle) :
    (vwapSeriesFrom totalPv totalVolume fallback index bars).length = bars.length := by
  induction bars generalizing totalPv totalVolume fallback index with
  | nil => rfl
  | cons bar rest inductionHypothesis =>
    rw [vwapSeriesFrom, List.length_cons, List.length_cons, inductionHypothesis]

theorem vwapSeries_length (bars : List MarketCandle) : (vwapSeries bars).length = bars.length :=
  vwapSeriesFrom_length 0 0 0 0 bars

theorem crossCount_neg (values : List ℚ) : crossCount (values.map (- ·)) = crossCount values := by
  have nonzero : (values.map (- ·)).filter (fun value => decide (value ≠ 0)) =
      (values.filter fun value => decide (value ≠ 0)).map (- ·) := by
    rw [List.filter_map]
    exact congrArg _ (List.filter_congr fun value _ => decide_eq_decide.mpr (by simp))
  have sides : ∀ value ∈ values.filter (fun value => decide (value ≠ 0)),
      decide (0 < -value) = !decide (0 < value) := by
    intro value member
    have isNonzero : value ≠ 0 := by simpa using (List.mem_filter.mp member).2
    rcases lt_or_gt_of_ne isNonzero with negative | positive
    · rw [decide_eq_true (neg_pos.mpr negative), decide_eq_false (lt_asymm negative)]
      rfl
    · rw [decide_eq_true positive, decide_eq_false (not_lt.mpr (neg_nonpos.mpr positive.le))]
      rfl
  unfold crossCount
  dsimp only
  rw [nonzero, ← List.map_tail, List.zip_map, List.filter_map, List.length_map]
  refine congrArg List.length (List.filter_congr fun pair member => ?_)
  have inside := List.of_mem_zip member
  show (decide (0 < -pair.1) != decide (0 < -pair.2)) = _
  rw [sides pair.1 inside.1, sides pair.2 (List.mem_of_mem_tail inside.2)]
  cases decide (0 < pair.1) <;> cases decide (0 < pair.2) <;> rfl

end Averages

/-! ### Views -/

section Views

variable (center : ℚ)

/-- What the rules read of the image of the bars. -/
@[simps]
def reflectView (view : StrategyEView) : StrategyEView :=
  { view with
    latest := reflectBar center view.latest
    previousBar := reflectBar center view.previousBar
    pivot := center - view.pivot
    vwap := center - view.vwap
    previousVwap := center - view.previousVwap
    swingHighs := reflectSwings center view.swingLows
    swingLows := reflectSwings center view.swingHighs
    establishedHighs := view.establishedLows.map (center - ·)
    establishedLows := view.establishedHighs.map (center - ·) }

/-- The levels of a view lie between nought and the center. -/
structure Placed (view : StrategyEView) : Prop where
  pivot : Between center view.pivot
  vwap : Between center view.vwap
  highs : ∀ level ∈ view.establishedHighs, Between center level
  lows : ∀ level ∈ view.establishedLows, Between center level

theorem reflectView_involutive : Function.Involutive (reflectView center) := by
  have swings : Function.Involutive (reflectSwings center) := fun swings => by
    unfold reflectSwings
    simp only [List.map_map, Function.comp_def, sub_sub_cancel, List.map_id']
  have levels : ∀ levels : List ℚ, (levels.map (center - ·)).map (center - ·) = levels :=
    fun levels => by rw [List.map_map, (reflect_involutive center).comp_self, List.map_id]
  intro view
  unfold reflectView
  simp only [reflectBar_involutive center _, swings _, levels, sub_sub_cancel]

theorem Placed.reflect {view : StrategyEView} (placed : Placed center view) :
    Placed center (reflectView center view) := by
  have images : ∀ levels : List ℚ, (∀ level ∈ levels, Between center level) →
      ∀ level ∈ levels.map (center - ·), Between center level := fun levels between =>
    List.forall_mem_map.mpr fun level member => (between level member).reflect
  exact ⟨placed.pivot.reflect, placed.vwap.reflect, images _ placed.lows, images _ placed.highs⟩

variable {center}

theorem getLastD_map {Item Image : Type} (image : Item → Image) {items : List Item}
    (nonempty : items ≠ []) (item : Item) (other : Image) :
    (items.map image).getLastD other = image (items.getLastD item) := by
  rw [List.getLastD_eq_getLast?, List.getLastD_eq_getLast?, List.getLast?_map,
    List.getLast?_eq_some_getLast nonempty]
  rfl

theorem getLastD_mem {Item : Type} {items : List Item} (nonempty : items ≠ []) (item : Item) :
    items.getLastD item ∈ items := by
  rw [List.getLastD_eq_getLast?, List.getLast?_eq_some_getLast nonempty]
  exact List.getLast_mem nonempty

variable (config : StrategyEConfig)

theorem isChoppy_reflect (session : List MarketCandle) {vwaps : List ℚ} (nonempty : vwaps ≠ [])
    (pivot : ℚ) :
    isChoppy config (session.map (reflectBar center)) (vwaps.map (center - ·)) (center - pivot) =
      isChoppy config session vwaps pivot := by
  have pivotCrosses : ∀ recent : List MarketCandle,
      crossCount ((recent.map (reflectBar center)).map fun bar => bar.close - (center - pivot)) =
        crossCount (recent.map fun bar => bar.close - pivot) := by
    intro recent
    rw [← crossCount_neg, List.map_map, List.map_map]
    refine congrArg crossCount (List.map_congr_left fun bar _ => ?_)
    show -(center - bar.close - (center - pivot)) = bar.close - pivot
    ring
  have vwapCrosses : ∀ (recent : List MarketCandle) (averages : List ℚ),
      crossCount (((recent.map (reflectBar center)).zip (averages.map (center - ·))).map
          fun pair => pair.1.close - pair.2) =
        crossCount ((recent.zip averages).map fun pair => pair.1.close - pair.2) := by
    intro recent averages
    rw [← crossCount_neg, List.zip_map, List.map_map, List.map_map]
    refine congrArg crossCount (List.map_congr_left fun pair _ => ?_)
    show -(center - pair.1.close - (center - pair.2)) = pair.1.close - pair.2
    ring
  -- the average that is looked back to is still one of the averages
  have kept : vwaps.take (vwaps.length - min config.flatVwapLookbackBars (vwaps.length - 1)) ≠
      [] := by
    have positive := List.length_pos_iff.mpr nonempty
    rw [← List.length_pos_iff, List.length_take]
    omega
  unfold isChoppy
  simp only [List.length_map, lastItems_map, pivotCrosses, vwapCrosses, ← List.map_take,
    getLastD_map (center - ·) nonempty 0, getLastD_map (center - ·) kept 0,
    sub_sub_sub_cancel_left, abs_sub_comm (vwaps.getLastD 0)]

theorem established_reflect (sessionLength : Nat) (swings : List (Nat × ℚ)) (before : Option ℚ)
    (previous : ℚ) :
    established config sessionLength (reflectSwings center swings) (before.map (center - ·))
        (center - previous) =
      (established config sessionLength swings before previous).map (center - ·) := by
  unfold established reflectSwings
  simp only [List.map_append, List.map_cons, List.map_nil, List.filter_map, List.map_map,
    Function.comp_def, Option.toList_map]

variable {config} {session previousSession : List MarketCandle} {latest : MarketCandle}

variable {candles : List MarketCandle}

theorem exists_highestOf (nonempty : candles ≠ []) :
    ∃ bar ∈ candles, highestOf candles = some bar.high := by
  obtain ⟨high, isHighest⟩ := Option.isSome_iff_exists.mp
    (List.isSome_max?_of_ne_nil (mt List.map_eq_nil_iff.mp nonempty) :
      (candles.map fun bar => bar.high).max?.isSome)
  obtain ⟨bar, member, rfl⟩ := List.mem_map.mp (List.max?_mem isHighest)
  exact ⟨bar, member, isHighest⟩

theorem exists_lowestOf (nonempty : candles ≠ []) :
    ∃ bar ∈ candles, lowestOf candles = some bar.low := by
  obtain ⟨low, isLowest⟩ := Option.isSome_iff_exists.mp
    (List.isSome_min?_of_ne_nil (mt List.map_eq_nil_iff.mp nonempty) :
      (candles.map fun bar => bar.low).min?.isSome)
  obtain ⟨bar, member, rfl⟩ := List.mem_map.mp (List.min?_mem isLowest)
  exact ⟨bar, member, isLowest⟩

theorem viewOf_reflect (isLong : 2 ≤ session.length) (nonempty : previousSession ≠ []) :
    viewOf config (session.map (reflectBar center)) (previousSession.map (reflectBar center))
        (reflectBar center latest) =
      reflectView center (viewOf config session previousSession latest) := by
  obtain ⟨highest, -, isHighest⟩ := exists_highestOf nonempty
  obtain ⟨lowest, -, isLowest⟩ := exists_lowestOf nonempty
  have vwaps : vwapSeries session ≠ [] := by
    rw [← List.length_pos_iff, vwapSeries_length]
    omega
  have earlierVwaps : (vwapSeries session).dropLast ≠ [] := by
    rw [← List.length_pos_iff, List.length_dropLast, vwapSeries_length]
    omega
  have earlierBars : session.dropLast ≠ [] := by
    rw [← List.length_pos_iff, List.length_dropLast]
    omega
  have pivots : ∀ high low close : ℚ, (center - high + (center - low) + (center - close)) / 3 =
      center - (low + high + close) / 3 := fun high low close => by ring
  have close : ((reflectBar center (previousSession.getLast nonempty)).close) =
      center - (previousSession.getLast nonempty).close := rfl
  unfold viewOf reflectView beforeLastTwo
  simp only [List.length_map, highestOf_reflect, lowestOf_reflect, isHighest, isLowest,
    Option.map_some, Option.getD_some, List.getLast?_map,
    List.getLast?_eq_some_getLast nonempty, close, pivots, vwapSeries_reflect, ← List.map_dropLast,
    getLastD_map (center - ·) vwaps 0, getLastD_map (center - ·) earlierVwaps 0,
    getLastD_map (reflectBar center) earlierBars latest, confirmedSwings_reflect, ← List.map_take,
    established_reflect, isChoppy_reflect config session vwaps]

theorem swingHighAt_mem {wing index : Nat} {swing : Nat × ℚ}
    (isSwing : swingHighAt candles wing index = some swing) :
    ∃ bar ∈ candles, swing.2 = bar.high := by
  obtain ⟨bar, isBar, isSwing⟩ := Option.bind_eq_some_iff.mp isSwing
  dsimp only at isSwing
  split_ifs at isSwing
  exact ⟨bar, List.mem_of_getElem? isBar, congrArg Prod.snd (Option.some_inj.mp isSwing).symm⟩

theorem swingLowAt_mem {wing index : Nat} {swing : Nat × ℚ}
    (isSwing : swingLowAt candles wing index = some swing) :
    ∃ bar ∈ candles, swing.2 = bar.low := by
  obtain ⟨bar, isBar, isSwing⟩ := Option.bind_eq_some_iff.mp isSwing
  dsimp only at isSwing
  split_ifs at isSwing
  exact ⟨bar, List.mem_of_getElem? isBar, congrArg Prod.snd (Option.some_inj.mp isSwing).symm⟩

theorem forall_established {holds : ℚ → Prop} {sessionLength : Nat} {swings : List (Nat × ℚ)}
    {before : Option ℚ} {previous : ℚ} (ofSwings : ∀ swing ∈ swings, holds swing.2)
    (ofBefore : ∀ level ∈ before, holds level) (ofPrevious : holds previous) :
    ∀ level ∈ established config sessionLength swings before previous, holds level := by
  intro level member
  rcases Stored.mem_concat.mp member with earlier | rfl
  · rcases List.mem_append.mp earlier with swung | reached
    · obtain ⟨swing, isSwing, rfl⟩ := List.mem_map.mp swung
      exact ofSwings swing (List.mem_of_mem_filter isSwing)
    · exact ofBefore level (Option.mem_toList.mp reached)
  · exact ofPrevious

theorem viewOf_placed (priced : ∀ bar ∈ session, Priced center bar)
    (pricedBefore : ∀ bar ∈ previousSession, Priced center bar)
    (nonempty : session ≠ []) (nonemptyBefore : previousSession ≠ []) :
    Placed center (viewOf config session previousSession latest) := by
  obtain ⟨highest, highestMember, isHighest⟩ := exists_highestOf nonemptyBefore
  obtain ⟨lowest, lowestMember, isLowest⟩ := exists_lowestOf nonemptyBefore
  have previousHigh : Between center ((highestOf previousSession).getD 0) := by
    rw [isHighest]
    exact (pricedBefore highest highestMember).between_high
  have previousLow : Between center ((lowestOf previousSession).getD 0) := by
    rw [isLowest]
    exact (pricedBefore lowest lowestMember).between_low
  have previousClose : Between center
      ((previousSession.getLast?.map fun bar => bar.close).getD 0) := by
    rw [List.getLast?_eq_some_getLast nonemptyBefore]
    exact (pricedBefore _ (List.getLast_mem nonemptyBefore)).between_close
  have earlier : ∀ bar ∈ beforeLastTwo session, Priced center bar := fun bar member =>
    priced bar (List.mem_of_mem_take member)
  refine ⟨between_mean previousHigh previousLow previousClose, ?_, ?_, ?_⟩
  · refine vwapSeries_between priced _ (getLastD_mem ?_ 0)
    rw [← List.length_pos_iff, vwapSeries_length]
    exact List.length_pos_iff.mpr nonempty
  · refine forall_established (fun swing isSwing => ?_) (fun level isHigh => ?_) previousHigh
    · obtain ⟨index, -, isSwingAt⟩ := List.mem_filterMap.mp isSwing
      obtain ⟨bar, member, same⟩ := swingHighAt_mem isSwingAt
      rw [same]
      exact (priced bar member).between_high
    · obtain ⟨bar, member, rfl⟩ := List.mem_map.mp (List.max?_mem isHigh)
      exact (earlier bar member).between_high
  · refine forall_established (fun swing isSwing => ?_) (fun level isLow => ?_) previousLow
    · obtain ⟨index, -, isSwingAt⟩ := List.mem_filterMap.mp isSwing
      obtain ⟨bar, member, same⟩ := swingLowAt_mem isSwingAt
      rw [same]
      exact (priced bar member).between_low
    · obtain ⟨bar, member, rfl⟩ := List.mem_map.mp (List.min?_mem isLow)
      exact (earlier bar member).between_low

end Views

end BreezeTrading.PivotVwapScalpStrategy
