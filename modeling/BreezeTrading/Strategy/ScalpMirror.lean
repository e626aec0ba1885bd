/-
This file proves that the rules of Strategy E for shorts are those for longs seen in a mirror. A
signal lies between its stop and its target, with the risk and the reward of the settings; a call
on the image of its bars gives the image of the signal.
-/

import BreezeTrading.Strategy.ScalpReflection

namespace BreezeTrading.PivotVwapScalpStrategy

open ReplayIntrabar (opposite)

/-! ### Rules -/

section Rules

variable (center : ℚ)

def oppositeType : StrategyESignalType → StrategyESignalType
  | .trendLong => .trendShort
  | .trendShort => .trendLong
  | .counterLong => .counterShort
  | .counterShort => .counterLong

/-- The mirror image of a signal. -/
def reflectSignal (signal : StrategyESignal) : StrategyESignal :=
  { signal with
    signalType := oppositeType signal.signalType
    direction := opposite signal.direction
    optionType := oppositeOption signal.optionType
    spotReferencePrice := center - signal.spotReferencePrice
    structuralStop := center - signal.structuralStop
    targetPrice := center - signal.targetPrice }

/-- The images of the signals of a rule that fires. -/
def reflectFired (fired : Option StrategyEDecision) : Option (Option StrategyESignal) :=
  fired.map fun decision => decision.signal.map (reflectSignal center)

theorem reflectSignal_involutive : Function.Involutive (reflectSignal center) := by
  have types : Function.Involutive oppositeType := fun signalType => by cases signalType <;> rfl
  have directions : Function.Involutive opposite := fun direction => by cases direction <;> rfl
  have options : Function.Involutive oppositeOption := fun option => by cases option <;> rfl
  intro signal
  unfold reflectSignal
  simp only [types _, directions _, options _, sub_sub_cancel]

variable {center} {config : StrategyEConfig} {view : StrategyEView}

theorem reflectFired_symm {rule counterpart : Option StrategyEDecision}
    (images : rule.map StrategyEDecision.signal = reflectFired center counterpart) :
    counterpart.map StrategyEDecision.signal = reflectFired center rule := by
  have signals : ∀ fired : Option StrategyEDecision, reflectFired center fired =
      (fired.map StrategyEDecision.signal).map (Option.map (reflectSignal center)) := by
    intro fired
    rw [Option.map_map]
    rfl
  have twice : Option.map (reflectSignal center) ∘ Option.map (reflectSignal center) = id := by
    rw [Option.map_comp_map, (reflectSignal_involutive center).comp_self, Option.map_id]
  rw [signals rule, images, signals, Option.map_map, twice, Option.map_id, id_eq]

section

variable (even : EvenCents center)

include even

theorem targetBelow_reflect (price points : ℚ) (level : Option ℚ) :
    targetBelow config (center - price) points (level.map (center - ·)) =
      center - targetAbove config price points level := by
  unfold targetBelow targetAbove
  rw [← roundTo_reflect even]
  cases level with
  | none => exact congrArg (roundTo 2) (sub_add center price points)
  | some level =>
    refine congrArg (roundTo 2) ?_
    show min (center - price + points) (center - level - config.srBufferPoints) =
      center - max (price - points) (level + config.srBufferPoints)
    rw [(antitone_const_tsub (c := center)).map_max, sub_sub, sub_add]

theorem buildSignal_reflect (signalType : StrategyESignalType) (stop target : ℚ) :
    (buildSignal (reflectView center view) (oppositeType signalType) (center - stop)
        (center - target)).signal =
      (buildSignal view signalType stop target).signal.map (reflectSignal center) := by
  have entry : roundTo 2 (center - view.latest.close) = center - roundTo 2 view.latest.close :=
    roundTo_reflect even _
  have points : |roundTo 2 (center - view.latest.close) - (center - stop)| =
      |roundTo 2 view.latest.close - stop| := by
    rw [entry, sub_sub_sub_cancel_left, abs_sub_comm]
  have built : (buildSignal (reflectView center view) (oppositeType signalType) (center - stop)
      (center - target)).signal = some
      { signalType := oppositeType signalType
        direction := (oppositeType signalType).direction
        optionType := if (oppositeType signalType).direction = .bullish then .call else .put
        timestamp := view.latest.endTime
        spotReferencePrice := roundTo 2 (center - view.latest.close)
        structuralStop := center - stop
        rPoints := |roundTo 2 (center - view.latest.close) - (center - stop)|
        targetPrice := center - target
        futuresContract := view.latest.instrumentId } := rfl
  rw [built, points, entry]
  cases signalType <;> rfl

theorem checkedSignal_reflect (signalType : StrategyESignalType) {stop target risk reward : ℚ}
    {invalidStop invalidStop' room room' : String} :
    (checkedSignal config (reflectView center view) (oppositeType signalType) (center - stop)
        (center - target) risk reward invalidStop' room').signal =
      (checkedSignal config view signalType stop target risk reward invalidStop room).signal.map
        (reflectSignal center) := by
  unfold checkedSignal
  split_ifs
  · rfl
  · rfl
  · rfl
  · rfl
  · exact buildSignal_reflect even signalType stop target

theorem checkedLong_reflect (signalType : StrategyESignalType) {stop stop' target target' price : ℚ}
    {invalidStop invalidStop' room room' : String} (stops : stop' = center - stop)
    (targets : target' = center - target) :
    (checkedSignal config (reflectView center view) (oppositeType signalType) stop' target'
        (center - price - stop') (target' - (center - price)) invalidStop' room').signal =
      (checkedSignal config view signalType stop target (stop - price) (price - target) invalidStop
        room).signal.map (reflectSignal center) := by
  rw [stops, targets, sub_sub_sub_cancel_left, sub_sub_sub_cancel_left]
  exact checkedSignal_reflect even signalType

end

theorem asked_reflect {asks asks' : Prop} [Decidable asks] [Decidable asks']
    {rule rule' : Option StrategyEDecision} (same : asks' ↔ asks)
    (rules : rule'.map StrategyEDecision.signal = reflectFired center rule) :
    (if asks' then rule' else none).map StrategyEDecision.signal =
      reflectFired center (if asks then rule else none) := by
  by_cases both : asks
  · rw [if_pos both, if_pos (same.mpr both), rules]
  · rw [if_neg both, if_neg (mt same.mp both)]
    rfl

theorem fired_reflect {decision decision' : StrategyEDecision}
    (signals : decision'.signal = decision.signal.map (reflectSignal center)) :
    (some decision').map StrategyEDecision.signal = reflectFired center (some decision) :=
  congrArg some signals

theorem bind_reflect {Found Found' : Type} {found : Option Found} {image : Found → Found'}
    {rule : Found → Option StrategyEDecision} {rule' : Found' → Option StrategyEDecision}
    (rules : ∀ item, (rule' (image item)).map StrategyEDecision.signal =
      reflectFired center (rule item)) :
    ((found.map image).bind rule').map StrategyEDecision.signal =
      reflectFired center (found.bind rule) := by
  cases found with
  | none => rfl
  | some item => exact rules item

theorem getLast?_reflectSwings (swings : List (Nat × ℚ)) :
    (reflectSwings center swings).getLast? =
      swings.getLast?.map fun swing => (swing.1, center - swing.2) :=
  List.getLast?_map

theorem filter_reflectSwings (swings : List (Nat × ℚ)) (index : Nat) :
    (reflectSwings center swings).filter (fun swing => decide (swing.1 < index)) =
      reflectSwings center (swings.filter fun swing => decide (swing.1 < index)) :=
  List.filter_map

theorem trendLong_reflect (even : EvenCents center) (placed : Placed center view) :
    (trendLong config (reflectView center view)).map StrategyEDecision.signal =
      reflectFired center (trendShort config view) := by
  have resistance : nearestAbove (center - view.latest.close)
      (view.establishedLows.map (center - ·)) =
      (nearestBelow view.latest.close view.establishedLows).map (center - ·) :=
    nearestAbove_reflect _ fun level member => (placed.lows level member).1
  unfold trendLong trendShort
  rw [reflectView_swingLows, reflectView_swingHighs, getLast?_reflectSwings]
  refine asked_reflect (and_congr (sub_lt_sub_iff_left center) (sub_lt_sub_iff_left center)) ?_
  refine bind_reflect fun pullback => ?_
  rw [filter_reflectSwings, getLast?_reflectSwings]
  refine bind_reflect fun breakout => asked_reflect ?_ (fired_reflect ?_)
  · exact and_congr (sub_le_sub_iff_left center)
      (and_congr (sub_lt_sub_iff_left center) (sub_lt_sub_iff_left center))
  · refine checkedLong_reflect even .trendShort ?_ ?_
    · rw [← roundTo_reflect even, sub_sub]
    · exact (congrArg _ resistance).trans (targetBelow_reflect even _ _ _)

theorem trendShort_reflect (even : EvenCents center) (placed : Placed center view) :
    (trendShort config (reflectView center view)).map StrategyEDecision.signal =
      reflectFired center (trendLong config view) := by
  have images := @trendLong_reflect center config _ even placed.reflect
  rw [reflectView_involutive center view] at images
  exact reflectFired_symm images

theorem counterResistanceLevels_reflect :
    counterResistanceLevels (reflectView center view) =
      (counterSupportLevels view).map (center - ·) := by
  have nearer : center - view.latest.close < center - view.vwap ↔ view.vwap < view.latest.close :=
    sub_lt_sub_iff_left center
  unfold counterResistanceLevels counterSupportLevels
  rw [List.map_append, List.map_append]
  refine congrArg₂ (· ++ ·) rfl ((if_congr nearer rfl rfl).trans ?_)
  split_ifs
  · rfl
  · rfl

theorem Placed.opposing (placed : Placed center view) (signalType : StrategyESignalType) :
    ∀ level ∈ opposingLevels view signalType, Between center level := by
  have extended : ∀ levels : List ℚ, (∀ level ∈ levels, Between center level) →
      ∀ (nearer : Prop) [Decidable nearer], ∀ level ∈ levels ++ [view.pivot] ++
        (if nearer then [view.vwap] else []), Between center level := by
    intro levels between nearer _ level member
    rcases List.mem_append.mp member with established | average
    · rcases Stored.mem_concat.mp established with known | rfl
      · exact between level known
      · exact placed.pivot
    · split_ifs at average
      · rw [List.mem_singleton.mp average]
        exact placed.vwap
      · cases average
  cases signalType with
  | trendLong => exact placed.highs
  | trendShort => exact placed.lows
  | counterLong => exact extended _ placed.highs _
  | counterShort => exact extended _ placed.lows _

theorem counterLong_reflect (even : EvenCents center) (placed : Placed center view) :
    (counterLong config (reflectView center view)).map StrategyEDecision.signal =
      reflectFired center (counterShort config view) := by
  have support : nearestBelow (center - view.latest.close)
      (view.establishedHighs.map (center - ·)) =
      (nearestAbove view.latest.close view.establishedHighs).map (center - ·) :=
    nearestBelow_reflect _ fun level member => (placed.highs level member).2
  have resistance : nearestAbove (center - view.latest.close)
      (counterResistanceLevels (reflectView center view)) =
      (nearestBelow view.latest.close (counterSupportLevels view)).map (center - ·) := by
    rw [counterResistanceLevels_reflect]
    exact nearestAbove_reflect _ fun level member => (placed.opposing .counterShort level member).1
  refine asked_reflect (sub_lt_sub_iff_left center) ?_
  refine (congrArg (fun found : Option ℚ => (found.bind _).map _) support).trans ?_
  refine bind_reflect fun level => asked_reflect ?_ (fired_reflect ?_)
  · have touched : ∀ high : ℚ, center - high ≤ center - level + config.counterZonePoints ↔
        level - config.counterZonePoints ≤ high := fun high => by
      rw [sub_add, sub_le_sub_iff_left]
    exact and_congr (or_congr (touched _) (touched _)) (or_congr
      (and_congr (sub_le_sub_iff_left center) (sub_lt_sub_iff_left center))
      (and_congr (sub_lt_sub_iff_left center)
        (and_congr (sub_le_sub_iff_left center) (sub_lt_sub_iff_left center))))
  · refine checkedLong_reflect even .counterShort ?_ ?_
    · rw [← roundTo_reflect even, ← sub_sub, (antitone_const_tsub (c := center)).map_max,
        (antitone_const_tsub (c := center)).map_max]
      rfl
    · exact (congrArg _ resistance).trans (targetBelow_reflect even _ _ _)

theorem counterShort_reflect (even : EvenCents center) (placed : Placed center view) :
    (counterShort config (reflectView center view)).map StrategyEDecision.signal =
      reflectFired center (counterLong config view) := by
  have images := @counterLong_reflect center config _ even placed.reflect
  rw [reflectView_involutive center view] at images
  exact reflectFired_symm images

theorem trend_exclusive : trendLong config view = none ∨ trendShort config view = none := by
  by_cases above : view.pivot < view.latest.close
  · exact .inr (if_neg fun trend => lt_asymm above trend.1)
  · exact .inl (if_neg fun trend => above trend.1)

theorem counter_exclusive : counterLong config view = none ∨ counterShort config view = none := by
  by_cases above : view.pivot < view.latest.close
  · exact .inl (if_neg fun below => lt_asymm above below)
  · exact .inr (if_neg above)

theorem pair_reflect {long long' short short' : Option StrategyEDecision}
    {rest rest' : StrategyEDecision}
    (longs : long'.map StrategyEDecision.signal = reflectFired center short)
    (shorts : short'.map StrategyEDecision.signal = reflectFired center long)
    (exclusive : long = none ∨ short = none)
    (otherwise : rest'.signal = rest.signal.map (reflectSignal center)) :
    ((long' <|> short').getD rest').signal =
      ((long <|> short).getD rest).signal.map (reflectSignal center) := by
  rcases exclusive with rfl | rfl
  · obtain rfl : short' = none := Option.map_eq_none_iff.mp shorts
    cases short with
    | none =>
      obtain rfl : long' = none := Option.map_eq_none_iff.mp longs
      exact otherwise
    | some decision =>
      obtain ⟨image, rfl, same⟩ := Option.map_eq_some_iff.mp longs
      exact same
  · obtain rfl : long' = none := Option.map_eq_none_iff.mp longs
    cases long with
    | none =>
      obtain rfl : short' = none := Option.map_eq_none_iff.mp shorts
      exact otherwise
    | some decision =>
      obtain ⟨image, rfl, same⟩ := Option.map_eq_some_iff.mp shorts
      exact same

theorem decideView_reflect (even : EvenCents center) (placed : Placed center view) :
    (decideView config (reflectView center view)).signal =
      (decideView config view).signal.map (reflectSignal center) := by
  unfold decideView
  rw [show (reflectView center view).latest.endTime = view.latest.endTime from rfl,
    reflectView_choppy, reflectView_sessionLength]
  dsimp only
  split_ifs
  · rfl
  · rfl
  · exact pair_reflect (trendLong_reflect even placed) (trendShort_reflect even placed)
      trend_exclusive rfl
  · exact pair_reflect (trendLong_reflect even placed) (trendShort_reflect even placed)
      trend_exclusive (pair_reflect (counterLong_reflect even placed)
        (counterShort_reflect even placed) counter_exclusive rfl)
  · rfl

theorem decideView_short (short : view.sessionLength < 2 * config.swingLookback + 3) :
    (decideView config view).signal = none := by
  unfold decideView
  dsimp only
  split_ifs
  · rfl
  · rfl
  · rfl

end Rules

/-! ### Calls -/

section Calls

variable (center : ℚ)

/-- A call on the image of the bars. -/
def reflectCall (call : StrategyECall) : StrategyECall :=
  { call with futures5m := call.futures5m.map (reflectBar center) }

variable {center} {config : StrategyEConfig} {call : StrategyECall}

variable {bar : MarketCandle} {candles : List MarketCandle}

theorem priced_of_validBar {asOf : Int} (valid : validBar asOf bar = true)
    (inside : bar.high < center) : Priced center bar := by
  obtain ⟨-, -, positive, low, high⟩ := of_decide_eq_true (Bool.and_eq_true_iff.mp valid).2
  exact ⟨positive, ⟨(le_min_iff.mp low).2, (max_le_iff.mp high).2⟩, inside⟩

theorem mem_of_lastByStart {bars : List MarketCandle} (member : bar ∈ lastByStart bars) :
    bar ∈ bars := by
  induction bars with
  | nil => exact member
  | cons first rest inductionHypothesis =>
    unfold lastByStart at member
    split_ifs at member
    · exact List.mem_cons_of_mem first (inductionHypothesis member)
    · rcases List.mem_cons.mp member with same | later
      · exact List.mem_cons.mpr (.inl same)
      · exact List.mem_cons_of_mem first (inductionHypothesis later)

theorem mem_of_validCompleted {asOf : Int} (member : bar ∈ validCompleted candles asOf) :
    bar ∈ candles ∧ validBar asOf bar = true :=
  List.mem_filter.mp (mem_of_lastByStart ((List.mem_insertionSort _).mp member))

theorem barsOf_reflect (candles : List MarketCandle) (date : Int) :
    barsOf (candles.map (reflectBar center)) date =
      (barsOf candles date).map (reflectBar center) := by
  unfold barsOf
  rw [List.filter_map]
  rfl

theorem previousDateOf_reflect (candles : List MarketCandle) (latest : MarketCandle) :
    previousDateOf (candles.map (reflectBar center)) (reflectBar center latest) =
      previousDateOf candles latest := by
  unfold previousDateOf
  rw [List.map_map]
  rfl

theorem barsOf_previousDate {latest : MarketCandle} {date : Int}
    (isPrevious : previousDateOf candles latest = some date) : barsOf candles date ≠ [] := by
  obtain ⟨bar, member, rfl⟩ := List.mem_map.mp (List.mem_of_mem_filter (List.max?_mem isPrevious))
  exact List.ne_nil_of_mem (List.mem_filter.mpr ⟨member, decide_eq_true rfl⟩)

theorem analyze_reflect (even : EvenCents center) {latest : MarketCandle}
    (priced : ∀ bar ∈ candles, Priced center bar) (member : latest ∈ candles) :
    (analyze config (candles.map (reflectBar center)) (reflectBar center latest)).signal =
      (analyze config candles latest).signal.map (reflectSignal center) := by
  have session : sessionDate (reflectBar center latest) = sessionDate latest := rfl
  have nonempty : barsOf candles (sessionDate latest) ≠ [] :=
    List.ne_nil_of_mem (List.mem_filter.mpr ⟨member, decide_eq_true rfl⟩)
  have pricedOf : ∀ date, ∀ bar ∈ barsOf candles date, Priced center bar := fun date bar isBar =>
    priced bar (List.mem_of_mem_filter isBar)
  unfold analyze
  rw [previousDateOf_reflect, session]
  cases isPrevious : previousDateOf candles latest with
  | none => rfl
  | some date =>
    dsimp only
    rw [barsOf_reflect, barsOf_reflect, List.map_map]
    have traded : (barsOf candles (sessionDate latest)).map
        ((fun bar => max 0 bar.volume) ∘ reflectBar center) =
        (barsOf candles (sessionDate latest)).map fun bar => max 0 bar.volume := rfl
    rw [traded]
    split_ifs with untraded
    · rfl
    · rcases Nat.lt_or_ge (barsOf candles (sessionDate latest)).length 2 with single | long
      · have short : (barsOf candles (sessionDate latest)).length <
            2 * config.swingLookback + 3 := by omega
        refine (decideView_short ?_).trans (congrArg (Option.map _) (decideView_short ?_)).symm
        · exact (List.length_map _).trans_lt short
        · exact short
      · rw [viewOf_reflect long (barsOf_previousDate isPrevious)]
        exact decideView_reflect even (viewOf_placed (pricedOf _) (pricedOf date) nonempty
          (barsOf_previousDate isPrevious))

theorem evaluate_reflect (even : EvenCents center)
    (inside : ∀ bar ∈ call.futures5m, Inside center bar) (strategy : PivotVwapScalpStrategy) :
    (evaluate config strategy (reflectCall center call)).1 = (evaluate config strategy call).1 ∧
      (evaluate config strategy (reflectCall center call)).2.signal =
        (evaluate config strategy call).2.signal.map (reflectSignal center) := by
  have candles : validCompleted (reflectCall center call).futures5m (reflectCall center call).asOf =
      (validCompleted call.futures5m call.asOf).map (reflectBar center) :=
    validCompleted_reflect inside call.asOf
  have priced : ∀ bar ∈ validCompleted call.futures5m call.asOf, Priced center bar := by
    intro bar isBar
    obtain ⟨member, valid⟩ := mem_of_validCompleted isBar
    exact priced_of_validBar valid (inside bar member).high
  unfold evaluate
  rw [candles]
  dsimp only
  rw [List.length_map, List.getLast?_map]
  by_cases few : (validCompleted call.futures5m call.asOf).length < minimumBars config
  · rw [if_pos few, if_pos few]
    exact ⟨rfl, rfl⟩
  rw [if_neg few, if_neg few]
  cases last : (validCompleted call.futures5m call.asOf).getLast? with
  | none => exact ⟨rfl, rfl⟩
  | some latest =>
    have stale : isStale config (reflectCall center call) (reflectBar center latest) =
        isStale config call latest := rfl
    dsimp only [Option.map_some]
    rw [stale, show (reflectBar center latest).endTime = latest.endTime from rfl]
    split_ifs
    · exact ⟨rfl, rfl⟩
    · exact ⟨rfl, rfl⟩
    · exact ⟨rfl, analyze_reflect even priced (List.mem_of_getLast? last)⟩

theorem evaluate_filter (strategy : PivotVwapScalpStrategy) :
    evaluate config strategy { call with
          futures5m := call.futures5m.filter fun bar => decide (bar.endTime ≤ call.asOf) } =
      evaluate config strategy call := by
  have valid : ∀ bar : MarketCandle,
      (validBar call.asOf bar && decide (bar.endTime ≤ call.asOf)) = validBar call.asOf bar := by
    intro bar
    unfold validBar
    rw [Bool.and_assoc, ← Bool.decide_and]
    exact congrArg (bar.isReal5m && ·) (decide_eq_decide.mpr (and_iff_left_of_imp And.left))
  have candles : validCompleted (call.futures5m.filter fun bar => decide (bar.endTime ≤ call.asOf))
      call.asOf = validCompleted call.futures5m call.asOf := by
    unfold validCompleted
    rw [List.filter_filter]
    simp only [valid]
  unfold evaluate
  rw [candles]
  rfl

end Calls

/-! ### The law of a signal -/

section Law

variable (config : StrategyEConfig) (view : StrategyEView)

/-- A signal lies between its stop and its target, short of every level on the way, and its bar is
one on which the engine may enter. -/
structure Lawful (signal : StrategyESignal) : Prop where
  call : signal.optionType = .call →
    (signal.structuralStop < view.latest.close ∧ view.latest.close < signal.targetPrice) ∧
      WithinLimits config (view.latest.close - signal.structuralStop)
        (signal.targetPrice - view.latest.close) ∧
      ∀ level ∈ opposingLevels view signal.signalType, view.latest.close < level →
        signal.targetPrice ≤ roundTo 2 (level - config.srBufferPoints)
  put : signal.optionType = .put →
    (signal.targetPrice < view.latest.close ∧ view.latest.close < signal.structuralStop) ∧
      WithinLimits config (signal.structuralStop - view.latest.close)
        (view.latest.close - signal.targetPrice) ∧
      ∀ level ∈ opposingLevels view signal.signalType, level < view.latest.close →
        roundTo 2 (level + config.srBufferPoints) ≤ signal.targetPrice
  window : config.entryStart ≤ PositionManager.minutesOfDay view.latest.endTime ∧
    PositionManager.minutesOfDay view.latest.endTime ≤ config.entryEnd
  calm : view.choppy = false

variable {config view} {strategy : PivotVwapScalpStrategy} {call : StrategyECall}
  {signal : StrategyESignal}

theorem exists_above (bars : List MarketCandle) :
    ∃ center : ℚ, ∀ bar ∈ bars, bar.high < center := by
  induction bars with
  | nil => exact ⟨0, fun bar none => by cases none⟩
  | cons bar rest inductionHypothesis =>
    obtain ⟨center, above⟩ := inductionHypothesis
    refine ⟨max (bar.high + 1) center, List.forall_mem_cons.mpr ⟨?_, fun later member => ?_⟩⟩
    · exact (lt_add_one bar.high).trans_le (le_max_left _ _)
    · exact (above later member).trans_le (le_max_right _ _)

theorem Signals.placed {latest : MarketCandle}
    (signals : Signals config strategy call latest view signal) :
    ∃ center, Placed center view := by
  obtain ⟨center, above⟩ := exists_above (validCompleted call.futures5m call.asOf)
  obtain ⟨date, isPrevious, rfl⟩ := signals.viewed
  have priced : ∀ date, ∀ bar ∈ barsOf (validCompleted call.futures5m call.asOf) date,
      Priced center bar := by
    intro date bar isBar
    have member := List.mem_of_mem_filter isBar
    exact priced_of_validBar (mem_of_validCompleted member).2 (above bar member)
  have nonempty : barsOf (validCompleted call.futures5m call.asOf) (sessionDate latest) ≠ [] :=
    List.ne_nil_of_mem
      (List.mem_filter.mpr ⟨List.mem_of_getLast? signals.last, decide_eq_true rfl⟩)
  exact ⟨center, viewOf_placed (priced _) (priced date) nonempty (barsOf_previousDate isPrevious)⟩

theorem Signals.lawful (room : 0 < config.minRoomToLevelPoints) {latest : MarketCandle}
    (signals : Signals config strategy call latest view signal) : Lawful config view signal := by
  obtain ⟨geometry, calm, window⟩ := decideView_signal signals.gives
  obtain ⟨center, placed⟩ := signals.placed
  refine ⟨fun isCall => ?_, fun isPut => ?_, window, calm⟩
  · obtain ⟨limits, short⟩ := geometry.long (geometry.sided.2.mp isCall)
    exact ⟨⟨sub_pos.mp limits.positive, sub_pos.mp (room.trans_le limits.room)⟩, limits, short⟩
  · have bearish : signal.direction = .bearish := by
      have notBullish := mt geometry.sided.2.mpr (by rw [isPut]; decide)
      cases direction : signal.direction with
      | bullish => exact absurd direction notBullish
      | bearish => rfl
    obtain ⟨limits, short⟩ := geometry.short bearish
    refine ⟨⟨sub_pos.mp (room.trans_le limits.room), sub_pos.mp limits.positive⟩, limits, ?_⟩
    exact fun level member below => short level member (placed.opposing _ level member).1 below

/-- Every signal is lawful, no later bar is read, and bars in a mirror give signals in a mirror. -/
theorem signal_geometry (config : StrategyEConfig) (room : 0 < config.minRoomToLevelPoints)
    (strategy : PivotVwapScalpStrategy) (call : StrategyECall) :
    (∀ signal ∈ (evaluate config strategy call).2.signal, ∃ latest view,
      Signals config strategy call latest view signal ∧ view.latest = latest ∧
        Lawful config view signal) ∧
    evaluate config strategy { call with
          futures5m := call.futures5m.filter fun bar => decide (bar.endTime ≤ call.asOf) } =
      evaluate config strategy call ∧
    ∀ center, EvenCents center → (∀ bar ∈ call.futures5m, Inside center bar) →
      (evaluate config strategy (reflectCall center call)).1 = (evaluate config strategy call).1 ∧
        (evaluate config strategy (reflectCall center call)).2.signal =
          (evaluate config strategy call).2.signal.map (reflectSignal center) := by
  refine ⟨fun signal isSignal => ?_, evaluate_filter strategy, fun center even inside => ?_⟩
  · obtain ⟨latest, view, signals⟩ := evaluate_signal isSignal
    exact ⟨latest, view, signals, signals.view_latest, signals.lawful room⟩
  · exact evaluate_reflect even inside strategy

end Law

/-- Bars that fall below their pivot, 323 thirds, and turn up from 94. -/
def reboundBars : List MarketCandle :=
  [scalpBar 0 0 102 131 90 102, scalpBar 0 1 102 103 101 102,
    scalpBar 1 0 95 96 94 95, scalpBar 1 1 95 96 94 95, scalpBar 1 2 95 96 94 95,
    scalpBar 1 3 95 96 94 95, scalpBar 1 4 95 96 94 95,
    scalpBar 1 5 (476 / 5) (195 / 2) (189 / 2) (19401 / 200)]

def reboundSignal : StrategyESignal where
  signalType := .counterLong
  direction := .bullish
  optionType := .call
  timestamp := breakingBar.endTime
  spotReferencePrice := 97
  structuralStop := 92
  rPoints := 5
  targetPrice := 10567 / 100
  futuresContract := "INST-NIFTY-FUT"

theorem evaluate_rebound :
    (evaluate scalpConfig initial (scalpCall reboundBars 0)).2.signal = some reboundSignal := by
  decide +kernel

theorem inside_rebound {center : ℚ} (above : 131 < center) :
    ∀ bar ∈ (scalpCall reboundBars 0).futures5m, Inside center bar := by
  have ordered : ∀ bar ∈ reboundBars, 0 < bar.low ∧ bar.high ≤ 131 := by decide +kernel
  exact fun bar member => ⟨(ordered bar member).1, (ordered bar member).2.trans_lt above⟩

theorem signal_geometry_rebound :
    (evaluate scalpConfig initial (reflectCall 400 (scalpCall reboundBars 0))).2.signal =
      some (reflectSignal 400 reboundSignal) := by
  have mirrored := (signal_geometry scalpConfig (by decide +kernel) initial
    (scalpCall reboundBars 0)).2.2 400 ⟨20000, by norm_num⟩ (inside_rebound (by norm_num))
  rw [mirrored.2, evaluate_rebound]
  rfl

theorem signals_rebound : ∃ latest view,
    Signals scalpConfig initial (scalpCall reboundBars 0) latest view reboundSignal ∧
      view.pivot = 323 / 3 ∧ view.latest.close < 323 / 3 := by
  obtain ⟨latest, view, signals⟩ := evaluate_signal (Option.mem_def.mpr evaluate_rebound)
  have isLast : (validCompleted (scalpCall reboundBars 0).futures5m
      (scalpCall reboundBars 0).asOf).getLast? =
      some (scalpBar 1 5 (476 / 5) (195 / 2) (189 / 2) (19401 / 200)) := by decide +kernel
  obtain rfl := Option.some_inj.mp (isLast.symm.trans signals.last)
  obtain ⟨date, isPrevious, rfl⟩ := signals.viewed
  have isFirst : previousDateOf (validCompleted (scalpCall reboundBars 0).futures5m
      (scalpCall reboundBars 0).asOf)
      (scalpBar 1 5 (476 / 5) (195 / 2) (189 / 2) (19401 / 200)) = some 0 := by decide +kernel
  obtain rfl := Option.some_inj.mp (isFirst.symm.trans isPrevious)
  exact ⟨_, _, signals, by decide +kernel, by decide +kernel⟩

/-- With the limits of risk and reward positive, a target may still lie less than a hundredth beyond
the buffer of a level; and about an odd number of hundredths prices do not round to their images. -/
theorem signal_geometry_is_rounded :
    (¬∀ (config : StrategyEConfig) (strategy : PivotVwapScalpStrategy) (call : StrategyECall)
      (signal : StrategyESignal) (latest : MarketCandle) (view : StrategyEView),
      0 < config.maxStopPoints ∧ 0 < config.minRoomToLevelPoints ∧ 0 < config.minRewardRisk →
      Signals config strategy call latest view signal → signal.optionType = .call →
      ∀ level ∈ opposingLevels view signal.signalType, view.latest.close < level →
        signal.targetPrice ≤ level - config.srBufferPoints) ∧
    ¬∀ (config : StrategyEConfig) (strategy : PivotVwapScalpStrategy) (call : StrategyECall)
      (center : ℚ), 0 < config.maxStopPoints ∧ 0 < config.minRoomToLevelPoints ∧
        0 < config.minRewardRisk → (∀ bar ∈ call.futures5m, Inside center bar) →
      (evaluate config strategy (reflectCall center call)).2.signal =
        (evaluate config strategy call).2.signal.map (reflectSignal center) := by
  have positive : 0 < scalpConfig.maxStopPoints ∧ 0 < scalpConfig.minRoomToLevelPoints ∧
      0 < scalpConfig.minRewardRisk := by decide +kernel
  refine ⟨fun unrounded => ?_, fun mirrored => ?_⟩
  · obtain ⟨latest, view, signals, pivot, below⟩ := signals_rebound
    have isLevel : view.pivot ∈ opposingLevels view reboundSignal.signalType :=
      List.mem_append_left _ List.mem_concat_self
    have bounded := unrounded scalpConfig initial _ _ latest view positive signals rfl view.pivot
      isLevel (pivot ▸ below)
    rw [pivot] at bounded
    exact absurd bounded (by decide +kernel)
  · have same := mirrored scalpConfig initial (scalpCall reboundBars 0) (40001 / 100) positive
      (inside_rebound (by norm_num))
    have rounded := congrArg (Option.map StrategyESignal.spotReferencePrice) same
    exact absurd rounded (by decide +kernel)

end BreezeTrading.PivotVwapScalpStrategy
