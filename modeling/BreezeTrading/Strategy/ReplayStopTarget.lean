/-
This file proves the ordering of a fixed stop and target. The first minute that touches either
decides: what the resolver makes of it is what happens on every path behind the candles, its
price is never better than the level, and it gives up exactly when the minute touches both and
opens strictly between them. Reflecting all prices reflects the result.
-/

import BreezeTrading.Strategy.ReplayPaths

namespace BreezeTrading.ReplayIntrabar

open TickPath

/-! ### The deciding minute -/

section Verdict

variable (direction : TradeDirection) (activeStop target : ℚ)

def touchesEither (candle : Candle) : Bool :=
  stopHit direction candle activeStop || levelHit direction candle target

/-- What a minute that touches the stop or the target decides. -/
def targetVerdict (candle : Candle) : IntrabarResolution :=
  targetOrder direction activeStop target [candle]

theorem targetOrder_eq (candles : List Candle) :
    targetOrder direction activeStop target candles =
      match candles.find? (touchesEither direction activeStop target) with
      | none => { event := .noEvent, ambiguous := false }
      | some candle => targetVerdict direction activeStop target candle := by
  induction candles with
  | nil => rfl
  | cons candle rest inductionHypothesis =>
    rw [List.find?_cons]
    cases stopped : stopHit direction candle activeStop <;>
      cases reached : levelHit direction candle target <;>
      simp [targetOrder, touchesEither, stopped, reached, inductionHypothesis, targetVerdict]

end Verdict

/-! ### Soundness -/

section Soundness

variable (direction : TradeDirection) (activeStop target : ℚ)

/-- The first minute that touches the stop or the target. -/
def decidingMinute (minutes : List TickMinute) : Option TickMinute :=
  minutes.find? fun minute => touchesEither direction activeStop target minute.candle

/-- A resolution of minutes, in order, is sound and conservative. -/
structure TargetSound (minutes : List TickMinute) (resolution : IntrabarResolution) : Prop where
  stopFirst : resolution.event = .structuralStop →
    Before (AtStop direction activeStop) (AtLevel direction target) (path minutes)
  targetFirst : resolution.event = .target →
    Before (AtLevel direction target) (AtStop direction activeStop) (path minutes)
  stopPrice : resolution.event = .structuralStop → ∃ minute ∈ minutes,
    resolution.eventTime = some minute.startTime ∧
    resolution.exitPrice =
      some (if AtStop direction activeStop minute.first then minute.first else activeStop)
  neverBetter : resolution.event = .structuralStop →
    ∀ price ∈ resolution.exitPrice, AtStop direction activeStop price
  targetPrice : resolution.event = .target → resolution.exitPrice = some target
  untouched : resolution.event = .noEvent ↔
    ¬Touched (AtStop direction activeStop) (path minutes) ∧
      ¬Touched (AtLevel direction target) (path minutes)
  ambiguous : resolution.event = .stillAmbiguous ↔
    ∃ minute, decidingMinute direction activeStop target minutes = some minute ∧
      Touched (AtStop direction activeStop) minute.ticks ∧
      Touched (AtLevel direction target) minute.ticks ∧
      ¬AtStop direction activeStop minute.first ∧ ¬AtLevel direction target minute.first
  flagged : resolution.ambiguous = true ↔ resolution.event = .stillAmbiguous

variable {direction activeStop target}
variable {minutes : List TickMinute}

theorem atStop_self : AtStop direction activeStop activeStop := by
  cases direction <;> simp [AtStop, hitsStop]

theorem atStop_stopFill (candle : Candle) :
    AtStop direction activeStop (stopFill direction candle activeStop) := by
  unfold stopFill
  split
  · assumption
  · exact atStop_self

theorem targetSound_of_none (none : decidingMinute direction activeStop target minutes = none) :
    TargetSound direction activeStop target minutes { event := .noEvent, ambiguous := false } := by
  have untouched := List.find?_eq_none.mp none
  simp only [touchesEither, Bool.or_eq_true, not_or] at untouched
  refine ⟨nofun, nofun, nofun, nofun, nofun, iff_of_true rfl ⟨?_, ?_⟩, ?_, by simp⟩
  · rw [touched_stop_path_iff]
    exact fun ⟨minute, member, hit⟩ => (untouched minute member).1 hit
  · rw [touched_level_path_iff]
    exact fun ⟨minute, member, hit⟩ => (untouched minute member).2 hit
  · simp [none]

variable (direction activeStop target) in
/-- The path up to the deciding minute touches neither level. -/
structure DecidedBy (minutes : List TickMinute) (minute : TickMinute)
    (earlier later : List TickMinute) : Prop where
  split : minutes = earlier ++ minute :: later
  stopUntouched : ¬Touched (AtStop direction activeStop) (path earlier)
  levelUntouched : ¬Touched (AtLevel direction target) (path earlier)

theorem decidedBy_of_some {minute : TickMinute}
    (decides : decidingMinute direction activeStop target minutes = some minute) :
    ∃ earlier later, DecidedBy direction activeStop target minutes minute earlier later := by
  obtain ⟨-, earlier, later, split, before⟩ := List.find?_eq_some_iff_append.mp decides
  simp only [touchesEither, Bool.not_eq_true', Bool.or_eq_false_iff] at before
  refine ⟨earlier, later, split, ?_, ?_⟩
  · rw [touched_stop_path_iff]
    exact fun ⟨other, member, hit⟩ => by simp [(before other member).1] at hit
  · rw [touched_level_path_iff]
    exact fun ⟨other, member, hit⟩ => by simp [(before other member).2] at hit

section Decided

variable {minute : TickMinute} {earlier later : List TickMinute}
  (decided : DecidedBy direction activeStop target minutes minute earlier later)

include decided

theorem DecidedBy.mem : minute ∈ minutes := by
  rw [decided.split]
  exact List.mem_append_right earlier List.mem_cons_self

theorem DecidedBy.touched_stop (touched : Touched (AtStop direction activeStop) minute.ticks) :
    Touched (AtStop direction activeStop) (path minutes) := by
  rw [decided.split, path_append, path_cons, touched_append, touched_append]
  exact .inr (.inl touched)

theorem DecidedBy.touched_level (touched : Touched (AtLevel direction target) minute.ticks) :
    Touched (AtLevel direction target) (path minutes) := by
  rw [decided.split, path_append, path_cons, touched_append, touched_append]
  exact .inr (.inl touched)

theorem DecidedBy.stop_first (order : AtStop direction activeStop minute.first ∨
    Touched (AtStop direction activeStop) minute.ticks ∧
      ¬Touched (AtLevel direction target) minute.ticks) :
    Before (AtStop direction activeStop) (AtLevel direction target) (path minutes) := by
  rw [decided.split, path_append, path_cons,
    before_append_of_untouched decided.stopUntouched decided.levelUntouched]
  rcases order with opens | ⟨stopTouched, levelUntouched⟩
  · exact .inl opens
  · exact before_append_of_touched stopTouched levelUntouched (path later)

theorem DecidedBy.target_first (order : AtLevel direction target minute.first ∨
    Touched (AtLevel direction target) minute.ticks ∧
      ¬Touched (AtStop direction activeStop) minute.ticks) :
    Before (AtLevel direction target) (AtStop direction activeStop) (path minutes) := by
  rw [decided.split, path_append, path_cons,
    before_append_of_untouched decided.levelUntouched decided.stopUntouched]
  rcases order with opens | ⟨levelTouched, stopUntouched⟩
  · exact .inl opens
  · exact before_append_of_touched levelTouched stopUntouched (path later)

end Decided

variable {minute : TickMinute}

section

variable (decides : decidingMinute direction activeStop target minutes = some minute)

include decides

theorem targetSound_of_stop (touched : Touched (AtStop direction activeStop) minute.ticks) (order :
      AtStop direction activeStop minute.first ∨ ¬Touched (AtLevel direction target) minute.ticks) :
    TargetSound direction activeStop target minutes
      (exitAt direction .structuralStop minute.candle activeStop) := by
  obtain ⟨earlier, later, decided⟩ := decidedBy_of_some decides
  refine ⟨fun _ => decided.stop_first (order.imp_right fun untouched => ⟨touched, untouched⟩),
    nofun, fun _ => ⟨minute, decided.mem, rfl, rfl⟩, ?_, nofun, ?_, ?_, by simp [exitAt]⟩
  · rintro - _ ⟨⟩
    exact atStop_stopFill minute.candle
  · exact iff_of_false nofun fun untouched => untouched.1 (decided.touched_stop touched)
  · refine iff_of_false nofun ?_
    rintro ⟨other, same, -, levelTouched, opensShort, -⟩
    rw [decides, Option.some.injEq] at same
    subst same
    exact order.elim opensShort fun untouched => untouched levelTouched

theorem targetSound_of_target (touched : Touched (AtLevel direction target) minute.ticks) (order :
      AtLevel direction target minute.first ∨ ¬Touched (AtStop direction activeStop) minute.ticks) :
    TargetSound direction activeStop target minutes
      { event := .target
        ambiguous := false
        eventTime := some minute.candle.startTime
        exitPrice := some target } := by
  obtain ⟨earlier, later, decided⟩ := decidedBy_of_some decides
  refine ⟨nofun, fun _ => decided.target_first (order.imp_right fun untouched =>
    ⟨touched, untouched⟩), nofun, nofun, fun _ => rfl, ?_, ?_, by simp⟩
  · exact iff_of_false nofun fun untouched => untouched.2 (decided.touched_level touched)
  · refine iff_of_false nofun ?_
    rintro ⟨other, same, stopTouched, -, -, opensShort⟩
    rw [decides, Option.some.injEq] at same
    subst same
    exact order.elim opensShort fun untouched => untouched stopTouched

theorem targetSound_of_ambiguous (stopTouched : Touched (AtStop direction activeStop) minute.ticks)
    (levelTouched : Touched (AtLevel direction target) minute.ticks)
    (opensAbove : ¬AtStop direction activeStop minute.first)
    (opensBelow : ¬AtLevel direction target minute.first) (detail : String) :
    TargetSound direction activeStop target minutes (unordered minute.candle detail) := by
  obtain ⟨earlier, later, decided⟩ := decidedBy_of_some decides
  refine ⟨nofun, nofun, nofun, nofun, nofun, ?_, ?_, by simp [unordered]⟩
  · exact iff_of_false nofun fun untouched => untouched.1 (decided.touched_stop stopTouched)
  · exact iff_of_true rfl ⟨minute, decides, stopTouched, levelTouched, opensAbove, opensBelow⟩

end

theorem targetOrder_sound (minutes : List TickMinute) :
    TargetSound direction activeStop target minutes
      (targetOrder direction activeStop target (minutes.map TickMinute.candle)) := by
  rw [targetOrder_eq, List.find?_map]
  rcases decides : decidingMinute direction activeStop target minutes with _ | minute
  · rw [show minutes.find? (touchesEither direction activeStop target ∘ TickMinute.candle) = none
      from decides]
    exact targetSound_of_none decides
  rw [show minutes.find? (touchesEither direction activeStop target ∘ TickMinute.candle) =
    some minute from decides]
  have touched := List.find?_some decides
  have stopIff := stopHit_candle_iff direction activeStop minute
  have levelIff := levelHit_candle_iff direction target minute
  dsimp only [Option.map_some, targetVerdict, targetOrder]
  cases stopped : stopHit direction minute.candle activeStop <;>
    cases reached : levelHit direction minute.candle target
  · simp [touchesEither, stopped, reached] at touched
  · simp only [stopped, reached, Bool.false_eq_true, false_iff, true_iff] at stopIff levelIff
    exact targetSound_of_target decides levelIff (.inr stopIff)
  · simp only [stopped, reached, Bool.false_eq_true, false_iff, true_iff] at stopIff levelIff
    exact targetSound_of_stop decides stopIff (.inr levelIff)
  · simp only [stopped, reached, true_iff] at stopIff levelIff
    dsimp only
    split
    · rename_i opens
      exact targetSound_of_stop decides stopIff (.inl opens)
    · rename_i opensAbove
      split
      · rename_i opens
        exact targetSound_of_target decides levelIff (.inl opens)
      · rename_i opensBelow
        exact targetSound_of_ambiguous decides stopIff levelIff opensAbove opensBelow _

end Soundness

/-! ### Reflection -/

section Reflection

variable (direction : TradeDirection) (center activeStop target : ℚ)

def opposite : TradeDirection → TradeDirection
  | .bullish => .bearish
  | .bearish => .bullish

/-- All prices of a candle are reflected: its low is the high of the reflection. -/
def reflectCandle (candle : Candle) : Candle where
  startTime := candle.startTime
  endTime := candle.endTime
  openPrice := center - candle.openPrice
  high := center - candle.low
  low := center - candle.high
  close := center - candle.close

def reflectResolution (resolution : IntrabarResolution) : IntrabarResolution :=
  { resolution with exitPrice := resolution.exitPrice.map fun price => center - price }

theorem hitsStop_reflect (price stop : ℚ) :
    hitsStop (opposite direction) (center - price) (center - stop) =
      hitsStop direction price stop := by
  cases direction <;>
    simp only [hitsStop, opposite, reduceCtorEq, if_true, if_false, sub_le_sub_iff_left]

theorem reachesLevel_reflect (price level : ℚ) :
    reachesLevel (opposite direction) (center - price) (center - level) =
      reachesLevel direction price level := by
  cases direction <;>
    simp only [reachesLevel, opposite, reduceCtorEq, if_true, if_false, sub_le_sub_iff_left]

theorem stopHit_reflect (candle : Candle) :
    stopHit (opposite direction) (reflectCandle center candle) (center - activeStop) =
      stopHit direction candle activeStop := by
  cases direction
  · exact hitsStop_reflect .bullish center candle.low activeStop
  · exact hitsStop_reflect .bearish center candle.high activeStop

theorem levelHit_reflect (candle : Candle) :
    levelHit (opposite direction) (reflectCandle center candle) (center - target) =
      levelHit direction candle target := by
  cases direction
  · exact reachesLevel_reflect .bullish center candle.high target
  · exact reachesLevel_reflect .bearish center candle.low target

theorem stopFill_reflect (candle : Candle) :
    stopFill (opposite direction) (reflectCandle center candle) (center - activeStop) =
      center - stopFill direction candle activeStop := by
  unfold stopFill
  rw [show (reflectCandle center candle).openPrice = center - candle.openPrice from rfl,
    hitsStop_reflect]
  split
  · rfl
  · rfl

theorem sortByStart_reflect (candles : List Candle) :
    sortByStart (candles.map (reflectCandle center)) =
      (sortByStart candles).map (reflectCandle center) := by
  exact (List.map_insertionSort _ _ (reflectCandle center) candles fun _ _ _ _ => Iff.rfl).symm

theorem targetOrder_reflect (candles : List Candle) :
    targetOrder (opposite direction) (center - activeStop) (center - target)
        (candles.map (reflectCandle center)) =
      reflectResolution center (targetOrder direction activeStop target candles) := by
  induction candles with
  | nil => rfl
  | cons candle rest inductionHypothesis =>
    have opens : (reflectCandle center candle).openPrice = center - candle.openPrice := rfl
    simp only [List.map_cons, targetOrder, stopHit_reflect, levelHit_reflect, inductionHypothesis,
      exitAt, stopFill_reflect, opens, hitsStop_reflect, reachesLevel_reflect]
    split
    · rfl
    · split
      · rfl
      · split
        · rfl
        · rfl
    · rfl
    · rfl

end Reflection

/-! ### The resolver -/

theorem resolveStopTargetOrder_of_positive {direction : TradeDirection} {activeStop target : ℚ}
    (positiveStop : 0 < activeStop) (positiveTarget : 0 < target) (candles : List Candle) :
    resolveStopTargetOrder direction activeStop target candles =
      .ok (targetOrder direction activeStop target (sortByStart candles)) :=
  if_neg (not_le.mpr (lt_min positiveStop positiveTarget))

/-- Whatever path is behind the minutes, the resolution is sound and conservative; and reflecting
all prices reflects it. -/
theorem resolve_stop_target_sound (direction : TradeDirection) (activeStop target : ℚ)
    (positiveStop : 0 < activeStop) (positiveTarget : 0 < target) :
    (∀ minutes : List TickMinute, ∃ resolution,
      resolveStopTargetOrder direction activeStop target (minutes.map TickMinute.candle) =
        .ok resolution ∧
      TargetSound direction activeStop target (sortMinutes minutes) resolution) ∧
    ∀ (center : ℚ) (candles : List Candle), activeStop < center → target < center →
      resolveStopTargetOrder (opposite direction) (center - activeStop) (center - target)
          (candles.map (reflectCandle center)) =
        (resolveStopTargetOrder direction activeStop target candles).map
          (reflectResolution center) := by
  constructor
  · intro minutes
    refine ⟨_, resolveStopTargetOrder_of_positive positiveStop positiveTarget _, ?_⟩
    rw [sortByStart_map_candle]
    exact targetOrder_sound (sortMinutes minutes)
  · intro center candles stopBelow targetBelow
    rw [resolveStopTargetOrder_of_positive (sub_pos.mpr stopBelow) (sub_pos.mpr targetBelow),
      resolveStopTargetOrder_of_positive positiveStop positiveTarget, sortByStart_reflect,
      targetOrder_reflect]
    rfl

/-- A long position with a stop at 100 and a target at 110. -/
theorem resolve_stop_target_sound_long :
    (∀ minutes : List TickMinute, ∃ resolution,
      resolveStopTargetOrder .bullish 100 110 (minutes.map TickMinute.candle) = .ok resolution ∧
      TargetSound .bullish 100 110 (sortMinutes minutes) resolution) ∧
    ∀ (center : ℚ) (candles : List Candle), 100 < center → 110 < center →
      resolveStopTargetOrder (opposite .bullish) (center - 100) (center - 110)
          (candles.map (reflectCandle center)) =
        (resolveStopTargetOrder .bullish 100 110 candles).map (reflectResolution center) :=
  resolve_stop_target_sound .bullish 100 110 (by decide +kernel) (by decide +kernel)

end BreezeTrading.ReplayIntrabar
