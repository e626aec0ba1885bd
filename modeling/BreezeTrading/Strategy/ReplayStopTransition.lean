/-
This file proves the ordering of a favorable transition against the stops it separates. The loop
asks for the new stop also in minutes before any transition. The resolver is sound on the paths
behind the candles exactly when no such minute touches the new stop.
-/

import BreezeTrading.Strategy.ReplayStopTarget
import Mathlib.Data.List.TakeWhile

namespace BreezeTrading.ReplayIntrabar

open TickPath

/-! ### Soundness -/

section Statement

variable (direction : TradeDirection) (activeStop transitionLevel transitionedStop : ℚ)

/-- What an event of the resolver says about a path. -/
def Happens (ticks : List ℚ) : IntrabarEvent → Prop
  | .structuralStop =>
      Before (AtStop direction activeStop) (AtLevel direction transitionLevel) ticks
  | .transitionThenStop =>
      Before (AtLevel direction transitionLevel) (AtStop direction activeStop) ticks ∧
        FollowedBy (AtLevel direction transitionLevel) (AtStop direction transitionedStop) ticks
  | .transitionAndSurvive =>
      Before (AtLevel direction transitionLevel) (AtStop direction activeStop) ticks ∧
        ¬FollowedBy (AtLevel direction transitionLevel) (AtStop direction transitionedStop) ticks
  | .noEvent =>
      ¬Touched (AtStop direction activeStop) ticks ∧
        ¬Touched (AtLevel direction transitionLevel) ticks
  | _ => False

/-- A resolution of minutes, in order, is sound. -/
structure TransitionSound (minutes : List TickMinute) (resolution : IntrabarResolution) :
    Prop where
  happens : resolution.ambiguous = false → ∀ event, resolution.event = event ↔
    Happens direction activeStop transitionLevel transitionedStop (path minutes) event
  /-- As long as no minute touches the transition, none exits at the new stop. -/
  noEarlyExit : ∀ earlier, earlier <+: minutes →
    ¬Touched (AtLevel direction transitionLevel) (path earlier) →
    (transitionOrder direction activeStop transitionLevel transitionedStop false
      (earlier.map TickMinute.candle)).event ≠ .transitionThenStop

/-- The minutes before the first one that touches the old stop or the transition. -/
def undecided (minutes : List TickMinute) : List TickMinute :=
  minutes.takeWhile fun minute => !touchesEither direction activeStop transitionLevel minute.candle

/-- The new stop is touched before it can be active. -/
def ExitsEarly (minutes : List TickMinute) : Prop :=
  ∃ minute ∈ undecided direction activeStop transitionLevel minutes,
    stopHit direction minute.candle transitionedStop = true

end Statement

section Sound

variable {direction : TradeDirection} {activeStop transitionLevel transitionedStop : ℚ}

/-! ### Events -/

theorem happens_unique (above : Above direction activeStop transitionLevel) {ticks : List ℚ}
    {event other : IntrabarEvent}
    (happens : Happens direction activeStop transitionLevel transitionedStop ticks event)
    (otherHappens : Happens direction activeStop transitionLevel transitionedStop ticks other) :
    event = other := by
  have exclusive := not_atLevel_of_atStop above
  cases event <;> try exact happens.elim
  all_goals cases other <;> try exact otherHappens.elim
  all_goals try rfl
  · exact absurd otherHappens.1 (Before.asymm exclusive happens)
  · exact absurd otherHappens.1 (Before.asymm exclusive happens)
  · exact absurd happens.touched otherHappens.1
  · exact absurd happens.1 (Before.asymm exclusive otherHappens)
  · exact absurd happens.2 otherHappens.2
  · exact absurd happens.1.touched otherHappens.2
  · exact absurd happens.1 (Before.asymm exclusive otherHappens)
  · exact absurd otherHappens.2 happens.2
  · exact absurd happens.1.touched otherHappens.2
  · exact absurd otherHappens.touched happens.1
  · exact absurd otherHappens.1.touched happens.2
  · exact absurd otherHappens.1.touched happens.2

theorem atStop_of_above (above : Above direction activeStop transitionedStop) {tick : ℚ}
    (atStop : AtStop direction activeStop tick) : AtStop direction transitionedStop tick := by
  cases direction
  · exact decide_eq_true ((of_decide_eq_true atStop : tick ≤ activeStop).trans above.le)
  · exact decide_eq_true ((le_of_lt above).trans (of_decide_eq_true atStop : activeStop ≤ tick))

/-! ### The loop -/

theorem transitionOrder_append (earlier rest : List Candle)
    (untouched : ∀ candle ∈ earlier, touchesEither direction activeStop transitionLevel candle =
      false ∧ stopHit direction candle transitionedStop = false) :
    transitionOrder direction activeStop transitionLevel transitionedStop false (earlier ++ rest) =
      transitionOrder direction activeStop transitionLevel transitionedStop false rest := by
  induction earlier with
  | nil => rfl
  | cons candle others inductionHypothesis =>
    obtain ⟨neither, newUntouched⟩ := untouched candle List.mem_cons_self
    rw [touchesEither, Bool.or_eq_false_iff] at neither
    have later := inductionHypothesis fun other member =>
      untouched other (List.mem_cons_of_mem candle member)
    rw [List.cons_append]
    simp only [transitionOrder, neither.1, neither.2, newUntouched, Bool.false_eq_true, if_false]
    exact later

theorem transitionOrder_early_exit {candle : Candle} (rest : List Candle)
    (neither : touchesEither direction activeStop transitionLevel candle = false)
    (newTouched : stopHit direction candle transitionedStop = true) :
    (transitionOrder direction activeStop transitionLevel transitionedStop false
      (candle :: rest)).event = .transitionThenStop := by
  rw [touchesEither, Bool.or_eq_false_iff] at neither
  simp only [transitionOrder, neither.1, neither.2, newTouched, if_true]
  rfl

variable (direction activeStop transitionLevel transitionedStop) in
theorem transitionOrder_after (minutes : List TickMinute) :
    (transitionOrder direction activeStop transitionLevel transitionedStop true
        (minutes.map TickMinute.candle)).event = .transitionThenStop ∧
      Touched (AtStop direction transitionedStop) (path minutes) ∨
    (transitionOrder direction activeStop transitionLevel transitionedStop true
        (minutes.map TickMinute.candle)).event = .transitionAndSurvive ∧
      ¬Touched (AtStop direction transitionedStop) (path minutes) := by
  induction minutes with
  | nil => exact .inr ⟨rfl, not_touched_nil⟩
  | cons minute rest inductionHypothesis =>
    have hitIff := stopHit_candle_iff direction transitionedStop minute
    rw [List.map_cons, path_cons, touched_append, ← hitIff]
    cases hit : stopHit direction minute.candle transitionedStop
    · simpa [transitionOrder, hit] using inductionHypothesis
    · exact .inl ⟨by simp [transitionOrder, hit, exitAt], .inl rfl⟩

theorem transitionOrder_flag {transitioned : Bool} {candles : List Candle}
    (exits : (transitionOrder direction activeStop transitionLevel transitionedStop transitioned
      candles).event = .transitionThenStop) :
    (transitionOrder direction activeStop transitionLevel transitionedStop transitioned
      candles).ambiguous = false := by
  fun_induction transitionOrder
  case case3 goesOn | case6 goesOn | case11 goesOn | case13 goesOn => exact goesOn exits
  all_goals first
    | rfl
    | exact absurd exits (by simp [unordered])

/-! ### The deciding minute -/

section Decided

variable {minutes earlier later : List TickMinute} {minute : TickMinute}
  (above : Above direction activeStop transitionedStop)
  (beyond : Above direction transitionedStop transitionLevel)
  (decided : DecidedBy direction activeStop transitionLevel minutes minute earlier later)

include decided

theorem DecidedBy.followed_iff :
    FollowedBy (AtLevel direction transitionLevel) (AtStop direction transitionedStop)
        (path minutes) ↔
      FollowedBy (AtLevel direction transitionLevel) (AtStop direction transitionedStop)
        (minute.ticks ++ path later) := by
  rw [decided.split, path_append, path_cons, followedBy_append_of_untouched decided.levelUntouched]

include beyond

theorem DecidedBy.followed_of_opens (opens : AtLevel direction transitionLevel minute.first)
    (newTouched : Touched (AtStop direction transitionedStop) minute.ticks) :
    FollowedBy (AtLevel direction transitionLevel) (AtStop direction transitionedStop)
      (path minutes) := by
  have opensAbove : ¬AtStop direction transitionedStop minute.first := fun atStop =>
    not_atLevel_of_atStop beyond minute.first atStop opens
  refine decided.followed_iff.mpr ((followedBy_cons_of_first opens).mpr ?_)
  exact touched_append.mpr (.inl ((touched_cons.mp newTouched).resolve_left opensAbove))

omit beyond in
theorem DecidedBy.happens_after
    (levelFirst : Before (AtLevel direction transitionLevel) (AtStop direction activeStop)
      (path minutes))
    (levelTouched : Touched (AtLevel direction transitionLevel) minute.ticks)
    (newUntouched : ¬Touched (AtStop direction transitionedStop) minute.ticks) :
    Happens direction activeStop transitionLevel transitionedStop (path minutes)
      (transitionOrder direction activeStop transitionLevel transitionedStop true
        (later.map TickMinute.candle)).event := by
  have followed := decided.followed_iff.trans
    (followedBy_append_iff levelTouched newUntouched)
  rcases transitionOrder_after direction activeStop transitionLevel transitionedStop later with
    ⟨event, touched⟩ | ⟨event, untouched⟩
  · rw [event]
    exact ⟨levelFirst, followed.mpr touched⟩
  · rw [event]
    exact ⟨levelFirst, followed.not.mpr untouched⟩

include above

theorem DecidedBy.happens
    (unambiguous : (transitionOrder direction activeStop transitionLevel transitionedStop false
      (minute.candle :: later.map TickMinute.candle)).ambiguous = false)
    (touches : touchesEither direction activeStop transitionLevel minute.candle = true) :
    Happens direction activeStop transitionLevel transitionedStop (path minutes)
      (transitionOrder direction activeStop transitionLevel transitionedStop false
        (minute.candle :: later.map TickMinute.candle)).event := by
  have stopIff := stopHit_candle_iff direction activeStop minute
  have levelIff := levelHit_candle_iff direction transitionLevel minute
  have newIff := stopHit_candle_iff direction transitionedStop minute
  cases stopped : stopHit direction minute.candle activeStop <;>
    cases reached : levelHit direction minute.candle transitionLevel
  · simp [touchesEither, stopped, reached] at touches
  · rw [stopped, Bool.false_eq_true, false_iff] at stopIff
    have levelTouched := levelIff.mp reached
    have levelFirst := decided.target_first (.inr ⟨levelTouched, stopIff⟩)
    cases newTouched : stopHit direction minute.candle transitionedStop
    · rw [newTouched, Bool.false_eq_true, false_iff] at newIff
      simp only [transitionOrder, stopped, reached, newTouched, Bool.false_and,
        Bool.false_eq_true, if_false]
      exact decided.happens_after levelFirst levelTouched newIff
    cases opens : reachesLevel direction minute.candle.openPrice transitionLevel
    · simp [transitionOrder, stopped, reached, newTouched, opens, unordered] at unambiguous
    · simp only [transitionOrder, stopped, reached, newTouched, opens, Bool.not_true,
        Bool.and_false, Bool.false_eq_true, if_false, if_true]
      exact ⟨levelFirst, decided.followed_of_opens beyond opens (newIff.mp newTouched)⟩
  · rw [reached, Bool.false_eq_true, false_iff] at levelIff
    simp only [transitionOrder, stopped, reached]
    exact decided.stop_first (.inr ⟨stopIff.mp stopped, levelIff⟩)
  · have newTouched : Touched (AtStop direction transitionedStop) minute.ticks :=
      (stopIff.mp stopped).imp fun tick => And.imp_right (atStop_of_above above)
    have newHit := newIff.mpr newTouched
    cases opensStopped : hitsStop direction minute.candle.openPrice activeStop
    · cases opens : reachesLevel direction minute.candle.openPrice transitionLevel
      · simp [transitionOrder, stopped, reached, opensStopped, opens, unordered] at unambiguous
      · simp only [transitionOrder, stopped, reached, newHit, opensStopped, opens,
          Bool.false_eq_true, if_false, if_true]
        exact ⟨decided.target_first (.inl opens), decided.followed_of_opens beyond opens newTouched⟩
    · simp only [transitionOrder, stopped, reached, opensStopped, if_true]
      exact decided.stop_first (.inl opensStopped)

end Decided

/-! ### The loop from the first minute -/

variable {minutes earlier later : List TickMinute} {minute : TickMinute}

section

variable (decided : DecidedBy direction activeStop transitionLevel minutes minute earlier later)

include decided

theorem DecidedBy.neither :
    ∀ other ∈ earlier, touchesEither direction activeStop transitionLevel other.candle = false := by
  intro other member
  refine Bool.or_eq_false_iff.mpr ⟨Bool.eq_false_iff.mpr fun hit => ?_,
    Bool.eq_false_iff.mpr fun hit => ?_⟩
  · exact decided.stopUntouched (touched_stop_path_iff.mpr ⟨other, member, hit⟩)
  · exact decided.levelUntouched (touched_level_path_iff.mpr ⟨other, member, hit⟩)

theorem DecidedBy.undecided_eq
    (touches : touchesEither direction activeStop transitionLevel minute.candle = true) :
    undecided direction activeStop transitionLevel minutes = earlier := by
  unfold undecided
  rw [decided.split,
    List.takeWhile_append_of_pos fun other member => by simp [decided.neither other member],
    List.takeWhile_cons_of_neg (by simp [touches]), List.append_nil]

end

theorem undecided_eq_self (none : decidingMinute direction activeStop transitionLevel minutes =
    none) : undecided direction activeStop transitionLevel minutes = minutes :=
  List.takeWhile_eq_self_iff.mpr fun minute member => by
    simpa using List.find?_eq_none.mp none minute member

theorem undecided_neither : ∀ minute ∈ undecided direction activeStop transitionLevel minutes,
    touchesEither direction activeStop transitionLevel minute.candle = false := by
  intro minute member
  simpa using List.mem_takeWhile_imp member

theorem transitionOrder_undecided (rest : List Candle)
    (notEarly : ¬ExitsEarly direction activeStop transitionLevel transitionedStop minutes) :
    transitionOrder direction activeStop transitionLevel transitionedStop false
        ((undecided direction activeStop transitionLevel minutes).map TickMinute.candle ++ rest) =
      transitionOrder direction activeStop transitionLevel transitionedStop false rest := by
  refine transitionOrder_append _ rest (List.forall_mem_map.mpr fun minute member => ?_)
  exact ⟨undecided_neither minute member,
    Bool.eq_false_iff.mpr fun hit => notEarly ⟨minute, member, hit⟩⟩

theorem happens_of_not_exitsEarly (above : Above direction activeStop transitionedStop)
    (beyond : Above direction transitionedStop transitionLevel)
    (notEarly : ¬ExitsEarly direction activeStop transitionLevel transitionedStop minutes)
    (unambiguous : (transitionOrder direction activeStop transitionLevel transitionedStop false
      (minutes.map TickMinute.candle)).ambiguous = false) :
    Happens direction activeStop transitionLevel transitionedStop (path minutes)
      (transitionOrder direction activeStop transitionLevel transitionedStop false
        (minutes.map TickMinute.candle)).event := by
  rcases decides : decidingMinute direction activeStop transitionLevel minutes with _ | minute
  · have skipped := transitionOrder_undecided [] notEarly
    rw [undecided_eq_self decides, List.append_nil] at skipped
    rw [skipped]
    exact (targetSound_of_none decides).untouched.mp rfl
  obtain ⟨earlier, later, decided⟩ := decidedBy_of_some decides
  have touches := List.find?_some decides
  have skipped := transitionOrder_undecided (minute.candle :: later.map TickMinute.candle) notEarly
  rw [decided.undecided_eq touches, ← List.map_cons, ← List.map_append, ← decided.split] at skipped
  rw [skipped] at unambiguous ⊢
  exact decided.happens above beyond unambiguous touches

theorem early_exit_of_exitsEarly
    (early : ExitsEarly direction activeStop transitionLevel transitionedStop minutes) :
    ∃ earlier, earlier <+: minutes ∧
      ¬Touched (AtLevel direction transitionLevel) (path earlier) ∧
      (transitionOrder direction activeStop transitionLevel transitionedStop false
        (earlier.map TickMinute.candle)).event = .transitionThenStop := by
  obtain ⟨exit, found⟩ := Option.isSome_iff_exists.mp (List.find?_isSome.mpr early)
  obtain ⟨newTouched, before, after, split, newUntouched⟩ :=
    List.find?_eq_some_iff_append.mp found
  have isPrefix : before ++ [exit] <+: undecided direction activeStop transitionLevel minutes := by
    rw [split, List.prefix_append_right_inj]
    exact List.prefix_append [exit] after
  have neither : ∀ minute ∈ before ++ [exit],
      touchesEither direction activeStop transitionLevel minute.candle = false :=
    fun minute member => undecided_neither minute (isPrefix.subset member)
  refine ⟨before ++ [exit], isPrefix.trans (List.takeWhile_prefix _), ?_, ?_⟩
  · rw [touched_level_path_iff]
    rintro ⟨minute, member, hit⟩
    exact absurd hit (by simp [(Bool.or_eq_false_iff.mp (neither minute member)).2])
  · rw [List.map_append, transitionOrder_append]
    · exact transitionOrder_early_exit [] (neither exit (by simp)) newTouched
    · refine List.forall_mem_map.mpr fun minute member => ⟨neither minute (by simp [member]), ?_⟩
      simpa using newUntouched minute member

theorem ExitsEarly.of_prefix
    (early : ExitsEarly direction activeStop transitionLevel transitionedStop earlier)
    (isPrefix : earlier <+: minutes) :
    ExitsEarly direction activeStop transitionLevel transitionedStop minutes := by
  obtain ⟨later, rfl⟩ := isPrefix
  obtain ⟨minute, member, hit⟩ := early
  refine ⟨minute, ?_, hit⟩
  unfold undecided at member ⊢
  rw [List.takeWhile_append]
  split
  · exact List.mem_append_left _ ((List.takeWhile_prefix _).subset member)
  · exact member

theorem transitionOrder_sound_iff (above : Above direction activeStop transitionedStop)
    (beyond : Above direction transitionedStop transitionLevel) (minutes : List TickMinute) :
    TransitionSound direction activeStop transitionLevel transitionedStop minutes
        (transitionOrder direction activeStop transitionLevel transitionedStop false
          (minutes.map TickMinute.candle)) ↔
      ¬ExitsEarly direction activeStop transitionLevel transitionedStop minutes := by
  constructor
  · intro sound early
    obtain ⟨earlier, isPrefix, untouched, exits⟩ := early_exit_of_exitsEarly early
    exact sound.noEarlyExit earlier isPrefix untouched exits
  intro notEarly
  refine ⟨fun unambiguous event => ?_, fun earlier isPrefix untouched exits => ?_⟩
  · have happens := happens_of_not_exitsEarly above beyond notEarly unambiguous
    exact ⟨fun same => same ▸ happens, happens_unique (above.trans beyond) happens⟩
  · have unambiguous := transitionOrder_flag exits
    have happens := happens_of_not_exitsEarly above beyond
      (fun early => notEarly (early.of_prefix isPrefix)) unambiguous
    rw [exits] at happens
    exact untouched happens.1.touched

end Sound

/-! ### The resolver -/

/-- Whatever path is behind the minutes, the resolution of a transition is sound exactly when no
minute before the first touch of the old stop or the transition touches the new stop. -/
theorem resolve_transition_sound_iff (direction : TradeDirection)
    (activeStop transitionLevel transitionedStop : ℚ) (minutes : List TickMinute)
    (positiveStop : 0 < activeStop) (positiveLevel : 0 < transitionLevel)
    (positiveNewStop : 0 < transitionedStop)
    (above : Above direction activeStop transitionedStop)
    (beyond : Above direction transitionedStop transitionLevel) :
    ∃ resolution,
      resolveActiveStopTransition direction activeStop transitionLevel transitionedStop
        (minutes.map TickMinute.candle) = .ok resolution ∧
      (TransitionSound direction activeStop transitionLevel transitionedStop
          (sortMinutes minutes) resolution ↔
        ¬ExitsEarly direction activeStop transitionLevel transitionedStop
          (sortMinutes minutes)) := by
  have positive : ¬min (min activeStop transitionLevel) transitionedStop ≤ 0 :=
    not_le.mpr (lt_min (lt_min positiveStop positiveLevel) positiveNewStop)
  refine ⟨_, if_neg positive, ?_⟩
  rw [sortByStart_map_candle]
  exact transitionOrder_sound_iff above beyond (sortMinutes minutes)

/-- A minute that falls to 100, where the new stop would be, but not to the old stop at 90 nor to
the transition at 110. -/
def earlyDip : List TickMinute := [⟨0, 60, 105, [100]⟩]

theorem resolve_transition_sound_iff_long :
    ∃ resolution,
      resolveActiveStopTransition .bullish 90 110 100 (earlyDip.map TickMinute.candle) =
        .ok resolution ∧
      (TransitionSound .bullish 90 110 100 (sortMinutes earlyDip) resolution ↔
        ¬ExitsEarly .bullish 90 110 100 (sortMinutes earlyDip)) :=
  resolve_transition_sound_iff .bullish 90 110 100 earlyDip (by decide +kernel)
    (by decide +kernel) (by decide +kernel) (by decide +kernel) (by decide +kernel)

/-- The minute is an exit at the new stop, although the transition never happened. -/
theorem inactive_stop_exits :
    ¬∀ (direction : TradeDirection) (activeStop transitionLevel transitionedStop : ℚ)
      (minutes : List TickMinute) (resolution : IntrabarResolution), 0 < activeStop →
      0 < transitionLevel → 0 < transitionedStop → Above direction activeStop transitionedStop →
      Above direction transitionedStop transitionLevel →
      resolveActiveStopTransition direction activeStop transitionLevel transitionedStop
        (minutes.map TickMinute.candle) = .ok resolution →
      TransitionSound direction activeStop transitionLevel transitionedStop
        (sortMinutes minutes) resolution := by
  intro sound
  have happens := ((sound .bullish 90 110 100 earlyDip _ (by decide +kernel) (by decide +kernel)
    (by decide +kernel) (by decide +kernel) (by decide +kernel) rfl).happens (by decide +kernel)
    .transitionThenStop).mp (by decide +kernel)
  exact absurd happens.1.touched (by decide +kernel)

end BreezeTrading.ReplayIntrabar
