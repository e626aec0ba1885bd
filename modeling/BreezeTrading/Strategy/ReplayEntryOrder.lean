/-
This file proves the ordering of a trigger and a stop inside the entry bar. The first minute that
touches the stop decides; one that touches both levels is judged by its opening print alone. It
proves exactly when the resolver is sound on the paths behind the candles.
-/

import BreezeTrading.Strategy.ReplayPaths
import Mathlib.Data.List.TakeWhile

namespace BreezeTrading.ReplayIntrabar

open TickPath

section Entry

variable (direction : TradeDirection) (trigger stop : ℚ)

/-! ### The loop -/

theorem entryOrder_append (sawTrigger : Bool) (earlier rest : List Candle)
    (untouched : ∀ candle ∈ earlier, stopHit direction candle stop = false) :
    entryOrder direction trigger stop sawTrigger (earlier ++ rest) =
      entryOrder direction trigger stop
        (sawTrigger || earlier.any fun candle => levelHit direction candle trigger) rest := by
  induction earlier generalizing sawTrigger with
  | nil => simp
  | cons candle others inductionHypothesis =>
    have notStopped := untouched candle List.mem_cons_self
    have later := fun sawTrigger => inductionHypothesis sawTrigger
      fun other member => untouched other (List.mem_cons_of_mem candle member)
    rw [List.cons_append, List.any_cons]
    cases reached : levelHit direction candle trigger
    · cases sawTrigger <;>
        simp only [entryOrder, barEvent, notStopped, reached, later, Bool.false_or]
    · cases sawTrigger <;>
        simp only [entryOrder, barEvent, notStopped, reached, later, Bool.true_or, Bool.or_true]

/-! ### Soundness -/

/-- The first minute that touches the stop. -/
def firstStop (minutes : List TickMinute) : Option TickMinute :=
  minutes.find? fun minute => stopHit direction minute.candle stop

def beforeStop (minutes : List TickMinute) : List TickMinute :=
  minutes.takeWhile fun minute => !stopHit direction minute.candle stop

/-- A minute before the first one that touches the stop touches the trigger. -/
def TriggeredEarlier (minutes : List TickMinute) : Prop :=
  ∃ minute ∈ beforeStop direction stop minutes, levelHit direction minute.candle trigger = true

/-- A resolution of minutes, in order, is sound. -/
structure EntrySound (minutes : List TickMinute) (resolution : IntrabarResolution) : Prop where
  thenStop : resolution.event = .entryThenStop →
    FollowedBy (AtLevel direction trigger) (AtStop direction stop) (path minutes)
  adverse : resolution.event = .adverseBeforeEntry →
    Before (AtStop direction stop) (AtLevel direction trigger) (path minutes)
  survives : resolution.event = .entryAndSurvive →
    Touched (AtLevel direction trigger) (path minutes) ∧
      ¬FollowedBy (AtLevel direction trigger) (AtStop direction stop) (path minutes)
  earlier : (firstStop direction stop minutes).isSome →
    TriggeredEarlier direction trigger stop minutes → resolution.event = .entryThenStop

/-- The trigger of an earlier minute is forgotten: the first minute that touches the stop touches
the trigger too, and opens short of it. -/
def ForgetsTrigger (minutes : List TickMinute) : Prop :=
  TriggeredEarlier direction trigger stop minutes ∧
    ∃ minute ∈ firstStop direction stop minutes, levelHit direction minute.candle trigger = true ∧
      reachesLevel direction minute.first trigger = false

end Entry

section Sound

variable {direction : TradeDirection} {trigger stop : ℚ} {minutes : List TickMinute}
  {minute : TickMinute}

theorem beforeStop_untouched : ∀ other ∈ beforeStop direction stop minutes,
    stopHit direction other.candle stop = false := by
  intro other member
  simpa using List.mem_takeWhile_imp member

theorem split_at_firstStop (first : firstStop direction stop minutes = some minute) :
    ∃ later, minutes = beforeStop direction stop minutes ++ minute :: later := by
  obtain ⟨touched, earlier, later, split, untouched⟩ := List.find?_eq_some_iff_append.mp first
  have before : beforeStop direction stop minutes = earlier := by
    unfold beforeStop
    rw [split, List.takeWhile_append_of_pos (by simpa using untouched),
      List.takeWhile_cons_of_neg (by simp [touched]), List.append_nil]
  exact ⟨later, by rw [before, split]⟩

theorem beforeStop_eq_self (none : firstStop direction stop minutes = none) :
    beforeStop direction stop minutes = minutes :=
  List.takeWhile_eq_self_iff.mpr fun minute member => by
    simpa using List.find?_eq_none.mp none minute member

theorem any_candles_iff (direction : TradeDirection) (trigger : ℚ) (minutes : List TickMinute) :
    ((minutes.map TickMinute.candle).any fun candle => levelHit direction candle trigger) = true ↔
      ∃ minute ∈ minutes, levelHit direction minute.candle trigger = true := by
  simp [List.any_eq_true]

theorem entrySound_of_none (none : firstStop direction stop minutes = none) :
    EntrySound direction trigger stop minutes
      (entryOrder direction trigger stop false (minutes.map TickMinute.candle)) := by
  have same := beforeStop_eq_self none
  have untouched : ∀ candle ∈ minutes.map TickMinute.candle,
      stopHit direction candle stop = false := by
    rw [List.forall_mem_map, ← same]
    exact beforeStop_untouched
  have notStopped : ¬Touched (AtStop direction stop) (path minutes) := by
    rw [touched_stop_path_iff]
    exact fun ⟨minute, member, hit⟩ => by
      simp [untouched _ (List.mem_map_of_mem member)] at hit
  have seen := any_candles_iff direction trigger minutes
  rw [← touched_level_path_iff] at seen
  rw [← List.append_nil (minutes.map TickMinute.candle),
    entryOrder_append direction trigger stop false _ [] untouched, Bool.false_or]
  cases saw : (minutes.map TickMinute.candle).any fun candle => levelHit direction candle trigger
  · exact ⟨nofun, nofun, nofun, fun some => by simp [none] at some⟩
  · exact ⟨nofun, nofun, fun _ => ⟨seen.mp saw, fun followed => notStopped followed.touched.2⟩,
      fun some => by simp [none] at some⟩

variable {later : List TickMinute}

theorem entryOrder_at_firstStop
    (split : minutes = beforeStop direction stop minutes ++ minute :: later) :
    entryOrder direction trigger stop false (minutes.map TickMinute.candle) =
      entryOrder direction trigger stop
        (((beforeStop direction stop minutes).map TickMinute.candle).any fun candle =>
          levelHit direction candle trigger)
        (minute.candle :: later.map TickMinute.candle) := by
  have untouched : ∀ candle ∈ (beforeStop direction stop minutes).map TickMinute.candle,
      stopHit direction candle stop = false := by
    rw [List.forall_mem_map]
    exact beforeStop_untouched
  have cut : minutes.map TickMinute.candle =
      (beforeStop direction stop minutes).map TickMinute.candle ++
        minute.candle :: later.map TickMinute.candle := by
    conv_lhs => rw [split]
    rw [List.map_append, List.map_cons]
  rw [cut, entryOrder_append direction trigger stop false _ _ untouched, Bool.false_or]

variable (direction stop minutes minute) in
/-- The path is cut at the first minute that touches the stop. -/
structure CutAtStop (later : List TickMinute) : Prop where
  split : minutes = beforeStop direction stop minutes ++ minute :: later
  cut : path minutes =
    path (beforeStop direction stop minutes) ++ (minute.ticks ++ path later)
  stopHits : stopHit direction minute.candle stop = true
  stopTouched : Touched (AtStop direction stop) minute.ticks
  preStop : ¬Touched (AtStop direction stop) (path (beforeStop direction stop minutes))

theorem cutAtStop_of_some (first : firstStop direction stop minutes = some minute) :
    ∃ later, CutAtStop direction stop minutes minute later := by
  obtain ⟨later, split⟩ := split_at_firstStop first
  have stopHits : stopHit direction minute.candle stop = true := by
    simpa using List.find?_some first
  refine ⟨later, split, ?_, stopHits, (stopHit_candle_iff direction stop minute).mp stopHits, ?_⟩
  · conv_lhs => rw [split]
    rw [path_append, path_cons]
  · rw [touched_stop_path_iff]
    exact fun ⟨other, member, hit⟩ => by simp [beforeStop_untouched other member] at hit

theorem triggeredEarlier_iff : TriggeredEarlier direction trigger stop minutes ↔
    Touched (AtLevel direction trigger) (path (beforeStop direction stop minutes)) :=
  touched_level_path_iff.symm

theorem entrySound_of_not_triggered (at' : CutAtStop direction stop minutes minute later)
    (notEarlier : ¬TriggeredEarlier direction trigger stop minutes) :
    EntrySound direction trigger stop minutes (entryOrder direction trigger stop false
        (minute.candle :: later.map TickMinute.candle)) := by
  have preUntouched := triggeredEarlier_iff.not.mp notEarlier
  have reachedIff := levelHit_candle_iff direction trigger minute
  have stopHits := at'.stopHits
  cases reached : levelHit direction minute.candle trigger
  · rw [reached, Bool.false_eq_true, false_iff] at reachedIff
    simp only [entryOrder, barEvent, stopHits, reached]
    refine ⟨nofun, fun _ => ?_, nofun, fun _ earlier => absurd earlier notEarlier⟩
    rw [at'.cut, before_append_of_untouched at'.preStop preUntouched]
    exact before_append_of_touched at'.stopTouched reachedIff (path later)
  by_cases opensStopped : AtStop direction stop minute.first
  · have opens : hitsStop direction minute.candle.openPrice stop = true := opensStopped
    simp only [entryOrder, barEvent, stopHits, reached, opens, if_true]
    refine ⟨nofun, fun _ => ?_, nofun, fun _ earlier => absurd earlier notEarlier⟩
    rw [at'.cut, before_append_of_untouched at'.preStop preUntouched]
    exact .inl opensStopped
  have opensAbove : ¬hitsStop direction minute.candle.openPrice stop = true := opensStopped
  by_cases opensTriggered : AtLevel direction trigger minute.first
  · have opens : reachesLevel direction minute.candle.openPrice trigger = true := opensTriggered
    simp only [entryOrder, barEvent, stopHits, reached, opensAbove, opens, if_true]
    refine ⟨fun _ => ?_, nofun, nofun, fun _ earlier => absurd earlier notEarlier⟩
    rw [at'.cut, followedBy_append_of_untouched preUntouched]
    refine (followedBy_cons_of_first opensTriggered).mpr (touched_append.mpr (.inl ?_))
    exact (touched_cons.mp at'.stopTouched).resolve_left opensStopped
  · have opensBelow : ¬reachesLevel direction minute.candle.openPrice trigger = true :=
      opensTriggered
    simp only [entryOrder, barEvent, stopHits, reached, opensAbove, opensBelow]
    exact ⟨nofun, nofun, nofun, fun _ earlier => absurd earlier notEarlier⟩

/-- When the trigger was established before, the resolver is sound exactly when it reports the stop
after it. -/
theorem entrySound_iff_of_triggered (at' : CutAtStop direction stop minutes minute later)
    (first : firstStop direction stop minutes = some minute)
    (earlier : TriggeredEarlier direction trigger stop minutes) (resolution : IntrabarResolution) :
    EntrySound direction trigger stop minutes resolution ↔
      resolution.event = .entryThenStop := by
  constructor
  · intro sound
    exact sound.earlier (by rw [first]; rfl) earlier
  · intro event
    refine ⟨fun _ => ?_, ?_, ?_, fun _ _ => event⟩
    · rw [at'.cut]
      exact followedBy_append_of_touched (triggeredEarlier_iff.mp earlier)
        (touched_append.mpr (.inl at'.stopTouched))
    · rw [event]
      exact nofun
    · rw [event]
      exact nofun

/-- With the trigger established, the stop is reported after it unless the minute touches the
trigger again and opens short of it. -/
theorem entryOrder_event_iff (above : Above direction stop trigger)
    (at' : CutAtStop direction stop minutes minute later) : (entryOrder direction trigger stop true
        (minute.candle :: later.map TickMinute.candle)).event = .entryThenStop ↔
      ¬(levelHit direction minute.candle trigger = true ∧
        reachesLevel direction minute.first trigger = false) := by
  have stopHits := at'.stopHits
  have same : minute.candle.openPrice = minute.first := rfl
  cases reached : levelHit direction minute.candle trigger
  · simp [entryOrder, barEvent, stopHits, reached]
  by_cases opensStopped : hitsStop direction minute.first stop = true
  · have short : reachesLevel direction minute.first trigger = false := by
      simpa [AtLevel] using not_atLevel_of_atStop above minute.first opensStopped
    simp [entryOrder, barEvent, stopHits, reached, same, opensStopped, short]
  · cases opens : reachesLevel direction minute.first trigger <;>
      simp [entryOrder, barEvent, stopHits, reached, same, opensStopped, opens]

theorem entryOrder_sound_iff (above : Above direction stop trigger) (minutes : List TickMinute) :
    EntrySound direction trigger stop minutes
        (entryOrder direction trigger stop false (minutes.map TickMinute.candle)) ↔
      ¬ForgetsTrigger direction trigger stop minutes := by
  unfold ForgetsTrigger
  rcases first : firstStop direction stop minutes with _ | minute
  · exact iff_of_true (entrySound_of_none first) (by simp)
  obtain ⟨later, at'⟩ := cutAtStop_of_some first
  have seen := any_candles_iff direction trigger (beforeStop direction stop minutes)
  rw [entryOrder_at_firstStop at'.split]
  simp only [Option.mem_def, Option.some.injEq, exists_eq_left']
  by_cases earlier : TriggeredEarlier direction trigger stop minutes
  · rw [seen.mpr earlier, entrySound_iff_of_triggered at' first earlier,
      entryOrder_event_iff above at', and_iff_right earlier]
  · rw [Bool.eq_false_iff.mpr (seen.not.mpr earlier)]
    exact iff_of_true (entrySound_of_not_triggered at' earlier) fun forgets => earlier forgets.1

end Sound

/-! ### The resolver -/

/-- Whatever path is behind the minutes, the resolution of an entry bar is sound exactly when no
trigger of an earlier minute is forgotten. -/
theorem resolve_entry_sound_iff (direction : TradeDirection) (trigger stop : ℚ)
    (minutes : List TickMinute) (positiveTrigger : 0 < trigger) (positiveStop : 0 < stop)
    (above : Above direction stop trigger) :
    ∃ resolution,
      resolveEntryCandle direction trigger stop (minutes.map TickMinute.candle) = .ok resolution ∧
      (EntrySound direction trigger stop (sortMinutes minutes) resolution ↔
        ¬ForgetsTrigger direction trigger stop (sortMinutes minutes)) := by
  have positive : ¬(trigger ≤ 0 ∨ stop ≤ 0) :=
    not_or.mpr ⟨not_le.mpr positiveTrigger, not_le.mpr positiveStop⟩
  refine ⟨_, if_neg positive, ?_⟩
  rw [sortByStart_map_candle]
  exact entryOrder_sound_iff above (sortMinutes minutes)

/-- A minute that reaches the trigger at 110, and one that falls from 90 through the stop at 100 and
comes back to the trigger. -/
def forgottenTrigger : List TickMinute := [⟨0, 60, 105, [110]⟩, ⟨60, 120, 90, [110]⟩]

theorem resolve_entry_sound_iff_long :
    ∃ resolution,
      resolveEntryCandle .bullish 110 100 (forgottenTrigger.map TickMinute.candle) =
        .ok resolution ∧
      (EntrySound .bullish 110 100 (sortMinutes forgottenTrigger) resolution ↔
        ¬ForgetsTrigger .bullish 110 100 (sortMinutes forgottenTrigger)) :=
  resolve_entry_sound_iff .bullish 110 100 forgottenTrigger (by decide +kernel)
    (by decide +kernel) (by decide +kernel)

/-- The stop is reported as reached before the entry, although the trigger was reached first. -/
theorem earlier_trigger_is_forgotten :
    ¬∀ (direction : TradeDirection) (trigger stop : ℚ) (minutes : List TickMinute)
      (resolution : IntrabarResolution), 0 < trigger → 0 < stop → Above direction stop trigger →
      resolveEntryCandle direction trigger stop (minutes.map TickMinute.candle) =
        .ok resolution →
      EntrySound direction trigger stop (sortMinutes minutes) resolution := by
  intro sound
  have event := (sound .bullish 110 100 forgottenTrigger _ (by decide +kernel)
    (by decide +kernel) (by decide +kernel) rfl).earlier (by decide +kernel)
    ⟨⟨0, 60, 105, [110]⟩, by decide +kernel, by decide +kernel⟩
  exact absurd event (by decide +kernel)

end BreezeTrading.ReplayIntrabar
