/-
This file orders what a path of ticks touches. Two kinds of ticks are told apart by which one a
path touches first, and by whether the other is touched afterwards. The path is cut in
chunks, of which only some facts may be known: a chunk that touches neither kind can be
skipped, and one that touches a single kind decides.
-/

import Mathlib.Data.List.Basic

namespace TickPath

variable {Tick : Type}

/-- A path touches a kind of ticks. -/
def Touched (kind : Tick → Prop) (ticks : List Tick) : Prop := ∃ tick ∈ ticks, kind tick

instance (kind : Tick → Prop) [DecidablePred kind] (ticks : List Tick) :
    Decidable (Touched kind ticks) :=
  inferInstanceAs (Decidable (∃ tick ∈ ticks, kind tick))

/-- The first kind is touched before the second. -/
def Before (first second : Tick → Prop) : List Tick → Prop
  | [] => False
  | tick :: later => first tick ∨ ¬second tick ∧ Before first second later

/-- The first kind is touched, and the second after the first touch of it. -/
def FollowedBy (first second : Tick → Prop) : List Tick → Prop
  | [] => False
  | tick :: later => first tick ∧ Touched second later ∨ ¬first tick ∧ FollowedBy first second later

section Touched

variable {kind : Tick → Prop} {tick : Tick} {ticks earlier later : List Tick}

@[simp] theorem not_touched_nil : ¬Touched kind [] := by simp [Touched]

@[simp] theorem touched_cons : Touched kind (tick :: ticks) ↔ kind tick ∨ Touched kind ticks := by
  simp [Touched]

@[simp] theorem touched_append :
    Touched kind (earlier ++ later) ↔ Touched kind earlier ∨ Touched kind later := by
  simp [Touched, or_and_right, exists_or]

theorem touched_flatMap {Chunk : Type} {chunks : List Chunk} {ticksOf : Chunk → List Tick} :
    Touched kind (chunks.flatMap ticksOf) ↔ ∃ chunk ∈ chunks, Touched kind (ticksOf chunk) := by
  induction chunks with
  | nil => simp
  | cons chunk rest inductionHypothesis =>
    rw [List.flatMap_cons, touched_append, inductionHypothesis]
    simp

end Touched

section Before

variable {first second : Tick → Prop} {tick : Tick} {ticks earlier later : List Tick}

theorem Before.touched (before : Before first second ticks) : Touched first ticks := by
  induction ticks with
  | nil => exact before.elim
  | cons tick rest inductionHypothesis =>
    rcases before with now | ⟨-, afterwards⟩
    · exact touched_cons.mpr (.inl now)
    · exact touched_cons.mpr (.inr (inductionHypothesis afterwards))

/-- A chunk that touches neither kind can be skipped. -/
theorem before_append_of_untouched (firstUntouched : ¬Touched first earlier)
    (secondUntouched : ¬Touched second earlier) :
    Before first second (earlier ++ later) ↔ Before first second later := by
  induction earlier with
  | nil => exact Iff.rfl
  | cons tick rest inductionHypothesis =>
    rw [touched_cons, not_or] at firstUntouched secondUntouched
    rw [List.cons_append, Before, inductionHypothesis firstUntouched.2 secondUntouched.2,
      or_iff_right firstUntouched.1, and_iff_right secondUntouched.1]

/-- A chunk that touches the first kind alone decides. -/
theorem before_append_of_touched (firstTouched : Touched first earlier)
    (secondUntouched : ¬Touched second earlier) (later : List Tick) :
    Before first second (earlier ++ later) := by
  induction earlier with
  | nil => exact (not_touched_nil firstTouched).elim
  | cons tick rest inductionHypothesis =>
    rw [touched_cons, not_or] at secondUntouched
    rcases touched_cons.mp firstTouched with now | afterwards
    · exact .inl now
    · exact .inr ⟨secondUntouched.1, inductionHypothesis afterwards secondUntouched.2⟩

/-- Kinds that exclude each other are not touched before each other. -/
theorem Before.asymm (exclusive : ∀ tick, first tick → ¬second tick)
    (before : Before first second ticks) : ¬Before second first ticks := by
  induction ticks with
  | nil => exact before.elim
  | cons tick rest inductionHypothesis =>
    rintro (other | ⟨notFirst, otherLater⟩)
    · rcases before with now | ⟨notSecond, -⟩
      · exact exclusive tick now other
      · exact notSecond other
    · rcases before with now | ⟨-, afterwards⟩
      · exact notFirst now
      · exact inductionHypothesis afterwards otherLater

end Before

section FollowedBy

variable {first second : Tick → Prop} {tick : Tick} {ticks earlier later : List Tick}

theorem FollowedBy.touched (followed : FollowedBy first second ticks) :
    Touched first ticks ∧ Touched second ticks := by
  induction ticks with
  | nil => exact followed.elim
  | cons tick rest inductionHypothesis =>
    rcases followed with ⟨now, afterwards⟩ | ⟨-, afterwards⟩
    · exact ⟨touched_cons.mpr (.inl now), touched_cons.mpr (.inr afterwards)⟩
    · exact (inductionHypothesis afterwards).imp (fun touched => touched_cons.mpr (.inr touched))
        fun touched => touched_cons.mpr (.inr touched)

theorem followedBy_cons_of_first (now : first tick) :
    FollowedBy first second (tick :: later) ↔ Touched second later := by
  rw [FollowedBy, and_iff_right now, or_iff_left (fun notNow => notNow.1 now)]

/-- A chunk that does not touch the first kind can be skipped. -/
theorem followedBy_append_of_untouched (untouched : ¬Touched first earlier) :
    FollowedBy first second (earlier ++ later) ↔ FollowedBy first second later := by
  induction earlier with
  | nil => exact Iff.rfl
  | cons tick rest inductionHypothesis =>
    rw [touched_cons, not_or] at untouched
    rw [List.cons_append, FollowedBy, inductionHypothesis untouched.2,
      or_iff_right (fun now => untouched.1 now.1), and_iff_right untouched.1]

/-- After a chunk that touches the first kind, a touch of the second follows it. -/
theorem followedBy_append_of_touched (firstTouched : Touched first earlier)
    (secondTouched : Touched second later) : FollowedBy first second (earlier ++ later) := by
  induction earlier with
  | nil => exact (not_touched_nil firstTouched).elim
  | cons tick rest inductionHypothesis =>
    by_cases now : first tick
    · exact .inl ⟨now, touched_append.mpr (.inr secondTouched)⟩
    · exact .inr ⟨now, inductionHypothesis ((touched_cons.mp firstTouched).resolve_left now)⟩

/-- After a chunk that touches the first kind and not the second, the rest decides. -/
theorem followedBy_append_iff (firstTouched : Touched first earlier)
    (secondUntouched : ¬Touched second earlier) :
    FollowedBy first second (earlier ++ later) ↔ Touched second later := by
  constructor
  · intro followed
    exact (touched_append.mp followed.touched.2).resolve_left secondUntouched
  · exact followedBy_append_of_touched firstTouched

end FollowedBy

end TickPath
