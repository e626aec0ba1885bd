/-
This file has two figures that one pass over a list keeps: how far a cumulative value falls below
its peak, and how long the longest run is. Each is what comparing all prefixes, or looking at
all runs, would give.
-/

import Mathlib.Algebra.BigOperators.Group.List.Basic
import Mathlib.Algebra.Order.Group.Defs
import Mathlib.Data.List.Induction
import Mathlib.Order.Bounds.Image

namespace SinglePass

/-! ### Falls -/

section Falls

variable {Value : Type} [AddCommGroup Value]

/-- A cumulative value, its peak, and the deepest fall below the peak. -/
structure Equity (Value : Type) where
  peak : Value
  cumulative : Value
  worst : Value

def Equity.start : Equity Value := ⟨0, 0, 0⟩

/-- The sums of the prefixes. -/
def totals (values : List Value) : Set Value :=
  {total | ∃ before, before <+: values ∧ total = before.sum}

/-- What a prefix sum is above an earlier one. -/
def falls (values : List Value) : Set Value :=
  {fall | ∃ later, later <+: values ∧ ∃ total ∈ totals later, fall = later.sum - total}

theorem totals_concat (values : List Value) (value : Value) :
    totals (values ++ [value]) = insert (values ++ [value]).sum (totals values) := by
  ext total
  simp only [totals, List.prefix_concat_iff, or_and_right, exists_or, exists_eq_left,
    Set.mem_ofPred_eq, Set.mem_insert_iff]

theorem falls_concat (values : List Value) (value : Value) :
    falls (values ++ [value]) = falls values ∪
      (fun total => (values ++ [value]).sum - total) '' totals (values ++ [value]) := by
  ext fall
  simp only [falls, List.prefix_concat_iff, or_and_right, exists_or, exists_eq_left,
    Set.mem_ofPred_eq, Set.mem_union, Set.mem_image, eq_comm]
  exact or_comm

/-- By how many trades, instead of by prefixes. -/
theorem mem_falls_iff {values : List Value} {fall : Value} : fall ∈ falls values ↔
    ∃ earlier later, earlier ≤ later ∧ later ≤ values.length ∧
      fall = (values.take later).sum - (values.take earlier).sum := by
  constructor
  · rintro ⟨later, isLater, total, ⟨before, isBefore, rfl⟩, rfl⟩
    refine ⟨before.length, later.length, isBefore.length_le, isLater.length_le, ?_⟩
    rw [← List.prefix_iff_eq_take.mp isLater,
      ← List.prefix_iff_eq_take.mp (isBefore.trans isLater)]
  · rintro ⟨earlier, later, le, -, rfl⟩
    exact ⟨_, values.take_prefix later, _, ⟨_, List.take_prefix_take_left le, rfl⟩, rfl⟩

variable [LinearOrder Value]

def Equity.add (equity : Equity Value) (value : Value) : Equity Value :=
  let cumulative := equity.cumulative + value
  let peak := max equity.peak cumulative
  ⟨peak, cumulative, min equity.worst (cumulative - peak)⟩

structure Equity.Describes (equity : Equity Value) (values : List Value) : Prop where
  cumulative : equity.cumulative = values.sum
  peak : IsGreatest (totals values) equity.peak
  worst : IsLeast (falls values) equity.worst

theorem describes_start : (Equity.start : Equity Value).Describes [] where
  cumulative := rfl
  peak := by simp [totals, Equity.start]
  worst := by simp [falls, totals, Equity.start]

variable [IsOrderedAddMonoid Value]

theorem Equity.Describes.add {equity : Equity Value} {values : List Value}
    (describes : equity.Describes values) (value : Value) :
    (equity.add value).Describes (values ++ [value]) := by
  have cumulative : equity.cumulative + value = (values ++ [value]).sum := by
    rw [describes.cumulative, List.sum_append, List.sum_singleton]
  have peak : IsGreatest (totals (values ++ [value]))
      (max equity.peak (equity.cumulative + value)) := by
    rw [totals_concat, ← cumulative, max_comm]
    exact describes.peak.insert _
  refine ⟨cumulative, peak, ?_⟩
  rw [falls_concat, ← cumulative]
  exact describes.worst.union (antitone_const_tsub.map_isGreatest peak)

theorem describes_foldl (values : List Value) :
    (values.foldl Equity.add .start).Describes values := by
  induction values using List.reverseRecOn with
  | nil => exact describes_start
  | append_singleton values value inductionHypothesis =>
    rw [List.foldl_concat]
    exact inductionHypothesis.add value

end Falls

/-! ### Runs -/

section Runs

variable {Item : Type} (counts : Item → Prop)

/-- The longest run, and the one that is going on. -/
structure Streak where
  best : Nat
  current : Nat

/-- The lengths of the runs of items that count. -/
def runs (items : List Item) : Set Nat :=
  {length | ∃ run, run <:+: items ∧ (∀ item ∈ run, counts item) ∧ length = run.length}

/-- The lengths of those at the end. -/
def lastRuns (items : List Item) : Set Nat :=
  {length | ∃ run, run <:+ items ∧ (∀ item ∈ run, counts item) ∧ length = run.length}

theorem runs_concat (items : List Item) (item : Item) :
    runs counts (items ++ [item]) = lastRuns counts (items ++ [item]) ∪ runs counts items := by
  ext length
  simp only [runs, lastRuns, List.infix_concat_iff, or_and_right, exists_or, Set.mem_ofPred_eq,
    Set.mem_union]

variable {counts}

theorem isGreatest_lastRuns {items : List Item} {item : Item} {current : Nat}
    (isCounted : counts item) (greatest : IsGreatest (lastRuns counts items) current) :
    IsGreatest (lastRuns counts (items ++ [item])) (current + 1) := by
  obtain ⟨⟨run, isSuffix, counted, rfl⟩, bound⟩ := greatest
  constructor
  · refine ⟨run ++ [item], List.suffix_concat_iff.mpr (.inr ⟨run, rfl, isSuffix⟩), ?_, by simp⟩
    simpa [or_imp, forall_and] using ⟨counted, isCounted⟩
  · rintro _ ⟨longer, isLonger, others, rfl⟩
    rcases List.suffix_concat_iff.mp isLonger with rfl | ⟨before, rfl, isBefore⟩
    · exact Nat.zero_le _
    · rw [List.length_append]
      exact Nat.succ_le_succ
        (bound ⟨before, isBefore, fun other member => others other (by simp [member]), rfl⟩)

theorem isGreatest_lastRuns_zero {items : List Item} {item : Item} (broken : ¬counts item) :
    IsGreatest (lastRuns counts (items ++ [item])) 0 := by
  refine ⟨⟨[], by simp⟩, ?_⟩
  rintro _ ⟨run, isSuffix, counted, rfl⟩
  rcases List.suffix_concat_iff.mp isSuffix with rfl | ⟨before, rfl, -⟩
  · exact le_rfl
  · exact absurd (counted item (by simp)) broken

variable (counts) [DecidablePred counts]

def Streak.next (streak : Streak) (item : Item) : Streak :=
  if counts item then ⟨max streak.best (streak.current + 1), streak.current + 1⟩
  else ⟨streak.best, 0⟩

theorem isGreatest_foldl (items : List Item) :
    let streak := items.foldl (Streak.next counts) ⟨0, 0⟩
    IsGreatest (runs counts items) streak.best ∧
      IsGreatest (lastRuns counts items) streak.current := by
  induction items using List.reverseRecOn with
  | nil => simp [runs, lastRuns]
  | append_singleton items item inductionHypothesis =>
    obtain ⟨best, current⟩ := inductionHypothesis
    rw [List.foldl_concat, runs_concat]
    unfold Streak.next
    split_ifs with isCounted
    · have longer := isGreatest_lastRuns isCounted current
      rw [max_comm]
      exact ⟨longer.union best, longer⟩
    · have ended := @isGreatest_lastRuns_zero _ counts items _ isCounted
      have kept := ended.union best
      rw [Nat.zero_max] at kept
      exact ⟨kept, ended⟩

end Runs

end SinglePass
