/-
This file has the facts about sorting by insertion that say it is stable: what is kept of a sorted
list is what is kept, sorted. Where equal items are one, a sorted list depends only on the items.
-/

import Mathlib.Data.List.Dedup
import Mathlib.Data.List.Sort

namespace StableSort

variable {Item : Type} {le : Item → Item → Prop} [DecidableRel le]

/-! ### Orders by a key -/

section ByKey

omit [DecidableRel le]

variable {Key : Type} [LinearOrder Key] {key : Item → Key}
  (byKey : ∀ first second, le first second ↔ key first ≤ key second)

include byKey

theorem total_of_key : Std.Total le where
  total first second := by
    rw [byKey, byKey]
    exact le_total (key first) (key second)

theorem trans_of_key : IsTrans Item le where
  trans first second third := by
    rw [byKey, byKey, byKey]
    exact le_trans

/-- Items that are each before the other have one key. -/
theorem key_eq_of_le_of_le {first second : Item} (forth : le first second)
    (back : le second first) : key first = key second :=
  le_antisymm ((byKey first second).mp forth) ((byKey second first).mp back)

end ByKey

/-! ### Sorting -/

/-- An item that comes before all others is inserted in front of them. -/
theorem orderedInsert_of_forall {item : Item} {items : List Item}
    (first : ∀ other ∈ items, le item other) : items.orderedInsert le item = item :: items := by
  cases items with
  | nil => rfl
  | cons other rest => exact List.orderedInsert_cons_of_le le rest (first other List.mem_cons_self)

section Orders

variable [IsTrans Item le]

theorem filter_orderedInsert (keep : Item → Bool) (item : Item) {items : List Item}
    (sorted : items.Pairwise le) :
    (items.orderedInsert le item).filter keep =
      if keep item = true then (items.filter keep).orderedInsert le item
      else items.filter keep := by
  induction items with
  | nil =>
    rw [List.orderedInsert_nil, List.filter_cons]
    rfl
  | cons other rest inductionHypothesis =>
    obtain ⟨before, restSorted⟩ := List.pairwise_cons.mp sorted
    by_cases isBefore : le item other
    · have first : ∀ later ∈ (other :: rest).filter keep, le item later := by
        intro later member
        rcases List.mem_cons.mp (List.mem_filter.mp member).1 with rfl | inRest
        · exact isBefore
        · exact IsTrans.trans _ _ _ isBefore (before later inRest)
      rw [List.orderedInsert_cons_of_le le rest isBefore, List.filter_cons,
        orderedInsert_of_forall first]
    · rw [List.orderedInsert_of_not_le le rest isBefore, List.filter_cons, List.filter_cons,
        inductionHypothesis restSorted]
      by_cases kept : keep other = true
      · rw [if_pos kept, if_pos kept]
        split
        · exact (List.orderedInsert_of_not_le le _ isBefore).symm
        · rfl
      · rw [if_neg kept, if_neg kept]

variable [Std.Total le]

/-- What is kept of a sorted list is what is kept, sorted. -/
theorem filter_insertionSort (keep : Item → Bool) (items : List Item) :
    (items.insertionSort le).filter keep = (items.filter keep).insertionSort le := by
  induction items with
  | nil => rfl
  | cons item rest inductionHypothesis =>
    rw [List.insertionSort_cons, filter_orderedInsert keep item
      (List.pairwise_insertionSort le rest), inductionHypothesis, List.filter_cons]
    split <;> rfl

/-- Where items that are each before the other are one, a sorted list depends only on the items. -/
theorem insertionSort_eq_of_perm {items others : List Item} (permuted : items.Perm others)
    (antisymmetric : ∀ first ∈ items, ∀ second ∈ items,
      le first second → le second first → first = second) :
    items.insertionSort le = others.insertionSort le := by
  have perm : (items.insertionSort le).Perm (others.insertionSort le) :=
    ((List.perm_insertionSort le items).trans permuted).trans
      (List.perm_insertionSort le others).symm
  refine perm.eq_of_pairwise (fun first second inItems inOthers => ?_)
    (List.pairwise_insertionSort le items) (List.pairwise_insertionSort le others)
  exact antisymmetric first ((List.mem_insertionSort le).mp inItems) second
    (permuted.mem_iff.mpr ((List.mem_insertionSort le).mp inOthers))

/-- The first item of a sorted list is the one before all others. -/
theorem head?_insertionSort_eq_some_iff {items : List Item}
    (antisymmetric : ∀ first ∈ items, ∀ second ∈ items,
      le first second → le second first → first = second) {first : Item} :
    (items.insertionSort le).head? = some first ↔
      first ∈ items ∧ ∀ other ∈ items, le first other := by
  have sorted := List.pairwise_insertionSort le items
  cases isSorted : items.insertionSort le with
  | nil =>
    have noItem : ∀ item, item ∉ items := fun item member => by
      simpa [isSorted] using (List.mem_insertionSort le).mpr member
    simp [noItem first]
  | cons head rest =>
    rw [isSorted] at sorted
    have isHead : head ∈ items := (List.mem_insertionSort le).mp (isSorted ▸ List.mem_cons_self)
    have isFirst : ∀ other ∈ items, le head other := fun other member => by
      have inSorted := (List.mem_insertionSort le).mpr member
      rw [isSorted] at inSorted
      rcases List.mem_cons.mp inSorted with rfl | inRest
      · exact (total_of le _ _).elim id id
      · exact (List.pairwise_cons.mp sorted).1 other inRest
    rw [List.head?_cons, Option.some_inj]
    constructor
    · rintro rfl
      exact ⟨isHead, isFirst⟩
    · rintro ⟨member, before⟩
      exact antisymmetric head isHead first member (isFirst first member) (before head isHead)

end Orders

/-! ### Keys in their order -/

section Keys

variable [DecidableEq Item] [IsTrans Item le] [Std.Total le] {keys kept : List Item}

section

variable (antisymmetric : ∀ first second, le first second → le second first → first = second)
  (subset : ∀ key ∈ kept, key ∈ keys)

include antisymmetric subset

/-- The keys that are kept of all keys in their order are the kept ones in theirs. -/
theorem insertionSort_dedup_of_subset :
    (keys.dedup.insertionSort le).filter (fun key => decide (key ∈ kept)) =
      kept.dedup.insertionSort le := by
  rw [filter_insertionSort]
  refine insertionSort_eq_of_perm ?_ fun first _ second _ => antisymmetric first second
  refine (List.perm_ext_iff_of_nodup (keys.nodup_dedup.filter _) kept.nodup_dedup).mpr fun key => ?_
  rw [List.mem_filter, List.mem_dedup, List.mem_dedup, decide_eq_true_eq]
  exact and_iff_right_of_imp (subset key)

/-- Keys with nothing to show can be left out. -/
theorem filterMap_insertionSort_dedup {Shown : Type} {shown : Item → Option Shown}
    (nothing : ∀ key ∈ keys, key ∉ kept → shown key = none) :
    (keys.dedup.insertionSort le).filterMap shown =
      (kept.dedup.insertionSort le).filterMap shown := by
  rw [← insertionSort_dedup_of_subset antisymmetric subset, List.filterMap_filter]
  refine List.filterMap_congr fun key member => ?_
  have inKeys := List.mem_dedup.mp ((List.mem_insertionSort le).mp member)
  by_cases isKept : key ∈ kept
  · simp [isKept]
  · simp [isKept, nothing key inKeys isKept]

end

end Keys

/-! ### Numbers in their order -/

/-- The numbers of a list, each once and in their order. -/
def distinct (numbers : List Int) : List Int := numbers.dedup.insertionSort (· ≤ ·)

theorem mem_distinct {numbers : List Int} {number : Int} :
    number ∈ distinct numbers ↔ number ∈ numbers := by
  rw [distinct, List.mem_insertionSort, List.mem_dedup]

theorem distinct_pairwise (numbers : List Int) : (distinct numbers).Pairwise (· < ·) := by
  have sorted := List.pairwise_insertionSort (· ≤ · : Int → Int → Prop) numbers.dedup
  have nodup : (distinct numbers).Nodup :=
    (List.perm_insertionSort _ _).nodup_iff.mpr numbers.nodup_dedup
  exact (sorted.and nodup).imp fun both => lt_of_le_of_ne both.1 both.2

/-- A list in strict order is given by its members. -/
theorem eq_distinct {numbers times : List Int} (sorted : times.Pairwise (· < ·))
    (same : ∀ number, number ∈ times ↔ number ∈ numbers) : times = distinct numbers :=
  List.Pairwise.eq_of_mem_iff sorted (distinct_pairwise numbers) fun number =>
    (same number).trans mem_distinct.symm

/-- Numbers with nothing to show can be left out. -/
theorem filterMap_distinct {Shown : Type} {shown : Int → Option Shown} {numbers kept : List Int}
    (subset : ∀ number ∈ kept, number ∈ numbers)
    (nothing : ∀ number ∈ numbers, number ∉ kept → shown number = none) :
    (distinct numbers).filterMap shown = (distinct kept).filterMap shown :=
  filterMap_insertionSort_dedup (fun _ _ => le_antisymm) subset nothing

end StableSort
