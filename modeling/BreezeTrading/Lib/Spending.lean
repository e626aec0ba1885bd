/-
This file keeps track of things that may be used up once. Whoever uses a thing up enters it in a
list, and owns that entry until it is honoured or forfeited. As long as nothing is consumed twice,
nothing is honoured twice.
-/

import Mathlib.Algebra.Order.Group.Multiset

namespace Async

variable {Entry Key : Type}

/-- What was consumed, what was honoured, and the entries that are still to be honoured: nothing
is consumed twice, and every other entry is one that was consumed. -/
structure Spending (key : Entry → Key) (consumed honoured : List Entry)
    (credit : Multiset Entry) : Prop where
  once : (consumed.map key).Nodup
  backed : (honoured : Multiset Entry) + credit ≤ (consumed : Multiset Entry)

namespace Spending

variable {key : Entry → Key} {consumed honoured : List Entry} {entry : Entry}
  {credit rest : Multiset Entry}

/-- Nothing was consumed yet. -/
theorem none : Spending key [] [] 0 := ⟨List.nodup_nil, le_refl _⟩

/-- A thing that was not consumed before is consumed, and its entry owned. -/
theorem consume (spending : Spending key consumed honoured rest)
    (fresh : ∀ other ∈ consumed, key other ≠ key entry) :
    Spending key (entry :: consumed) honoured ({entry} + rest) := by
  refine ⟨?_, ?_⟩
  · rw [List.map_cons, List.nodup_cons]
    refine ⟨fun member => ?_, spending.once⟩
    obtain ⟨other, inside, same⟩ := List.mem_map.mp member
    exact fresh other inside same
  · rw [add_left_comm, Multiset.singleton_add, ← Multiset.cons_coe]
    exact Multiset.cons_le_cons entry spending.backed

/-- An entry that is owned is honoured. -/
theorem honour (spending : Spending key consumed honoured ({entry} + rest)) :
    Spending key consumed (entry :: honoured) rest := by
  refine ⟨spending.once, ?_⟩
  rw [← Multiset.cons_coe, ← Multiset.singleton_add, add_assoc, add_left_comm]
  exact spending.backed

/-- Entries that nobody owns any more are forfeited. -/
theorem forfeit (spending : Spending key consumed honoured (credit + rest)) :
    Spending key consumed honoured rest := by
  refine ⟨spending.once, le_trans ?_ spending.backed⟩
  exact Multiset.add_le_add_iff_left.mpr (Multiset.le_add_left rest credit)

/-- What is honoured was consumed. -/
theorem consumed_of_honoured (spending : Spending key consumed honoured credit)
    (member : entry ∈ honoured) : entry ∈ consumed := by
  have inside : entry ∈ (honoured : Multiset Entry) + credit :=
    Multiset.mem_add.mpr (Or.inl (Multiset.mem_coe.mpr member))
  exact Multiset.mem_coe.mp (Multiset.mem_of_le spending.backed inside)

/-- Nothing is honoured twice. -/
theorem honoured_once (spending : Spending key consumed honoured credit) :
    (honoured.map key).Nodup := by
  have fewer : (honoured : Multiset Entry) ≤ (consumed : Multiset Entry) :=
    le_trans (Multiset.le_add_right _ credit) spending.backed
  have mapped := Multiset.map_le_map (f := key) fewer
  rw [Multiset.map_coe, Multiset.map_coe] at mapped
  exact Multiset.coe_nodup.mp (Multiset.nodup_of_le mapped (Multiset.coe_nodup.mpr spending.once))

end Spending

end Async
