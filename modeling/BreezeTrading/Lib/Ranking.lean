/-
This file has the facts about the first item of the least rank in a list: its rank does not depend
on the order of the list, and a rank that reads its middle part wrongly still finds a first item
where the items that lead in the first part are read in their order.
-/

import Mathlib.Data.List.MinMax
import Mathlib.Data.Prod.Lex

namespace Ranking

variable {Item Rank : Type} [LinearOrder Rank] {rank : Item → Rank} {items others : List Item}

/-- The first item of the least rank, where ranks are in one line. -/
abbrev leastBy (rank : Item → Rank) (items : List Item) : Option Item := items.argmin rank

/-- The rank of the first item does not depend on the order of the items. -/
theorem map_argmin_of_perm (permuted : items.Perm others) :
    (items.argmin rank).map rank = (others.argmin rank).map rank := by
  cases found : items.argmin rank with
  | none =>
    obtain rfl := List.argmin_eq_none.mp found
    rw [List.nil_perm.mp permuted]
    rfl
  | some best =>
    cases otherFound : others.argmin rank with
    | none =>
      obtain rfl := List.argmin_eq_none.mp otherFound
      rw [List.perm_nil.mp permuted] at found
      cases found
    | some other =>
      have inItems := List.argmin_mem found
      have inOthers := List.argmin_mem otherFound
      refine congrArg some (le_antisymm ?_ ?_)
      · exact List.le_of_mem_argmin (permuted.mem_iff.mpr inOthers) found
      · exact List.le_of_mem_argmin (permuted.mem_iff.mp inItems) otherFound

/-- Where no two items have one rank, the first item does not depend on the order. -/
theorem argmin_of_perm (permuted : items.Perm others)
    (distinct : ∀ first ∈ items, ∀ second ∈ items, rank first = rank second → first = second) :
    items.argmin rank = others.argmin rank := by
  have sameRank := @map_argmin_of_perm _ _ _ rank _ _ permuted
  cases found : items.argmin rank with
  | none =>
    rw [found, Option.map_none, eq_comm, Option.map_eq_none_iff] at sameRank
    exact sameRank.symm
  | some best =>
    rw [found, Option.map_some, eq_comm, Option.map_eq_some_iff] at sameRank
    obtain ⟨other, otherFound, same⟩ := sameRank
    have inItems := permuted.mem_iff.mpr (List.argmin_mem otherFound)
    rw [otherFound, distinct other inItems best (List.argmin_mem found) same]

section Leaders

variable {Lead Real Seen Rest : Type} [LinearOrder Lead] [LinearOrder Real] [LinearOrder Seen]
  [LinearOrder Rest] {lead : Item → Lead} {real : Item → Real} {seen : Item → Seen}
  {rest : Item → Rest} {best : Item}

/-- A first item under a part as it is seen is one under the part as it is, where items that lead
are seen in their order. -/
theorem least_of_leaders (least : ∀ other ∈ items, toLex (lead best, toLex (seen best, rest best)) ≤
        toLex (lead other, toLex (seen other, rest other)))
    (before : ∀ other ∈ items, lead other = lead best → seen best < seen other →
      real best < real other)
    (equal : ∀ other ∈ items, lead other = lead best → seen best = seen other →
      real best = real other) :
    ∀ other ∈ items, toLex (lead best, toLex (real best, rest best)) ≤
      toLex (lead other, toLex (real other, rest other)) := by
  intro other member
  have le := least other member
  rw [Prod.Lex.toLex_le_toLex, Prod.Lex.toLex_le_toLex] at le ⊢
  rcases le with leads | ⟨sameLead, less | ⟨same, restLe⟩⟩
  · exact .inl leads
  · exact .inr ⟨sameLead, .inl (before other member sameLead.symm less)⟩
  · exact .inr ⟨sameLead, .inr ⟨equal other member sameLead.symm same, restLe⟩⟩

end Leaders

end Ranking
