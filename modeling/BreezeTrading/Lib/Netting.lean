/-
This file sums amounts that belong to keys. At one weight for each key, all amounts come to the sum
of the weighted nets of the keys; where every key nets to nought, so do they.
-/

import Mathlib.Algebra.BigOperators.Ring.Finset

namespace Netting

variable {Item Key : Type} [DecidableEq Key] (key : Item → Key) (amount : Item → Int)

/-- What the items of a key come to. -/
def net (items : List Item) (wanted : Key) : Int :=
  ((items.filter fun item => decide (key item = wanted)).map amount).sum

theorem net_cons (item : Item) (items : List Item) (wanted : Key) :
    net key amount (item :: items) wanted =
      (if wanted = key item then amount item else 0) + net key amount items wanted := by
  unfold net
  rw [List.filter_cons]
  by_cases own : key item = wanted
  · rw [if_pos (decide_eq_true own), if_pos own.symm]
    rfl
  · rw [if_neg (by simpa using own), if_neg (Ne.symm own), zero_add]

/-- One more item adds to its key. -/
theorem net_concat (items : List Item) (item : Item) (wanted : Key) :
    net key amount (items ++ [item]) wanted =
      net key amount items wanted + if wanted = key item then amount item else 0 := by
  have single := net_cons key amount item [] wanted
  unfold net at single ⊢
  rw [List.filter_append, List.map_append, List.sum_append, single]
  exact congrArg _ (add_zero _)

variable {key amount} {Weight : Type} [CommRing Weight]

/-- The weighted amounts are the weighted nets of the keys. -/
theorem sum_weighted_eq (weight : Key → Weight) {keys : Finset Key} {items : List Item}
    (known : ∀ item ∈ items, key item ∈ keys) :
    (items.map fun item => weight (key item) * amount item).sum =
      ∑ wanted ∈ keys, weight wanted * net key amount items wanted := by
  induction items with
  | nil => simp [net]
  | cons item rest inductionHypothesis =>
    have isKnown := known item List.mem_cons_self
    rw [List.map_cons, List.sum_cons, inductionHypothesis fun other member =>
      known other (List.mem_cons_of_mem item member)]
    simp only [net_cons, Int.cast_add, mul_add, Finset.sum_add_distrib]
    congr 1
    simp [isKnown]

/-- Amounts that net to nought under every key come to nought. -/
theorem sum_weighted_eq_zero (weight : Key → Weight) {items : List Item}
    (flat : ∀ wanted, net key amount items wanted = 0) :
    (items.map fun item => weight (key item) * amount item).sum = 0 := by
  have known : ∀ item ∈ items, key item ∈ (items.map key).toFinset := fun item member =>
    List.mem_toFinset.mpr (List.mem_map_of_mem member)
  rw [sum_weighted_eq weight known]
  refine Finset.sum_eq_zero fun wanted _ => ?_
  rw [flat wanted, Int.cast_zero, mul_zero]

end Netting
