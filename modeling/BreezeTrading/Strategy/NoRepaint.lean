/-
This file proves that confirmed pivots and swings never repaint: of a longer list of bars they are,
at the indices whose right wing the shorter list holds, those of the shorter list.
-/

import BreezeTrading.Strategy.FuturesSignal
import BreezeTrading.Strategy.PivotVwapScalp

namespace BreezeTrading

/-! ### The wings of a bar -/

section Wings

variable (candles later : List MarketCandle) {width index : Nat}

/-- A bar whose right wing is inside the list keeps its wings in every extension. -/
theorem wings_append (inside : index + width < candles.length) :
    (candles ++ later).take index = candles.take index ∧
      ((candles ++ later).drop (index + 1)).take width = (candles.drop (index + 1)).take width ∧
      (candles ++ later)[index]? = candles[index]? ∧
      (candles ++ later)[index + width]? = candles[index + width]? := by
  refine ⟨List.take_append_of_le_length (by omega), ?_, List.getElem?_append_left (by omega),
    List.getElem?_append_left inside⟩
  have enough : width ≤ (candles.drop (index + 1)).length := by
    rw [List.length_drop]
    omega
  rw [List.drop_append_of_le_length (by omega), List.take_append_of_le_length enough]

/-- What is found at each index, where both lists are searched, is found in the longer list at the
indices that the shorter list confirms. -/
theorem flatMap_restrict {Out : Type} (foundIn : List MarketCandle → Nat → List Out)
    {indexOf : Out → Nat}
    (tagged : ∀ index, ∀ out ∈ foundIn (candles ++ later) index, indexOf out = index)
    (stable : ∀ index, index + width < candles.length →
      foundIn (candles ++ later) index = foundIn candles index) :
    ((List.range' width ((candles ++ later).length - 2 * width)).flatMap
        (foundIn (candles ++ later))).filter
        (fun out => decide (indexOf out + width < candles.length)) =
      (List.range' width (candles.length - 2 * width)).flatMap (foundIn candles) := by
  have split : List.range' width ((candles ++ later).length - 2 * width) =
      List.range' width (candles.length - 2 * width) ++
        List.range' (width + (candles.length - 2 * width))
          ((candles ++ later).length - 2 * width - (candles.length - 2 * width)) := by
    rw [List.range'_append_1, List.length_append]
    congr 1
    omega
  rw [List.filter_flatMap, split, List.flatMap_append]
  have beyond : ∀ index ∈ List.range' (width + (candles.length - 2 * width))
      ((candles ++ later).length - 2 * width - (candles.length - 2 * width)),
      (foundIn (candles ++ later) index).filter
        (fun out => decide (indexOf out + width < candles.length)) = [] := by
    intro index member
    rw [List.mem_range'_1] at member
    refine List.filter_eq_nil_iff.mpr fun out found => ?_
    rw [tagged index out found, decide_eq_true_eq]
    omega
  rw [List.flatMap_eq_nil_iff.mpr beyond, List.append_nil]
  refine List.flatMap_congr fun index member => ?_
  rw [List.mem_range'_1] at member
  have inside : index + width < candles.length := by omega
  rw [← stable index inside]
  refine List.filter_eq_self.mpr fun out found => ?_
  rw [tagged index out found]
  exact decide_eq_true inside

end Wings

namespace FuturesFeatureEngine

theorem barIndex_of_mem_pivotsAt {candles : List MarketCandle} {width index : Nat}
    {pivot : ConfirmedPivot} (found : pivot ∈ pivotsAt candles width index) :
    pivot.barIndex = index := by
  unfold pivotsAt at found
  split at found
  · rcases List.mem_append.mp found with support | resistance
    · split at support
      · rw [List.mem_singleton.mp support]
      · cases support
    · split at resistance
      · rw [List.mem_singleton.mp resistance]
      · cases resistance
  · cases found

end FuturesFeatureEngine

namespace PivotVwapScalpStrategy

theorem fst_of_swing {candles : List MarketCandle} {wing index : Nat} {swing : Nat × ℚ}
    (found : swing ∈ swingHighAt candles wing index ∨ swing ∈ swingLowAt candles wing index) :
    swing.1 = index := by
  rcases found with found | found <;>
  · obtain ⟨candle, -, chosen⟩ := Option.bind_eq_some_iff.mp found
    dsimp only at chosen
    split at chosen <;> cases chosen
    rfl

end PivotVwapScalpStrategy

open FuturesFeatureEngine PivotVwapScalpStrategy in
/-- However a list of bars goes on, the pivots and the swings of the whole, at the indices that the
list confirms, are those of the list. -/
theorem confirmed_never_repaints (candles later : List MarketCandle) (width : Nat) :
    (confirmedPivots (candles ++ later) width).filter
        (fun pivot => decide (pivot.barIndex + width < candles.length)) =
      confirmedPivots candles width ∧
    (confirmedSwings (candles ++ later) width).1.filter
        (fun swing => decide (swing.1 + width < candles.length)) =
      (confirmedSwings candles width).1 ∧
    (confirmedSwings (candles ++ later) width).2.filter
        (fun swing => decide (swing.1 + width < candles.length)) =
      (confirmedSwings candles width).2 := by
  refine ⟨?_, ?_, ?_⟩
  · refine flatMap_restrict candles later (pivotsAt · width) (fun _ _ => barIndex_of_mem_pivotsAt)
      fun index inside => ?_
    obtain ⟨left, right, current, confirming⟩ := wings_append candles later inside
    unfold pivotsAt
    rw [left, right, current, confirming]
  · unfold confirmedSwings
    simp only [List.filterMap_eq_flatMap_toList]
    refine flatMap_restrict candles later
      (fun bars index => (swingHighAt bars width index).toList)
      (fun _ _ found => fst_of_swing (.inl (Option.mem_toList.mp found))) fun index inside => ?_
    obtain ⟨left, right, current, -⟩ := wings_append candles later inside
    unfold swingHighAt
    rw [left, right, current]
  · unfold confirmedSwings
    simp only [List.filterMap_eq_flatMap_toList]
    refine flatMap_restrict candles later
      (fun bars index => (swingLowAt bars width index).toList)
      (fun _ _ found => fst_of_swing (.inr (Option.mem_toList.mp found))) fun index inside => ?_
    obtain ⟨left, right, current, -⟩ := wings_append candles later inside
    unfold swingLowAt
    rw [left, right, current]

end BreezeTrading
