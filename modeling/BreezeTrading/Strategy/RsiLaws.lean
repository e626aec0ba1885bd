/-
This file proves the laws of the relative strength index. It is between nought and a hundred, and
the index of reflected closes is a hundred less the index, as gains and losses trade places. The one
exception is a series that does not move where the averages look: its index is a hundred, and so is
that of its reflection.
-/

import BreezeTrading.Strategy.FeatureEngine
import BreezeTrading.Strategy.Reflection
import Mathlib.Algebra.Order.BigOperators.Group.List

namespace BreezeTrading

namespace FeatureEngine

open FuturesFeatureEngine

/-! ### Smoothing -/

section Smoothing

variable {period : Nat} {values : List ℚ} {smoothed value : ℚ}

/-- One step of Wilder's average. -/
def smooth (period : Nat) (smoothed value : ℚ) : ℚ := (smoothed * (period - 1) + value) / period

theorem wilder_eq (period : Nat) (values : List ℚ) : wilder period values =
    (values.drop period).foldl (smooth period) ((values.take period).sum / period) := rfl

theorem smooth_one (smoothed value : ℚ) : smooth 1 smoothed value = value := by
  simp [smooth]

theorem smooth_nonneg (positive : 0 < period) (average : 0 ≤ smoothed) (nonneg : 0 ≤ value) :
    0 ≤ smooth period smoothed value := by
  have weight : (0 : ℚ) ≤ period - 1 := sub_nonneg.mpr (Nat.one_le_cast.mpr positive)
  unfold smooth
  positivity

theorem smooth_pos_iff (long : 1 < period) (average : 0 ≤ smoothed) (nonneg : 0 ≤ value) :
    0 < smooth period smoothed value ↔ 0 < smoothed ∨ 0 < value := by
  have count : (0 : ℚ) < period := Nat.cast_pos.mpr (by omega)
  have weight : (0 : ℚ) < period - 1 := sub_pos.mpr (Nat.one_lt_cast.mpr long)
  have carried : 0 ≤ smoothed * (period - 1) := mul_nonneg average weight.le
  have sum : 0 < smoothed * (period - 1) + value ↔ 0 < smoothed * (period - 1) ∨ 0 < value := by
    constructor
    · intro positive
      by_contra neither
      rw [not_or, not_lt, not_lt] at neither
      linarith
    · rintro (positive | positive) <;> linarith
  rw [smooth, div_pos_iff_of_pos_right count, sum, mul_pos_iff_of_pos_right weight]

theorem foldl_smooth_nonneg (positive : 0 < period) (nonneg : ∀ value ∈ values, 0 ≤ value)
    (average : 0 ≤ smoothed) : 0 ≤ values.foldl (smooth period) smoothed := by
  induction values generalizing smoothed with
  | nil => exact average
  | cons value rest inductionHypothesis =>
    exact inductionHypothesis (fun other member => nonneg other (List.mem_cons_of_mem _ member))
      (smooth_nonneg positive average (nonneg value List.mem_cons_self))

theorem foldl_smooth_pos_iff (long : 1 < period) (nonneg : ∀ value ∈ values, 0 ≤ value)
    (average : 0 ≤ smoothed) :
    0 < values.foldl (smooth period) smoothed ↔ 0 < smoothed ∨ ∃ value ∈ values, 0 < value := by
  induction values generalizing smoothed with
  | nil => simp
  | cons value rest inductionHypothesis =>
    have first := nonneg value List.mem_cons_self
    rw [List.foldl_cons, inductionHypothesis
      (fun other member => nonneg other (List.mem_cons_of_mem _ member))
      (smooth_nonneg (by omega) average first), smooth_pos_iff long average first,
      List.exists_mem_cons_iff, or_assoc]

theorem foldl_smooth_one (values : List ℚ) (smoothed : ℚ) :
    values.foldl (smooth 1) smoothed = values.getLastD smoothed := by
  induction values generalizing smoothed with
  | nil => rfl
  | cons value rest inductionHypothesis =>
    rw [List.foldl_cons, smooth_one, inductionHypothesis, List.getLastD_cons]

theorem wilder_one (values : List ℚ) : wilder 1 values = values.getLastD 0 := by
  rw [wilder_eq, foldl_smooth_one]
  cases values with
  | nil => simp
  | cons value rest =>
    rw [List.drop_one, List.tail_cons, List.getLastD_cons, List.take_one, List.head?_cons]
    simp

theorem sum_pos_iff (nonneg : ∀ value ∈ values, 0 ≤ value) :
    0 < values.sum ↔ ∃ value ∈ values, 0 < value := by
  constructor
  · intro positive
    by_contra! none
    exact positive.ne' (List.sum_eq_zero fun value member =>
      le_antisymm (none value member) (nonneg value member))
  · rintro ⟨value, member, positive⟩
    exact positive.trans_le (List.single_le_sum nonneg value member)

/-- What the averages keep a trace of: with a period of one, only the last item. -/
def counted {Item : Type} (period : Nat) (items : List Item) : List Item :=
  if period = 1 then lastItems 1 items else items

theorem counted_map {Item Other : Type} (function : Item → Other) (items : List Item) :
    counted period (items.map function) = (counted period items).map function := by
  unfold counted lastItems
  split_ifs with isOne <;> simp

theorem wilder_nonneg (positive : 0 < period) (nonneg : ∀ value ∈ values, 0 ≤ value) :
    0 ≤ wilder period values := by
  refine foldl_smooth_nonneg positive
    (fun value member => nonneg value (List.mem_of_mem_drop member))
    (div_nonneg (List.sum_nonneg fun value member => ?_) (Nat.cast_nonneg period))
  exact nonneg value (List.mem_of_mem_take member)

theorem wilder_pos_iff (positive : 0 < period) (nonneg : ∀ value ∈ values, 0 ≤ value) :
    0 < wilder period values ↔ ∃ value ∈ counted period values, 0 < value := by
  by_cases isOne : period = 1
  · subst isOne
    rw [wilder_one, counted, if_pos rfl]
    rcases List.eq_nil_or_concat values with rfl | ⟨before, last, rfl⟩
    · simp [lastItems]
    · simp [lastItems, List.getLastD_eq_getLast?]
  · have long : 1 < period := by omega
    have early := fun value member => nonneg value (List.mem_of_mem_take (i := period) member)
    have late := fun value member => nonneg value (List.mem_of_mem_drop (i := period) member)
    have count : (0 : ℚ) < period := Nat.cast_pos.mpr positive
    rw [wilder_eq, foldl_smooth_pos_iff long late
      (div_nonneg (List.sum_nonneg early) count.le), div_pos_iff_of_pos_right count,
      sum_pos_iff early, counted, if_neg isOne]
    constructor
    · rintro (⟨value, member, isPositive⟩ | ⟨value, member, isPositive⟩)
      · exact ⟨value, List.mem_of_mem_take member, isPositive⟩
      · exact ⟨value, List.mem_of_mem_drop member, isPositive⟩
    · rintro ⟨value, member, isPositive⟩
      rw [← List.take_append_drop period values, List.mem_append] at member
      exact member.imp (fun inEarly => ⟨value, inEarly, isPositive⟩)
        fun inLate => ⟨value, inLate, isPositive⟩

end Smoothing

/-! ### Gains and losses -/

section Moves

variable {closes : List ℚ} {period : Nat}

theorem gains_nonneg (closes : List ℚ) : ∀ gain ∈ gains closes, 0 ≤ gain := by
  intro gain member
  obtain ⟨pair, -, rfl⟩ := List.mem_map.mp member
  split_ifs with rises
  · exact rises
  · exact le_rfl

theorem losses_nonneg (closes : List ℚ) : ∀ loss ∈ losses closes, 0 ≤ loss := by
  intro loss member
  obtain ⟨pair, -, rfl⟩ := List.mem_map.mp member
  split_ifs
  · exact le_rfl
  · exact abs_nonneg _

theorem zip_tail_map {Item Other : Type} (function : Item → Other) (items : List Item) :
    (items.map function).zip (items.map function).tail =
      (items.zip items.tail).map fun pair => (function pair.1, function pair.2) := by
  rw [← List.map_tail, List.zip_map]
  rfl

theorem losses_reflect (center : ℚ) (closes : List ℚ) :
    losses (closes.map (center - ·)) = gains closes := by
  unfold losses gains
  rw [zip_tail_map, List.map_map]
  refine List.map_congr_left fun pair _ => ?_
  simp only [Function.comp_apply, sub_sub_sub_cancel_left]
  rcases lt_trichotomy pair.1 pair.2 with rises | same | falls
  · rw [if_neg (by linarith), if_pos (by linarith), abs_of_neg (by linarith), neg_sub]
  · rw [same, sub_self, if_pos le_rfl, if_pos le_rfl]
  · rw [if_pos (by linarith), if_neg (by linarith)]

theorem gains_reflect (center : ℚ) (closes : List ℚ) :
    gains (closes.map (center - ·)) = losses closes := by
  have back : (closes.map (center - ·)).map (center - ·) = closes := by
    rw [List.map_map]
    refine (List.map_congr_left fun close _ => ?_).trans closes.map_id
    exact sub_sub_cancel center close
  rw [← losses_reflect center, back]

/-- Some of the counted steps of the closes are moves. -/
def Moves (period : Nat) (closes : List ℚ) : Prop :=
  ∃ pair ∈ counted period (closes.zip closes.tail), pair.1 ≠ pair.2

instance (period : Nat) (closes : List ℚ) : Decidable (Moves period closes) :=
  inferInstanceAs (Decidable (∃ pair ∈ counted period (closes.zip closes.tail), pair.1 ≠ pair.2))

theorem wilder_gains_pos_iff (positive : 0 < period) : 0 < wilder period (gains closes) ↔
    ∃ pair ∈ counted period (closes.zip closes.tail), pair.1 < pair.2 := by
  rw [wilder_pos_iff positive (gains_nonneg closes), gains, counted_map]
  simp only [List.mem_map, exists_exists_and_eq_and]
  refine exists_congr fun pair => and_congr_right fun _ => ?_
  split_ifs with rises
  · exact sub_pos
  · exact iff_of_false (lt_irrefl 0) (by linarith)

theorem wilder_losses_pos_iff (positive : 0 < period) : 0 < wilder period (losses closes) ↔
    ∃ pair ∈ counted period (closes.zip closes.tail), pair.2 < pair.1 := by
  rw [wilder_pos_iff positive (losses_nonneg closes), losses, counted_map]
  simp only [List.mem_map, exists_exists_and_eq_and]
  refine exists_congr fun pair => and_congr_right fun _ => ?_
  split_ifs with rises
  · exact iff_of_false (lt_irrefl 0) (by linarith)
  · exact iff_of_true (abs_pos.mpr (by linarith)) (by linarith)

theorem moves_iff (positive : 0 < period) : Moves period closes ↔
    0 < wilder period (gains closes) + wilder period (losses closes) := by
  have gained := wilder_nonneg positive (gains_nonneg closes)
  have lost := wilder_nonneg positive (losses_nonneg closes)
  have either : 0 < wilder period (gains closes) + wilder period (losses closes) ↔
      0 < wilder period (gains closes) ∨ 0 < wilder period (losses closes) := by
    constructor
    · intro sum
      by_contra! neither
      linarith
    · rintro (isPositive | isPositive) <;> linarith
  rw [either, wilder_gains_pos_iff positive, wilder_losses_pos_iff positive, Moves]
  simp only [ne_iff_lt_or_gt, and_or_left, exists_or]

end Moves

/-! ### The index -/

section Index

variable {closes : List ℚ} {period : Nat}

/-- `calculate_rsi` of any period: the mean over a period of nought is an error. -/
def rsi (closes : List ℚ) (period : Nat) : Except String ℚ :=
  if closes.length ≤ period then .ok 50
  else if period = 0 then .error "ZeroDivisionError"
  else .ok (calculateRsi closes period)

/-- Between nought and a hundred, and a hundred less for the reflected closes. -/
structure RsiLaws (closes : List ℚ) (period : Nat) : Prop where
  bounded : ∀ value, rsi closes period = .ok value → 0 ≤ value ∧ value ≤ 100
  reflected : ∀ center, rsi (closes.map (center - ·)) period = (rsi closes period).map (100 - ·)

/-- The share of the gains in all moves, in per cent. -/
def gainShare (gain loss : ℚ) : ℚ := 100 * (gain / (gain + loss))

theorem gainShare_bounds {gain loss : ℚ} (gained : 0 ≤ gain) (lost : 0 ≤ loss) :
    0 ≤ gainShare gain loss ∧ gainShare gain loss ≤ 100 := by
  have share : gain / (gain + loss) ≤ 1 := div_le_one_of_le₀ (by linarith) (by linarith)
  have nonneg : 0 ≤ gain / (gain + loss) := div_nonneg gained (by linarith)
  unfold gainShare
  constructor <;> linarith

theorem gainShare_swap {gain loss : ℚ} (moves : 0 < gain + loss) :
    gainShare loss gain = 100 - gainShare gain loss := by
  have sum : gain + loss ≠ 0 := moves.ne'
  unfold gainShare
  rw [add_comm loss gain]
  field_simp
  ring

theorem evenCents_hundred : EvenCents 100 := ⟨5000, by norm_num⟩

theorem calculateRsi_eq (enough : period < closes.length)
    (moves : 0 < wilder period (gains closes) + wilder period (losses closes)) :
    calculateRsi closes period =
      roundTo 2 (gainShare (wilder period (gains closes)) (wilder period (losses closes))) := by
  simp only [calculateRsi]
  rw [if_neg (not_le.mpr enough)]
  generalize wilder period (gains closes) = gain at moves ⊢
  generalize wilder period (losses closes) = loss at moves ⊢
  split_ifs with noLoss
  · subst noLoss
    rw [add_zero] at moves
    have whole : gainShare gain 0 = 100 := by
      rw [gainShare, add_zero, div_self moves.ne', mul_one]
    rw [whole]
    decide +kernel
  · have sum : gain + loss ≠ 0 := moves.ne'
    have ratio : 1 + gain / loss = (gain + loss) / loss := by
      field_simp
      ring
    congr 1
    rw [ratio, gainShare]
    field_simp
    ring

theorem calculateRsi_flat (positive : 0 < period) (enough : period < closes.length)
    (flat : ¬Moves period closes) : calculateRsi closes period = 100 := by
  have gained := wilder_nonneg positive (gains_nonneg closes)
  have lost := wilder_nonneg positive (losses_nonneg closes)
  rw [moves_iff positive, not_lt] at flat
  have noLoss : wilder period (losses closes) = 0 := by linarith
  simp only [calculateRsi]
  rw [if_neg (not_le.mpr enough), if_pos noLoss]

theorem moves_reflect (center : ℚ) :
    Moves period (closes.map (center - ·)) ↔ Moves period closes := by
  unfold Moves
  rw [zip_tail_map, counted_map]
  simp only [List.mem_map, exists_exists_and_eq_and]
  refine exists_congr fun pair => and_congr_right fun _ => not_congr ?_
  exact sub_right_inj

theorem calculateRsi_bounds (positive : 0 < period) (closes : List ℚ) :
    0 ≤ calculateRsi closes period ∧ calculateRsi closes period ≤ 100 := by
  by_cases enough : period < closes.length
  · by_cases moves : Moves period closes
    · obtain ⟨low, high⟩ := gainShare_bounds (wilder_nonneg positive (gains_nonneg closes))
        (wilder_nonneg positive (losses_nonneg closes))
      rw [calculateRsi_eq enough ((moves_iff positive).mp moves)]
      have nought : roundTo 2 0 = 0 := by decide +kernel
      have hundred : roundTo 2 100 = 100 := by decide +kernel
      exact ⟨nought ▸ roundTo_mono 2 low, (roundTo_mono 2 high).trans_eq hundred⟩
    · rw [calculateRsi_flat positive enough moves]
      norm_num
  · rw [calculateRsi, if_pos (not_lt.mp enough)]
    norm_num

theorem calculateRsi_reflect (center : ℚ) (positive : 0 < period)
    (enough : period < closes.length) (moves : Moves period closes) :
    calculateRsi (closes.map (center - ·)) period = 100 - calculateRsi closes period := by
  have moved := (moves_iff positive).mp moves
  have reflectedMoved := (moves_iff positive).mp ((moves_reflect center).mpr moves)
  have reflectedEnough : period < (closes.map (center - ·)).length := by
    rw [List.length_map]
    exact enough
  rw [calculateRsi_eq enough moved, calculateRsi_eq reflectedEnough reflectedMoved,
    gains_reflect, losses_reflect, gainShare_swap moved, roundTo_reflect evenCents_hundred]

/-- The laws hold unless the closes do not move where the averages look. -/
theorem rsi_laws_iff (closes : List ℚ) (period : Nat) : RsiLaws closes period ↔
    closes.length ≤ period ∨ period = 0 ∨ Moves period closes := by
  by_cases short : closes.length ≤ period
  · refine iff_of_true ⟨fun value isValue => ?_, fun center => ?_⟩ (.inl short)
    · rw [rsi, if_pos short] at isValue
      cases isValue
      norm_num
    · rw [rsi, rsi, List.length_map, if_pos short, if_pos short]
      exact congrArg Except.ok (by norm_num)
  by_cases nought : period = 0
  · refine iff_of_true ⟨fun value isValue => ?_, fun center => ?_⟩ (.inr (.inl nought))
    · rw [rsi, if_neg short, if_pos nought] at isValue
      cases isValue
    · rw [rsi, rsi, List.length_map, if_neg short, if_pos nought, if_neg short, if_pos nought]
      rfl
  have positive : 0 < period := Nat.pos_of_ne_zero nought
  have enough : period < closes.length := not_le.mp short
  have computed : rsi closes period = .ok (calculateRsi closes period) := by
    rw [rsi, if_neg short, if_neg nought]
  have reflectedComputed (center : ℚ) : rsi (closes.map (center - ·)) period =
      .ok (calculateRsi (closes.map (center - ·)) period) := by
    rw [rsi, List.length_map, if_neg short, if_neg nought]
  constructor
  · intro laws
    refine .inr (.inr ?_)
    by_contra flat
    have reflected := laws.reflected 0
    have reflectedEnough : period < (closes.map (0 - ·)).length := by
      rw [List.length_map]
      exact enough
    rw [computed, reflectedComputed, calculateRsi_flat positive enough flat,
      calculateRsi_flat positive reflectedEnough (mt (moves_reflect 0).mp flat)] at reflected
    exact absurd (Except.ok.inj reflected) (by norm_num)
  · rintro (isShort | isNought | moves)
    · exact absurd isShort short
    · exact absurd isNought nought
    · refine ⟨fun value isValue => ?_, fun center => ?_⟩
      · rw [computed] at isValue
        cases isValue
        exact calculateRsi_bounds positive closes
      · rw [computed, reflectedComputed, calculateRsi_reflect center positive enough moves]
        rfl

/-- Closes that stay where they are and their reflections are both overbought. -/
theorem flat_is_overbought :
    calculateRsi (List.replicate 15 22000) 14 = 100 ∧ ¬RsiLaws (List.replicate 15 22000) 14 := by
  refine ⟨by decide +kernel, fun laws => ?_⟩
  have reflected := laws.reflected 44000
  revert reflected
  decide +kernel

end Index

end FeatureEngine

end BreezeTrading
