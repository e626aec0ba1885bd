/-
This file proves that the two estimates of an execution agree. One leg of the whole quantity comes
to what the round trip comes to, and a leg that is split into legs at the same evidence comes to the
same but for the brokerage of the orders, the tax on it, and the totals that they enter.
-/

import BreezeTrading.Strategy.ReplayCosts
import Mathlib.Algebra.Order.BigOperators.Group.List

namespace BreezeTrading

/-! ### One leg -/

section OneLeg

variable {entryEvidence exitEvidence : ReplayPriceEvidence} {quantity : Int} {costs : ReplayCosts}

theorem legFills_singleton (positive : 0 < quantity) :
    legFills [(quantity, exitEvidence)] costs =
      [(quantity, estimateFill exitEvidence .sell costs)] := by
  simp [legFills, positive]

theorem legsValid_singleton {entry exit : ReplayFillEstimate} (positive : 0 < quantity) :
    legsValid entry [(quantity, exit)] quantity = (entry.priced && exit.priced) := by
  simp [legsValid, positive]

theorem overLegs_singleton {exit : ReplayFillEstimate}
    (value : ReplayFillEstimate → ℚ) : overLegs value [(quantity, exit)] = value exit * quantity :=
  List.sum_singleton

theorem multiExit_one_leg (positive : 0 < quantity) :
    estimateMultiExitExecution entryEvidence [(quantity, exitEvidence)] quantity costs =
      estimateRoundTripExecution entryEvidence exitEvidence quantity costs := by
  unfold estimateMultiExitExecution estimateRoundTripExecution
  dsimp only
  rw [legFills_singleton positive, legsValid_singleton positive]
  generalize estimateFill entryEvidence .buy costs = entry
  generalize estimateFill exitEvidence .sell costs = exit
  by_cases isPriced : (entry.priced && exit.priced) = true
  · rw [if_pos isPriced, if_neg (not_or.mpr ⟨not_le.mpr positive, not_not.mpr isPriced⟩)]
    unfold multiExit
    simp only [overLegs_singleton, List.length_singleton, Nat.reduceAdd, Nat.cast_ofNat]
    rw [← add_mul, ← add_mul]
    rfl
  · rw [if_neg isPriced, if_pos (.inr isPriced)]
    rfl

end OneLeg

/-! ### Split legs -/

namespace ReplayRoundTripExecution

/-- An execution with another number of orders: their brokerage, the tax on it, and the totals. -/
def withOrders (execution : ReplayRoundTripExecution) (orders : Nat) (costs : ReplayCosts) :
    ReplayRoundTripExecution :=
  let brokerage := execution.brokerage.map fun _ => roundTo 2 (orders * costs.brokeragePerOrder)
  let gst := brokerage.bind fun brokerage => execution.exchangeCharges.bind fun exchange =>
    execution.sebiCharges.map fun sebi => roundTo 2 ((brokerage + exchange + sebi) * costs.gstRate)
  let transactionCosts := brokerage.bind fun brokerage =>
    execution.exchangeCharges.bind fun exchange => execution.stt.bind fun stt =>
      gst.bind fun gst => execution.sebiCharges.bind fun sebi =>
        execution.stampDuty.map fun stamp =>
          roundTo 2 (brokerage + exchange + stt + gst + sebi + stamp)
  { execution with
    brokerage
    gst
    transactionCosts
    netExecutionPnl := execution.grossExecutionPnl.bind fun gross =>
      transactionCosts.map fun transactionCosts => roundTo 2 (gross - transactionCosts) }

end ReplayRoundTripExecution

/-- Legs that come to the same: in all weighted sums and quantities, in the fills there are, and in
the last one. -/
structure SameExits (exits others : List (Int × ReplayFillEstimate)) : Prop where
  sums : ∀ value, overLegs value exits = overLegs value others
  quantities : (exits.map Prod.fst).sum = (others.map Prod.fst).sum
  fills : ∀ fill, fill ∈ exits.map Prod.snd ↔ fill ∈ others.map Prod.snd
  last : exits.getLast?.map Prod.snd = others.getLast?.map Prod.snd

section Split

variable {entry exit : ReplayFillEstimate} {exits others : List (Int × ReplayFillEstimate)}
  {quantity : Int} {costs : ReplayCosts}

theorem legsValid_congr (same : SameExits exits others) :
    legsValid entry exits quantity = legsValid entry others quantity := by
  have sameEmpty : exits.isEmpty = others.isEmpty := by
    rw [Bool.eq_iff_iff, List.isEmpty_iff, List.isEmpty_iff, ← List.getLast?_eq_none_iff,
      ← List.getLast?_eq_none_iff, ← @Option.map_eq_none_iff _ _ _ Prod.snd, same.last,
      Option.map_eq_none_iff]
  have samePriced : (exits.all fun leg => leg.2.priced) = others.all fun leg => leg.2.priced := by
    have byFills (legs : List (Int × ReplayFillEstimate)) :
        (legs.all fun leg => leg.2.priced) = (legs.map Prod.snd).all ReplayFillEstimate.priced := by
      rw [List.all_map]
      rfl
    rw [byFills, byFills, Bool.eq_iff_iff, List.all_eq_true, List.all_eq_true]
    exact forall_congr' fun fill => imp_congr_left (same.fills fill)
  rw [legsValid, legsValid, same.quantities, sameEmpty, samePriced]

theorem multiExit_congr (same : SameExits exits others) :
    multiExit entry exit exits quantity costs =
      (multiExit entry exit others quantity costs).withOrders (1 + exits.length) costs := by
  unfold multiExit ReplayRoundTripExecution.withOrders
  simp only [same.sums, Option.map_some, Option.bind_some]

def legsAt (evidence : ReplayPriceEvidence) (parts : List Int) : List (Int × ReplayPriceEvidence) :=
  parts.map fun part => (part, evidence)

variable {evidence : ReplayPriceEvidence} {parts : List Int}
  {before after : List (Int × ReplayPriceEvidence)}

theorem legFills_append (first second : List (Int × ReplayPriceEvidence)) :
    legFills (first ++ second) costs = legFills first costs ++ legFills second costs := by
  unfold legFills
  rw [List.filter_append, List.map_append]

theorem legFills_legsAt : legFills (legsAt evidence parts) costs =
    (parts.filter fun part => decide (0 < part)).map fun part =>
      (part, estimateFill evidence .sell costs) := by
  unfold legFills legsAt
  rw [List.filter_map, List.map_map]
  rfl

theorem sum_positive (nonneg : ∀ part ∈ parts, 0 ≤ part) :
    (parts.filter fun part => decide (0 < part)).sum = parts.sum := by
  induction parts with
  | nil => rfl
  | cons part rest inductionHypothesis =>
    have later := inductionHypothesis fun other member =>
      nonneg other (List.mem_cons_of_mem _ member)
    rw [List.filter_cons, List.sum_cons]
    split
    · rw [List.sum_cons, later]
    · rename_i notPositive
      have zero : part = 0 := le_antisymm (by simpa using notPositive)
        (nonneg part List.mem_cons_self)
      rw [later, zero, zero_add]

theorem overLegs_append (value : ReplayFillEstimate → ℚ)
    (first second : List (Int × ReplayFillEstimate)) :
    overLegs value (first ++ second) = overLegs value first + overLegs value second := by
  unfold overLegs
  rw [List.map_append, List.sum_append]

theorem overLegs_same_fill (value : ReplayFillEstimate → ℚ) (fill : ReplayFillEstimate)
    (parts : List Int) :
    overLegs value (parts.map fun part => (part, fill)) = value fill * parts.sum := by
  unfold overLegs
  rw [List.map_map]
  induction parts with
  | nil => simp
  | cons part rest inductionHypothesis =>
    rw [List.map_cons, List.sum_cons, inductionHypothesis, List.sum_cons]
    push_cast
    exact (mul_add _ _ _).symm

theorem positive_parts_eq_nil_iff (nonneg : ∀ part ∈ parts, 0 ≤ part) :
    (parts.filter fun part => decide (0 < part)) = [] ↔ ¬0 < parts.sum := by
  rw [← sum_positive nonneg]
  constructor
  · intro empty
    rw [empty, List.sum_nil]
    exact lt_irrefl 0
  · intro notPositive
    by_contra nonempty
    refine notPositive (List.sum_pos _ (fun part member => ?_) nonempty)
    exact of_decide_eq_true (List.mem_filter.mp member).2

theorem SameExits.refl (exits : List (Int × ReplayFillEstimate)) : SameExits exits exits :=
  ⟨fun _ => rfl, rfl, fun _ => Iff.rfl, rfl⟩

theorem SameExits.append {first second firstOthers secondOthers : List (Int × ReplayFillEstimate)}
    (sameFirst : SameExits first firstOthers) (sameSecond : SameExits second secondOthers) :
    SameExits (first ++ second) (firstOthers ++ secondOthers) where
  sums value := by
    rw [overLegs_append, overLegs_append, sameFirst.sums, sameSecond.sums]
  quantities := by
    rw [List.map_append, List.map_append, List.sum_append, List.sum_append, sameFirst.quantities,
      sameSecond.quantities]
  fills fill := by
    rw [List.map_append, List.map_append, List.mem_append, List.mem_append, sameFirst.fills,
      sameSecond.fills]
  last := by
    rw [List.getLast?_append, List.getLast?_append, Option.map_or, Option.map_or, sameFirst.last,
      sameSecond.last]

theorem fills_same_fill (fill : ReplayFillEstimate) (parts : List Int) :
    (parts.map fun part => (part, fill)).map Prod.snd = List.replicate parts.length fill := by
  rw [List.map_map]
  exact List.map_const'

theorem sameExits_of_sums {fill : ReplayFillEstimate} {parts others : List Int}
    (sameSum : parts.sum = others.sum) (sameEmpty : parts = [] ↔ others = []) :
    SameExits (parts.map fun part => (part, fill)) (others.map fun part => (part, fill)) where
  sums value := by
    rw [overLegs_same_fill, overLegs_same_fill, sameSum]
  quantities := by
    rw [List.map_map, List.map_map]
    exact (congrArg List.sum (List.map_id parts)).trans
      (sameSum.trans (congrArg List.sum (List.map_id others)).symm)
  fills other := by
    rw [fills_same_fill, fills_same_fill, List.mem_replicate, List.mem_replicate, ne_eq, ne_eq,
      List.length_eq_zero_iff, List.length_eq_zero_iff, sameEmpty]
  last := by
    rw [← List.getLast?_map, ← List.getLast?_map, fills_same_fill, fills_same_fill,
      List.getLast?_replicate, List.getLast?_replicate]
    simp only [List.length_eq_zero_iff, sameEmpty]

theorem sameExits_split (nonneg : ∀ part ∈ parts, 0 ≤ part) :
    SameExits (legFills (before ++ legsAt evidence parts ++ after) costs)
      (legFills (before ++ legsAt evidence [parts.sum] ++ after) costs) := by
  have wholeNonneg : ∀ part ∈ [parts.sum], 0 ≤ part := fun part member => by
    rw [List.mem_singleton.mp member]
    exact List.sum_nonneg nonneg
  rw [legFills_append, legFills_append, legFills_append, legFills_append, legFills_legsAt,
    legFills_legsAt]
  refine ((SameExits.refl _).append (sameExits_of_sums ?_ ?_)).append (SameExits.refl _)
  · rw [sum_positive nonneg, sum_positive wholeNonneg, List.sum_singleton]
  · rw [positive_parts_eq_nil_iff nonneg, positive_parts_eq_nil_iff wholeNonneg, List.sum_singleton]

/-- Splitting a leg changes the number of orders only: the result is the one of the whole leg, with
the brokerage of the orders that there are. -/
theorem multiExit_split (entryEvidence : ReplayPriceEvidence) (nonneg : ∀ part ∈ parts, 0 ≤ part) :
    estimateMultiExitExecution entryEvidence (before ++ legsAt evidence parts ++ after) quantity
        costs =
      (estimateMultiExitExecution entryEvidence (before ++ legsAt evidence [parts.sum] ++ after)
        quantity costs).withOrders
          (1 + (legFills (before ++ legsAt evidence parts ++ after) costs).length) costs := by
  have same := @sameExits_split costs evidence parts before after nonneg
  unfold estimateMultiExitExecution
  dsimp only
  generalize legFills (before ++ legsAt evidence parts ++ after) costs = exits at same ⊢
  generalize legFills (before ++ legsAt evidence [parts.sum] ++ after) costs = others at same ⊢
  generalize estimateFill entryEvidence .buy costs = entry
  generalize estimateFill (noExitLegs entryEvidence) .sell costs = noExit
  have sameExit : exits.getLast?.elim noExit Prod.snd = others.getLast?.elim noExit Prod.snd := by
    have byLast (legs : List (Int × ReplayFillEstimate)) :
        legs.getLast?.elim noExit Prod.snd = (legs.getLast?.map Prod.snd).getD noExit := by
      cases legs.getLast? <;> rfl
    rw [byLast, byLast, same.last]
  rw [legsValid_congr same, sameExit]
  split
  · exact multiExit_congr same
  · rfl

end Split

/-! ### The two estimates -/

/-- A quote of an option at two prices. -/
def quotedEvidence (bid ask : ℚ) : ReplayPriceEvidence where
  status := "AVAILABLE"
  basis := "POINT_IN_TIME_BID_ASK"
  source := "BREEZE"
  eventTimestamp := 1790229600000000
  evidenceTimestamp := some 1790229600000000
  bid := some bid
  ask := some ask

end BreezeTrading
