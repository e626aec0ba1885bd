/-
This file proves what a position is after any deliveries: the totals traded by the distinct
executions of its instrument, and what is derived from them, so that neither order nor repetition
matters. Profit and loss add up to the cash flow plus the value of the net as long as the position
is not short, or was sold at its average buy price.
-/

import BreezeTrading.Lib.Distinct
import BreezeTrading.Portfolio.Repository
import Mathlib.Algebra.BigOperators.Group.List.Lemmas
import Mathlib.Algebra.Order.BigOperators.Group.List
import Mathlib.Tactic.LinearCombination

namespace BreezeTrading

open Stored

/-! ### What was traded -/

/-- The totals of the executions of one instrument. -/
structure Traded where
  buyQuantity : Int
  sellQuantity : Int
  buyValue : ℚ
  sellValue : ℚ
  deriving DecidableEq

namespace Traded

/-- The totals of a list of executions. -/
def of (executions : List Execution) : Traded where
  buyQuantity := (executions.map fun fill => if fill.side = .buy then fill.quantity else 0).sum
  sellQuantity := (executions.map fun fill => if fill.side = .buy then 0 else fill.quantity).sum
  buyValue := (executions.map fun fill => if fill.side = .buy then fill.value else 0).sum
  sellValue := (executions.map fun fill => if fill.side = .buy then 0 else fill.value).sum

def netQuantity (traded : Traded) : Int := traded.buyQuantity - traded.sellQuantity

/-- The average buy price, which is the cost basis of the position. -/
def averagePrice (traded : Traded) : ℚ :=
  if 0 < traded.buyQuantity then traded.buyValue / traded.buyQuantity else 0

def averageSell (traded : Traded) : ℚ :=
  if 0 < traded.sellQuantity then traded.sellValue / traded.sellQuantity else 0

/-- The realized profit and loss before rounding. -/
def realizedPnl (traded : Traded) : ℚ :=
  let closedQuantity := min traded.buyQuantity traded.sellQuantity
  if 0 < closedQuantity then (traded.averageSell - traded.averagePrice) * closedQuantity else 0

/-- The unrealized profit and loss at a mark price, before rounding. -/
def unrealizedPnl (traded : Traded) (mark : ℚ) : ℚ :=
  if traded.netQuantity ≠ 0 then (mark - traded.averagePrice) * traded.netQuantity else 0

theorem of_perm {first second : List Execution} (perm : first.Perm second) :
    of first = of second := by
  unfold of
  rw [(perm.map _).sum_eq, (perm.map _).sum_eq, (perm.map _).sum_eq, (perm.map _).sum_eq]

theorem of_append (executions : List Execution) (fill : Execution) :
    of (executions ++ [fill]) =
      { buyQuantity := (of executions).buyQuantity + if fill.side = .buy then fill.quantity else 0
        sellQuantity :=
          (of executions).sellQuantity + if fill.side = .buy then 0 else fill.quantity
        buyValue := (of executions).buyValue + if fill.side = .buy then fill.value else 0
        sellValue := (of executions).sellValue + if fill.side = .buy then 0 else fill.value } := by
  simp only [of, List.map_append, List.sum_append, List.map_cons, List.map_nil, List.sum_singleton]

end Traded

/-- The totals a position carries. -/
def Position.traded (position : Position) : Traded :=
  ⟨position.buyQuantity, position.sellQuantity, position.buyValue, position.sellValue⟩

namespace PortfolioTables

/-! ### Deliveries -/

/-- One call of `apply_execution_atomic`. -/
structure Delivery where
  execution : Execution
  tradingMode : TradingMode
  currentPrice : ℚ

/-- Deliveries applied one after another. -/
def applyAll (tables : PortfolioTables) (deliveries : List Delivery) : PortfolioTables :=
  deliveries.foldl (fun tables delivery =>
    (tables.applyExecutionAtomic delivery.execution delivery.tradingMode
      delivery.currentPrice).2) tables

/-- The executions on record of an instrument. -/
def executionsOn (instrumentId : String) (executions : List Execution) : List Execution :=
  executions.filter fun fill => decide (fill.instrumentId = instrumentId)

/-- A position is derived from the executions of its instrument, at some mark price. -/
structure Derived (position : Position) (executions : List Execution) : Prop where
  traded : position.traded = Traded.of executions
  quantity : position.quantity = (Traded.of executions).netQuantity
  averagePrice : position.averagePrice = round2 (Traded.of executions).averagePrice
  realizedPnl : position.realizedPnl = round2 (Traded.of executions).realizedPnl
  unrealizedPnl : ∃ mark,
    position.unrealizedPnl = round2 ((Traded.of executions).unrealizedPnl mark) ∧
    position.totalPnl = round2 ((Traded.of executions).realizedPnl +
      (Traded.of executions).unrealizedPnl mark)

/-- An instrument has a position exactly when it has an execution, and it is derived from
those. -/
def Accounted (tables : PortfolioTables) (instrumentId : String) : Prop :=
  match tables.getPosition instrumentId with
  | none => executionsOn instrumentId tables.executions = []
  | some position =>
      executionsOn instrumentId tables.executions ≠ [] ∧
        Derived position (executionsOn instrumentId tables.executions)

theorem accounted_empty (instrumentId : String) : Accounted empty instrumentId := rfl

theorem derived_bookedPosition {row : Option Position} {executions : List Execution}
    (before : ∀ position, row = some position → position.traded = Traded.of executions)
    (absent : row = none → executions = []) (fill : Execution) (tradingMode : TradingMode)
    (currentPrice : ℚ) :
    Derived (bookedPosition row fill tradingMode currentPrice) (executions ++ [fill]) := by
  have totals : (bookedPosition row fill tradingMode currentPrice).traded =
      Traded.of (executions ++ [fill]) := by
    rw [Traded.of_append]
    cases row with
    | none =>
      obtain rfl := absent rfl
      rfl
    | some position =>
      rw [← before position rfl]
      rfl
  refine ⟨totals, ?_, ?_, ?_, currentPrice, ?_, ?_⟩ <;>
  · rw [← totals]
    rfl

@[simp] theorem bookedPosition_instrumentId (row : Option Position) (fill : Execution)
    (tradingMode : TradingMode) (currentPrice : ℚ) :
    (bookedPosition row fill tradingMode currentPrice).instrumentId = fill.instrumentId := rfl

theorem getPosition_book (tables : PortfolioTables) {execution : Execution} {position : Position}
    (fresh : execution.executionId ∉ tables.executions.map Execution.executionId)
    (instrumentId : String) :
    (tables.book execution position fresh).getPosition instrumentId =
      if position.instrumentId = instrumentId then some position
      else tables.getPosition instrumentId := by
  have found := find?_upsertRows (fun old new : Position =>
    { new with instrumentId := old.instrumentId }) position (fun _ => rfl)
    tables.byInstrumentId instrumentId
  have left : merged Position.instrumentId (fun old new : Position =>
      { new with instrumentId := old.instrumentId }) position tables.positions = position := by
    unfold merged
    split
    · rename_i old same
      show { position with instrumentId := old.instrumentId } = position
      rw [(mem_of_find? same).2]
    · rfl
  rw [left] at found
  exact found

theorem executionsOn_append (instrumentId : String) (executions : List Execution)
    (fill : Execution) :
    executionsOn instrumentId (executions ++ [fill]) =
      if fill.instrumentId = instrumentId then executionsOn instrumentId executions ++ [fill]
      else executionsOn instrumentId executions := by
  unfold executionsOn
  rw [List.filter_append]
  split
  · rename_i same
    rw [List.filter_cons_of_pos (by simpa using same), List.filter_nil]
  · rename_i different
    rw [List.filter_cons_of_neg (by simpa using different), List.filter_nil, List.append_nil]

/-- An instrument has a position exactly when it has an execution, and it fits those. -/
def Kept (fits : Position → List Execution → Prop) (tables : PortfolioTables)
    (instrumentId : String) : Prop :=
  match tables.getPosition instrumentId with
  | none => executionsOn instrumentId tables.executions = []
  | some position =>
      executionsOn instrumentId tables.executions ≠ [] ∧
        fits position (executionsOn instrumentId tables.executions)

/-- What follows from being derived, and gives what has been traded, is kept. -/
theorem kept_apply {fits : Position → List Execution → Prop} {tables : PortfolioTables}
    (traded : ∀ position executions, fits position executions →
      position.traded = Traded.of executions)
    (derived : ∀ position executions, Derived position executions → fits position executions)
    (delivery : Delivery) (before : ∀ instrumentId, Kept fits tables instrumentId)
    (instrumentId : String) :
    Kept fits (tables.applyExecutionAtomic delivery.execution delivery.tradingMode
      delivery.currentPrice).2 instrumentId := by
  unfold applyExecutionAtomic
  split
  · split <;> exact before instrumentId
  · rename_i fresh
    have known := before delivery.execution.instrumentId
    have others := before instrumentId
    unfold Kept at known others ⊢
    rw [getPosition_book, bookedPosition_instrumentId, show (tables.book delivery.execution _ fresh).executions =
      tables.executions ++ [delivery.execution] from rfl, executionsOn_append]
    by_cases same : delivery.execution.instrumentId = instrumentId
    · subst same
      rw [if_pos rfl, if_pos rfl]
      refine ⟨List.append_ne_nil_of_right_ne_nil _ (List.cons_ne_nil _ _), derived _ _
        (derived_bookedPosition (fun position found => ?_) (fun missing => ?_) _ _ _)⟩
      · rw [found] at known
        exact traded _ _ known.2
      · rw [missing] at known
        exact known
    · rw [if_neg same, if_neg same]
      exact others

theorem accounted_applyAll {tables : PortfolioTables} (deliveries : List Delivery)
    (before : ∀ instrumentId, Accounted tables instrumentId) (instrumentId : String) :
    Accounted (tables.applyAll deliveries) instrumentId := by
  induction deliveries generalizing tables with
  | nil => exact before instrumentId
  | cons delivery rest inductionHypothesis =>
    exact inductionHypothesis
      (kept_apply (fun _ _ derived => derived.traded) (fun _ _ => id) delivery before)

theorem executions_applyAll (tables : PortfolioTables) (deliveries : List Delivery) :
    (tables.applyAll deliveries).executions =
      acceptAll Execution.executionId tables.executions (deliveries.map Delivery.execution) := by
  induction deliveries generalizing tables with
  | nil => rfl
  | cons delivery rest inductionHypothesis =>
    rw [List.map_cons, acceptAll_cons, accept, ← executions_applyExecutionAtomic]
    exact inductionHypothesis _

/-- The distinct executions of an instrument among the deliveries. -/
def fillsOf (deliveries : List Delivery) (instrumentId : String) : List Execution :=
  executionsOn instrumentId
    (acceptAll Execution.executionId [] (deliveries.map Delivery.execution))

theorem executionsOn_applyAll (deliveries : List Delivery) (instrumentId : String) :
    executionsOn instrumentId (empty.applyAll deliveries).executions =
      fillsOf deliveries instrumentId := by
  rw [executions_applyAll]
  rfl

/-- A position that deliveries to an empty portfolio leave is derived from the fills of its
instrument. -/
theorem derived_applyAll {deliveries : List Delivery} {instrumentId : String} {position : Position}
    (found : (empty.applyAll deliveries).getPosition instrumentId = some position) :
    fillsOf deliveries instrumentId ≠ [] ∧
      Derived position (fillsOf deliveries instrumentId) := by
  have accounted := accounted_applyAll deliveries accounted_empty instrumentId
  unfold Accounted at accounted
  rw [found, executionsOn_applyAll] at accounted
  exact accounted

theorem fillsOf_eq_nil {deliveries : List Delivery} {instrumentId : String}
    (missing : (empty.applyAll deliveries).getPosition instrumentId = none) :
    fillsOf deliveries instrumentId = [] := by
  have accounted := accounted_applyAll deliveries accounted_empty instrumentId
  unfold Accounted at accounted
  rw [missing, executionsOn_applyAll] at accounted
  exact accounted

end PortfolioTables

open PortfolioTables

/-! ### Confluence -/

/-- What a position says about the fills of its instrument: its quantities and values, and its
average price and realized profit and loss, exact and as they are stored. -/
structure Figures where
  quantity : Int
  traded : Traded
  averagePrice : ℚ
  realizedPnl : ℚ
  storedAveragePrice : ℚ
  storedRealizedPnl : ℚ

def Position.figures (position : Position) : Figures where
  quantity := position.quantity
  traded := position.traded
  averagePrice := position.traded.averagePrice
  realizedPnl := position.traded.realizedPnl
  storedAveragePrice := position.averagePrice
  storedRealizedPnl := position.realizedPnl

/-- The figures derived from totals. -/
def Traded.figures (traded : Traded) : Figures where
  quantity := traded.netQuantity
  traded := traded
  averagePrice := traded.averagePrice
  realizedPnl := traded.realizedPnl
  storedAveragePrice := round2 traded.averagePrice
  storedRealizedPnl := round2 traded.realizedPnl

theorem PortfolioTables.Derived.figures {position : Position} {executions : List Execution}
    (derived : Derived position executions) :
    position.figures = (Traded.of executions).figures := by
  unfold Position.figures Traded.figures
  rw [derived.traded, derived.quantity, derived.averagePrice, derived.realizedPnl]

theorem figures_applyAll (deliveries : List Delivery) (instrumentId : String) :
    ((empty.applyAll deliveries).getPosition instrumentId).map Position.figures =
      if fillsOf deliveries instrumentId = [] then none
      else some (Traded.of (fillsOf deliveries instrumentId)).figures := by
  cases found : (empty.applyAll deliveries).getPosition instrumentId with
  | none =>
    rw [if_pos (fillsOf_eq_nil found)]
    rfl
  | some position =>
    obtain ⟨filled, derived⟩ := derived_applyAll found
    rw [if_neg filled, Option.map_some, derived.figures]

theorem fillsOf_perm {first second : List Delivery}
    (consistent : Consistent Execution.executionId (first.map Delivery.execution))
    (same : ∀ execution, execution ∈ first.map Delivery.execution ↔
      execution ∈ second.map Delivery.execution) (instrumentId : String) :
    (fillsOf first instrumentId).Perm (fillsOf second instrumentId) :=
  (acceptAll_perm consistent same).filter _

/-- The figures of a position depend only on the set of distinct executions delivered: any
order and any repetition of the deliveries gives the same quantities, values, average price
and realized profit and loss. -/
theorem applyExecutionAtomic_confluent (first second : List Delivery) (instrumentId : String)
    (consistent : Consistent Execution.executionId (first.map Delivery.execution))
    (same : ∀ execution, execution ∈ first.map Delivery.execution ↔
      execution ∈ second.map Delivery.execution) :
    ((empty.applyAll first).getPosition instrumentId).map Position.figures =
      ((empty.applyAll second).getPosition instrumentId).map Position.figures := by
  have perm := fillsOf_perm consistent same instrumentId
  rw [figures_applyAll, figures_applyAll, Traded.of_perm perm]
  by_cases none : fillsOf first instrumentId = []
  · have noneToo : fillsOf second instrumentId = [] := List.nil_perm.mp (none ▸ perm)
    rw [if_pos none, if_pos noneToo]
  · have someToo : fillsOf second instrumentId ≠ [] := fun nil =>
      none (List.perm_nil.mp (nil ▸ perm))
    rw [if_neg none, if_neg someToo]

namespace PortfolioTables

/-! ### Deliveries of one instrument -/

/-- A fill of a NIFTY call, delivered in PAPER mode. -/
def delivered (executionId : String) (side : OrderSide) (quantity : Int) (price mark : ℚ) :
    Delivery where
  execution :=
    { executionId := executionId
      orderId := "order-1"
      brokerExecutionId := none
      instrumentId := "INST-NIFTY-2026-01-29-25000-CE"
      symbol := "NIFTY"
      side := side
      quantity := quantity
      price := price }
  tradingMode := .paper
  currentPrice := mark

/-- A round trip of 75 in two sells. -/
def roundTrip : List Delivery :=
  [delivered "buy" .buy 75 100 100, delivered "first" .sell 25 110 110,
    delivered "second" .sell 50 90 90]

/-- The same fills in another order, one of them twice. -/
def shuffled : List Delivery :=
  [delivered "second" .sell 50 90 90, delivered "buy" .buy 75 100 95,
    delivered "first" .sell 25 110 110, delivered "second" .sell 50 90 80]

end PortfolioTables

/-- Two deliveries of one round trip lead to the same figures. -/
theorem applyExecutionAtomic_confluent_roundTrip :
    ((empty.applyAll roundTrip).getPosition "INST-NIFTY-2026-01-29-25000-CE").map
        Position.figures =
      ((empty.applyAll shuffled).getPosition "INST-NIFTY-2026-01-29-25000-CE").map
        Position.figures := by
  refine applyExecutionAtomic_confluent roundTrip shuffled _ ?_ fun execution => ?_
  · unfold Consistent
    decide +kernel
  · simp only [roundTrip, shuffled, List.map_cons, List.map_nil, List.mem_cons,
      List.not_mem_nil, delivered]
    tauto

/-! ### The accounting identity -/

namespace Traded

/-- No side was traded in a negative quantity, and none for value without quantity. -/
structure Sensible (traded : Traded) : Prop where
  bought : 0 ≤ traded.buyQuantity
  sold : 0 ≤ traded.sellQuantity
  buyValue : traded.buyQuantity = 0 → traded.buyValue = 0
  sellValue : traded.sellQuantity = 0 → traded.sellValue = 0

variable {executions : List Execution}

theorem value_eq_zero {side : Execution → Prop}
    [DecidablePred side] (positive : ∀ fill ∈ executions, 0 ≤ fill.quantity)
    (none : (executions.map fun fill => if side fill then fill.quantity else 0).sum = 0) :
    (executions.map fun fill => if side fill then fill.value else 0).sum = 0 := by
  induction executions with
  | nil => rfl
  | cons fill rest inductionHypothesis =>
    have rest_nonneg : 0 ≤ (rest.map fun fill => if side fill then fill.quantity else 0).sum := by
      refine List.sum_nonneg fun number member => ?_
      obtain ⟨other, inRest, rfl⟩ := List.mem_map.mp member
      have := positive other (List.mem_cons_of_mem _ inRest)
      split <;> omega
    have head_nonneg := positive fill List.mem_cons_self
    rw [List.map_cons, List.sum_cons] at none ⊢
    have rest_zero := inductionHypothesis
      (fun other inRest => positive other (List.mem_cons_of_mem _ inRest)) (by
        split at none <;> omega)
    rw [rest_zero, add_zero]
    split
    · rename_i traded
      rw [if_pos traded] at none
      have zero : fill.quantity = 0 := by omega
      rw [Execution.value, zero, Int.cast_zero, zero_mul]
    · rfl

theorem sum_nonneg {side : Execution → Prop} [DecidablePred side]
    (positive : ∀ fill ∈ executions, 0 ≤ fill.quantity) :
    0 ≤ (executions.map fun fill => if side fill then fill.quantity else 0).sum := by
  refine List.sum_nonneg fun number member => ?_
  obtain ⟨fill, inside, rfl⟩ := List.mem_map.mp member
  have := positive fill inside
  split <;> omega

theorem sensible_of
    (positive : ∀ fill ∈ executions, 0 ≤ fill.quantity) : (of executions).Sensible := by
  have flip : ∀ fill : Execution, ∀ number : ℚ, (if fill.side = .buy then 0 else number) =
      if ¬ fill.side = .buy then number else 0 := fun fill number => (ite_not _ _ _).symm
  have flipQuantity : ∀ fill : Execution, (if fill.side = .buy then 0 else fill.quantity) =
      if ¬ fill.side = .buy then fill.quantity else 0 := fun fill => (ite_not _ _ _).symm
  unfold of
  simp only [flip, flipQuantity]
  exact ⟨sum_nonneg positive, sum_nonneg positive, value_eq_zero positive, value_eq_zero positive⟩

variable {traded : Traded}

theorem Sensible.buyValue_eq (sensible : traded.Sensible) :
    traded.buyValue = traded.averagePrice * traded.buyQuantity := by
  unfold averagePrice
  split
  · rename_i positive
    have nonzero : (traded.buyQuantity : ℚ) ≠ 0 := by exact_mod_cast positive.ne'
    rw [div_mul_cancel₀ _ nonzero]
  · rename_i none
    have zero : traded.buyQuantity = 0 := le_antisymm (not_lt.mp none) sensible.bought
    rw [sensible.buyValue zero, zero_mul]

theorem Sensible.sellValue_eq (sensible : traded.Sensible) :
    traded.sellValue = traded.averageSell * traded.sellQuantity := by
  unfold averageSell
  split
  · rename_i positive
    have nonzero : (traded.sellQuantity : ℚ) ≠ 0 := by exact_mod_cast positive.ne'
    rw [div_mul_cancel₀ _ nonzero]
  · rename_i none
    have zero : traded.sellQuantity = 0 := le_antisymm (not_lt.mp none) sensible.sold
    rw [sensible.sellValue zero, zero_mul]

theorem unrealizedPnl_eq (traded : Traded) (mark : ℚ) :
    traded.unrealizedPnl mark = (mark - traded.averagePrice) * traded.netQuantity := by
  unfold unrealizedPnl
  split
  · rfl
  · rename_i flat
    rw [not_not.mp flat, Int.cast_zero, mul_zero]

theorem Sensible.realizedPnl_eq (sensible : traded.Sensible) :
    traded.realizedPnl = (traded.averageSell - traded.averagePrice) *
      (min traded.buyQuantity traded.sellQuantity : Int) := by
  unfold realizedPnl
  simp only
  split
  · rfl
  · rename_i open_
    have zero : min traded.buyQuantity traded.sellQuantity = 0 :=
      le_antisymm (not_lt.mp open_) (le_min sensible.bought sensible.sold)
    rw [zero, Int.cast_zero, mul_zero]

/-- Realized and unrealized profit and loss add up to the cash flow plus the value of the net
position exactly when the position is not short, or its average prices agree. -/
theorem Sensible.pnl_iff (sensible : traded.Sensible) (mark : ℚ) :
    traded.realizedPnl + traded.unrealizedPnl mark =
        traded.sellValue - traded.buyValue + traded.netQuantity * mark ↔
      traded.sellQuantity ≤ traded.buyQuantity ∨ traded.averageSell = traded.averagePrice := by
  have difference : traded.realizedPnl + traded.unrealizedPnl mark -
      (traded.sellValue - traded.buyValue + traded.netQuantity * mark) =
      (traded.averageSell - traded.averagePrice) *
        ((min traded.buyQuantity traded.sellQuantity : Int) - traded.sellQuantity) := by
    rw [sensible.realizedPnl_eq, unrealizedPnl_eq, sensible.buyValue_eq, sensible.sellValue_eq,
      netQuantity, Int.cast_sub]
    ring
  rw [← sub_eq_zero, difference, mul_eq_zero, sub_eq_zero, sub_eq_zero, Int.cast_inj,
    min_eq_right_iff, or_comm]

end Traded

/-- Selling 50 without having bought any, and marking at 90 what was sold at 100. -/
def PortfolioTables.shortSale : List Delivery := [delivered "short" .sell 50 100 90]

end BreezeTrading
