/-
This file proves which orders the lookups with a row limit reach. A risk decision
finds its order only among the 50 orders created last, the recovery at start and
a reconciliation pass see the 500 created last. The results hold for every table
and say exactly which orders are left out.
-/

import BreezeTrading.Execution.Fills
import BreezeTrading.Execution.Pass
import BreezeTrading.Oms.Record

namespace BreezeTrading

open Async ExecutionService

namespace Listing

/-! ### Risk decisions -/

/-- The state a decision moves its order to. -/
def decidedState (payload : RiskDecision) : OrderState :=
  if payload.approved then .approved else .riskRejected

/-- Handling a decision leaves its order in the state decided. -/
def Decided (world : Pipeline) (payload : RiskDecision) (order : BrokerOrder) : Prop :=
  (((OmsService.handleRiskDecisionEvent payload).eval Pipeline.sequential
    world).2.oms.getOrderById order.orderId).map BrokerOrder.status =
      some (decidedState payload)

variable {world : Pipeline} {order : BrokerOrder}

theorem status_savedOrder {row : BrokerOrder} (toState : OrderState)
    (member : order ∈ world.oms.rows) (same : order.orderId = row.orderId) :
    ((world.savedOrder row toState).2.oms.getOrderById order.orderId).map BrokerOrder.status =
      some toState := by
  obtain ⟨table, stored⟩ := OrderTable.saveBrokerOrderWithTransition_of_mem toState member same
  have saved : world.savedOrder row toState = (.ok (), { world with oms := table }) := by
    unfold Pipeline.savedOrder
    rw [stored]
  have inside : world.oms.written row toState ∈ table.rows :=
    (OrderTable.mem_saveBrokerOrderWithTransition stored _).mpr (Or.inl rfl)
  have found := OrderTable.getOrderById_of_mem inside
  rw [OrderTable.written_orderId, ← same] at found
  rw [saved]
  rw [found, Option.map_some, OrderTable.written_status]

theorem filter_intent {intentId : String}
    (alone : ∀ row ∈ world.oms.rows, row.intentId = intentId → row = order) (limit : Nat) :
    (world.oms.listOrders limit).filter (fun row => decide (row.intentId = intentId)) = [] ∨
      ∃ rest, order ∈ world.oms.listOrders limit ∧
        (world.oms.listOrders limit).filter (fun row => decide (row.intentId = intentId)) =
          order :: rest := by
  cases matching : (world.oms.listOrders limit).filter
      fun row => decide (row.intentId = intentId) with
  | nil => exact Or.inl rfl
  | cons head rest =>
    have inside : head ∈ (world.oms.listOrders limit).filter
        fun row => decide (row.intentId = intentId) := by
      rw [matching]
      exact List.mem_cons_self
    obtain ⟨listed, named⟩ := List.mem_filter.mp inside
    obtain rfl := alone head (OrderTable.mem_of_mem_listOrders listed) (of_decide_eq_true named)
    exact Or.inr ⟨rest, listed, rfl⟩

theorem decided_iff {payload : RiskDecision} (member : order ∈ world.oms.rows)
    (named : order.intentId = payload.intentId) (validating : order.status = .validating)
    (alone : ∀ row ∈ world.oms.rows, row.intentId = payload.intentId → row = order) :
    Decided world payload order ↔ order ∈ world.oms.listOrders 50 := by
  have read : Pipeline.sequential world (.listOrders 50) =
      (.ok (world.oms.listOrders 50), world) := rfl
  unfold Decided OmsService.handleRiskDecisionEvent
  rw [Coroutine.eval_perform_bind, read]
  simp only
  rcases filter_intent alone 50 with none | ⟨rest, listed, first⟩
  · rw [none]
    simp only [Coroutine.pure_eq_done, Coroutine.eval_done]
    rw [OrderTable.getOrderById_of_mem member, Option.map_some, validating]
    refine ⟨fun same => ?_, fun listed => ?_⟩
    · have moved : OrderState.validating = decidedState payload := Option.some.inj same
      unfold decidedState at moved
      split at moved <;> cases moved
    · have inside : order ∈ (world.oms.listOrders 50).filter
          fun row => decide (row.intentId = payload.intentId) :=
        List.mem_filter.mpr ⟨listed, decide_eq_true named⟩
      rw [none] at inside
      cases inside
  · rw [first]
    refine iff_of_true ?_ listed
    simp only
    rw [if_neg (not_not.mpr validating), validating]
    have accepted : OrderStateMachine.validateTransition .validating (decidedState payload)
        (payload.reason.getD "") = .ok () := by
      unfold decidedState
      split <;> rfl
    change ((Coroutine.eval Pipeline.sequential (raising (OrderStateMachine.validateTransition
      .validating (decidedState payload) (payload.reason.getD "")) >>= _) world).2.oms.getOrderById
        order.orderId).map BrokerOrder.status = _
    rw [accepted, Coroutine.eval_ofExcept_bind]
    rw [Record.oms_save_bind _ fun after => by split <;> rfl]
    exact status_savedOrder _ member rfl

/-! ### Recovery -/

/-- The pipeline under an environment that decides every answer beforehand. -/
def under (choose : PipelineOp → PipelineAnswer) (world : Pipeline) (op : PipelineOp) :
    Except Raised (PipelineReply op) × Pipeline :=
  (world.answer op (choose op)).getD (.error ⟨"not answered"⟩, world)

/-- What the execution of an order reads by `getOrder` is that order. -/
def ReadsOnly (orderId : String) : PipelineOp → Prop
  | .getOrder other => other = orderId
  | _ => True

section

variable {service : ExecutionService}

theorem within_markOrderSubmitting (other orderId : String) :
    (OmsService.markOrderSubmitting other).Within (ReadsOnly orderId) := by
  refine (Coroutine.within_perform trivial).bind fun found => ?_
  cases found with
  | none => trivial
  | some order =>
    simp only
    split
    · trivial
    · split
      · trivial
      · refine (Coroutine.within_ofExcept _).bind fun _ => ?_
        exact (Coroutine.within_perform trivial).bind fun _ => trivial

theorem within_submitReserved (order : BrokerOrder) (orderId : String) :
    (submitReserved service order).Within (ReadsOnly orderId) := by
  unfold submitReserved
  split
  · exact Coroutine.within_perform trivial
  · refine Coroutine.Within.catching ?_ fun _ => Coroutine.within_perform trivial
    refine (Coroutine.within_perform trivial).bind fun response => ?_
    refine (Coroutine.within_perform trivial).bind fun _ => ?_
    generalize normalizeBrokerStatus response.status = status
    split
    · exact Coroutine.within_perform trivial
    · exact True.intro

theorem within_executeOrder (orderId clientOrderId : String) :
    (service.executeOrder orderId clientOrderId).Within (ReadsOnly orderId) := by
  refine (Coroutine.within_perform
    (show ReadsOnly orderId (.getOrder orderId) from rfl)).bind fun found => ?_
  cases found with
  | none => trivial
  | some order =>
    simp only
    split
    · trivial
    · refine ((asks_boundaryMessage order).mono fun op asked => by
        cases op <;> first | exact asked.elim | exact True.intro).bind fun blocked => ?_
      cases blocked with
      | some message => exact Coroutine.within_perform trivial
      | none =>
        refine (within_markOrderSubmitting orderId orderId).bind fun reserved => ?_
        cases reserved with
        | none => trivial
        | some order =>
          simp only
          split
          · trivial
          · exact within_submitReserved order orderId

variable (choose : PipelineOp → PipelineAnswer)

theorem mem_trace_executeOrder (orderId clientOrderId : String) (world : Pipeline) :
    .getOrder orderId ∈ (service.executeOrder orderId clientOrderId).trace (under choose)
      world := by
  unfold executeOrder
  rw [Coroutine.trace_perform_bind]
  exact List.mem_cons_self

/-- The recovery executes an order exactly when it reaches it APPROVED in its listing, and no
execution before it raised. -/
theorem mem_trace_recoverOrders_iff (orders : List BrokerOrder) (orderId : String)
    (world : Pipeline) :
    .getOrder orderId ∈ (service.recoverOrders orders).trace (under choose) world ↔
      ∃ before order after, orders = before ++ order :: after ∧ order.status = .approved ∧
        order.orderId = orderId ∧
        ((service.recoverOrders before).eval (under choose) world).1 = .ok () := by
  induction orders generalizing world with
  | nil => simp [recoverOrders, Coroutine.trace]
  | cons head rest inductionHypothesis =>
    by_cases approved : head.status = .approved
    · have unfolded : ∀ others, service.recoverOrders (head :: others) =
          service.executeOrder head.orderId head.clientOrderId >>= fun _ =>
            service.recoverOrders others := fun others => if_neg (not_not.mpr approved)
      rw [unfolded, Coroutine.trace_bind, List.mem_append]
      constructor
      · rintro (now | later)
        · have named : orderId = head.orderId :=
            (within_executeOrder head.orderId head.clientOrderId).of_mem_trace now
          exact ⟨[], head, rest, rfl, approved, named.symm, rfl⟩
        · cases executed : (service.executeOrder head.orderId head.clientOrderId).eval
              (under choose) world with
          | mk result next =>
            rw [executed] at later
            cases result with
            | error error => cases later
            | ok _ =>
              obtain ⟨before, order, after, split, status, named, quiet⟩ :=
                (inductionHypothesis next).mp later
              refine ⟨head :: before, order, after, by rw [split]; rfl, status, named, ?_⟩
              rw [unfolded, Coroutine.eval_bind, executed]
              exact quiet
      · rintro ⟨before, order, after, split, status, rfl, quiet⟩
        cases before with
        | nil =>
          obtain ⟨rfl, -⟩ := List.cons.inj split
          exact Or.inl (mem_trace_executeOrder choose _ _ world)
        | cons first others =>
          obtain ⟨rfl, remaining⟩ := List.cons.inj split
          rw [unfolded, Coroutine.eval_bind] at quiet
          refine Or.inr ?_
          cases executed : (service.executeOrder head.orderId head.clientOrderId).eval
              (under choose) world with
          | mk result next =>
            rw [executed] at quiet
            cases result with
            | error error => cases quiet
            | ok _ =>
              exact (inductionHypothesis next).mpr
                ⟨others, order, after, remaining, status, rfl, quiet⟩
    · have skipped : ∀ others, service.recoverOrders (head :: others) =
          service.recoverOrders others := fun others => if_pos approved
      rw [skipped, inductionHypothesis]
      constructor
      · rintro ⟨before, order, after, split, status, named, quiet⟩
        exact ⟨head :: before, order, after, by rw [split]; rfl, status, named,
          by rwa [skipped]⟩
      · rintro ⟨before, order, after, split, status, named, quiet⟩
        cases before with
        | nil =>
          obtain ⟨rfl, -⟩ := List.cons.inj split
          exact absurd status approved
        | cons first others =>
          obtain ⟨rfl, remaining⟩ := List.cons.inj split
          exact ⟨others, order, after, remaining, status, named, by rwa [skipped] at quiet⟩

/-! ### Reconciliation -/

/-- The fill progress of an order is not read. -/
def Unread : PipelineOp → Prop
  | .getExecutedQuantityForOrder _ => False
  | _ => True

theorem unread_of_polled (op : PipelineOp) (polled : Polled (fun _ => True) op) : Unread op := by
  cases op <;> first | exact polled.elim | exact True.intro

/-- The orders of a pass are examined one by one: nothing that happens with one keeps the pass
from the next. -/
theorem mem_trace_reconcileOrders_iff {environment : Environment}
    (present : service.portfolioService = true) (orders : List BrokerOrder)
    {trades : Option (List BrokerTradeResponse)} (read : TradesRead environment trades)
    (orderId : String) (world : Pipeline) :
    .getExecutedQuantityForOrder orderId ∈
        (service.reconcileOrders orders trades).trace environment.answer world ↔
      ∃ order ∈ orders, order.orderId = orderId := by
  induction orders generalizing trades world with
  | nil => simp [reconcileOrders, Coroutine.trace]
  | cons order rest inductionHypothesis =>
    have progress : service.portfolioFilled order =
        perform (.getExecutedQuantityForOrder order.orderId) := if_pos present
    have examined : ∀ {tail : List PipelineOp},
        (.getExecutedQuantityForOrder orderId ∈ tail ↔
          ∃ order ∈ rest, order.orderId = orderId) →
        (.getExecutedQuantityForOrder orderId ∈ .getExecutedQuantityForOrder order.orderId :: tail ↔
          ∃ other ∈ order :: rest, other.orderId = orderId) := by
      intro tail others
      rw [List.mem_cons, others, PipelineOp.getExecutedQuantityForOrder.injEq,
        eq_comm (a := orderId)]
      simp only [List.mem_cons, exists_eq_or_imp]
    have answered : environment.answer world (.getExecutedQuantityForOrder order.orderId) =
        (.ok (world.portfolio.getExecutedQuantityForOrder order.orderId), world) := rfl
    unfold reconcileOrders
    rw [progress, Coroutine.trace_perform_bind, answered]
    refine examined ?_
    simp only
    split
    · obtain ⟨next, published, -⟩ := eval_increment environment order order.filledQuantity
        (world.portfolio.getExecutedQuantityForOrder order.orderId)
        (orNumber order.averagePrice order.price) world
      have missing : (publishMissing order
          (world.portfolio.getExecutedQuantityForOrder order.orderId)).eval environment.answer
          world = (.ok (), next) := published
      rw [Coroutine.trace_bind, missing, List.mem_append, inductionHypothesis read]
      exact or_iff_right fun now =>
        ((polls_publishMissing order _).mono unread_of_polled).of_mem_trace now
    · obtain ⟨known, next, published, readNow, -⟩ := eval_reconcilePending environment
        (world.portfolio.getExecutedQuantityForOrder order.orderId) read world
      rw [Coroutine.trace_bind, published, List.mem_append, inductionHypothesis readNow]
      exact or_iff_right fun now =>
        ((polls_reconcilePending True.intro _ trades).mono unread_of_polled).of_mem_trace now

/-- A pass examines a LIVE order that is not terminal exactly when it is in a polled state and
one of the 500 created last. -/
theorem examined_iff (environment : Environment) (present : service.portfolioService = true)
    (member : order ∈ world.oms.rows)
    (live : order.tradingMode = .live)
    (unfinished : OrderStateMachine.terminal order.status = false) :
    .getExecutedQuantityForOrder order.orderId ∈
        service.reconcileLiveOrders.trace environment.answer world ↔
      order.status ∈ pendingStates ∧ order ∈ world.oms.listOrders 500 := by
  have answered : environment.answer world (.listOrders 500) =
      (.ok (world.oms.listOrders 500), world) := rfl
  have read : TradesRead environment none := by nofun
  unfold reconcileLiveOrders
  rw [Coroutine.trace_perform_bind, answered, List.mem_cons]
  simp only [reduceCtorEq, false_or]
  rw [mem_trace_reconcileOrders_iff present _ read]
  constructor
  · rintro ⟨other, inside, named⟩
    obtain ⟨listed, polled⟩ := List.mem_filter.mp inside
    obtain rfl := OrderTable.eq_of_orderId (OrderTable.mem_of_mem_listOrders listed) member named
    obtain ⟨-, pending | filled⟩ := of_decide_eq_true polled
    · exact ⟨pending, listed⟩
    · rw [filled] at unfinished
      cases unfinished
  · rintro ⟨pending, listed⟩
    have polled : reconcilable order = true := decide_eq_true ⟨live, Or.inl pending⟩
    exact ⟨order, List.mem_filter.mpr ⟨listed, polled⟩, rfl⟩

/-- The recovery executes an APPROVED order exactly when it is one of the 500 created last, and
no execution of an order created later raised. -/
theorem recovered_iff (reads : choose (.listOrders 500) = .ok)
    (member : order ∈ world.oms.rows) (approved : order.status = .approved) :
    .getOrder order.orderId ∈ service.recoverApprovedOrders.trace (under choose) world ↔
      ∃ before after, world.oms.listOrders 500 = before ++ order :: after ∧
        ((service.recoverOrders before).eval (under choose) world).1 = .ok () := by
  have answered : under choose world (.listOrders 500) =
      (.ok (world.oms.listOrders 500), world) := by
    unfold under
    rw [reads]
    rfl
  unfold recoverApprovedOrders
  rw [Coroutine.trace_perform_bind, answered, List.mem_cons]
  simp only [reduceCtorEq, false_or]
  rw [mem_trace_recoverOrders_iff]
  constructor
  · rintro ⟨before, other, after, split, -, named, quiet⟩
    have listed : other ∈ world.oms.listOrders 500 := by
      rw [split]
      exact List.mem_append_right _ List.mem_cons_self
    obtain rfl := OrderTable.eq_of_orderId (OrderTable.mem_of_mem_listOrders listed) member named
    exact ⟨before, after, split, quiet⟩
  · rintro ⟨before, after, split, quiet⟩
    exact ⟨before, order, after, split, approved, rfl, quiet⟩

end

end Listing

namespace Listing

/-! ### A table of 51 orders -/

/-- An order of its own intent, created at a point in time. -/
def nthOrder (status : OrderState) (n : Nat) : BrokerOrder :=
  { OmsService.newOrder
      { Fills.entryIntent with intentId := "intent-" ++ toString n }
      ("order-" ++ toString n) ("CL-" ++ toString n) n with status := status }

/-- The first order waits for its decision, and fifty more have been created since. -/
def crowdedTable : OrderTable where
  rows := (List.range 51).map (nthOrder .validating)
  byOrderId := by decide +kernel
  byClientOrderId := by decide +kernel

def crowded : Pipeline := { Pipeline.initial with oms := crowdedTable }

end Listing

end BreezeTrading
