/-
This file bounds what the parts of the execution service await: the checks before a submission
only ask, and the reconciliation of orders polls the broker and publishes reports of these orders.
The recovery and the command handler keep what an execution keeps.
-/

import BreezeTrading.Execution.Service
import BreezeTrading.Lib.Ownership

namespace BreezeTrading

open Async

namespace ExecutionService

/-- The questions about the session, the feed and the live gate. -/
def Asked : PipelineOp → Prop
  | .getSessionStatus | .getExecutionFeedHealth | .validateLiveOrder => True
  | _ => False

/-- The questions to the broker, and reports about these orders. -/
def Polled (clients : String → Prop) : PipelineOp → Prop
  | .getOrderStatus _ | .findOrderByClientId _ | .getTrades => True
  | .publish (.brokerOrderEvent payload) => clients payload.clientOrderId
  | .publish (.brokerTradeEvent _) => True
  | _ => False

variable {service : ExecutionService} {clients : String → Prop}

theorem asks_healthReason : service.healthReason.Within Asked := by
  unfold healthReason
  split
  · refine (Coroutine.within_perform trivial).bind fun session => ?_
    split
    · split
      · refine (Coroutine.within_perform trivial).bind fun health => ?_
        split <;> trivial
      · trivial
    · trivial
  · trivial

variable (order : BrokerOrder)

theorem asks_boundaryMessage : (service.boundaryMessage order).Within Asked := by
  unfold boundaryMessage
  split
  · refine asks_healthReason.bind fun health => ?_
    cases health with
    | some reason => trivial
    | none =>
      refine (Coroutine.within_perform trivial).bind ?_
      rintro  ⟨authorized, reason⟩
      simp only
      split <;> trivial
  · trivial

theorem polls_publishTradeFill (quantity filled : Int) (price : ℚ) :
    (publishTradeFill order quantity filled price).Within (Polled clients) :=
  Coroutine.within_perform trivial

theorem polls_publishMissing (filled : Int) :
    (publishMissing order filled).Within (Polled clients) := by
  unfold publishMissing
  simp only
  split
  · exact polls_publishTradeFill order _ _ _
  · exact True.intro

theorem polls_brokerEvidence (trades : Option (List BrokerTradeResponse)) :
    (brokerEvidence order trades).Within (Polled clients) := by
  have awaiting : (brokerEvidence.awaiting order trades).Within (Polled clients) := by
    unfold brokerEvidence.awaiting
    split
    · refine (Coroutine.within_perform trivial).bind fun response => ?_
      cases response with
      | some response => trivial
      | none =>
        cases trades with
        | some trades => trivial
        | none => exact (Coroutine.within_perform trivial).bind fun _ => trivial
    · trivial
  unfold brokerEvidence
  split
  · split
    · exact awaiting
    · exact (Coroutine.within_perform trivial).bind fun _ => trivial
  · exact awaiting

theorem polls_reconcilePending {order : BrokerOrder} (named : clients order.clientOrderId)
    (filled : Int) (trades : Option (List BrokerTradeResponse)) :
    (reconcilePending order filled trades).Within (Polled clients) := by
  have progress (response : BrokerOrderResponse) :
      (publishProgress order filled response).Within (Polled clients) := by
    refine (Coroutine.within_perform (by exact named)).bind fun _ => ?_
    split
    · exact polls_publishTradeFill order _ _ _
    · exact True.intro
  refine Coroutine.Within.catching ?_ fun _ => True.intro
  refine (polls_brokerEvidence order trades).bind ?_
  rintro  ⟨response, trades⟩
  cases response with
  | none => exact True.intro
  | some response =>
    refine Coroutine.Within.catching ?_ fun _ => True.intro
    exact (progress response).bind fun _ => True.intro

section Rules

variable {World Credit Answer Start Disturbance : Type} [AddCommMonoid Credit]
  {system : System PipelineOp PipelineReply Raised World Answer Start Disturbance}
  {condition : Condition PipelineOp World Answer Start Disturbance}
  {discipline : Discipline World Credit} {kept : Credit → World → Prop} {credit : Credit}
  {seen : World}

theorem owns_recoverApprovedOrders
    (lists : Answers system condition discipline (.listOrders 500) credit seen
      fun _ left next => kept left next)
    (executes : ∀ orderId client credit seen, kept credit seen →
      Owns system condition discipline (service.executeOrder orderId client) credit seen
        fun _ left next => kept left next) :
    Owns system condition discipline service.recoverApprovedOrders credit seen
      fun _ left next => kept left next := by
  have recovers (orders : List BrokerOrder) : ∀ credit seen, kept credit seen →
      Owns system condition discipline (service.recoverOrders orders) credit seen
        fun _ left next => kept left next := by
    induction orders with
    | nil => exact fun credit seen keeps => keeps
    | cons order rest inductionHypothesis =>
      intro credit seen keeps
      unfold recoverOrders
      split
      · exact inductionHypothesis credit seen keeps
      · refine Owns.call (executes _ _ credit seen keeps) fun result left next _ keeps => ?_
        cases result with
        | error error => exact keeps
        | ok _ => exact inductionHypothesis left next keeps
  refine Owns.await lists fun reply left next _ keeps => ?_
  cases reply with
  | error error => exact keeps
  | ok orders => exact recovers orders left next keeps

theorem owns_handleExecutionCommand {payload : ExecutionCommand}
    (remembers : Answers system condition discipline (.addProcessedExecution payload.clientOrderId)
      credit seen fun _ left next => kept left next)
    (executes : ∀ credit seen, kept credit seen → Owns system condition discipline
      (service.executeOrder payload.orderId payload.clientOrderId) credit seen
        fun _ left next => kept left next) :
    Owns system condition discipline (service.handleExecutionCommand payload) credit seen
      fun _ left next => kept left next := by
  refine Owns.await remembers fun reply left next _ keeps => ?_
  match reply with
  | .error error => exact keeps
  | .ok true => exact keeps
  | .ok false => exact executes left next keeps

end Rules

end ExecutionService

end BreezeTrading
