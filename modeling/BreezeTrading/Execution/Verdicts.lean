/-
This file proves which terminal verdicts of the broker the OMS absorbs. The handler of a report
moves the order to the reported state when the table of transitions has that edge, and raises
otherwise. Five pairs of a polled state and a verdict have none, so those orders are polled for
ever.
-/

import BreezeTrading.Execution.Fills
import BreezeTrading.Execution.Pass
import BreezeTrading.Oms.Record

namespace BreezeTrading

open Async ExecutionService

namespace Verdicts

/-! ### Verdicts -/

/-- The normalized broker statuses that end an order, with the states they name. -/
def terminalVerdicts : List (String × OrderState) :=
  [("FILLED", .filled), ("CANCELLED", .cancelled), ("REJECTED", .rejected),
    ("EXPIRED", .expired)]

/-- The pairs of a polled state and a terminal verdict that the table of transitions misses. -/
def missingEdges : List (OrderState × String) :=
  [(.submitting, "CANCELLED"), (.submitting, "EXPIRED"), (.submissionUnknown, "EXPIRED"),
    (.open, "REJECTED"), (.partiallyFilled, "REJECTED")]

/-- Consuming a report leaves its order in a terminal state. -/
def Absorbed (world : Pipeline) (report : BrokerOrderEvent) : Prop :=
  ∃ order, ((OmsService.handleBrokerOrderEvent report).eval Pipeline.sequential
      world).2.oms.getOrderByClientId report.clientOrderId = some order ∧
    OrderStateMachine.terminal order.status = true

theorem not_terminal_of_pending {state : OrderState} (pending : state ∈ pendingStates) :
    OrderStateMachine.terminal state = false := by
  revert pending
  cases state <;> decide

variable {verdict : String} {toState : OrderState}

theorem brokerState_verdict (ends : (verdict, toState) ∈ terminalVerdicts) (state : OrderState)
    (filledQuantity : Int) :
    OmsService.brokerState state (upper verdict) filledQuantity = toState := by
  simp only [terminalVerdicts, List.mem_cons, Prod.mk.injEq, List.not_mem_nil, or_false] at ends
  rcases ends with ⟨rfl, rfl⟩ | ⟨rfl, rfl⟩ | ⟨rfl, rfl⟩ | ⟨rfl, rfl⟩
  · rw [show upper "FILLED" = "FILLED" by decide +kernel]
    rfl
  · rw [show upper "CANCELLED" = "CANCELLED" by decide +kernel]
    rfl
  · rw [show upper "REJECTED" = "REJECTED" by decide +kernel]
    rfl
  · rw [show upper "EXPIRED" = "EXPIRED" by decide +kernel]
    rfl

theorem canTransition_verdict_iff {state : OrderState} (pending : state ∈ pendingStates)
    (ends : (verdict, toState) ∈ terminalVerdicts) :
    OrderStateMachine.canTransition state toState = true ↔ (state, verdict) ∉ missingEdges := by
  have table : ∀ state ∈ pendingStates, ∀ pair ∈ terminalVerdicts,
      OrderStateMachine.canTransition state pair.2 = true ↔ (state, pair.1) ∉ missingEdges := by
    decide +kernel
  exact table state pending (verdict, toState) ends

theorem terminal_verdict (ends : (verdict, toState) ∈ terminalVerdicts) :
    OrderStateMachine.terminal toState = true := by
  have table : ∀ pair ∈ terminalVerdicts, OrderStateMachine.terminal pair.2 = true := by decide
  exact table (verdict, toState) ends

/-- A report of a terminal verdict on a polled order is absorbed exactly when the table has the
edge. -/
theorem absorbed_iff {world : Pipeline} {report : BrokerOrderEvent} {order : BrokerOrder}
    (found : world.oms.getOrderByClientId report.clientOrderId = some order)
    (pending : order.status ∈ pendingStates) (ends : (report.status, toState) ∈ terminalVerdicts) :
    Absorbed world report ↔ (order.status, report.status) ∉ missingEdges := by
  have open_ := not_terminal_of_pending pending
  have moved : Record.stateAfter order report = toState :=
    brokerState_verdict ends order.status report.filledQuantity
  have different : toState ≠ order.status := by
    intro same
    rw [← same, terminal_verdict ends] at open_
    cases open_
  have edge : Record.written order report = OrderStateMachine.canTransition order.status toState :=
    by rw [Record.written, moved, if_neg different]
  have record := Record.record_brokerOrderEvent world report report.clientOrderId
  rw [found, Option.map_some] at record
  rw [← canTransition_verdict_iff pending ends, ← edge]
  unfold Absorbed
  rw [show ((OmsService.handleBrokerOrderEvent report).eval Pipeline.sequential world).2 =
    Record.Command.run world (.brokerOrderEvent report) from rfl, record]
  constructor
  · rintro ⟨after, same, terminal⟩
    by_contra unwritten
    rw [if_neg fun both => unwritten both.2] at same
    rw [← Option.some.inj same, open_] at terminal
    cases terminal
  · intro isWritten
    rw [if_pos ⟨rfl, isWritten⟩, moved]
    exact ⟨_, rfl, terminal_verdict ends⟩

/-! ### The report of a pass -/

theorem progressReport_status (order : BrokerOrder) (response : BrokerOrderResponse) :
    (progressReport order response).status = normalizeBrokerStatus response.status := by
  rw [progressReport]

section

variable (environment : Environment) (service : ExecutionService)

theorem eval_portfolioFilled (order : BrokerOrder) (world : Pipeline) :
    ∃ filled, (service.portfolioFilled order).eval environment.answer world =
      (.ok filled, world) := by
  unfold portfolioFilled
  split <;> exact ⟨_, rfl⟩

theorem eval_reconcileOrders_reports (orders : List BrokerOrder)
    {trades : Option (List BrokerTradeResponse)} (read : TradesRead environment trades)
    (world : Pipeline) :
    ∃ next added, (service.reconcileOrders orders trades).eval environment.answer world =
        (.ok (), next) ∧ Publishes world next added ∧
      ∀ order ∈ orders, order.status ≠ .filled → ∀ response,
        evidence environment order = some response →
        .brokerOrderEvent (progressReport order response) ∈ added := by
  induction orders generalizing trades world with
  | nil => exact ⟨world, [], rfl, Publishes.refl world, by simp⟩
  | cons order rest inductionHypothesis =>
    obtain ⟨filled, progress⟩ := eval_portfolioFilled environment service order world
    unfold reconcileOrders
    rw [Coroutine.eval_bind, progress]
    simp only
    split
    · rename_i whole
      obtain ⟨next, published, adds⟩ := eval_increment environment order order.filledQuantity
        filled (orNumber order.averagePrice order.price) world
      obtain ⟨last, added, evaluated, others, reports⟩ := inductionHypothesis read next
      rw [Coroutine.eval_bind]
      unfold publishMissing
      rw [published]
      refine ⟨last, _, evaluated, adds.trans others, fun other member pending response found => ?_⟩
      rcases List.mem_cons.mp member with rfl | inRest
      · exact absurd whole pending
      · exact List.mem_append_right _ (reports other inRest pending response found)
    · obtain ⟨known, next, published, readNow, adds⟩ :=
        eval_reconcilePending environment filled read world
      obtain ⟨last, added, evaluated, others, reports⟩ := inductionHypothesis readNow next
      rw [Coroutine.eval_bind, published]
      refine ⟨last, _, evaluated, adds.trans others, fun other member pending response found => ?_⟩
      rcases List.mem_cons.mp member with rfl | inRest
      · refine List.mem_append_left _ ?_
        rw [found]
        exact List.mem_cons_self
      · exact List.mem_append_right _ (reports other inRest pending response found)

/-- A round of the reconciliation loop publishes the report of every pending order it lists and
finds evidence for. -/
theorem mem_queue_reconciliationRound {world : Pipeline} {order : BrokerOrder}
    (member : order ∈ listed world) (pending : order.status ≠ .filled)
    {response : BrokerOrderResponse} (found : evidence environment order = some response) :
    .brokerOrderEvent (progressReport order response) ∈
      (service.reconciliationRound.eval environment.answer world).2.queue := by
  obtain ⟨next, added, evaluated, publishes, reports⟩ := eval_reconcileOrders_reports
    environment service (listed world) (by nofun : TradesRead environment none) world
  have pass : service.reconcileLiveOrders.eval environment.answer world = (.ok (), next) :=
    evaluated
  unfold reconciliationRound
  rw [Coroutine.eval_bind, Coroutine.eval_catching, pass]
  show _ ∈ next.queue
  rw [publishes.queue]
  exact List.mem_append_right _ (reports order member pending response found)

end

end Verdicts

open Verdicts in
/-- A pass reports the verdict of every pending order it lists, and when the report is consumed,
whichever polled state the order is in then, the order is terminal afterwards exactly when the
table of transitions has an edge for the verdict. -/
theorem reconcileLiveOrders_absorbs_iff (service : ExecutionService) (environment : Environment)
    (world : Pipeline) (order : BrokerOrder) (listedOrder : order ∈ listed world)
    (polled : order.status ∈ pendingStates) (response : BrokerOrderResponse)
    (found : evidence environment order = some response) (toState : OrderState)
    (ends : (normalizeBrokerStatus response.status, toState) ∈ terminalVerdicts) :
    .brokerOrderEvent (progressReport order response) ∈
        (service.reconciliationRound.eval environment.answer world).2.queue ∧
      ∀ (later : Pipeline) (current : BrokerOrder),
        later.oms.getOrderByClientId order.clientOrderId = some current →
        current.status ∈ pendingStates →
        (Absorbed later (progressReport order response) ↔
          (current.status, normalizeBrokerStatus response.status) ∉ missingEdges) := by
  have pending : order.status ≠ .filled := by
    intro whole
    rw [whole] at polled
    exact absurd polled (by decide)
  refine ⟨mem_queue_reconciliationRound environment service listedOrder pending found, ?_⟩
  intro later current known currentPolled
  rw [← progressReport_status order response] at ends ⊢
  exact absorbed_iff known currentPolled ends

namespace Verdicts

/-! ### A rejection after the acknowledgement -/

/-- The broker reports a status and no fill. -/
def reporting (status : String) : Environment where
  orderStatus _ := .ok (some (Fills.answered status 0))
  recovery _ := .ok none
  trades := .ok []
  quote _ := none

open Fills in
theorem exists_open_order : ∃ (config : Config PipelineOp PipelineReply Raised Pipeline)
    (order : BrokerOrder), (Pipeline.system liveService).Reaches Condition.unrestricted
      (Pipeline.idle .initial) config ∧
    order ∈ listed config.world ∧ order.status = .open ∧
    order.brokerOrderId = some "broker-1" := by
  have placed : ((Pipeline.system liveService).run Condition.unrestricted
      (Pipeline.idle .initial) placedOrder).map (fun config =>
        (listed config.world).map fun order => (order.status, order.brokerOrderId)) =
      some [(.open, some "broker-1")] := by decide +kernel
  obtain ⟨config, reaches, orders⟩ := System.reaches_of_map placed
  obtain ⟨order, rest, list, same, -⟩ := List.map_eq_cons_iff.mp orders
  obtain ⟨status, brokerId⟩ := Prod.mk.inj same
  have member : order ∈ listed config.world := by
    rw [list]
    exact List.mem_cons_self
  exact ⟨config, order, reaches, member, status,
    brokerId⟩

variable {order : BrokerOrder}

theorem evidence_reporting (status : String) (brokerId : order.brokerOrderId = some "broker-1") :
    evidence (reporting status) order = some (Fills.answered status 0) := by
  unfold evidence
  rw [brokerId]
  rfl

theorem known_of_listed {world : Pipeline} (member : order ∈ listed world) :
    world.oms.getOrderByClientId order.clientOrderId = some order :=
  OrderTable.getOrderByClientId_of_mem
    (OrderTable.mem_of_mem_listOrders (List.mem_of_mem_filter member))

theorem open_polled (status : order.status = .open) : order.status ∈ pendingStates := by
  rw [status]
  decide

end Verdicts

open Verdicts Fills in
/-- An order that was acknowledged OPEN and is then reported REJECTED stays OPEN. -/
theorem reconcileLiveOrders_loses_rejection :
    ¬ ∀ (service : ExecutionService) (config : Config PipelineOp PipelineReply Raised Pipeline),
      (Pipeline.system service).Reaches Condition.unrestricted (Pipeline.idle .initial) config →
      ∀ (environment : Environment) (order : BrokerOrder), order ∈ listed config.world →
      order.status ∈ pendingStates → ∀ (response : BrokerOrderResponse) (toState : OrderState),
      evidence environment order = some response →
      (normalizeBrokerStatus response.status, toState) ∈ terminalVerdicts →
      Absorbed config.world (progressReport order response) := by
  intro absorbs
  obtain ⟨config, order, reaches, member, status, brokerId⟩ := exists_open_order
  have verdict : normalizeBrokerStatus (answered "REJECTED" 0).status = "REJECTED" := by
    decide +kernel
  have ends : (normalizeBrokerStatus (answered "REJECTED" 0).status, OrderState.rejected) ∈
      terminalVerdicts := by
    rw [verdict]
    decide
  have absorbed := absorbs liveService config reaches (reporting "REJECTED") order member
    (open_polled status) _ _ (evidence_reporting "REJECTED" brokerId) ends
  rw [← progressReport_status order] at ends
  refine (absorbed_iff (known_of_listed member) (open_polled status) ends).mp absorbed ?_
  rw [status, progressReport_status, verdict]
  decide

open Verdicts Fills in
/-- The cancellation of an OPEN order is absorbed. -/
theorem reconcileLiveOrders_absorbs_cancellation :
    ∃ (config : Config PipelineOp PipelineReply Raised Pipeline) (order : BrokerOrder),
      order ∈ listed config.world ∧ order.status = .open ∧
      Absorbed config.world (progressReport order (answered "CANCELLED" 0)) := by
  obtain ⟨config, order, -, member, status, brokerId⟩ := exists_open_order
  have verdict : normalizeBrokerStatus (answered "CANCELLED" 0).status = "CANCELLED" := by
    decide +kernel
  have ends : (normalizeBrokerStatus (answered "CANCELLED" 0).status, OrderState.cancelled) ∈
      terminalVerdicts := by
    rw [verdict]
    decide
  obtain ⟨-, consumed⟩ := reconcileLiveOrders_absorbs_iff liveService (reporting "CANCELLED")
    config.world order member (open_polled status) _ (evidence_reporting "CANCELLED" brokerId)
    .cancelled ends
  refine ⟨config, order, member, status,
    (consumed config.world order (known_of_listed member) (open_polled status)).mpr ?_⟩
  rw [status, verdict]
  decide

end BreezeTrading
