/-
This file defines the cancellation of an order over the order pipeline, and proves when a
cancelled order is not submitted afterwards. An order without a broker order id is answered with
success and nothing is recorded. The broker is called no more if no reservation was open at the
answer and none is made later; the invariant is that the tasks hold no open reservation of an
answered order.
-/

import BreezeTrading.Execution.Submission
import BreezeTrading.Platform.Steps

namespace BreezeTrading

open Async

/-! ### The world -/

/-- A cancellation that was answered with success without the broker, and how often the broker
had been called for the order by then. -/
structure AnsweredCancel where
  clientOrderId : String
  placements : Nat
  deriving DecidableEq, Repr

/-- The pipeline with the cancellations. `reservations` counts by client order id the
reservations whose call of the broker is still to come. -/
structure CancelWorld where
  pipeline : Pipeline
  reservations : String → Nat
  answered : List AnsweredCancel

/-- What a cancellation is answered. -/
inductive CancelBody where
  | message (text : String)
  | broker (response : BrokerOrderResponse)

/-- The operations of the pipeline, the cancellation at the broker, and the answer of a request. -/
inductive CancelOp where
  | pipeline (op : PipelineOp)
  | cancelAtBroker (brokerOrderId : String) (mode : TradingMode)
  | respond (clientOrderId : String) (body : CancelBody)

@[reducible] def CancelReply : CancelOp → Type
  | .pipeline op => PipelineReply op
  | .cancelAtBroker _ _ => BrokerOrderResponse
  | .respond _ _ => Unit

abbrev CancelTask (Result : Type) := Coroutine CancelOp CancelReply Raised Result

/-- The tasks that may start: those of the pipeline, and a cancellation. -/
inductive CancelStart where
  | pipeline (kind : PipelineStart)
  | cancel (orderId : String)

namespace OrderCancel

/-- A coroutine of the order pipeline, beside cancellations. -/
def onOrders {Result : Type} (task : Task Result) : CancelTask Result :=
  task.embed CancelOp.pipeline (fun _ reply => reply) id id

/-- Await one operation. -/
abbrev act (op : CancelOp) : CancelTask (CancelReply op) := Coroutine.perform op

/-! ### The command -/

/-- Cancel an order: at the broker once it has a broker order id. A retry under the same
idempotency key repeats the answer that was logged. -/
def cancelOrder (orderId : String) : CancelTask Unit := do
  let found ← onOrders (perform (.getOrder orderId))
  match found with
  | none => .raised ⟨"Order not found"⟩
  | some order =>
    match orText order.brokerOrderId none with
    | some brokerOrderId => do
      let response ← act (.cancelAtBroker brokerOrderId order.tradingMode)
      act (.respond order.clientOrderId (.broker response))
    | none => act (.respond order.clientOrderId (.message "Order cancel initiated"))

/-! ### The system -/

/-- The client order id of the request an order is submitted with. -/
def submittable (service : ExecutionService) (order : BrokerOrder) : Option String :=
  (service.buildBrokerRequest order).map BrokerOrderRequest.clientOrderId

/-- The order that a statement of `mark_order_submitting` reserves: it reads the order in
SUBMITTING, or moves it there from APPROVED. -/
def reserved (service : ExecutionService) :
    (op : PipelineOp) → Except Raised (PipelineReply op) → Option String
  | .getOrderById _, .ok (some order) =>
      if order.status = .submitting then submittable service order else none
  | .saveBrokerOrderWithTransition order (some .approved) .submitting _, .ok _ =>
      submittable service order
  | _, _ => none

/-- The order that the broker is called for. -/
def called : PipelineOp → Option String
  | .placeOrder request _ => some request.clientOrderId
  | _ => none

/-- A statement of the pipeline moves the open reservations. -/
def after (service : ExecutionService) (world : CancelWorld) (op : PipelineOp)
    (reply : Except Raised (PipelineReply op)) (next : Pipeline) : CancelWorld :=
  { world with
    pipeline := next
    reservations := fun client =>
      world.reservations client + (if reserved service op reply = some client then 1 else 0) -
        if called op = some client then 1 else 0 }

/-- A cancellation is answered without the broker. -/
def logged (world : CancelWorld) (clientOrderId : String) : CancelBody → CancelWorld
  | .message _ =>
      { world with
        answered := world.answered ++ [⟨clientOrderId, world.pipeline.placements clientOrderId⟩] }
  | .broker _ => world

def answerPipeline (service : ExecutionService) (world : CancelWorld) (op : PipelineOp)
    (choice : PipelineAnswer) : Option (Except Raised (PipelineReply op) × CancelWorld) :=
  (world.pipeline.answer op choice).map fun (reply, next) =>
    (reply, after service world op reply next)

def answer (service : ExecutionService) (world : CancelWorld) (op : CancelOp)
    (choice : PipelineAnswer) : Option (Except Raised (CancelReply op) × CancelWorld) :=
  match op with
  | .pipeline op => answerPipeline service world op choice
  | .cancelAtBroker _ _ =>
      match choice with
      | .response response => some (.ok response, world)
      | .raises text => some (.error ⟨text⟩, world)
      | _ => none
  | .respond clientOrderId body =>
      match choice with
      | .ok => some (.ok (), logged world clientOrderId body)
      | _ => none

def start (service : ExecutionService) (world : CancelWorld) :
    CancelStart → Option (CancelTask Unit × CancelWorld)
  | .pipeline kind =>
      (Pipeline.start service world.pipeline kind).map fun (task, next) =>
        (onOrders task, { world with pipeline := next })
  | .cancel orderId => some (cancelOrder orderId, world)

/-- A restart loses the tasks and with them their reservations. -/
def restart (world : CancelWorld) : CancelWorld :=
  { world with pipeline := world.pipeline.restart, reservations := fun _ => 0 }

/-- The order pipeline with an operator who cancels orders. -/
def system (service : ExecutionService) :
    System CancelOp CancelReply Raised CancelWorld PipelineAnswer CancelStart
      PipelineDisturbance where
  answer := answer service
  start := start service
  disturb world cause :=
    (world.pipeline.disturb cause).map fun next => { world with pipeline := next }
  restart := restart

/-- Before any order, with no task running. -/
def initial : Config CancelOp CancelReply Raised CancelWorld :=
  ⟨⟨.initial, fun _ => 0, []⟩, []⟩

/-! ### The condition -/

/-- A cancellation is answered while no reservation of the order is open, and an order whose
cancellation was answered is not reserved. -/
def condition (service : ExecutionService) (clientOrderId : String) :
    Condition CancelOp CancelWorld PipelineAnswer CancelStart PipelineDisturbance where
  answer world op choice :=
    match op with
    | .pipeline op =>
        match world.pipeline.answer op choice with
        | some (reply, _) =>
            decide (reserved service op reply = some clientOrderId →
              ∀ answer ∈ world.answered, answer.clientOrderId ≠ clientOrderId)
        | none => true
    | .respond client (.message _) =>
        decide (client = clientOrderId → world.reservations clientOrderId = 0)
    | _ => true

/-! ### The invariant -/

/-- The broker has not been called for the order since a cancellation of it was answered. -/
def Kept (clientOrderId : String) (world : CancelWorld) : Prop :=
  ∀ answer ∈ world.answered, answer.clientOrderId = clientOrderId →
    world.pipeline.placements clientOrderId = answer.placements

/-- The tasks hold no more reservations of the order than are open, and none once a cancellation
was answered, since which the broker has not been called. -/
structure Spared (clientOrderId : String) (world : CancelWorld) (credit : ℕ) : Prop where
  covered : credit ≤ world.reservations clientOrderId
  spent : (∃ answer ∈ world.answered, answer.clientOrderId = clientOrderId) → credit = 0
  kept : Kept clientOrderId world

/-- What another task may do to the world is of no matter to a task. -/
def discipline (clientOrderId : String) : Discipline CancelWorld ℕ where
  later _ _ := True
  refl _ := True.intro
  trans _ _ := True.intro
  holds := Spared clientOrderId

/-- The part of the system that the services of the pipeline see. -/
def pipelinePart (service : ExecutionService) :
    System PipelineOp PipelineReply Raised CancelWorld PipelineAnswer CancelStart
      PipelineDisturbance where
  answer := answerPipeline service
  start _ _ := none
  disturb _ _ := none
  restart world := world

def pipelineCondition (service : ExecutionService) (clientOrderId : String) :
    Condition PipelineOp CancelWorld PipelineAnswer CancelStart PipelineDisturbance where
  answer world op choice := (condition service clientOrderId).answer world (.pipeline op) choice

section

variable {service : ExecutionService} {clientOrderId : String}

/-- A task of the pipeline that owns its reservations. -/
abbrev Spares (service : ExecutionService) (clientOrderId : String) {Result : Type}
    (task : Task Result) (credit : ℕ) (seen : CancelWorld)
    (post : Except Raised Result → ℕ → CancelWorld → Prop) : Prop :=
  Owns (pipelinePart service) (pipelineCondition service clientOrderId)
    (discipline clientOrderId) task credit seen post

/-! ### Operations -/

variable {world next : Pipeline} {op : PipelineOp}

theorem placed_of_answer {choice : PipelineAnswer} {reply : Except Raised (PipelineReply op)}
    (quiet : called op = none) (answered : world.answer op choice = some (reply, next)) :
    next.placed = world.placed := by
  have read {Value : Type} {value : Value} {reply : Except Raised Value}
      (answered : Pipeline.reading world value choice = some (reply, next)) :
      next.placed = world.placed := by
    rw [(Pipeline.reading_eq_some answered).1]
  have asked {Value : Type} {reply : Except Raised Value}
      {select : PipelineAnswer → Option Value} {learn : Value → Pipeline}
      (told : ∀ value, Pipeline.Told world (learn value))
      (answered : Pipeline.asking world select learn choice = some (reply, next)) :
      next.placed = world.placed := by
    rcases Pipeline.asking_eq_some answered with ⟨rfl, -⟩ | ⟨value, -, -, rfl⟩
    · rfl
    · exact (told value).placed
  have silent {Value : Type} (value : Value) : Pipeline.Told world world := Pipeline.told_refl world
  cases op with
  | placeOrder request mode => cases quiet
  | saveOrderIntent intent =>
    rcases Pipeline.committing_eq_some answered with pair | ⟨rfl, -⟩
    · unfold Pipeline.savedIntent at pair
      split at pair <;> (obtain ⟨-, rfl⟩ := Prod.mk.inj pair; rfl)
    · rfl
  | saveBrokerOrderWithTransition order fromState toState reason =>
    rcases Pipeline.committing_eq_some answered with pair | ⟨rfl, -⟩
    · unfold Pipeline.savedOrder at pair
      split at pair <;> (obtain ⟨-, rfl⟩ := Prod.mk.inj pair; rfl)
    · rfl
  | applyExecutionAtomic execution tradingMode currentPrice =>
    rcases Pipeline.committing_eq_some answered with pair | ⟨rfl, -⟩
    · obtain ⟨-, rfl⟩ := Prod.mk.inj pair
      rfl
    · rfl
  | publish envelope | taskDone | addProcessedExecution client | sleep =>
    obtain ⟨rfl, -⟩ := Pipeline.always_eq_some answered
    rfl
  | getSessionStatus | getExecutionFeedHealth | validateLiveOrder | getLatestQuote instrumentId
  | generateId => exact asked silent answered
  | getOrderStatus brokerOrderId =>
    exact asked (fun value => Pipeline.told_learnStatus _ _ value) answered
  | findOrderByClientId client =>
    exact asked (fun value => Pipeline.told_learnRecovery _ _ value) answered
  | getTrades => exact asked (fun value => Pipeline.told_learnTrades _ value) answered
  | _ => exact read answered

theorem Kept.of_placed {world next : CancelWorld} (kept : Kept clientOrderId world)
    (placed : next.pipeline.placed = world.pipeline.placed)
    (answered : next.answered = world.answered) : Kept clientOrderId next := by
  intro answer member named
  unfold Pipeline.placements
  rw [placed]
  exact kept answer (answered ▸ member) named

theorem answerPipeline_eq_some {world next : CancelWorld} {choice : PipelineAnswer}
    {reply : Except Raised (PipelineReply op)}
    (answered : answerPipeline service world op choice = some (reply, next))
    (met : (pipelineCondition service clientOrderId).answer world op choice = true) :
    ∃ moved, world.pipeline.answer op choice = some (reply, moved) ∧
      next = after service world op reply moved ∧
      (reserved service op reply = some clientOrderId →
        ¬ ∃ answer ∈ world.answered, answer.clientOrderId = clientOrderId) := by
  obtain ⟨⟨reply', moved⟩, there, pair⟩ := Option.map_eq_some_iff.mp answered
  cases pair
  refine ⟨moved, there, rfl, fun reserves cancelled => ?_⟩
  simp only [pipelineCondition, condition, there, decide_eq_true_eq] at met
  obtain ⟨answer, member, named⟩ := cancelled
  exact met reserves answer member named

variable {credit : ℕ} {seen : CancelWorld}

theorem answers_keeping (quiet : called op = none) (gained : Except Raised (PipelineReply op) → ℕ)
    (backed : ∀ reply, gained reply ≤ if reserved service op reply = some clientOrderId then 1 else
      0) : Answers (pipelinePart service) (pipelineCondition service clientOrderId)
      (discipline clientOrderId) op credit seen
      fun reply left _ => left = credit + gained reply := by
  intro world rest choice reply next _ spared met answered
  obtain ⟨moved, there, rfl, fresh⟩ := answerPipeline_eq_some answered met
  have gain := backed reply
  refine ⟨credit + gained reply, True.intro, ⟨?_, ?_, ?_⟩, rfl⟩
  · have covered := spared.covered
    simp only [after, quiet, reduceCtorEq, if_false, Nat.sub_zero]
    omega
  · intro cancelled
    have spent := spared.spent cancelled
    rw [if_neg fun reserves => fresh reserves cancelled] at gain
    omega
  · exact spared.kept.of_placed (placed_of_answer quiet there) rfl

theorem answers_quiet (quiet : called op = none) :
    Answers (pipelinePart service) (pipelineCondition service clientOrderId)
      (discipline clientOrderId) op credit seen (leaving credit) :=
  answers_keeping quiet (fun _ => 0) fun _ => Nat.zero_le _

theorem answers_placeOrder {request : BrokerOrderRequest} {mode : TradingMode} :
    Answers (pipelinePart service) (pipelineCondition service clientOrderId)
      (discipline clientOrderId) (.placeOrder request mode)
      (if some request.clientOrderId = some clientOrderId then 1 else 0) seen (leaving 0) := by
  intro world rest choice reply next _ spared met answered
  obtain ⟨moved, there, rfl, -⟩ := answerPipeline_eq_some answered met
  obtain rfl : moved = { world.pipeline with placed := world.pipeline.placed ++ [request] } := by
    rcases Pipeline.asking_eq_some there with ⟨rfl, -⟩ | ⟨value, -, -, rfl⟩ <;> rfl
  refine ⟨0, True.intro, ⟨?_, ?_, ?_⟩, rfl⟩
  · have open_ : (if some request.clientOrderId = some clientOrderId then 1 else 0) + rest ≤
        world.reservations clientOrderId := spared.covered
    show 0 + rest ≤ world.reservations clientOrderId + 0 -
      if some request.clientOrderId = some clientOrderId then 1 else 0
    omega
  · intro cancelled
    have spent := spared.spent cancelled
    omega
  · intro answer member named
    have spent := spared.spent ⟨answer, member, named⟩
    have other : ¬ request.clientOrderId = clientOrderId := by
      intro same
      rw [if_pos (congrArg some same)] at spent
      omega
    have uncalled : ({ world.pipeline with placed := world.pipeline.placed ++ [request] } :
        Pipeline).placements clientOrderId = world.pipeline.placements clientOrderId := by
      simp only [Pipeline.placements, List.countP_append, List.countP_singleton, other,
        decide_false, Bool.false_eq_true, if_false, Nat.add_zero]
    exact uncalled.trans (spared.kept answer member named)

/-! ### Tasks -/

/-- A statement that does not call the broker. -/
abbrev Quiet (op : PipelineOp) : Prop := called op = none

theorem spares_of_within {Result : Type} {task : Task Result} (within : task.Within Quiet) :
    Spares service clientOrderId task credit seen (leaving credit) :=
  Owns.of_within seen (fun _ _ _ quiet => answers_quiet quiet) within

theorem quiet_of_plain {clients : String → Prop} (op : PipelineOp)
    (plain : Platform.Plain clients op) : Quiet op := by
  cases op with
  | placeOrder request mode => exact plain.elim
  | _ => rfl

/-- The reservation of an order that is handed on in SUBMITTING. -/
def handed (service : ExecutionService) (clientOrderId : String) :
    Except Raised (Option BrokerOrder) → ℕ
  | .ok (some order) =>
      if order.status = .submitting ∧ submittable service order = some clientOrderId then 1 else 0
  | _ => 0

/-- The order that `mark_order_submitting` returns in SUBMITTING is reserved for its caller. -/
theorem spares_markOrderSubmitting {orderId : String} :
    Spares service clientOrderId (OmsService.markOrderSubmitting orderId) 0 seen
      fun result left _ => left = handed service clientOrderId result := by
  -- the read gives the reservation of an order that is already in SUBMITTING
  refine Owns.await (answers_keeping rfl
    (fun reply => if reserved service (.getOrderById orderId) reply = some clientOrderId then 1
      else 0) fun _ => le_rfl) fun reply left next _ gained => ?_
  match reply, gained with
  | .error error, gained => exact gained
  | .ok none, gained => exact gained
  | .ok (some order), gained =>
    simp only
    split
    · rename_i submitting
      show left = handed service clientOrderId (.ok (some order))
      rw [gained, Nat.zero_add, reserved, if_pos submitting, handed]
      simp only [submitting, true_and]
    · rename_i open_
      obtain rfl : left = 0 := by
        rw [gained, reserved, if_neg open_]
        rfl
      split
      · show 0 = handed service clientOrderId (.ok (some order))
        rw [handed, if_neg fun both => open_ both.1]
      · rename_i approved
        rw [not_not] at approved
        rw [approved]
        refine Owns.ofExcept (fun _ _ => ?_) fun _ _ => rfl
        -- the write gives the reservation of an order that leaves APPROVED
        refine Owns.await (answers_keeping rfl
          (fun reply => if reserved service _ reply = some clientOrderId then 1 else 0)
          fun _ => le_rfl) fun reply left last _ gained => ?_
        cases reply with
        | error error => exact gained
        | ok written =>
          show left = handed service clientOrderId (.ok (some { order with status := .submitting }))
          rw [gained, Nat.zero_add, handed]
          simp only [true_and]
          rfl

theorem quiet_perform (quiet : called op = none) : (perform op).Within Quiet :=
  Coroutine.within_perform quiet

theorem spares_publish {envelope : Envelope} :
    Spares service clientOrderId (perform (.publish envelope)) credit seen (leaving credit) :=
  spares_of_within (quiet_perform rfl)

theorem spares_submitOrder {order : BrokerOrder} {request : BrokerOrderRequest} :
    Spares service clientOrderId (ExecutionService.submitOrder order request)
      (if some request.clientOrderId = some clientOrderId then 1 else 0) seen (leaving 0) := by
  refine Owns.await answers_placeOrder ?_
  rintro reply left next _ rfl
  cases reply with
  | error error => exact rfl
  | ok response =>
    simp only
    generalize ExecutionService.normalizeBrokerStatus response.status = normalizedStatus
    refine Owns.call spares_publish ?_
    rintro result left last _ rfl
    cases result with
    | error error => exact rfl
    | ok _ =>
      simp only
      split
      · unfold ExecutionService.publishTradeFill
        exact spares_publish
      · exact rfl

theorem spares_submitReserved {order : BrokerOrder} :
    Spares service clientOrderId (service.submitReserved order)
      (if submittable service order = some clientOrderId then 1 else 0) seen (leaving 0) := by
  unfold ExecutionService.submitReserved
  split
  · rename_i unbuilt
    have nothing : submittable service order = none := by
      unfold submittable
      rw [unbuilt]
      rfl
    rw [nothing, if_neg (Option.some_ne_none clientOrderId).symm]
    exact spares_publish
  · rename_i request built
    have named : submittable service order = some request.clientOrderId := by
      unfold submittable
      rw [built]
      rfl
    rw [named]
    refine Owns.catching ((spares_submitOrder).weaken ?_)
    rintro result left next _ rfl
    cases result with
    | ok _ => exact rfl
    | error error => exact spares_publish

theorem spares_executeOrder (orderId other : String) :
    Spares service clientOrderId (service.executeOrder orderId other) 0 seen (leaving 0) := by
  refine Owns.await (answers_quiet rfl) ?_
  rintro reply left next _ rfl
  match reply with
  | .error error => exact rfl
  | .ok none => exact rfl
  | .ok (some order) =>
    simp only
    split
    · exact rfl
    · have boundary : (service.boundaryMessage order).Within Quiet :=
        (Platform.within_boundaryMessage order).mono (@quiet_of_plain fun _ => True)
      refine Owns.call (spares_of_within boundary) ?_
      rintro result left' next' _ rfl
      match result with
      | .error error => exact rfl
      | .ok (some message) => exact spares_publish
      | .ok none =>
        refine Owns.call spares_markOrderSubmitting ?_
        rintro result last next'' _ rfl
        match result with
        | .error error => exact rfl
        | .ok none => exact rfl
        | .ok (some reserved) =>
          simp only [handed]
          split
          · rename_i open_
            rw [if_neg fun both => open_ both.1]
            exact rfl
          · rename_i submitting
            rw [not_not] at submitting
            simp only [submitting, true_and]
            exact spares_submitReserved

theorem spares_recoverApprovedOrders :
    Spares service clientOrderId service.recoverApprovedOrders 0 seen (leaving 0) :=
  ExecutionService.owns_recoverApprovedOrders (answers_quiet rfl)
    fun orderId client left next same => by
      subst same
      exact spares_executeOrder orderId client

theorem spares_handleExecutionCommand {payload : ExecutionCommand} :
    Spares service clientOrderId (service.handleExecutionCommand payload) 0 seen (leaving 0) :=
  ExecutionService.owns_handleExecutionCommand (answers_quiet rfl)
    fun left next same => by
      subst same
      exact spares_executeOrder payload.orderId payload.clientOrderId

theorem within_handleRiskDecisionEvent (payload : RiskDecision) :
    (OmsService.handleRiskDecisionEvent payload).Within Quiet := by
  refine (quiet_perform rfl).bind fun orders => ?_
  split
  · exact True.intro
  · split
    · exact True.intro
    · refine Coroutine.Within.bind (Coroutine.within_ofExcept _) fun _ => ?_
      refine (quiet_perform rfl).bind fun _ => ?_
      split
      · exact quiet_perform rfl
      · exact True.intro

theorem within_handleBrokerOrderEvent (payload : BrokerOrderEvent) :
    (OmsService.handleBrokerOrderEvent payload).Within Quiet := by
  refine (quiet_perform rfl).bind fun found => ?_
  split
  · exact True.intro
  · simp only
    split
    · refine Coroutine.Within.bind (Coroutine.within_ofExcept _) fun _ => ?_
      exact quiet_perform rfl
    · exact True.intro

theorem spares_dispatch {envelope : Envelope} :
    Spares service clientOrderId (dispatch service envelope) 0 seen (leaving 0) := by
  have handled : Spares service clientOrderId (handle service envelope) 0 seen (leaving 0) := by
    have nothing : (return : Task Unit).Within Quiet := True.intro
    cases envelope with
    | riskDecision payload => exact spares_of_within (within_handleRiskDecisionEvent payload)
    | executionCommand payload => exact spares_handleExecutionCommand
    | brokerOrderEvent payload =>
      exact spares_of_within (within_handleBrokerOrderEvent payload)
    | brokerTradeEvent payload =>
      exact spares_of_within ((Platform.within_handleTradeEvent payload).mono
        (@quiet_of_plain fun _ => True))
    | _ => exact spares_of_within nothing
  refine Owns.bind (Owns.catching (handled.weaken ?_))
  rintro result left next _ rfl
  cases result with
  | ok | error => exact spares_of_within (quiet_perform rfl)

/-! ### The whole system -/

/-- A task that owns its reservations in the whole system. -/
abbrev Holds (service : ExecutionService) (clientOrderId : String) {Result : Type}
    (task : CancelTask Result) (credit : ℕ) (seen : CancelWorld)
    (post : Except Raised Result → ℕ → CancelWorld → Prop) : Prop :=
  Owns (system service) (condition service clientOrderId) (discipline clientOrderId) task credit
    seen post

theorem holds_onOrders {Result : Type} {task : Task Result}
    {post : Except Raised Result → ℕ → CancelWorld → Prop}
    (spares : Spares service clientOrderId task credit seen post) :
    Holds service clientOrderId (onOrders task) credit seen post := by
  show Owns (system service) (condition service clientOrderId) (discipline clientOrderId)
    (task.embed CancelOp.pipeline (fun _ reply => reply) id id) credit seen post
  have conditions : ∀ (world : CancelWorld) (op : PipelineOp) (choice : PipelineAnswer),
      (condition service clientOrderId).answer world (.pipeline op) choice = true →
      (pipelineCondition service clientOrderId).answer world op choice = true :=
    fun world op choice met => met
  refine Owns.embed ?_ conditions (spares.weaken ?_)
  · intro world op choice reply next answered
    rw [show (pipelinePart service).answer world op choice = some (reply, next) from answered]
    cases reply <;> rfl
  · intro result left next _ final
    cases result <;> exact final

theorem answers_respond {client : String} {body : CancelBody} :
    Answers (system service) (condition service clientOrderId) (discipline clientOrderId)
      (.respond client body) 0 seen (leaving 0) := by
  intro world rest choice reply next _ spared met answered
  obtain ⟨covered, spent, kept⟩ := spared
  cases choice with
  | ok =>
    cases answered
    cases body with
    | broker response => exact ⟨0, True.intro, ⟨covered, spent, kept⟩, rfl⟩
    | message text =>
      have closed : client = clientOrderId → world.reservations clientOrderId = 0 :=
        of_decide_eq_true met
      refine ⟨0, True.intro, ⟨covered, ?_, ?_⟩, rfl⟩
      · rintro ⟨answer, member, named⟩
        rcases Stored.mem_concat.mp member with before | rfl
        · exact spent ⟨answer, before, named⟩
        · have := closed named
          omega
      · intro answer member named
        rcases Stored.mem_concat.mp member with before | rfl
        · exact kept answer before named
        · exact congrArg world.pipeline.placements named.symm
  | _ => cases answered

theorem answers_cancelAtBroker {brokerOrderId : String} {mode : TradingMode} :
    Answers (system service) (condition service clientOrderId) (discipline clientOrderId)
      (.cancelAtBroker brokerOrderId mode) 0 seen (leaving 0) := by
  intro world rest choice reply next _ spared met answered
  cases choice with
  | response response | raises text =>
    cases answered
    exact ⟨0, True.intro, spared, rfl⟩
  | _ => cases answered

theorem holds_cancelOrder {orderId : String} :
    Holds service clientOrderId (cancelOrder orderId) 0 seen (leaving 0) := by
  have read : Spares service clientOrderId (perform (.getOrder orderId)) 0 seen
      (leaving 0) := spares_of_within (quiet_perform rfl)
  refine Owns.call (holds_onOrders read) ?_
  rintro result left next _ rfl
  match result with
  | .error error => exact rfl
  | .ok none => exact rfl
  | .ok (some order) =>
    simp only
    cases orText order.brokerOrderId none with
    | none => exact Owns.perform_last answers_respond
    | some brokerOrderId =>
      refine Owns.await answers_cancelAtBroker ?_
      rintro reply left last _ rfl
      cases reply with
      | error error => exact rfl
      | ok response => exact Owns.perform_last answers_respond

theorem Spared.of_placed {world : CancelWorld} (spared : Spared clientOrderId world credit)
    (placed : next.placed = world.pipeline.placed) :
    Spared clientOrderId { world with pipeline := next } credit :=
  ⟨spared.covered, spared.spent, spared.kept.of_placed placed rfl⟩

theorem placed_of_disturb {cause : PipelineDisturbance}
    (disturbed : world.disturb cause = some next) : next.placed = world.placed := by
  cases cause with
  | riskDecision payload =>
    cases disturbed
    rfl
  | orderCreated intent orderId client now =>
    simp only [Pipeline.disturb] at disturbed
    split at disturbed
    · cases disturbed
    · split at disturbed
      · cases disturbed
        rfl
      · cases disturbed
  | orderDispatched orderId =>
    simp only [Pipeline.disturb] at disturbed
    split at disturbed
    · cases disturbed
    · split at disturbed
      · split at disturbed
        · cases disturbed
          rfl
        · cases disturbed
      · cases disturbed
  | brokerAccepts brokerOrderId client | brokerFills client filled average =>
    simp only [Pipeline.disturb] at disturbed
    split at disturbed
    · cases disturbed
      rfl
    · cases disturbed

theorem started {kind : PipelineStart} {task : Task Unit}
    (starts : Pipeline.start service world kind = some (task, next)) (seen : CancelWorld) :
    next.placed = world.placed ∧
      Spares service clientOrderId task 0 seen (leaving 0) := by
  cases kind with
  | dispatch =>
    simp only [Pipeline.start] at starts
    split at starts
    · cases starts
      exact ⟨rfl, spares_dispatch⟩
    · cases starts
  | recover =>
    cases starts
    exact ⟨rfl, spares_recoverApprovedOrders⟩
  | execute orderId client =>
    cases starts
    exact ⟨rfl, spares_executeOrder orderId client⟩
  | reconcile =>
    simp only [Pipeline.start] at starts
    split at starts
    · cases starts
    · cases starts
      exact ⟨rfl, spares_of_within (Platform.within_reconciliationRound.mono
        (@quiet_of_plain Platform.anyOrder))⟩

theorem sound (service : ExecutionService) (clientOrderId : String) :
    Sound (system service) (condition service clientOrderId) (discipline clientOrderId) where
  start world total kind task next spared _ starts := by
    cases kind with
    | cancel orderId =>
      cases starts
      exact ⟨True.intro, 0, (Nat.zero_add total).symm ▸ spared,
        (holds_cancelOrder).weaken fun _ _ _ _ _ => True.intro⟩
    | pipeline kind =>
      obtain ⟨⟨started', moved⟩, there, pair⟩ := Option.map_eq_some_iff.mp starts
      cases pair
      obtain ⟨placed, owns⟩ := started there { world with pipeline := moved }
      exact ⟨True.intro, 0, (Nat.zero_add total).symm ▸ spared.of_placed placed,
        (holds_onOrders owns).weaken fun _ _ _ _ _ => True.intro⟩
  disturb world total cause next spared _ disturbed := by
    obtain ⟨moved, there, rfl⟩ := Option.map_eq_some_iff.mp disturbed
    exact ⟨True.intro, spared.of_placed (placed_of_disturb there)⟩
  restart world total spared _ :=
    ⟨Nat.zero_le _, fun _ => rfl, spared.kept.of_placed rfl rfl⟩

end

end OrderCancel

open OrderCancel in
/-- In every run in which cancellations are answered while no reservation of the order is open,
and an order whose cancellation was answered is not reserved, the broker is not called for the
order after the answer, over any interleaving of the cancellations with the approval pipeline,
the recovery and restarts. -/
theorem cancelOrder_ends_submission (service : ExecutionService) (clientOrderId : String)
    (config : Config CancelOp CancelReply Raised CancelWorld)
    (reaches : (OrderCancel.system service).Reaches (OrderCancel.condition service clientOrderId)
      OrderCancel.initial config) :
    Kept clientOrderId config.world := by
  have start : Owned (OrderCancel.system service) (OrderCancel.condition service clientOrderId)
      (OrderCancel.discipline clientOrderId) OrderCancel.initial :=
    owned_idle ⟨le_rfl, fun _ => rfl, fun _ member => absurd member List.not_mem_nil⟩
  obtain ⟨credits, spared, -⟩ := start.reaches (OrderCancel.sound service clientOrderId) reaches
  exact spared.kept

namespace OrderCancel

/-! ### Runs of one order -/

/-- An order is created and waits for the decision of the risk service. -/
def validating : List (Event PipelineAnswer CancelStart PipelineDisturbance) :=
  [.disturb (.orderCreated Submission.exitIntent "order-1" "CL-1" 0),
    .disturb (.orderDispatched "order-1")]

/-- A cancellation reads the order and is answered. -/
def cancelled (task : Nat) : List (Event PipelineAnswer CancelStart PipelineDisturbance) :=
  [.start (.cancel "order-1"), .resume task .ok, .resume task .ok]

/-- The order is approved; the dispatcher hands its command to `execute_order`, which reserves it
and calls the broker. -/
def submitted (task : Nat) : List (Event PipelineAnswer CancelStart PipelineDisturbance) :=
  [.disturb (.riskDecision ⟨"intent-1", true, none⟩), .start (.pipeline .dispatch),
    .resume task .ok, .resume task .ok, .resume task .ok, .resume task .ok,
    .start (.pipeline .dispatch), .resume (task + 1) .ok, .resume (task + 1) .ok,
    .resume (task + 1) .ok, .resume (task + 1) .ok,
    .resume (task + 1) (.response Submission.placedResponse)]

end OrderCancel

open OrderCancel in
/-- Without the condition a cancelled order is submitted: the cancellation is answered while the
order waits for its risk decision, which approves it. -/
theorem cancelOrder_submitted_after_answer :
    ¬ ∀ (service : ExecutionService) (clientOrderId : String)
      (config : Config CancelOp CancelReply Raised CancelWorld),
      (OrderCancel.system service).Reaches Condition.unrestricted OrderCancel.initial config →
      Kept clientOrderId config.world := by
  intro ends
  have runs : ((OrderCancel.system Submission.breezeService).run Condition.unrestricted
      OrderCancel.initial (validating ++ cancelled 0 ++ submitted 1)).map (fun config =>
        (config.world.answered, config.world.pipeline.placements "CL-1")) =
      some ([⟨"CL-1", 0⟩], 1) := by decide +kernel
  obtain ⟨config, reaches, logged⟩ := System.reaches_of_map runs
  obtain ⟨answered, placements⟩ := Prod.mk.inj logged
  have kept := ends Submission.breezeService "CL-1" config
    reaches
  have uncalled := kept ⟨"CL-1", 0⟩ (answered ▸ List.mem_singleton_self _) rfl
  rw [placements] at uncalled
  exact Nat.one_ne_zero uncalled

open OrderCancel in
/-- A cancellation is answered after the broker was called for the order, which has no broker
order id yet: a run that meets the condition. -/
theorem cancelOrder_ends_submission_submitted :
    ∃ config, (OrderCancel.system Submission.breezeService).Reaches
        (OrderCancel.condition Submission.breezeService "CL-1") OrderCancel.initial config ∧
      config.world.answered = [⟨"CL-1", 1⟩] ∧ Kept "CL-1" config.world := by
  have runs : ((OrderCancel.system Submission.breezeService).run
      (OrderCancel.condition Submission.breezeService "CL-1") OrderCancel.initial
      (validating ++ submitted 0 ++ cancelled 2)).map (fun config => config.world.answered) =
      some [⟨"CL-1", 1⟩] := by decide +kernel
  obtain ⟨config, reaches, answered⟩ := System.reaches_of_map runs
  exact ⟨config, reaches, answered,
    cancelOrder_ends_submission Submission.breezeService "CL-1" config reaches⟩

end BreezeTrading
