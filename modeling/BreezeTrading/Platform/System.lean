/-
This file defines the trading platform as one system: the creation of orders, the risk service,
the OMS, the execution service and the portfolio around the bus, with two outboxes. What is being
worked on is kept under the number of the last switch out of the normal mode, every call of the
broker with the mode in force.
-/

import BreezeTrading.Pipeline.System
import BreezeTrading.Risk.Service

namespace BreezeTrading

open Async

/-! ### The world -/

/-- A row of `outbox_events`; its position is its event id. -/
structure OutboxRow where
  envelope : Envelope
  createdAt : Int
  published : Bool
  deriving DecidableEq, Repr

/-- The two services with an outbox of their own. -/
inductive Store where
  | oms
  | risk
  deriving DecidableEq, Repr

/-- What a task is at work on: the creation of the order of an intent, the handling of an event,
the recovery at start, or a direct execution. -/
inductive Job where
  | creation (intentId : String)
  | handling (envelope : Envelope)
  | recovery
  | execution (orderId : String)
  deriving DecidableEq, Repr

/-- The state of the platform. -/
structure Platform where
  pipeline : Pipeline
  mode : SystemMode
  decisions : List Decision
  outbox : Store → List OutboxRow
  running : List (Job × Nat)
  epoch : Nat
  placements : List (BrokerOrderRequest × SystemMode)

namespace Platform

/-- Before any order. -/
def initial : Platform where
  pipeline := .initial
  mode := .normal
  decisions := []
  outbox := fun _ => []
  running := []
  epoch := 0
  placements := []

def addOutboxEvent (world : Platform) (store : Store) (row : OutboxRow) : Platform :=
  { world with
    outbox := fun other =>
      if other = store then world.outbox other ++ [row] else world.outbox other }

/-- `ORDER BY created_at ASC LIMIT limit`, over the rows that are not published. -/
def pendingOutboxEvents (world : Platform) (store : Store) (limit : Nat) :
    List (Nat × Envelope) :=
  let pending := ((world.outbox store).zipIdx.filter fun (row, _) => !row.published)
  let sorted := pending.insertionSort fun first second => first.1.createdAt ≤ second.1.createdAt
  (sorted.take limit).map fun (row, index) => (index, row.envelope)

def markOutboxEventPublished (world : Platform) (store : Store) (index : Nat) : Platform :=
  { world with
    outbox := fun other =>
      if other = store then
        (world.outbox other).modify index fun row => { row with published := true }
      else world.outbox other }

end Platform

/-! ### Operations -/

/-- The operations of the platform: those of the order pipeline and of the risk service, the
outboxes, the operator's control of the mode, and the end of a piece of work. -/
inductive PlatformOp where
  | pipeline (op : PipelineOp)
  | risk (op : RiskOp)
  | getOutboxEventsToPublish (store : Store)
  | markOutboxPublished (store : Store) (index : Nat)
  | setSystemMode (mode : SystemMode)
  | recordKillSwitch (action : String)
  | publishAudit
  | finish (job : Job) (epoch : Nat)

@[reducible] def PlatformReply : PlatformOp → Type
  | .pipeline op => PipelineReply op
  | .risk op => RiskReply op
  | .getOutboxEventsToPublish _ => List (Nat × Envelope)
  | .markOutboxPublished _ _ => Unit
  | .setSystemMode _ => Unit
  | .recordKillSwitch _ => Unit
  | .publishAudit => Unit
  | .finish _ _ => Unit

/-- What the environment decides about one operation. -/
inductive PlatformAnswer where
  | ok
  | raises (text : String)
  | pipeline (choice : PipelineAnswer)
  | positions (positions : List BrokerPositionResponse)
  | funds (funds : BrokerFunds)
  | position (position : Option Position)
  | session (status : SessionStatus)
  | feedHealth (health : FeedHealth)
  | authorization (authorized : Bool) (reason : String)
  | duplicate (seen : Bool)

abbrev PlatformTask (Result : Type) := Coroutine PlatformOp PlatformReply Raised Result

/-- Await one operation of the platform. -/
abbrev act (op : PlatformOp) : PlatformTask (PlatformReply op) := Coroutine.perform op

/-! ### Answers -/

/-- The event of a decision. -/
def Decision.payload (decision : Decision) : RiskDecision :=
  ⟨decision.intentId, decision.approved, some decision.reason⟩

namespace Platform

/-- Ids that are generated are new: an order is inserted under ids no row has. -/
def fresh (world : Platform) : PipelineOp → Bool
  | .saveBrokerOrderWithTransition order none _ _ =>
      decide (∀ row ∈ world.pipeline.oms.rows,
        row.orderId ≠ order.orderId ∧ row.clientOrderId ≠ order.clientOrderId)
  | _ => true

/-- What an operation of the pipeline leaves beside the pipeline: an intent that is saved is saved
with its outbox row, and its creation is under way; a call of the broker is made in a mode. -/
def after (world : Platform) (op : PipelineOp) (succeeded : Bool) (next : Pipeline) : Platform :=
  let moved := { world with pipeline := next }
  match op with
  | .saveOrderIntent intent =>
      if succeeded then
        { moved.addOutboxEvent .oms ⟨.orderIntent intent, intent.createdAt, false⟩ with
          running := (.creation intent.intentId, 0) :: world.running }
      else moved
  | .placeOrder request _ => { moved with placements := world.placements ++ [(request, world.mode)] }
  | _ => moved

/-- A reply that is a value. -/
def succeeded {Value : Type} : Except Raised Value → Bool
  | .ok _ => true
  | .error _ => false

def answerPipeline (world : Platform) (op : PipelineOp) (choice : PipelineAnswer) :
    Option (Except Raised (PipelineReply op) × Platform) :=
  if world.fresh op then
    (world.pipeline.answer op choice).map fun (reply, next) =>
      (reply, world.after op (succeeded reply) next)
  else none

/-- A decision is recorded together with its outbox row; the rows are added in the order of their
times. -/
def recordDecision (world : Platform) (decision : Decision) : Platform :=
  { world.addOutboxEvent .risk ⟨.riskDecision decision.payload, 0, false⟩ with
    decisions := world.decisions ++ [decision] }

/-- The event is queued for dispatch. -/
def enqueue (world : Platform) (envelope : Envelope) : Platform :=
  { world with pipeline := { world.pipeline with queue := world.pipeline.queue ++ [envelope] } }

def answerRisk (world : Platform) (op : RiskOp) (choice : PlatformAnswer) :
    Option (Except Raised (RiskReply op) × Platform) :=
  match choice with
  | .raises text => some (.error ⟨text⟩, world)
  | choice =>
    match op, choice with
    | .getSystemMode, .ok => some (.ok world.mode, world)
    | .getDecisionByIntent intentId, .ok =>
        some (.ok (world.decisions.reverse.find? fun decision =>
          decide (decision.intentId = intentId)), world)
    | .saveDecision _ decision, .ok => some (.ok (), world.recordDecision decision)
    | .getBrokerPositions, .positions positions => some (.ok positions, world)
    | .getFunds, .funds funds => some (.ok funds, world)
    | .getPosition _, .position position => some (.ok position, world)
    | .getSessionStatus, .session status => some (.ok status, world)
    | .getExecutionFeedHealth, .feedHealth health => some (.ok health, world)
    | .validateLiveOrder _, .authorization authorized reason =>
        some (.ok (authorized, reason), world)
    | .throttle _, .duplicate seen => some (.ok seen, world)
    | .publish decision, .ok => some (.ok (), world.enqueue (.riskDecision decision.payload))
    | _, _ => none

/-- A mode that blocks entries. -/
def blocks (mode : SystemMode) : Bool := decide (mode ≠ .normal)

/-- The mode is set; a switch out of the normal mode begins an epoch. -/
def setMode (world : Platform) (mode : SystemMode) : Platform :=
  { world with
    mode := mode
    epoch := if !blocks world.mode && blocks mode then world.epoch + 1 else world.epoch }

def answer (world : Platform) (op : PlatformOp) (choice : PlatformAnswer) :
    Option (Except Raised (PlatformReply op) × Platform) :=
  match op with
  | .pipeline op =>
      match choice with
      | .pipeline choice => world.answerPipeline op choice
      | _ => none
  | .risk op => world.answerRisk op choice
  | .getOutboxEventsToPublish store =>
      match choice with
      | .ok => some (.ok (world.pendingOutboxEvents store 20), world)
      | .raises text => some (.error ⟨text⟩, world)
      | _ => none
  | .markOutboxPublished store index =>
      match choice with
      | .ok => some (.ok (), world.markOutboxEventPublished store index)
      | .raises text => some (.error ⟨text⟩, world)
      | _ => none
  | .setSystemMode mode =>
      match choice with
      | .ok => some (.ok (), world.setMode mode)
      | .raises text => some (.error ⟨text⟩, world)
      | _ => none
  | .recordKillSwitch _ | .publishAudit =>
      match choice with
      | .ok => some (.ok (), world)
      | .raises text => some (.error ⟨text⟩, world)
      | _ => none
  | .finish job epoch => some (.ok (), { world with running := world.running.erase (job, epoch) })

end Platform

/-! ### Tasks -/

/-- A coroutine of the order pipeline, on the platform. -/
def onPipeline {Result : Type} (task : Task Result) : PlatformTask Result :=
  task.embed PlatformOp.pipeline (fun _ reply => reply) id id

/-- A coroutine of the risk service, on the platform. -/
def onRisk {Result : Type} (task : RiskTask Result) : PlatformTask Result :=
  task.embed PlatformOp.risk (fun _ reply => reply) (fun error => ⟨error.name⟩)
    (fun error => ⟨error.text⟩)

/-- What the platform is made of. -/
structure Services where
  risk : RiskService
  execution : ExecutionService

namespace Services

/-- The handlers subscribed to each topic. -/
def handle (services : Services) : Envelope → PlatformTask Unit
  | .orderIntent intent => onRisk (RiskService.handleOrderIntentEvent services.risk intent)
  | envelope => onPipeline (BreezeTrading.handle services.execution envelope)

/-- A piece of work, up to its end: an error of it is logged. -/
def work (job : Job) (epoch : Nat) (task : PlatformTask Unit) : PlatformTask Unit := do
  task.catching fun _ => .done ()
  act (.finish job epoch)

/-- One round of the dispatcher: an error of a handler is logged. -/
def dispatch (services : Services) (envelope : Envelope) (epoch : Nat) : PlatformTask Unit :=
  work (.handling envelope) epoch do
    (services.handle envelope).catching fun _ => .done ()
    onPipeline (perform .taskDone)

/-- A creation that fails on its way is not finished. -/
def create (intent : OrderIntent) (orderId clientOrderId : String) (now : Int) :
    PlatformTask Unit := do
  let _ ← onPipeline (OmsService.createOrderIntent intent orderId clientOrderId now)
  act (.finish (.creation intent.intentId) 0)

/-- Publish the listed events of an outbox, marking each one after it is published. -/
def publishOutbox (store : Store) : List (Nat × Envelope) → PlatformTask Unit
  | [] => .done ()
  | (index, envelope) :: rest => do
      act (.pipeline (.publish envelope))
      act (.markOutboxPublished store index)
      publishOutbox store rest

/-- One round of an outbox loop: an error of it is logged. -/
def outboxRound (store : Store) : PlatformTask Unit :=
  Coroutine.catching
    (do
      let events ← act (.getOutboxEventsToPublish store)
      publishOutbox store events)
    fun _ => .done ()

/-- The mode an action of the kill switch sets. -/
def killSwitchMode (action : String) : Option SystemMode :=
  if action = "BLOCK_ENTRIES" then some .entryBlocked
  else if action = "HALT" then some .halted
  else if action = "EXIT_ONLY" then some .exitOnly
  else none

/-- Trigger the emergency kill switch. -/
def triggerKillSwitch (action : String) : PlatformTask Unit := do
  match killSwitchMode action with
  | some mode => act (.setSystemMode mode)
  | none => .done ()
  act (.recordKillSwitch action)
  act .publishAudit

def setSystemMode (mode : SystemMode) : PlatformTask Unit := do
  act (.setSystemMode mode)
  act .publishAudit

end Services

/-- The tasks that may start. -/
inductive PlatformStart where
  | create (intent : OrderIntent) (orderId clientOrderId : String) (now : Int)
  | dispatch
  | outbox (store : Store)
  | recover
  | execute (orderId clientOrderId : String)
  | reconcile
  | triggerKillSwitch (action : String)
  | setSystemMode (mode : SystemMode)

/-- The steps of the broker. -/
inductive PlatformDisturbance where
  | brokerAccepts (brokerOrderId clientOrderId : String)
  | brokerFills (clientOrderId : String) (filled : Int) (average : ℚ)

namespace Platform

/-- A piece of work is under way. -/
def beginWork (world : Platform) (job : Job) : Platform :=
  { world with running := (job, world.epoch) :: world.running }

/-- The dispatcher takes one event at a time; one pass of reconciliation runs at a time. -/
def start (services : Services) (world : Platform) :
    PlatformStart → Option (PlatformTask Unit × Platform)
  | .create intent orderId clientOrderId now =>
      some (Services.create intent orderId clientOrderId now, world)
  | .dispatch =>
      match world.pipeline.inHand, world.pipeline.queue with
      | none, envelope :: rest =>
          let taken := { world.pipeline with queue := rest, inHand := some envelope }
          some (services.dispatch envelope world.epoch,
            { world with pipeline := taken }.beginWork (.handling envelope))
      | _, _ => none
  | .outbox store => some (Services.outboxRound store, world)
  | .recover =>
      some (Services.work .recovery world.epoch
          (onPipeline services.execution.recoverApprovedOrders), world.beginWork .recovery)
  | .execute orderId clientOrderId =>
      some (Services.work (.execution orderId) world.epoch
          (onPipeline (services.execution.executeOrder orderId clientOrderId)),
        world.beginWork (.execution orderId))
  | .reconcile =>
      if world.pipeline.reconciling then none
      else
        some (onPipeline services.execution.reconciliationRound,
          { world with pipeline := { world.pipeline with reconciling := true } })
  | .triggerKillSwitch action => some (Services.triggerKillSwitch action, world)
  | .setSystemMode mode => some (Services.setSystemMode mode, world)

def disturb (world : Platform) : PlatformDisturbance → Option Platform
  | .brokerAccepts brokerOrderId clientOrderId =>
      (world.pipeline.disturb (.brokerAccepts brokerOrderId clientOrderId)).map fun next =>
        { world with pipeline := next }
  | .brokerFills clientOrderId filled average =>
      (world.pipeline.disturb (.brokerFills clientOrderId filled average)).map fun next =>
        { world with pipeline := next }

/-- A restart keeps the databases and what happened at the broker. -/
def restart (world : Platform) : Platform :=
  { world with
    pipeline := world.pipeline.restart
    running := [] }

/-- The platform around its services. -/
def system (services : Services) :
    System PlatformOp PlatformReply Raised Platform PlatformAnswer PlatformStart
      PlatformDisturbance where
  answer := answer
  start := start services
  disturb := disturb
  restart := restart

end Platform

/-- A condition on the runs of the platform. -/
abbrev PlatformCondition :=
  Condition PlatformOp Platform PlatformAnswer PlatformStart PlatformDisturbance

/-- Without a condition. -/
abbrev anyPlatform : PlatformCondition := Condition.unrestricted

end BreezeTrading
