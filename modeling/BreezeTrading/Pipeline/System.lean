/-
This file defines the order pipeline as a system: the databases of the OMS and the portfolio, the
bus with its dispatcher, the memory of the execution service, and the broker. Orders, risk
decisions and fills are made by the environment, at any time. The broker answers anything; what it
knows about an order is recorded beside its answers.
-/

import BreezeTrading.Execution.Service
import BreezeTrading.Portfolio.Service

namespace BreezeTrading

open Async

/-! ### The world -/

/-- What the broker knows: by client order id the cumulative fill of an order and its
average price, and by broker order id the client order. -/
structure BrokerBook where
  filled : String → Int
  average : String → ℚ
  clientOf : String → Option String

/-- What the reconciliation pass in progress was told about one order. -/
structure PassReport where
  clientOrderId : String
  filledQuantity : Int
  averagePrice : ℚ
  deriving DecidableEq, Repr

/-- The state of the pipeline. `placed` lists every request the broker was called with.
`passAsked`, `passTrades` and `passReports` record the broker's answers to the pass in
progress, and `completed` those to the passes that ended since the start. -/
structure Pipeline where
  oms : OrderTable
  intents : List OrderIntent
  portfolio : PortfolioTables
  queue : List Envelope
  inHand : Option Envelope
  processed : List String
  placed : List BrokerOrderRequest
  broker : BrokerBook
  reconciling : Bool
  passAsked : Option String
  passTrades : Option (List BrokerTradeResponse)
  passReports : List PassReport
  completed : List PassReport

namespace Pipeline

/-- Before any order. -/
def initial : Pipeline where
  oms := .empty
  intents := []
  portfolio := .empty
  queue := []
  inHand := none
  processed := []
  placed := []
  broker := ⟨fun _ => 0, fun _ => 0, fun _ => none⟩
  reconciling := false
  passAsked := none
  passTrades := none
  passReports := []
  completed := []

/-- The envelopes that are published and not yet handled to the end. -/
def pending (world : Pipeline) : List Envelope := world.inHand.toList ++ world.queue

/-- How often the broker was called to place an order. -/
def placements (world : Pipeline) (clientOrderId : String) : Nat :=
  world.placed.countP fun request => decide (request.clientOrderId = clientOrderId)

/-! ### Answers -/

end Pipeline

/-- What the environment decides about one operation. -/
inductive PipelineAnswer where
  | ok
  | raises (text : String)
  | session (status : SessionStatus)
  | feedHealth (health : FeedHealth)
  | authorization (authorized : Bool) (reason : String)
  | quote (price : Option ℚ)
  | response (response : BrokerOrderResponse)
  | orderStatus (response : Option BrokerOrderResponse)
  | trades (trades : List BrokerTradeResponse)
  | generated (text : String)

namespace Pipeline

/-- A statement that reads: it returns the value, or fails. -/
def reading {Value : Type} (world : Pipeline) (value : Value) :
    PipelineAnswer → Option (Except Raised Value × Pipeline)
  | .ok => some (.ok value, world)
  | .raises text => some (.error ⟨text⟩, world)
  | _ => none

/-- A transaction: it commits, violates a constraint, or fails. -/
def committing {Value : Type} (world : Pipeline) (outcome : Except Raised Value × Pipeline) :
    PipelineAnswer → Option (Except Raised Value × Pipeline)
  | .ok => some outcome
  | .raises text => some (.error ⟨text⟩, world)
  | _ => none

/-- A step in memory: it does not fail. -/
def always {Value : Type} (value : Value) (next : Pipeline) :
    PipelineAnswer → Option (Except Raised Value × Pipeline)
  | .ok => some (.ok value, next)
  | _ => none

/-- A question to the outside: it answers what the environment selects, or fails. -/
def asking {Value : Type} (world : Pipeline) (select : PipelineAnswer → Option Value)
    (learn : Value → Pipeline) (choice : PipelineAnswer) :
    Option (Except Raised Value × Pipeline) :=
  match choice with
  | .raises text => some (.error ⟨text⟩, world)
  | choice => (select choice).map fun value => (.ok value, learn value)

/-- The verdict of the live gate. -/
def authorizationOf : PipelineAnswer → Option (Bool × String)
  | .authorization authorized reason => some (authorized, reason)
  | _ => none

/-- The intent row is new, or violates its primary key. -/
def savedIntent (world : Pipeline) (intent : OrderIntent) : Except Raised Unit × Pipeline :=
  if intent.intentId ∈ world.intents.map OrderIntent.intentId then
    (.error ⟨"UNIQUE constraint failed: order_intents.intent_id"⟩, world)
  else (.ok (), { world with intents := world.intents ++ [intent] })

def savedOrder (world : Pipeline) (order : BrokerOrder) (toState : OrderState) :
    Except Raised Unit × Pipeline :=
  match world.oms.saveBrokerOrderWithTransition order toState with
  | .ok table => (.ok (), { world with oms := table })
  | .error error => (.error error, world)

def appliedExecution (world : Pipeline) (execution : Execution) (tradingMode : TradingMode)
    (currentPrice : ℚ) : Except Raised (Position × Bool) × Pipeline :=
  let outcome := world.portfolio.applyExecutionAtomic execution tradingMode currentPrice
  (outcome.1, { world with portfolio := outcome.2 })

/-- The pass was told about an order by a status or recovery query. -/
def reported (world : Pipeline) (clientOrderId : String) (response : BrokerOrderResponse) :
    Pipeline :=
  { world with
    passReports := world.passReports ++
      [⟨clientOrderId, response.filledQuantity, response.averagePrice⟩] }

/-- The pass was told about an order by the trades. -/
def reportedTrades (world : Pipeline) (clientOrderId : String)
    (trades : List BrokerTradeResponse) : Pipeline :=
  match world.oms.getOrderByClientId clientOrderId with
  | none => world
  | some order =>
    match ExecutionService.responseOfTrades order trades with
    | none => world
    | some response => world.reported clientOrderId response

/-- What a status query tells the pass. -/
def learnStatus (world : Pipeline) (brokerOrderId : String)
    (response : Option BrokerOrderResponse) : Pipeline :=
  match response, world.broker.clientOf brokerOrderId with
  | some response, some clientOrderId => world.reported clientOrderId response
  | _, _ => world

/-- What a recovery query tells the pass: without an answer the trades decide, once read. -/
def learnRecovery (world : Pipeline) (clientOrderId : String)
    (response : Option BrokerOrderResponse) : Pipeline :=
  match response, world.passTrades with
  | some response, _ => world.reported clientOrderId response
  | none, some trades => world.reportedTrades clientOrderId trades
  | none, none => { world with passAsked := some clientOrderId }

/-- What the trades tell the pass about the order it asked for. -/
def learnTrades (world : Pipeline) (trades : List BrokerTradeResponse) : Pipeline :=
  let read := { world with passTrades := some trades, passAsked := none }
  match world.passAsked with
  | some clientOrderId => read.reportedTrades clientOrderId trades
  | none => read

/-- The answer to each operation. -/
def answer (world : Pipeline) (op : PipelineOp) (choice : PipelineAnswer) :
    Option (Except Raised (PipelineReply op) × Pipeline) :=
  match op with
  | .saveOrderIntent intent => committing world (world.savedIntent intent) choice
  | .saveBrokerOrderWithTransition order _ toState _ =>
      committing world (world.savedOrder order toState) choice
  | .getOrder orderId => reading world (world.oms.getOrderById orderId) choice
  | .getOrderById orderId => reading world (world.oms.getOrderById orderId) choice
  | .getOrderByClientId clientOrderId =>
      reading world (world.oms.getOrderByClientId clientOrderId) choice
  | .listOrders limit => reading world (world.oms.listOrders limit) choice
  | .getExecutedQuantityForOrder orderId =>
      reading world (world.portfolio.getExecutedQuantityForOrder orderId) choice
  | .applyExecutionAtomic execution tradingMode currentPrice =>
      committing world (world.appliedExecution execution tradingMode currentPrice) choice
  | .listPositions => reading world world.portfolio.positions choice
  | .savePnlSnapshot _ => reading world () choice
  | .publish envelope => always () { world with queue := world.queue ++ [envelope] } choice
  | .taskDone => always () { world with inHand := none } choice
  | .getSessionStatus =>
      asking world (fun | .session status => some status | _ => none) (fun _ => world) choice
  | .getExecutionFeedHealth =>
      asking world (fun | .feedHealth health => some health | _ => none) (fun _ => world) choice
  | .validateLiveOrder =>
      asking world authorizationOf (fun _ => world) choice
  | .getLatestQuote _ =>
      asking world (fun | .quote price => some price | _ => none) (fun _ => world) choice
  | .placeOrder request _ =>
      -- the request is out, whatever comes back
      asking { world with placed := world.placed ++ [request] }
        (fun | .response response => some response | _ => none)
        (fun _ => { world with placed := world.placed ++ [request] }) choice
  | .getOrderStatus brokerOrderId =>
      asking world (fun | .orderStatus response => some response | _ => none)
        (world.learnStatus brokerOrderId) choice
  | .findOrderByClientId clientOrderId =>
      asking world (fun | .orderStatus response => some response | _ => none)
        (world.learnRecovery clientOrderId) choice
  | .getTrades =>
      asking world (fun | .trades trades => some trades | _ => none) world.learnTrades choice
  | .addProcessedExecution clientOrderId =>
      always (decide (clientOrderId ∈ world.processed))
        { world with processed := clientOrderId :: world.processed } choice
  | .generateId =>
      asking world (fun | .generated text => some text | _ => none) (fun _ => world) choice
  | .sleep =>
      always () { world with
        reconciling := false
        passAsked := none
        passTrades := none
        passReports := []
        completed := world.completed ++ world.passReports } choice

end Pipeline

namespace Pipeline

/-- The sequential reading: a coroutine runs alone, and every statement commits. -/
def sequential (world : Pipeline) (op : PipelineOp) : Except Raised (PipelineReply op) × Pipeline :=
  (world.answer op .ok).getD (.error ⟨"not answered"⟩, world)

end Pipeline

/-! ### What an answer can be -/

namespace Pipeline

section Inversion

variable {Value : Type} {world next : Pipeline} {choice : PipelineAnswer}
  {reply : Except Raised Value}

theorem reading_eq_some {value : Value} (answered : reading world value choice =
    some (reply, next)) : next = world ∧ (reply = .ok value ∨ ∃ error, reply = .error error) := by
  cases choice with
  | ok =>
    cases answered
    exact ⟨rfl, Or.inl rfl⟩
  | raises text =>
    cases answered
    exact ⟨rfl, Or.inr ⟨_, rfl⟩⟩
  | _ => cases answered

theorem committing_eq_some {outcome : Except Raised Value × Pipeline}
    (answered : committing world outcome choice = some (reply, next)) :
    (reply, next) = outcome ∨ (next = world ∧ ∃ error, reply = .error error) := by
  cases choice with
  | ok => exact Or.inl (Option.some.inj answered).symm
  | raises text =>
    cases answered
    exact Or.inr ⟨rfl, _, rfl⟩
  | _ => cases answered

theorem always_eq_some {value : Value} {after : Pipeline}
    (answered : always value after choice = some (reply, next)) :
    next = after ∧ reply = .ok value := by
  cases choice with
  | ok =>
    cases answered
    exact ⟨rfl, rfl⟩
  | _ => cases answered

theorem asking_eq_some {select : PipelineAnswer → Option Value} {learn : Value → Pipeline}
    (answered : asking world select learn choice = some (reply, next)) :
    (next = world ∧ ∃ error, reply = .error error) ∨
      ∃ value, select choice = some value ∧ reply = .ok value ∧ next = learn value := by
  unfold asking at answered
  split at answered
  · cases answered
    exact Or.inl ⟨rfl, _, rfl⟩
  · obtain ⟨value, selected, pair⟩ := Option.map_eq_some_iff.mp answered
    cases pair
    exact Or.inr ⟨value, selected, rfl, rfl⟩

end Inversion

/-- What the broker tells a pass is kept in the record of the pass and nowhere else. -/
structure Told (world next : Pipeline) : Prop where
  oms : next.oms = world.oms
  intents : next.intents = world.intents
  portfolio : next.portfolio = world.portfolio
  queue : next.queue = world.queue
  inHand : next.inHand = world.inHand
  processed : next.processed = world.processed
  placed : next.placed = world.placed
  broker : next.broker = world.broker
  reconciling : next.reconciling = world.reconciling
  completed : next.completed = world.completed

section

variable (world : Pipeline)

theorem told_refl : Told world world := by
  constructor <;> rfl

theorem told_reported (clientOrderId : String) (response : BrokerOrderResponse) :
    Told world (world.reported clientOrderId response) := by
  constructor <;> rfl

theorem told_reportedTrades (clientOrderId : String) (trades : List BrokerTradeResponse) :
    Told world (world.reportedTrades clientOrderId trades) := by
  unfold reportedTrades
  split
  · exact told_refl world
  · split
    · exact told_refl world
    · exact told_reported world _ _

theorem told_learnStatus (brokerOrderId : String) (response : Option BrokerOrderResponse) :
    Told world (world.learnStatus brokerOrderId response) := by
  unfold learnStatus
  split
  · exact told_reported world _ _
  · exact told_refl world

theorem told_learnRecovery (clientOrderId : String) (response : Option BrokerOrderResponse) :
    Told world (world.learnRecovery clientOrderId response) := by
  unfold learnRecovery
  split
  · exact told_reported world _ _
  · exact told_reportedTrades world _ _
  · constructor <;> rfl

theorem told_learnTrades (trades : List BrokerTradeResponse) :
    Told world (world.learnTrades trades) := by
  unfold learnTrades
  split
  · have read := told_reportedTrades { world with passTrades := some trades, passAsked := none }
    exact ⟨(read _ _).oms, (read _ _).intents, (read _ _).portfolio, (read _ _).queue,
      (read _ _).inHand, (read _ _).processed, (read _ _).placed, (read _ _).broker,
      (read _ _).reconciling, (read _ _).completed⟩
  · constructor <;> rfl

end

end Pipeline

/-! ### Tasks and the environment -/

/-- The handlers subscribed to each topic. -/
def handle (service : ExecutionService) : Envelope → Task Unit
  | .riskDecision payload => OmsService.handleRiskDecisionEvent payload
  | .executionCommand payload => service.handleExecutionCommand payload
  | .brokerOrderEvent payload => OmsService.handleBrokerOrderEvent payload
  | .brokerTradeEvent payload => PortfolioService.handleTradeEvent payload
  | .orderIntent _ | .portfolioPosition _ | .portfolioPnl _ => return

/-- One round of the dispatcher: an error of a handler is logged. -/
def dispatch (service : ExecutionService) (envelope : Envelope) : Task Unit := do
  (handle service envelope).catching fun _ => return
  perform .taskDone

/-- The tasks that may start. -/
inductive PipelineStart where
  | dispatch
  | recover
  | execute (orderId clientOrderId : String)
  | reconcile

/-- The steps of the environment. -/
inductive PipelineDisturbance where
  | riskDecision (payload : RiskDecision)
  | orderCreated (intent : OrderIntent) (orderId clientOrderId : String) (now : Int)
  | orderDispatched (orderId : String)
  | brokerAccepts (brokerOrderId clientOrderId : String)
  | brokerFills (clientOrderId : String) (filled : Int) (average : ℚ)

namespace Pipeline

/-- The dispatcher takes one envelope at a time; one pass of reconciliation runs at a time. -/
def start (service : ExecutionService) (world : Pipeline) :
    PipelineStart → Option (Task Unit × Pipeline)
  | .dispatch =>
      match world.inHand, world.queue with
      | none, envelope :: rest =>
          some (dispatch service envelope, { world with queue := rest, inHand := some envelope })
      | _, _ => none
  | .recover => some (service.recoverApprovedOrders, world)
  | .execute orderId clientOrderId => some (service.executeOrder orderId clientOrderId, world)
  | .reconcile =>
      if world.reconciling then none
      else some (service.reconciliationRound, { world with reconciling := true })

/-- The order a creation inserts is new; its state moves to VALIDATING once. The broker's
cumulative fill of an order does not decrease, and a broker order id stays with its order. -/
def disturb (world : Pipeline) : PipelineDisturbance → Option Pipeline
  | .riskDecision payload =>
      some { world with queue := world.queue ++ [.riskDecision payload] }
  | .orderCreated intent orderId clientOrderId now =>
      if (∃ row ∈ world.oms.rows, row.orderId = orderId) ∨
          (∃ row ∈ world.oms.rows, row.clientOrderId = clientOrderId) then none
      else
        match world.oms.saveBrokerOrderWithTransition
            (OmsService.newOrder intent orderId clientOrderId now) .created with
        | .ok table => some { world with oms := table }
        | .error _ => none
  | .orderDispatched orderId =>
      match world.oms.getOrderById orderId with
      | none => none
      | some order =>
        if order.status = .created then
          match world.oms.saveBrokerOrderWithTransition order .validating with
          | .ok table => some { world with oms := table }
          | .error _ => none
        else none
  | .brokerAccepts brokerOrderId clientOrderId =>
      if world.broker.clientOf brokerOrderId = none then
        some { world with broker := { world.broker with
          clientOf := fun other =>
            if other = brokerOrderId then some clientOrderId else world.broker.clientOf other } }
      else none
  | .brokerFills clientOrderId filled average =>
      if world.broker.filled clientOrderId ≤ filled then
        some { world with broker := { world.broker with
          filled := fun other =>
            if other = clientOrderId then filled else world.broker.filled other
          average := fun other =>
            if other = clientOrderId then average else world.broker.average other } }
      else none

/-- A restart keeps the databases and what happened at the broker. -/
def restart (world : Pipeline) : Pipeline :=
  { world with
    queue := []
    inHand := none
    processed := []
    reconciling := false
    passAsked := none
    passTrades := none
    passReports := []
    completed := [] }

/-- The order pipeline around an execution service. -/
def system (service : ExecutionService) :
    System PipelineOp PipelineReply Raised Pipeline PipelineAnswer PipelineStart
      PipelineDisturbance where
  answer := answer
  start := start service
  disturb := disturb
  restart := restart

/-- The pipeline before any order, with no task running. -/
def idle (world : Pipeline) : Config PipelineOp PipelineReply Raised Pipeline := ⟨world, []⟩

end Pipeline

end BreezeTrading
