/-
This file defines the OMS service: the creation of an order from an intent, the
handlers of risk decisions and broker order events, and the reservation of an
approved order for submission.
-/

import BreezeTrading.Pipeline.Operations

namespace BreezeTrading

namespace OmsService

/-- The order an intent starts as, under its generated ids. -/
def newOrder (intent : OrderIntent) (orderId clientOrderId : String) (now : Int) : BrokerOrder where
  orderId := orderId
  intentId := intent.intentId
  clientOrderId := clientOrderId
  brokerOrderId := none
  instrumentId := intent.instrumentId
  symbol := intent.symbol
  side := intent.side
  orderType := intent.orderType
  quantity := intent.quantity
  filledQuantity := 0
  remainingQuantity := intent.quantity
  price := intent.price
  triggerPrice := intent.triggerPrice
  averagePrice := 0
  status := .created
  statusMessage := none
  tradingMode := intent.tradingMode
  reduceOnly := intent.reduceOnly
  createdAt := now

/-- Persist the intent and its order, and dispatch it to risk. -/
def createOrderIntent (intent : OrderIntent) (orderId clientOrderId : String) (now : Int) :
    Task BrokerOrder := do
  let order := newOrder intent orderId clientOrderId now
  perform (.saveOrderIntent intent)
  perform (.saveBrokerOrderWithTransition order none .created (some "Order intent created"))
  raising (OrderStateMachine.validateTransition .created .validating "")
  let order := { order with status := .validating }
  perform (.saveBrokerOrderWithTransition order (some .created) .validating
    (some "Dispatched to Risk Service for evaluation"))
  perform (.publish (.orderIntent intent))
  return order

/-- Handle a decision emitted by the risk service. -/
def handleRiskDecisionEvent (payload : RiskDecision) : Task Unit := do
  let orders ← perform (.listOrders 50)
  match orders.filter fun order => decide (order.intentId = payload.intentId) with
  | [] => return
  | order :: _ =>
    -- a replayed decision finds the order past VALIDATING
    if order.status ≠ .validating then return
    else do
      let toState := if payload.approved then OrderState.approved else .riskRejected
      raising (OrderStateMachine.validateTransition order.status toState
        (payload.reason.getD ""))
      perform (.saveBrokerOrderWithTransition
        { order with status := toState, statusMessage := payload.reason }
        (some order.status) toState payload.reason)
      if payload.approved then
        perform (.publish (.executionCommand ⟨order.orderId, order.clientOrderId⟩))
      else return

/-- The state a broker status moves an order to. -/
def brokerState (current : OrderState) (brokerStatus : String) (filledQuantity : Int) :
    OrderState :=
  if brokerStatus = "FILLED" then .filled
  else if brokerStatus ∈ ["PARTIAL", "PARTIALLY_FILLED", "PARTIALLY FILLED"] then
    .partiallyFilled
  else if brokerStatus ∈ ["OPEN", "PLACED"] then
    if 0 < filledQuantity then .partiallyFilled else .open
  else if brokerStatus = "CANCELLED" then .cancelled
  else if brokerStatus = "REJECTED" then .rejected
  else if brokerStatus = "EXPIRED" then .expired
  else if brokerStatus = "FAILED_SAFE" then .failedSafe
  else if brokerStatus = "UNKNOWN" then .submissionUnknown
  else current

/-- A broker order id that is present, not empty and not the one on record. -/
def brokerOrderIdChanged (order : BrokerOrder) (payload : BrokerOrderEvent) : Bool :=
  match payload.brokerOrderId with
  | some brokerOrderId =>
      decide (brokerOrderId ≠ "" ∧ some brokerOrderId ≠ order.brokerOrderId)
  | none => false

def fillChanged (order : BrokerOrder) (payload : BrokerOrderEvent) : Bool :=
  decide (payload.filledQuantity ≠ order.filledQuantity) ||
    decide (payload.averagePrice ≠ order.averagePrice) || brokerOrderIdChanged order payload

/-- The order after a broker order event. -/
def reconciledOrder (order : BrokerOrder) (payload : BrokerOrderEvent) (toState : OrderState) :
    BrokerOrder :=
  { order with
    brokerOrderId := orText payload.brokerOrderId order.brokerOrderId
    status := toState
    filledQuantity := payload.filledQuantity
    remainingQuantity := max 0 (order.quantity - payload.filledQuantity)
    averagePrice := orNumber payload.averagePrice order.averagePrice
    statusMessage := payload.message }

/-- Handle a status update of the broker gateway or the execution service. -/
def handleBrokerOrderEvent (payload : BrokerOrderEvent) : Task Unit := do
  let brokerStatus := upper payload.status
  let found ← perform (.getOrderByClientId payload.clientOrderId)
  match found with
  | none => return
  | some order =>
    let toState := brokerState order.status brokerStatus payload.filledQuantity
    let stateChanged := decide (toState ≠ order.status)
    if stateChanged || fillChanged order payload then do
      raising (if stateChanged then
          OrderStateMachine.validateTransition order.status toState brokerStatus
        else .ok ())
      perform (.saveBrokerOrderWithTransition (reconciledOrder order payload toState)
        (some order.status) toState (some ("Broker reconciliation: " ++ brokerStatus)))
    else return

/-- Durably reserve an approved order for one broker submission. -/
def markOrderSubmitting (orderId : String) : Task (Option BrokerOrder) := do
  let found ← perform (.getOrderById orderId)
  match found with
  | none => return none
  | some order =>
    if order.status = .submitting then return some order
    else if order.status ≠ .approved then return some order
    else do
      raising (OrderStateMachine.validateTransition order.status .submitting
        "Execution reserved")
      let reserved := { order with status := .submitting }
      perform (.saveBrokerOrderWithTransition reserved (some order.status) .submitting
        (some "Execution service reserved broker submission"))
      return some reserved

end OmsService

end BreezeTrading
