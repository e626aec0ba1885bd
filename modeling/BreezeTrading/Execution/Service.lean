/-
This file defines the execution service: the submission of approved orders, from
the command handler and from the recovery at start, and the reconciliation of
LIVE orders against broker evidence.
-/

import BreezeTrading.Oms.Service

namespace BreezeTrading

open Async

/-- What an execution service is constructed with; an optional service is present or not. -/
structure ExecutionService where
  activeBrokerName : String
  brokerSessionService : Bool
  marketDataService : Bool
  portfolioService : Bool

namespace ExecutionService

/-! ### The broker request -/

/-- The two digit groups of `\d+(?:\.\d+)?`, as a number. -/
def parseStrike (digits : List Char) : Option ℚ :=
  let whole := digits.takeWhile Char.isDigit
  let number (text : List Char) : Nat := text.foldl (fun n c => n * 10 + (c.toNat - 48)) 0
  match whole, digits.dropWhile Char.isDigit with
  | [], _ => none
  | _, [] => some (number whole)
  | _, '.' :: decimals =>
      if decimals ≠ [] ∧ decimals.all Char.isDigit then
        some (number whole + (number decimals : ℚ) / 10 ^ decimals.length)
      else none
  | _, _ => none

/-- `\d{4}-\d{2}-\d{2}`. -/
def isIsoDate (text : List Char) : Bool :=
  match text with
  | [y1, y2, y3, y4, '-', m1, m2, '-', d1, d2] =>
      [y1, y2, y3, y4, m1, m2, d1, d2].all Char.isDigit
  | _ => false

/-- Match `INST-(NIFTY|BANKNIFTY)-(date)-(strike)-(CE|PE)`: the stock code, the expiry date,
the strike price and the right. -/
def parseContract (instrumentId : String) : Option (String × String × ℚ × String) :=
  match (instrumentId.toList).splitOn '-' with
  | [inst, stock, year, month, day, strike, right] =>
      let expiry := year ++ '-' :: month ++ '-' :: day
      if inst = "INST".toList ∧ (stock = "NIFTY".toList ∨ stock = "BANKNIFTY".toList) ∧
          isIsoDate expiry ∧ (right = "CE".toList ∨ right = "PE".toList) then
        (parseStrike strike).map fun price =>
          (String.ofList stock, String.ofList expiry, price,
            if right = "CE".toList then "call" else "put")
      else none
  | _ => none

def buildBrokerRequest (service : ExecutionService) (order : BrokerOrder) :
    Option BrokerOrderRequest :=
  let request (stockCode : String) (expiryDate : Option String) (strikePrice : Option ℚ)
      (right : Option String) : BrokerOrderRequest :=
    { clientOrderId := order.clientOrderId
      stockCode := stockCode
      exchangeCode := "NFO"
      action := lower order.side.value
      orderType := lower order.orderType.value
      quantity := order.quantity
      price := order.price
      triggerPrice := order.triggerPrice
      strikePrice := strikePrice
      right := right
      expiryDate := expiryDate
      userRemark := some order.clientOrderId }
  if order.tradingMode = .live ∧ lower service.activeBrokerName = "breeze" then
    (parseContract (upper order.instrumentId)).map fun (stockCode, expiryDate, strike, right) =>
      request stockCode (some expiryDate) (some strike) (some right)
  else some (request order.symbol none none none)

theorem buildBrokerRequest_clientOrderId {service : ExecutionService} {order : BrokerOrder}
    {request : BrokerOrderRequest} (built : service.buildBrokerRequest order = some request) :
    request.clientOrderId = order.clientOrderId := by
  unfold buildBrokerRequest at built
  split at built
  · obtain ⟨contract, -, rfl⟩ := Option.map_eq_some_iff.mp built
    rfl
  · cases built
    rfl

def normalizeBrokerStatus (status : String) : String :=
  let normalized := String.ofList
    ((upper (if status = "" then "UNKNOWN" else status)).toList.map fun character =>
      if character = '-' then '_' else character)
  if normalized ∈ ["COMPLETE", "COMPLETED"] then "FILLED"
  else if normalized ∈ ["PARTIAL", "PARTIALLY FILLED"] then "PARTIALLY_FILLED"
  else normalized

/-! ### Submission -/

/-- A broker order event about an order that carries no broker progress. -/
def boundaryEvent (order : BrokerOrder) (status message : String) : Envelope :=
  .brokerOrderEvent
    { clientOrderId := order.clientOrderId
      brokerOrderId := none
      status := status
      filledQuantity := order.filledQuantity
      averagePrice := order.averagePrice
      message := some message }

/-- The re-check of the runtime health immediately before the broker write: the reason to
block, if any. -/
def healthReason (service : ExecutionService) : Task (Option String) := do
  if service.brokerSessionService then do
    let session ← perform .getSessionStatus
    if session.connected then
      if service.marketDataService then do
        let health ← perform .getExecutionFeedHealth
        if health.healthy then return none
        else
          let reasons := if health.reasons = [] then ["UNKNOWN"] else health.reasons
          return some ("MARKET_DATA_STALE_OR_DOWN:" ++ ";".intercalate reasons)
      else return some "MARKET_DATA_HEALTH_UNAVAILABLE"
    else
      return some ("BROKER_SESSION_DISCONNECTED:" ++
        (orText session.status none).getD "UNKNOWN")
  else return some "BROKER_SESSION_HEALTH_UNAVAILABLE"

/-- The two checks at the final LIVE boundary, with the message of the one that blocks.
Reduce-only exits and orders that are not LIVE are exempt. -/
def boundaryMessage (service : ExecutionService) (order : BrokerOrder) : Task (Option String) :=
  if order.tradingMode = .live ∧ order.reduceOnly = false then do
    let health ← healthReason service
    match health with
    | some reason =>
      return some ("Execution blocked at final runtime health boundary: " ++ reason)
    | none => do
      let (authorized, reason) ← perform .validateLiveOrder
      if authorized then return none
      else return some ("Execution blocked at final LIVE boundary: " ++ reason)
  else return none

/-- The id of the fill that brings an order to a cumulative quantity. -/
def fillExecutionId (orderId : String) (cumulativeFilledQuantity : Int) : String :=
  "FILL-" ++ orderId ++ "-" ++ toString cumulativeFilledQuantity

def tradeFill (order : BrokerOrder) (quantity cumulativeFilledQuantity : Int) (price : ℚ) :
    BrokerTradeEvent where
  executionId := some (fillExecutionId order.orderId cumulativeFilledQuantity)
  brokerExecutionId := none
  orderId := order.orderId
  clientOrderId := order.clientOrderId
  instrumentId := order.instrumentId
  symbol := order.symbol
  side := order.side
  quantity := quantity
  cumulativeFilledQuantity := cumulativeFilledQuantity
  price := price
  tradingMode := order.tradingMode

def publishTradeFill (order : BrokerOrder) (quantity cumulativeFilledQuantity : Int)
    (price : ℚ) : Task Unit :=
  perform (.publish (.brokerTradeEvent (tradeFill order quantity cumulativeFilledQuantity price)))

/-- Route a reserved order to the broker and publish what it answers. -/
def submitOrder (order : BrokerOrder) (request : BrokerOrderRequest) : Task Unit := do
  let response ← perform (.placeOrder request order.tradingMode)
  let normalizedStatus := normalizeBrokerStatus response.status
  perform (.publish (.brokerOrderEvent
    { clientOrderId := order.clientOrderId
      brokerOrderId := response.brokerOrderId
      status := normalizedStatus
      filledQuantity := response.filledQuantity
      averagePrice := response.averagePrice
      message := response.message }))
  if normalizedStatus = "FILLED" ∧ 0 < response.filledQuantity then
    publishTradeFill order response.filledQuantity response.filledQuantity
      (orNumber response.averagePrice order.price)
  else return

/-- Submit an order that is reserved; a failure is published for reconciliation. -/
def submitReserved (service : ExecutionService) (order : BrokerOrder) : Task Unit :=
  match service.buildBrokerRequest order with
  | none =>
    perform (.publish (boundaryEvent order "FAILED_SAFE"
      ("Breeze option contract identity could not be " ++
        "resolved from the canonical instrument id")))
  | some request =>
    (submitOrder order request).catching fun error =>
      perform (.publish (boundaryEvent order "UNKNOWN"
        ("Execution failed: " ++ error.text ++ ". Marked for reconciliation.")))

/-- Reserve exactly one submission, then route it to the broker. -/
def executeOrder (service : ExecutionService) (orderId _clientOrderId : String) : Task Unit := do
  let found ← perform (.getOrder orderId)
  match found with
  | none => return
  | some order =>
    if order.status ≠ .approved then return
    else do
      let blocked ← boundaryMessage service order
      match blocked with
      | some message => perform (.publish (boundaryEvent order "FAILED_SAFE" message))
      | none => do
        let reserved ← OmsService.markOrderSubmitting orderId
        match reserved with
        | none => return
        | some order =>
          if order.status ≠ .submitting then return
          else submitReserved service order

/-- Resume the APPROVED orders of a listing. -/
def recoverOrders (service : ExecutionService) : List BrokerOrder → Task Unit
  | [] => return
  | order :: rest =>
      if order.status ≠ .approved then recoverOrders service rest
      else do
        executeOrder service order.orderId order.clientOrderId
        recoverOrders service rest

/-- Resume persisted APPROVED orders after a process restart. -/
def recoverApprovedOrders (service : ExecutionService) : Task Unit := do
  let orders ← perform (.listOrders 500)
  recoverOrders service orders

def handleExecutionCommand (service : ExecutionService) (payload : ExecutionCommand) :
    Task Unit := do
  let duplicate : Bool ← perform (.addProcessedExecution payload.clientOrderId)
  if duplicate then return
  else executeOrder service payload.orderId payload.clientOrderId

/-! ### Reconciliation -/

def pendingStates : List OrderState :=
  [.submitting, .submissionUnknown, .acknowledged, .open, .partiallyFilled]

/-- The orders a pass looks at. -/
def reconcilable (order : BrokerOrder) : Bool :=
  decide (order.tradingMode = .live ∧
    (order.status ∈ pendingStates ∨ order.status = .filled))

/-- The response built from trade evidence. -/
def responseOfTrades (order : BrokerOrder) (brokerTrades : List BrokerTradeResponse) :
    Option BrokerOrderResponse :=
  match brokerTrades.filter fun trade =>
      decide (trade.clientOrderId = some order.clientOrderId) with
  | [] => none
  | first :: rest =>
      let found := first :: rest
      let filled := (found.map fun trade => max 0 trade.quantity).sum
      let notional := (found.map fun trade => ((max 0 trade.quantity : Int) : ℚ) * trade.price).sum
      some
        { success := true
          brokerOrderId := some first.brokerOrderId
          clientOrderId := order.clientOrderId
          status := if order.quantity ≤ filled then "FILLED" else "PARTIALLY_FILLED"
          message := some "Recovered from broker trade reconciliation"
          filledQuantity := min filled order.quantity
          averagePrice := if filled = 0 then 0 else notional / filled }

/-- The broker's evidence about an order, and the trades of the pass once they are read. -/
def brokerEvidence (order : BrokerOrder) (brokerTrades : Option (List BrokerTradeResponse)) :
    Task (Option BrokerOrderResponse × Option (List BrokerTradeResponse)) :=
  match orText order.brokerOrderId none with
  | some brokerOrderId =>
    if brokerOrderId = "" then awaiting else do
      let response ← perform (.getOrderStatus brokerOrderId)
      return (response, brokerTrades)
  | none => awaiting
where
  /-- Without a broker id the acknowledgement is recovered by the client reference, and
  failing that from the trades. -/
  awaiting : Task (Option BrokerOrderResponse × Option (List BrokerTradeResponse)) :=
    if order.status = .submitting ∨ order.status = .submissionUnknown then do
      let response ← perform (.findOrderByClientId order.clientOrderId)
      match response with
      | some response => return (some response, brokerTrades)
      | none =>
        match brokerTrades with
        | some trades => return (responseOfTrades order trades, some trades)
        | none => do
          let trades ← perform .getTrades
          return (responseOfTrades order trades, some trades)
    else return (none, brokerTrades)

/-- Publish what the broker's answer adds to what the portfolio already holds. -/
def publishProgress (order : BrokerOrder) (portfolioFilled : Int)
    (response : BrokerOrderResponse) : Task Unit := do
  let newFilled := response.filledQuantity
  let deltaFill := max 0 (newFilled - portfolioFilled)
  perform (.publish (.brokerOrderEvent
    { clientOrderId := order.clientOrderId
      brokerOrderId := orText response.brokerOrderId order.brokerOrderId
      status := normalizeBrokerStatus response.status
      filledQuantity := newFilled
      averagePrice := response.averagePrice
      message := some ((orText response.message none).getD "Broker reconciliation") }))
  if 0 < deltaFill then
    publishTradeFill order deltaFill newFilled
      (orNumber response.averagePrice (orNumber order.averagePrice order.price))
  else return

/-- Publish the fill an OMS order in FILLED has and the portfolio misses. -/
def publishMissing (order : BrokerOrder) (portfolioFilled : Int) : Task Unit :=
  let missingFill := max 0 (order.filledQuantity - portfolioFilled)
  if 0 < missingFill then
    publishTradeFill order missingFill order.filledQuantity
      (orNumber order.averagePrice order.price)
  else return

/-- One pending order of a pass, with the trades of the pass. An error leaves the order to the
next pass; the trades that were read stay read. -/
def reconcilePending (order : BrokerOrder) (portfolioFilled : Int)
    (brokerTrades : Option (List BrokerTradeResponse)) :
    Task (Option (List BrokerTradeResponse)) :=
  Coroutine.catching
    (do
      let (response, brokerTrades) ← brokerEvidence order brokerTrades
      match response with
      | none => return brokerTrades
      | some response =>
        Coroutine.catching
          (do
            publishProgress order portfolioFilled response
            return brokerTrades)
          fun _ => return brokerTrades)
    fun _ => return brokerTrades

/-- The fill progress of an order that the portfolio holds. -/
def portfolioFilled (service : ExecutionService) (order : BrokerOrder) : Task Int :=
  if service.portfolioService then perform (.getExecutedQuantityForOrder order.orderId)
  else return 0

/-- The orders of a pass, one after the other. -/
def reconcileOrders (service : ExecutionService) :
    List BrokerOrder → Option (List BrokerTradeResponse) → Task Unit
  | [], _ => return
  | order :: rest, brokerTrades => do
      let portfolioFilled ← service.portfolioFilled order
      if order.status = .filled then do
        publishMissing order portfolioFilled
        reconcileOrders service rest brokerTrades
      else do
        let brokerTrades ← reconcilePending order portfolioFilled brokerTrades
        reconcileOrders service rest brokerTrades

/-- Reconcile non-terminal LIVE orders against broker evidence. -/
def reconcileLiveOrders (service : ExecutionService) : Task Unit := do
  let orders ← perform (.listOrders 500)
  reconcileOrders service (orders.filter reconcilable) none

/-- One round of the reconciliation loop. -/
def reconciliationRound (service : ExecutionService) : Task Unit := do
  (reconcileLiveOrders service).catching fun _ => return
  perform .sleep

end ExecutionService

end BreezeTrading
