/-
This file defines the placement of an order by the two broker adapters: the Kite
adapter around one call of the Kite client, and the Breeze adapter around a
guarded write. Each maps what it is answered, or the exception it catches, to the
response the execution service reads.
-/

import BreezeTrading.BrokerGateway.Guard
import BreezeTrading.Contracts.Broker

namespace BreezeTrading.BrokerGateway

open Async

/-! ### Kite -/

/-- The parameters of a Kite order. -/
structure KiteOrder where
  variety : String
  exchange : String
  tradingsymbol : String
  transactionType : String
  quantity : Int
  product : String
  orderType : String
  validity : String
  price : Option ℚ
  triggerPrice : Option ℚ
  tag : Option String
  deriving DecidableEq, Repr

inductive KiteOp where
  | placeOrder (params : KiteOrder)

@[reducible] def KiteReply : KiteOp → Type
  | .placeOrder _ => String

abbrev KiteTask (Result : Type) := Coroutine KiteOp KiteReply BrokerError Result

structure ZerodhaKiteAdapter where
  product : String
  isActive : Bool

/-- A response without an order. -/
def failure (clientOrderId status message : String) : BrokerOrderResponse where
  success := false
  brokerOrderId := none
  clientOrderId := clientOrderId
  status := status
  message := some message
  filledQuantity := 0
  averagePrice := 0

def success (brokerOrderId : Option String) (clientOrderId : String) (message : Option String) :
    BrokerOrderResponse where
  success := true
  brokerOrderId := brokerOrderId
  clientOrderId := clientOrderId
  status := "PLACED"
  message := message
  filledQuantity := 0
  averagePrice := 0

namespace ZerodhaKiteAdapter

/-- `order_type.upper()` with hyphens, or `SL` for a stop-limit order. -/
def kiteOrderType (orderType : String) : String :=
  let normalized := String.ofList ((upper orderType).toList.map fun character =>
    if character = '_' then '-' else character)
  if normalized ∈ ["STOP-LIMIT", "STOPLOSS"] then "SL" else normalized

/-- The Kite order of a request, whose product is not cash and whose validity is the day. -/
def params (adapter : ZerodhaKiteAdapter) (request : BrokerOrderRequest) : KiteOrder :=
  let orderType := kiteOrderType request.orderType
  { variety := "regular"
    exchange := upper request.exchangeCode
    tradingsymbol := request.stockCode
    transactionType := if lower request.action = "buy" then "BUY" else "SELL"
    quantity := request.quantity
    product := adapter.product
    orderType := orderType
    validity := "DAY"
    price := if orderType ∈ ["LIMIT", "SL"] then some request.price else none
    triggerPrice := if orderType = "SL" then request.triggerPrice else none
    tag := (orText request.userRemark none).map fun remark =>
      String.ofList (remark.toList.take 20) }

/-- The response to an exception of the Kite client. -/
def failed (request : BrokerOrderRequest) : BrokerError → BrokerOrderResponse
  | .timeout _ => failure request.clientOrderId "UNKNOWN"
      "Kite submission timed out; reconciliation required and blind retry is prohibited."
  | error => failure request.clientOrderId "REJECTED" error.message

/-- Submit an order with one call of the Kite client. -/
def placeOrder (adapter : ZerodhaKiteAdapter) (request : BrokerOrderRequest) :
    KiteTask BrokerOrderResponse :=
  if adapter.isActive = false then
    return failure request.clientOrderId "REJECTED" "Kite session is not active"
  else if kiteOrderType request.orderType = "SL" ∧ request.triggerPrice = none then
    return failure request.clientOrderId "REJECTED" "STOP_LIMIT requires trigger_price"
  else
    Coroutine.catching
      (do
        let orderId ← Coroutine.perform (.placeOrder (adapter.params request))
        return success (some orderId) request.clientOrderId
          (some "Order placed successfully with Kite"))
      fun error => return failed request error

end ZerodhaKiteAdapter

/-! ### Breeze -/

/-- The Breeze adapter. `payload` is the sorted JSON of a request, `sha256` its digest, and
`stamp` prints a point in time. -/
structure IciciBreezeAdapter where
  apiKey : String
  payload : BrokerOrderRequest → String
  sha256 : String → String
  stamp : Int → String

/-- The number decimal digits stand for, when they are as many as allowed. -/
def digits (fewest most : Nat) (text : List Char) : Option Nat :=
  if text.all Char.isDigit ∧ fewest ≤ text.length ∧ text.length ≤ most then
    some (text.foldl (fun number digit => number * 10 + (digit.toNat - '0'.toNat)) 0)
  else none

def daysIn (year month : Nat) : Nat :=
  if month = 2 then
    if year % 4 = 0 ∧ (year % 100 ≠ 0 ∨ year % 400 = 0) then 29 else 28
  else if month ∈ [4, 6, 9, 11] then 30
  else 31

/-- `datetime.strptime(text, "%Y-%m-%d")` succeeds. -/
def isDate (text : String) : Bool :=
  match text.toList.splitOn '-' with
  | [year, month, day] =>
    match digits 4 4 year, digits 1 2 month, digits 1 2 day with
    | some year, some month, some day =>
      decide (1 ≤ year ∧ 1 ≤ month ∧ month ≤ 12 ∧ 1 ≤ day ∧ day ≤ daysIn year month)
    | _, _, _ => false
  | _ => false

namespace IciciBreezeAdapter

/-- Keys of the test harness place nothing. -/
def testing (adapter : IciciBreezeAdapter) : Bool :=
  decide (adapter.apiKey = "") || "test_".toList.isPrefixOf adapter.apiKey.toList

def guardedWrite (adapter : IciciBreezeAdapter) (request : BrokerOrderRequest) : GuardedWrite where
  requestId := request.clientOrderId
  accountId := String.ofList (adapter.apiKey.toList.take 8)
  clientReference := request.clientOrderId
  action := .place
  payload := adapter.payload request

/-- The expiry date of a request can be read, when it has one. -/
def readable (request : BrokerOrderRequest) : Bool :=
  match orText request.expiryDate none with
  | some expiryDate => isDate expiryDate
  | none => true

/-- The response to an exception of the guarded write. -/
def failed (request : BrokerOrderRequest) : BrokerError → BrokerOrderResponse
  | .submissionUnknown _ => failure request.clientOrderId "UNKNOWN"
      "Order submission outcome unknown due to timeout. Do not blind retry."
  | error => failure request.clientOrderId "REJECTED" error.message

/-- The response to an acknowledgement. -/
def acknowledged (request : BrokerOrderRequest) (ack : BrokerOrderAcknowledgement) :
    BrokerOrderResponse :=
  { success ack.brokerOrderId request.clientOrderId ack.message with
    status := if ack.status = .acknowledged then "PLACED" else ack.status.value }

/-- Submit an order behind the execution guard. -/
def placeOrder (adapter : IciciBreezeAdapter) (request : BrokerOrderRequest) (caller : Nat) :
    GuardTask BrokerOrderResponse :=
  if adapter.testing then do
    let now ← ExecutionGuard.ask .now
    return success (some ("BREEZE-" ++ adapter.stamp now)) request.clientOrderId
      (some "Order placed in Breeze test harness")
  else if readable request = false then
    .raised (.other "ValueError" "expiry_date does not match format '%Y-%m-%d'")
  else
    Coroutine.catching
      (do
        let ack ← ExecutionGuard.executeGuardedWrite adapter.sha256 (adapter.guardedWrite request)
          caller
        return acknowledged request ack)
      fun error => return failed request error

end IciciBreezeAdapter

end BreezeTrading.BrokerGateway
