/-
This file models the paper broker: orders fill at once against the margin that is left or rest as
stops, fills move the position of their symbol and the margin in use, and orders can be modified and
cancelled. The id of an order is an input of its placement: eight characters of a time-ordered id,
which need not be new.
-/

import BreezeTrading.BrokerGateway.Adapters
import BreezeTrading.Lib.Dictionary
import Mathlib.Algebra.Order.Ring.Rat

namespace BreezeTrading.BrokerGateway

open Stored

/-! ### Records -/

structure PaperTrade extends BrokerTradeResponse where
  stockCode : String
  exchangeCode : String
  action : String
  deriving DecidableEq

inductive PaperOrderStatus where
  | resting
  | filled
  | cancelled
  deriving DecidableEq

def PaperOrderStatus.text : PaperOrderStatus → String
  | .resting => "OPEN"
  | .filled => "FILLED"
  | .cancelled => "CANCELLED"

structure PaperOrder where
  brokerOrderId : String
  clientOrderId : String
  stockCode : String
  action : String
  quantity : Int
  price : ℚ
  triggerPrice : Option ℚ
  status : PaperOrderStatus
  filledQuantity : Int
  averagePrice : ℚ
  deriving DecidableEq

structure PaperPosition where
  quantity : Int
  buyQty : Int
  sellQty : Int
  buyVal : ℚ
  sellVal : ℚ
  avgPrice : ℚ
  deriving DecidableEq

def PaperPosition.empty : PaperPosition := ⟨0, 0, 0, 0, 0, 0⟩

structure PaperBrokerAdapter where
  initialCash : ℚ
  totalCash : ℚ
  usedMargin : ℚ
  orders : Dictionary String PaperOrder
  positions : Dictionary String PaperPosition
  trades : List PaperTrade
  marketPrices : Dictionary String ℚ

namespace PaperBrokerAdapter

/-- `__init__`. -/
def start (initialCash : ℚ) : PaperBrokerAdapter where
  initialCash
  totalCash := initialCash
  usedMargin := 0
  orders := Dictionary.empty
  positions := Dictionary.empty
  trades := []
  marketPrices := Dictionary.empty

variable (broker : PaperBrokerAdapter)

def setMockMarketPrice (symbol : String) (price : ℚ) : PaperBrokerAdapter :=
  { broker with marketPrices := broker.marketPrices.set symbol price }

def getFunds : BrokerFunds where
  availableMargin := max 0 (broker.totalCash - broker.usedMargin)
  totalCash := broker.totalCash
  usedMargin := broker.usedMargin

/-! ### Placing orders -/

/-- The type of an order in lower case, with underscores. -/
def normalizedType (request : BrokerOrderRequest) : String :=
  String.ofList ((lower request.orderType).toList.map fun character =>
    if character = '-' then '_' else character)

/-- An order that is left resting. -/
def isStopOrder (request : BrokerOrderRequest) : Bool :=
  decide (normalizedType request = "stop_limit" ∨ normalizedType request = "stoploss")

def isBuy (request : BrokerOrderRequest) : Bool := decide (lower request.action = "buy")

/-- The price of a fill: that of the market for a market order, if there is one. -/
def fillPrice (request : BrokerOrderRequest) : ℚ :=
  if lower request.orderType = "market" then
    (broker.marketPrices.get request.stockCode).getD (orNumber request.price 100)
  else request.price

def cost (request : BrokerOrderRequest) : ℚ := broker.fillPrice request * request.quantity

/-- A stop order that is accepted. -/
def rest (brokerOrderId : String) (request : BrokerOrderRequest) :
    PaperBrokerAdapter × BrokerOrderResponse :=
  ({ broker with
      orders := broker.orders.set brokerOrderId
        { brokerOrderId
          clientOrderId := request.clientOrderId
          stockCode := request.stockCode
          action := request.action
          quantity := request.quantity
          price := request.price
          triggerPrice := request.triggerPrice
          status := .resting
          filledQuantity := 0
          averagePrice := 0 } },
    { success := true
      brokerOrderId := some brokerOrderId
      clientOrderId := request.clientOrderId
      status := "OPEN"
      message := some "Paper stop-limit accepted and left resting"
      filledQuantity := 0
      averagePrice := 0 })

/-- The quantity of an order, signed by its side. -/
def quantitySigned (request : BrokerOrderRequest) : Int :=
  if isBuy request then request.quantity else -request.quantity

/-- A position with the quantities and values of one more fill. -/
def traded (position : PaperPosition) (request : BrokerOrderRequest) (cost : ℚ) : PaperPosition :=
  if isBuy request then
    { position with
      buyQty := position.buyQty + request.quantity
      buyVal := position.buyVal + cost }
  else
    { position with
      sellQty := position.sellQty + request.quantity
      sellVal := position.sellVal + cost }

def averagePrice (position : PaperPosition) (newQuantity : Int) (fillPrice : ℚ) : ℚ :=
  if newQuantity = 0 then 0
  else if 0 < position.buyQty then position.buyVal / position.buyQty
  else fillPrice

/-- The position of a symbol after a fill. -/
def positionAfter (request : BrokerOrderRequest) : PaperPosition :=
  let position := (broker.positions.get request.stockCode).getD PaperPosition.empty
  let newQuantity := position.quantity + quantitySigned request
  let after := traded position request (broker.cost request)
  { after with
    quantity := newQuantity
    avgPrice := averagePrice after newQuantity (broker.fillPrice request) }

/-- The margin in use after a fill: what a sell brings is released, as far as it was in use. -/
def marginAfter (request : BrokerOrderRequest) : ℚ :=
  if isBuy request then broker.usedMargin + broker.cost request
  else max 0 (broker.usedMargin - broker.cost request)

def tradeOf (brokerOrderId : String) (request : BrokerOrderRequest) : PaperTrade where
  brokerOrderId
  clientOrderId := some request.clientOrderId
  quantity := request.quantity
  price := broker.fillPrice request
  stockCode := request.stockCode
  exchangeCode := request.exchangeCode
  action := upper request.action

/-- An order that fills at once. -/
def fill (brokerOrderId : String) (request : BrokerOrderRequest) :
    PaperBrokerAdapter × BrokerOrderResponse :=
  ({ broker with
      trades := broker.trades ++ [broker.tradeOf brokerOrderId request]
      positions := broker.positions.set request.stockCode (broker.positionAfter request)
      usedMargin := broker.marginAfter request
      orders := broker.orders.set brokerOrderId
        { brokerOrderId
          clientOrderId := request.clientOrderId
          stockCode := request.stockCode
          action := request.action
          quantity := request.quantity
          price := broker.fillPrice request
          triggerPrice := none
          status := .filled
          filledQuantity := request.quantity
          averagePrice := broker.fillPrice request } },
    { success := true
      brokerOrderId := some brokerOrderId
      clientOrderId := request.clientOrderId
      status := "FILLED"
      message := some "Paper order filled successfully"
      filledQuantity := request.quantity
      averagePrice := broker.fillPrice request })

/-- `place_order`, under the id that was generated for it. -/
def placeOrder (brokerOrderId : String) (request : BrokerOrderRequest) :
    PaperBrokerAdapter × BrokerOrderResponse :=
  if isStopOrder request then
    if 0 < request.triggerPrice.getD 0 then broker.rest brokerOrderId request
    else (broker, failure request.clientOrderId "REJECTED"
      "STOP_LIMIT requires positive trigger_price")
  else if isBuy request ∧ broker.totalCash - broker.usedMargin < broker.cost request then
    (broker, failure request.clientOrderId "REJECTED" "Insufficient paper margin available")
  else broker.fill brokerOrderId request

/-! ### Orders that were placed -/

/-- The answer about an order. -/
def answer (success : Bool) (brokerOrderId clientOrderId status message : String) :
    BrokerOrderResponse where
  success
  brokerOrderId := some brokerOrderId
  clientOrderId
  status
  message := some message
  filledQuantity := 0
  averagePrice := 0

def modifyOrder (brokerOrderId : String) (quantity : Option Int) (price : Option ℚ) :
    PaperBrokerAdapter × BrokerOrderResponse :=
  match broker.orders.get brokerOrderId with
  | none => (broker, answer false brokerOrderId "" "REJECTED" "Order not found")
  | some order =>
      if order.status = .filled then
        (broker, answer false brokerOrderId order.clientOrderId "REJECTED"
          "Cannot modify already filled order")
      else
        ({ broker with
            orders := broker.orders.set brokerOrderId
              { order with
                quantity := quantity.getD order.quantity
                price := price.getD order.price } },
          answer true brokerOrderId order.clientOrderId "MODIFIED" "Order modified")

def cancelOrder (brokerOrderId : String) : PaperBrokerAdapter × BrokerOrderResponse :=
  match broker.orders.get brokerOrderId with
  | none => (broker, answer false brokerOrderId "" "REJECTED" "Order not found")
  | some order =>
      ({ broker with
          orders := broker.orders.set brokerOrderId { order with status := .cancelled } },
        answer true brokerOrderId order.clientOrderId "CANCELLED" "Order cancelled")

end PaperBrokerAdapter

/-! ### Operations -/

/-- What is done to the paper broker. -/
inductive PaperOperation where
  | setMockMarketPrice (symbol : String) (price : ℚ)
  | placeOrder (brokerOrderId : String) (request : BrokerOrderRequest)
  | modifyOrder (brokerOrderId : String) (quantity : Option Int) (price : Option ℚ)
  | cancelOrder (brokerOrderId : String)

/-- The broker after an operation. -/
def PaperBrokerAdapter.step (broker : PaperBrokerAdapter) : PaperOperation → PaperBrokerAdapter
  | .setMockMarketPrice symbol price => broker.setMockMarketPrice symbol price
  | .placeOrder brokerOrderId request => (broker.placeOrder brokerOrderId request).1
  | .modifyOrder brokerOrderId quantity price =>
      (broker.modifyOrder brokerOrderId quantity price).1
  | .cancelOrder brokerOrderId => (broker.cancelOrder brokerOrderId).1

end BreezeTrading.BrokerGateway
