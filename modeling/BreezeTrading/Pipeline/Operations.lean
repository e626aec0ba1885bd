/-
This file defines what the order pipeline is written over: the events on the
bus, and the operations its services await, each with the reply it returns. The
OMS, portfolio and execution services are coroutines over these operations.
Reads of state that is held in memory (the feed health, the live gate, the
latest quote, the set of processed commands) are operations too.
-/

import BreezeTrading.Contracts.Broker
import BreezeTrading.Lib.Coroutine
import BreezeTrading.Oms.Repository
import BreezeTrading.Portfolio.Repository

namespace BreezeTrading

open Async

/-! ### Events -/

/-- Payload of `RISK_DECISION`. -/
structure RiskDecision where
  intentId : String
  approved : Bool
  reason : Option String
  deriving DecidableEq, Repr

/-- Payload of `EXECUTION_COMMAND`. -/
structure ExecutionCommand where
  orderId : String
  clientOrderId : String
  deriving DecidableEq, Repr

/-- Payload of `BROKER_ORDER_EVENT`. -/
structure BrokerOrderEvent where
  clientOrderId : String
  brokerOrderId : Option String
  status : String
  filledQuantity : Int
  averagePrice : ℚ
  message : Option String
  deriving DecidableEq, Repr

/-- Payload of `BROKER_TRADE_EVENT`. -/
structure BrokerTradeEvent where
  executionId : Option String
  brokerExecutionId : Option String
  orderId : String
  clientOrderId : String
  instrumentId : String
  symbol : String
  side : OrderSide
  quantity : Int
  cumulativeFilledQuantity : Int
  price : ℚ
  tradingMode : TradingMode
  deriving DecidableEq, Repr

/-- Point-in-time P&L. -/
structure PnlSnapshot where
  realizedPnl : ℚ
  unrealizedPnl : ℚ
  totalPnl : ℚ
  dayPnl : ℚ
  openPositionsCount : Nat
  deriving DecidableEq, Repr

/-- An event on the bus: its topic and its payload. -/
inductive Envelope where
  | orderIntent (intent : OrderIntent)
  | riskDecision (payload : RiskDecision)
  | executionCommand (payload : ExecutionCommand)
  | brokerOrderEvent (payload : BrokerOrderEvent)
  | brokerTradeEvent (payload : BrokerTradeEvent)
  | portfolioPosition (position : Position)
  | portfolioPnl (snapshot : PnlSnapshot)
  deriving DecidableEq, Repr

/-! ### Operations -/

/-- What the session service reports. -/
structure SessionStatus where
  connected : Bool
  status : Option String

/-- What the market data service reports. -/
structure FeedHealth where
  healthy : Bool
  reasons : List String

/-- The operations of the pipeline. -/
inductive PipelineOp where
  -- OMS database
  | saveOrderIntent (intent : OrderIntent)
  | saveBrokerOrderWithTransition (order : BrokerOrder) (fromState : Option OrderState)
      (toState : OrderState) (reason : Option String)
  | getOrder (orderId : String)
  | getOrderById (orderId : String)
  | getOrderByClientId (clientOrderId : String)
  | listOrders (limit : Nat)
  -- portfolio database
  | getExecutedQuantityForOrder (orderId : String)
  | applyExecutionAtomic (execution : Execution) (tradingMode : TradingMode) (currentPrice : ℚ)
  | listPositions
  | savePnlSnapshot (snapshot : PnlSnapshot)
  -- event bus
  | publish (envelope : Envelope)
  | taskDone
  -- runtime health, live gate, market data
  | getSessionStatus
  | getExecutionFeedHealth
  | validateLiveOrder
  | getLatestQuote (instrumentId : String)
  -- broker
  | placeOrder (request : BrokerOrderRequest) (mode : TradingMode)
  | getOrderStatus (brokerOrderId : String)
  | findOrderByClientId (clientOrderId : String)
  | getTrades
  -- process memory
  | addProcessedExecution (clientOrderId : String)
  | generateId
  | sleep

/-- The reply to each operation. -/
@[reducible] def PipelineReply : PipelineOp → Type
  | .saveOrderIntent _ => Unit
  | .saveBrokerOrderWithTransition _ _ _ _ => Unit
  | .getOrder _ => Option BrokerOrder
  | .getOrderById _ => Option BrokerOrder
  | .getOrderByClientId _ => Option BrokerOrder
  | .listOrders _ => List BrokerOrder
  | .getExecutedQuantityForOrder _ => Int
  | .applyExecutionAtomic _ _ _ => Position × Bool
  | .listPositions => List Position
  | .savePnlSnapshot _ => Unit
  | .publish _ => Unit
  | .taskDone => Unit
  | .getSessionStatus => SessionStatus
  | .getExecutionFeedHealth => FeedHealth
  | .validateLiveOrder => Bool × String
  | .getLatestQuote _ => Option ℚ
  | .placeOrder _ _ => BrokerOrderResponse
  | .getOrderStatus _ => Option BrokerOrderResponse
  | .findOrderByClientId _ => Option BrokerOrderResponse
  | .getTrades => List BrokerTradeResponse
  | .addProcessedExecution _ => Bool
  | .generateId => String
  | .sleep => Unit

abbrev Task (Result : Type) := Coroutine PipelineOp PipelineReply Raised Result

/-- Await one operation. -/
abbrev perform (op : PipelineOp) : Task (PipelineReply op) := Coroutine.perform op

/-- A computation that may raise, as a coroutine. -/
abbrev raising {Result : Type} (result : Except Raised Result) : Task Result :=
  Coroutine.ofExcept result

end BreezeTrading
