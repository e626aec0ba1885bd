/-
This file defines the portfolio service: the handler of broker trade events and
the profit and loss snapshot it publishes.
-/

import BreezeTrading.Pipeline.Operations

namespace BreezeTrading

namespace PortfolioService

def pnlSnapshot (positions : List Position) : PnlSnapshot :=
  let held := positions.filter fun position => decide (position.quantity ≠ 0)
  let realized := (positions.map Position.realizedPnl).sum
  let unrealized := (held.map Position.unrealizedPnl).sum
  { realizedPnl := round2 realized
    unrealizedPnl := round2 unrealized
    totalPnl := round2 (realized + unrealized)
    dayPnl := round2 (realized + unrealized)
    openPositionsCount := held.length }

def publishPnlSnapshot : Task Unit := do
  let positions ← perform .listPositions
  let snapshot := pnlSnapshot positions
  perform (.savePnlSnapshot snapshot)
  perform (.publish (.portfolioPnl snapshot))

/-- The id an execution is deduplicated by. -/
def executionId (payload : BrokerTradeEvent) : Task String :=
  match orText payload.executionId (orText payload.brokerExecutionId none) with
  | some text => if text = "" then perform .generateId else return text
  | none => perform .generateId

/-- The execution a trade event reports. -/
def executionOf (payload : BrokerTradeEvent) (executionId : String) : Execution where
  executionId := executionId
  orderId := payload.orderId
  brokerExecutionId := payload.brokerExecutionId
  instrumentId := payload.instrumentId
  symbol := payload.symbol
  side := payload.side
  quantity := payload.quantity
  price := payload.price

def handleTradeEvent (payload : BrokerTradeEvent) : Task Unit := do
  let executionId ← executionId payload
  let quote ← perform (.getLatestQuote payload.instrumentId)
  let currentPrice := quote.getD payload.price
  let (position, applied) ← perform (.applyExecutionAtomic (executionOf payload executionId)
    payload.tradingMode currentPrice)
  -- a duplicate execution is ignored during replay
  if applied then do
    perform (.publish (.portfolioPosition position))
    publishPnlSnapshot
  else return

end PortfolioService

end BreezeTrading
