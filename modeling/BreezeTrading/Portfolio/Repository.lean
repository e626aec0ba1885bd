/-
This file defines the portfolio database: the executions, deduplicated by their
id, and the positions built from them, and the one transaction that books an
execution. The quantity and the value held for an order are sums over its
executions.
-/

import BreezeTrading.Lib.Table
import BreezeTrading.Oms.StateMachine
import Mathlib.Data.Rat.Floor

namespace BreezeTrading

open Stored

def roundHalfEven (number : ℚ) : Int :=
  let below := number.floor
  let remainder := number - below
  if remainder < 1 / 2 then below
  else if 1 / 2 < remainder then below + 1
  else if below % 2 = 0 then below else below + 1

/-- `round(number, 2)`. -/
def round2 (number : ℚ) : ℚ := (roundHalfEven (number * 100) : ℚ) / 100

/-- The tables `executions` and `positions`. -/
structure PortfolioTables where
  executions : List Execution
  positions : List Position
  byExecutionId : (executions.map Execution.executionId).Nodup
  byInstrumentId : (positions.map Position.instrumentId).Nodup

namespace PortfolioTables

def empty : PortfolioTables := ⟨[], [], List.nodup_nil, List.nodup_nil⟩

def executionsOf (tables : PortfolioTables) (orderId : String) : List Execution :=
  tables.executions.filter fun execution => decide (execution.orderId = orderId)

def getExecutedQuantityForOrder (tables : PortfolioTables) (orderId : String) : Int :=
  ((tables.executionsOf orderId).map Execution.quantity).sum

/-- The value traded by the executions of an order. -/
def executedValueForOrder (tables : PortfolioTables) (orderId : String) : ℚ :=
  ((tables.executionsOf orderId).map Execution.value).sum

def getPosition (tables : PortfolioTables) (instrumentId : String) : Option Position :=
  tables.positions.find? fun position => decide (position.instrumentId = instrumentId)

/-- The position after an execution, built from the one on record. -/
def bookedPosition (row : Option Position) (execution : Execution) (tradingMode : TradingMode)
    (currentPrice : ℚ) : Position :=
  let buyQuantity := (row.elim 0 Position.buyQuantity) +
    if execution.side = .buy then execution.quantity else 0
  let buyValue := (row.elim 0 Position.buyValue) +
    if execution.side = .buy then execution.value else 0
  let sellQuantity := (row.elim 0 Position.sellQuantity) +
    if execution.side = .buy then 0 else execution.quantity
  let sellValue := (row.elim 0 Position.sellValue) +
    if execution.side = .buy then 0 else execution.value
  let netQuantity := buyQuantity - sellQuantity
  let averagePrice := if 0 < buyQuantity then buyValue / buyQuantity else 0
  let closedQuantity := min buyQuantity sellQuantity
  let averageSell := if 0 < sellQuantity then sellValue / sellQuantity else 0
  let realizedPnl :=
    if 0 < closedQuantity then (averageSell - averagePrice) * closedQuantity else 0
  let unrealizedPnl :=
    if netQuantity ≠ 0 then (currentPrice - averagePrice) * netQuantity else 0
  { instrumentId := execution.instrumentId
    symbol := execution.symbol
    quantity := netQuantity
    buyQuantity := buyQuantity
    sellQuantity := sellQuantity
    buyValue := buyValue
    sellValue := sellValue
    averagePrice := round2 averagePrice
    currentPrice := round2 currentPrice
    realizedPnl := round2 realizedPnl
    unrealizedPnl := round2 unrealizedPnl
    totalPnl := round2 (realizedPnl + unrealizedPnl)
    tradingMode := tradingMode }

/-- Book an execution that is not on record: one row in each table. -/
def book (tables : PortfolioTables) (execution : Execution) (position : Position)
    (fresh : execution.executionId ∉ tables.executions.map Execution.executionId) :
    PortfolioTables where
  executions := tables.executions ++ [execution]
  positions := upsertRows Position.instrumentId
    (fun old new => { new with instrumentId := old.instrumentId }) position tables.positions
  byExecutionId := nodup_map_concat tables.byExecutionId fresh
  byInstrumentId := nodup_key_upsertRows (fun _ => rfl) tables.byInstrumentId

/-- Deduplicate a fill by its execution id and apply it to the position. -/
def applyExecutionAtomic (tables : PortfolioTables) (execution : Execution)
    (tradingMode : TradingMode) (currentPrice : ℚ) :
    Except Raised (Position × Bool) × PortfolioTables :=
  if known : execution.executionId ∈ tables.executions.map Execution.executionId then
    match tables.getPosition execution.instrumentId with
    | none => (.error ⟨"Execution exists but portfolio position is missing"⟩, tables)
    | some row => (.ok (row, false), tables)
  else
    let position := bookedPosition (tables.getPosition execution.instrumentId) execution
      tradingMode currentPrice
    (.ok (position, true), tables.book execution position known)

theorem executions_applyExecutionAtomic (tables : PortfolioTables) (execution : Execution)
    (tradingMode : TradingMode) (currentPrice : ℚ) :
    (tables.applyExecutionAtomic execution tradingMode currentPrice).2.executions =
      if execution.executionId ∈ tables.executions.map Execution.executionId then
        tables.executions
      else tables.executions ++ [execution] := by
  unfold applyExecutionAtomic
  split
  · split <;> rfl
  · rfl

end PortfolioTables

end BreezeTrading
