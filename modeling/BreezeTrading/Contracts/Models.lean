/-
This file defines the contracts the services share: the enumerations, the order
intent, the broker order, the execution and the position, with the fields the
modelled services read. Prices are exact rationals, quantities are integers, and
a point in time is the integer the rows are sorted by.
-/

import Mathlib.Data.Rat.Defs

namespace BreezeTrading

/-! ### Enumerations -/

/-- Execution mode of the platform or of a strategy instance. -/
inductive TradingMode where
  | shadow
  | paper
  | live
  deriving DecidableEq, Repr

inductive OrderSide where
  | buy
  | sell
  deriving DecidableEq, Repr

inductive OrderType where
  | market
  | limit
  | stopLimit
  deriving DecidableEq, Repr

/-- The canonical 14 states of an order. -/
inductive OrderState where
  | created
  | validating
  | riskRejected
  | approved
  | submitting
  | submissionUnknown
  | acknowledged
  | open
  | partiallyFilled
  | filled
  | cancelled
  | rejected
  | expired
  | failedSafe
  deriving DecidableEq, Repr

/-- System-wide trading safety modes. -/
inductive SystemMode where
  | normal
  | entryBlocked
  | exitOnly
  | halted
  deriving DecidableEq, Repr

/-- The value of a state, as it is stored and logged. -/
def OrderState.value : OrderState → String
  | .created => "CREATED"
  | .validating => "VALIDATING"
  | .riskRejected => "RISK_REJECTED"
  | .approved => "APPROVED"
  | .submitting => "SUBMITTING"
  | .submissionUnknown => "SUBMISSION_UNKNOWN"
  | .acknowledged => "ACKNOWLEDGED"
  | .open => "OPEN"
  | .partiallyFilled => "PARTIALLY_FILLED"
  | .filled => "FILLED"
  | .cancelled => "CANCELLED"
  | .rejected => "REJECTED"
  | .expired => "EXPIRED"
  | .failedSafe => "FAILED_SAFE"

def SystemMode.value : SystemMode → String
  | .normal => "NORMAL"
  | .entryBlocked => "ENTRY_BLOCKED"
  | .exitOnly => "EXIT_ONLY"
  | .halted => "HALTED"

def OrderSide.value : OrderSide → String
  | .buy => "BUY"
  | .sell => "SELL"

def OrderType.value : OrderType → String
  | .market => "MARKET"
  | .limit => "LIMIT"
  | .stopLimit => "STOP_LIMIT"

/-! ### Text -/

/-- The uppercase of one character, where it can produce an ASCII letter. Every other
character stays outside the ASCII letters, which is all that a comparison with an ASCII
constant sees of it. -/
def upperChar (character : Char) : List Char :=
  if character = 'ı' then ['I']
  else if character = 'ſ' then ['S']
  else if character = 'ß' then ['S', 'S']
  else if character = 'ﬀ' then ['F', 'F']
  else if character = 'ﬁ' then ['F', 'I']
  else if character = 'ﬂ' then ['F', 'L']
  else if character = 'ﬃ' then ['F', 'F', 'I']
  else if character = 'ﬄ' then ['F', 'F', 'L']
  else if character = 'ﬅ' ∨ character = 'ﬆ' then ['S', 'T']
  else [character.toUpper]

/-- `str.upper`. -/
def upper (text : String) : String := String.ofList (text.toList.flatMap upperChar)

/-- `str.lower` on the ASCII values it is applied to. -/
def lower (text : String) : String := String.ofList (text.toList.map Char.toLower)

/-- An optional text that is missing or empty counts as false. -/
def orText : Option String → Option String → Option String
  | some text, other => if text = "" then other else some text
  | none, other => other

/-- A number that is zero counts as false. -/
def orNumber (number other : ℚ) : ℚ := if number = 0 then other else number

theorem orNumber_eq_left {number : ℚ} (other : ℚ) (nonzero : number ≠ 0) :
    orNumber number other = number := if_neg nonzero

@[simp] theorem orNumber_zero (other : ℚ) : orNumber 0 other = other := if_pos rfl

/-! ### Records -/

/-- Order request by a strategy or a manual ticket. -/
structure OrderIntent where
  intentId : String
  correlationId : String
  strategyInstanceId : Option String
  instrumentId : String
  symbol : String
  side : OrderSide
  orderType : OrderType
  quantity : Int
  price : ℚ
  triggerPrice : Option ℚ
  tradingMode : TradingMode
  reduceOnly : Bool
  createdAt : Int
  deriving DecidableEq, Repr

/-- Broker-tracked order managed by the OMS. -/
structure BrokerOrder where
  orderId : String
  intentId : String
  clientOrderId : String
  brokerOrderId : Option String
  instrumentId : String
  symbol : String
  side : OrderSide
  orderType : OrderType
  quantity : Int
  filledQuantity : Int
  remainingQuantity : Int
  price : ℚ
  triggerPrice : Option ℚ
  averagePrice : ℚ
  status : OrderState
  statusMessage : Option String
  tradingMode : TradingMode
  reduceOnly : Bool
  createdAt : Int
  deriving DecidableEq, Repr

/-- Trade fill. -/
structure Execution where
  executionId : String
  orderId : String
  brokerExecutionId : Option String
  instrumentId : String
  symbol : String
  side : OrderSide
  quantity : Int
  price : ℚ
  deriving DecidableEq, Repr

/-- The value traded by a fill. -/
def Execution.value (execution : Execution) : ℚ := execution.quantity * execution.price

/-- Aggregated position per instrument. -/
structure Position where
  instrumentId : String
  symbol : String
  quantity : Int
  buyQuantity : Int
  sellQuantity : Int
  buyValue : ℚ
  sellValue : ℚ
  averagePrice : ℚ
  currentPrice : ℚ
  realizedPnl : ℚ
  unrealizedPnl : ℚ
  totalPnl : ℚ
  tradingMode : TradingMode
  deriving DecidableEq, Repr

end BreezeTrading
