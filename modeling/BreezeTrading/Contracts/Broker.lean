/-
This file defines the normalized requests to a broker adapter and its answers,
with the fields the modelled services read or set.
-/

import BreezeTrading.Contracts.Models

namespace BreezeTrading

/-- Normalized order request to be sent through an adapter. -/
structure BrokerOrderRequest where
  clientOrderId : String
  stockCode : String
  exchangeCode : String
  action : String
  orderType : String
  quantity : Int
  price : ℚ
  triggerPrice : Option ℚ
  strikePrice : Option ℚ
  right : Option String
  expiryDate : Option String
  userRemark : Option String
  deriving DecidableEq, Repr

/-- Normalized answer about one order: placement, status or recovery. -/
structure BrokerOrderResponse where
  success : Bool
  brokerOrderId : Option String
  clientOrderId : String
  status : String
  message : Option String
  filledQuantity : Int
  averagePrice : ℚ
  deriving DecidableEq, Repr

/-- Normalized trade record. -/
structure BrokerTradeResponse where
  brokerOrderId : String
  clientOrderId : Option String
  quantity : Int
  price : ℚ
  deriving DecidableEq, Repr

/-- Normalized position. -/
structure BrokerPositionResponse where
  stockCode : String
  quantity : Int
  averagePrice : ℚ
  strikePrice : Option ℚ
  right : Option String
  expiryDate : Option String
  deriving DecidableEq, Repr

/-- Normalized funds and margin balances. -/
structure BrokerFunds where
  availableMargin : ℚ
  totalCash : ℚ
  usedMargin : ℚ
  deriving DecidableEq, Repr

end BreezeTrading
