/-
This file defines the risk service: the pre-trade checks an order intent passes
one after another, the decision that is recorded and published, and the handler
of order intents, which reuses a recorded decision. The checks of the source run
in the order they are listed in; the first one that refuses decides.
-/

import BreezeTrading.Execution.Service

namespace BreezeTrading

open Async

/-- What a risk service is constructed with. The broker gateway is present under the name of its
active broker; the other services are present or not. `text` prints a price and `money` an
amount with two decimals. -/
structure RiskService where
  maxOrderQty : Int
  liveAccountId : String
  portfolioService : Bool
  brokerGateway : Option String
  brokerSessionService : Bool
  marketDataService : Bool
  liveMaxOrderNotional : ℚ
  liveMaxOpenPositions : Int
  text : ℚ → String
  money : ℚ → String

/-- Why an intent is refused: the rule and its reason. -/
structure Refusal where
  rule : String
  reason : String
  deriving DecidableEq, Repr

/-- A row of `risk_decisions`. -/
structure Decision where
  intentId : String
  approved : Bool
  ruleName : String
  reason : String
  systemMode : SystemMode
  deriving DecidableEq, Repr

/-- An exception, with the name of its class. -/
structure RiskError where
  name : String
  deriving DecidableEq, Repr

/-! ### Operations -/

inductive RiskOp where
  -- risk database
  | getSystemMode
  | getDecisionByIntent (intentId : String)
  | saveDecision (intent : OrderIntent) (decision : Decision)
  -- other services
  | getBrokerPositions
  | getFunds
  | getPosition (instrumentId : String)
  | getSessionStatus
  | getExecutionFeedHealth
  | validateLiveOrder (accountId : String)
  -- process memory and bus
  | throttle (duplicateKey : String)
  | publish (decision : Decision)

@[reducible] def RiskReply : RiskOp → Type
  | .getSystemMode => SystemMode
  | .getDecisionByIntent _ => Option Decision
  | .saveDecision _ _ => Unit
  | .getBrokerPositions => List BrokerPositionResponse
  | .getFunds => BrokerFunds
  | .getPosition _ => Option Position
  | .getSessionStatus => SessionStatus
  | .getExecutionFeedHealth => FeedHealth
  | .validateLiveOrder _ => Bool × String
  | .throttle _ => Bool
  | .publish _ => Unit

abbrev RiskTask (Result : Type) := Coroutine RiskOp RiskReply RiskError Result

/-- Await one operation of the risk service. -/
abbrev inquire (op : RiskOp) : RiskTask (RiskReply op) := Coroutine.perform op

namespace RiskService

/-! ### The contract of an intent -/

/-- The underlying, expiry, strike and right of a canonical option id. -/
def canonicalOptionIdentity (instrumentId : String) : Option (String × String × ℚ × String) :=
  (ExecutionService.parseContract (upper instrumentId)).map fun (underlying, expiry, strike, right) =>
    (underlying, expiry, strike, if right = "call" then "CE" else "PE")

/-- A broker position is in this option contract. -/
def inContract (identity : String × String × ℚ × String) (position : BrokerPositionResponse) :
    Bool :=
  let (underlying, expiry, strike, right) := identity
  let rightAliases := if right = "CE" then ["CE", "CALL"] else ["PE", "PUT"]
  decide (upper position.stockCode = underlying) &&
    (match position.strikePrice with
    | some strikePrice => decide (|strikePrice - strike| < 1 / 1000000000)
    | none => false) &&
    decide (upper (position.right.getD "") ∈ rightAliases) &&
    decide (((position.expiryDate.getD "").toList.take 10) = expiry.toList)

/-- Which broker positions are in the contract of an intent: those of its option identity, or
else those of its symbol. -/
def contractOf (service : RiskService) (intent : OrderIntent) :
    Option (BrokerPositionResponse → Bool) :=
  if lower (service.brokerGateway.getD "") = "breeze" then
    (canonicalOptionIdentity intent.instrumentId).map inContract
  else some fun position => decide (upper position.stockCode = upper intent.symbol)

/-- The long quantity of some positions. -/
def longQuantity (positions : List BrokerPositionResponse) : Int :=
  (positions.map fun position => max 0 position.quantity).sum

/-- The long quantity the broker holds of the contract of an intent. -/
def brokerHeldQuantity (service : RiskService) (intent : OrderIntent)
    (brokerPositions : List BrokerPositionResponse) : Option Int :=
  (contractOf service intent).map fun inContract =>
    longQuantity (brokerPositions.filter inContract)

/-! ### Checks -/

/-- The outcome of a check. -/
abbrev Check := RiskTask (Option Refusal)

def refuse (rule reason : String) : Check := return some ⟨rule, reason⟩

def pass : Check := return none

/-- Checks in their order, up to the first refusal. -/
def firstRefusal : List Check → Check
  | [] => pass
  | check :: rest => do
    let refusal ← check
    match refusal with
    | some refusal => return some refusal
    | none => firstRefusal rest

def isReduceOnlyExit (intent : OrderIntent) : Bool :=
  intent.reduceOnly && decide (intent.side = .sell)

/-- A LIVE order that is not a reduce-only exit. -/
def isLiveEntry (intent : OrderIntent) : Bool :=
  decide (intent.tradingMode = .live) && !isReduceOnlyExit intent

def checkReduceOnlySide (intent : OrderIntent) : Check :=
  if intent.reduceOnly = true ∧ intent.side ≠ .sell then
    refuse "INVALID_REDUCE_ONLY"
      "Reduce-only orders must be SELL orders in the long-options execution model"
  else pass

def checkNakedSell (intent : OrderIntent) : Check :=
  if intent.tradingMode = .live ∧ intent.side = .sell ∧ isReduceOnlyExit intent = false then
    refuse "LIVE_NAKED_SELL_DISABLED"
      ("LIVE SELL orders must be explicit reduce-only exits in " ++
        "the long-options execution model")
  else pass

/-- The quantity of the exit against the verified long position. -/
def checkHeld (intent : OrderIntent) (heldQuantity : Int) : Check :=
  if heldQuantity ≤ 0 ∨ heldQuantity < intent.quantity then
    refuse "REDUCE_ONLY_QUANTITY_EXCEEDED"
      ("Reduce-only exit quantity " ++ toString intent.quantity ++
        " exceeds verified long position " ++ toString (max 0 heldQuantity))
  else pass

def unverified (reason : String) : Check := refuse "REDUCE_ONLY_POSITION_UNVERIFIED" reason

/-- The positions the broker reports, or the error it raised. -/
def brokerPositions : RiskTask (Except RiskError (List BrokerPositionResponse)) :=
  Coroutine.catching (do return .ok (← inquire .getBrokerPositions))
    fun error => return .error error

def checkReduceOnlyPosition (service : RiskService) (intent : OrderIntent) : Check :=
  if isReduceOnlyExit intent = false then pass
  else if intent.tradingMode = .live then
    if service.brokerGateway = none then
      unverified ("LIVE reduce-only exit rejected because broker " ++
        "position verification is unavailable")
    else do
      let reported ← brokerPositions
      match reported with
      | .error error =>
        unverified ("LIVE reduce-only exit rejected because broker " ++
          "positions could not be verified: " ++ error.name)
      | .ok positions =>
        match service.brokerHeldQuantity intent positions with
        | none =>
          unverified ("LIVE reduce-only exit rejected because exact " ++
            "broker contract identity could not be resolved")
        | some heldQuantity => checkHeld intent heldQuantity
  else if service.portfolioService = false then
    unverified "Reduce-only exit rejected because position service is unavailable"
  else do
    let position ← inquire (.getPosition intent.instrumentId)
    checkHeld intent (position.elim 0 Position.quantity)

def checkSession (service : RiskService) (intent : OrderIntent) : Check :=
  if isLiveEntry intent = false then pass
  else if service.brokerSessionService = false then
    refuse "LIVE_BROKER_SESSION_UNVERIFIED"
      "LIVE entry rejected because broker session health cannot be verified"
  else do
    let session ← inquire .getSessionStatus
    if session.connected then pass
    else
      refuse "LIVE_BROKER_SESSION_DISCONNECTED"
        ("LIVE entry rejected because broker session is not connected: " ++
          session.status.getD "UNKNOWN")

def checkFeed (service : RiskService) (intent : OrderIntent) : Check :=
  if isLiveEntry intent = false then pass
  else if service.marketDataService = false then
    refuse "LIVE_MARKET_DATA_UNVERIFIED"
      "LIVE entry rejected because execution feed health cannot be verified"
  else do
    let health ← inquire .getExecutionFeedHealth
    if health.healthy then pass
    else
      let reasons := if health.reasons = [] then ["UNKNOWN"] else health.reasons
      refuse "LIVE_MARKET_DATA_STALE_OR_DOWN"
        ("LIVE entry rejected because execution feed is not healthy: " ++
          ";".intercalate reasons)

/-- LIVE authorization gates exposure increases; exits remain available. -/
def checkGate (service : RiskService) (intent : OrderIntent) : Check :=
  if isLiveEntry intent = false then pass
  else do
    let (authorized, reason) ← inquire (.validateLiveOrder service.liveAccountId)
    if authorized then pass
    else refuse "LIVE_TRADING_NOT_AUTHORIZED" ("LIVE order rejected: " ++ reason)

/-- The rule of a mode that blocks entries. -/
def blockingRule : SystemMode → Option String
  | .halted => some "SYSTEM_HALTED"
  | .exitOnly => some "EXIT_ONLY"
  | .entryBlocked => some "ENTRY_BLOCKED"
  | .normal => none

def checkMode (systemMode : SystemMode) (intent : OrderIntent) : Check :=
  match blockingRule systemMode with
  | some rule =>
    if isReduceOnlyExit intent then pass
    else
      refuse rule ("System mode " ++ systemMode.value ++
        " permits only explicit reduce-only exits")
  | none => pass

def checkQuantity (service : RiskService) (intent : OrderIntent) : Check :=
  if intent.quantity ≤ 0 ∨ service.maxOrderQty < intent.quantity then
    refuse "MAX_ORDER_QUANTITY"
      ("Order quantity " ++ toString intent.quantity ++ " violates limits (1 - " ++
        toString service.maxOrderQty ++ ")")
  else pass

def checkOrderType (intent : OrderIntent) : Check :=
  if intent.tradingMode = .live ∧ intent.orderType = .market then
    refuse "LIVE_MARKET_ORDER_DISABLED"
      "LIVE market orders are disabled; use bounded LIMIT or STOP_LIMIT orders"
  else pass

def checkStopLimit (intent : OrderIntent) : Check :=
  if intent.orderType = .stopLimit then
    let trigger := intent.triggerPrice.getD 0
    if trigger ≤ 1 / 20 then
      refuse "STOP_TRIGGER_INVALID" "STOP_LIMIT requires a positive trigger price"
    else if (intent.side = .sell ∧ trigger < intent.price) ∨
        (intent.side = .buy ∧ intent.price < trigger) then
      refuse "STOP_LIMIT_PRICE_INVALID"
        ("SELL stop-limit requires limit <= trigger and BUY " ++
          "stop-limit requires limit >= trigger")
    else pass
  else pass

def checkPrice (service : RiskService) (intent : OrderIntent) : Check :=
  if intent.price ≤ 1 / 20 then
    refuse "PRICE_SANITY"
      ("Order price " ++ service.text intent.price ++ " is invalid or below tick size")
  else pass

/-- Price times quantity. -/
def orderNotional (intent : OrderIntent) : ℚ := intent.price * intent.quantity

def openPositions (positions : List BrokerPositionResponse) : List BrokerPositionResponse :=
  positions.filter fun position => decide (0 < position.quantity)

/-- The funds the broker reports, or the error it raised. -/
def brokerFunds : RiskTask (Except RiskError BrokerFunds) :=
  Coroutine.catching (do return .ok (← inquire .getFunds)) fun error => return .error error

def checkFunds (service : RiskService) (intent : OrderIntent) : Check := do
  let reported ← brokerFunds
  match reported with
  | .error error =>
    refuse "LIVE_FUNDS_UNAVAILABLE"
      ("LIVE entry rejected because broker funds could not be verified: " ++ error.name)
  | .ok funds =>
    if funds.availableMargin < orderNotional intent then
      refuse "LIVE_INSUFFICIENT_MARGIN"
        ("Available broker margin " ++ service.money funds.availableMargin ++
          " is below order notional " ++ service.money (orderNotional intent))
    else pass

def checkOpenPositions (service : RiskService) : Check := do
  let reported ← brokerPositions
  match reported with
  | .error error =>
    refuse "LIVE_POSITIONS_UNAVAILABLE"
      ("LIVE entry rejected because broker positions could not be verified: " ++ error.name)
  | .ok positions =>
    if service.liveMaxOpenPositions ≤ (openPositions positions).length then
      refuse "LIVE_OPEN_POSITION_LIMIT"
        ("Open broker positions " ++ toString (openPositions positions).length ++
          " reached LIVE limit " ++ toString service.liveMaxOpenPositions)
    else pass

/-- Independent final LIVE exposure checks of a BUY. -/
def checkExposure (service : RiskService) (intent : OrderIntent) : Check :=
  if intent.tradingMode = .live ∧ intent.side = .buy ∧ isReduceOnlyExit intent = false then
    if service.brokerGateway = none then
      refuse "LIVE_RISK_DEPENDENCY_UNAVAILABLE"
        ("LIVE entry rejected because broker exposure/funds " ++ "verification is unavailable")
    else if service.liveMaxOrderNotional < orderNotional intent then
      refuse "LIVE_ORDER_NOTIONAL_LIMIT"
        ("LIVE order notional " ++ service.money (orderNotional intent) ++ " exceeds limit " ++
          service.money service.liveMaxOrderNotional)
    else firstRefusal [checkOpenPositions service, checkFunds service intent]
  else pass

/-- What an identical order has in common. -/
def duplicateKey (service : RiskService) (intent : OrderIntent) : String :=
  intent.symbol ++ ":" ++ intent.side.value ++ ":" ++ toString intent.quantity ++ ":" ++
    service.text intent.price

def checkDuplicate (service : RiskService) (intent : OrderIntent) : Check := do
  let duplicate ← inquire (.throttle (service.duplicateKey intent))
  if duplicate then
    refuse "DUPLICATE_ORDER_THROTTLE" "Identical order submitted within 1 second throttle window"
  else pass

/-- The pre-trade checks, in their order. -/
def checks (service : RiskService) (intent : OrderIntent) (systemMode : SystemMode) :
    List Check :=
  [checkReduceOnlySide intent, checkNakedSell intent, checkReduceOnlyPosition service intent,
    checkSession service intent, checkFeed service intent, checkGate service intent,
    checkMode systemMode intent, checkQuantity service intent, checkOrderType intent,
    checkStopLimit intent, checkPrice service intent, checkExposure service intent,
    checkDuplicate service intent]

/-! ### Decisions -/

/-- The decision a refusal, or its absence, leads to. -/
def decisionOf (intent : OrderIntent) (systemMode : SystemMode) : Option Refusal → Decision
  | some refusal => ⟨intent.intentId, false, refusal.rule, refusal.reason, systemMode⟩
  | none =>
    ⟨intent.intentId, true, "ALL_CHECKS_PASSED", "Pre-trade risk criteria satisfied", systemMode⟩

/-- Persist a decision, with its outbox event, and publish it. -/
def recordAndPublish (intent : OrderIntent) (decision : Decision) : RiskTask Decision := do
  inquire (.saveDecision intent decision)
  inquire (.publish decision)
  return decision

/-- Run sequential pre-trade checks on an intent. -/
def evaluateIntent (service : RiskService) (intent : OrderIntent) : RiskTask Decision := do
  let systemMode ← inquire .getSystemMode
  let refusal ← firstRefusal (service.checks intent systemMode)
  recordAndPublish intent (decisionOf intent systemMode refusal)

/-- Reuse the persisted decision of an intent that arrives again, or evaluate it. -/
def handleOrderIntentEvent (service : RiskService) (intent : OrderIntent) : RiskTask Unit := do
  let existing ← inquire (.getDecisionByIntent intent.intentId)
  match existing with
  | some decision => inquire (.publish decision)
  | none => do
    let _ ← evaluateIntent service intent
    return

end RiskService

end BreezeTrading
