/-
This file models the sales of a live position: the stop held at the broker, the sale of the
first target and the final sale, of which no two may compete. Orders are looked up in the
order management, which takes every intent; how an order fares there and how the broker
answers a request to cancel is decided outside.
-/

import BreezeTrading.Strategy.Management
import BreezeTrading.Strategy.PositionManager

namespace BreezeTrading

/-! ### Orders -/

/-- What the service sells an option for. -/
inductive SellKind where
  | protective
  | t1
  | final
  deriving DecidableEq, Repr

/-- A sale, as the order management has it. -/
structure SellOrder where
  orderId : String
  kind : SellKind
  quantity : Int
  price : ℚ
  triggerPrice : Option ℚ := none
  status : OrderState
  filledQuantity : Int := 0
  averagePrice : ℚ := 0
  brokerOrderId : Option String := none
  deriving DecidableEq

/-- The order is over. -/
def SellOrder.terminal (order : SellOrder) : Bool :=
  decide (order.status ∈ StrategyService.terminalStates)

/-- A position, and the sales that were sent for it. -/
structure ExitDesk where
  trade : ManagedTrade
  orders : List SellOrder
  deriving DecidableEq

/-- How the broker answers a request to cancel. -/
inductive CancelAnswer where
  | success
  | failed
  | error
  deriving DecidableEq, Repr

/-- The settings of the stop held at the broker. The time is in microseconds. -/
structure ProtectionConfig where
  limitBufferPct : ℚ
  maxFailures : Nat
  cancelTimeout : Int
  cancelMaxAttempts : Nat
  deriving DecidableEq

/-- The quote of an option; a missing price is zero. -/
structure ExitQuote where
  status : String
  bid : ℚ
  lastPrice : ℚ
  deriving DecidableEq

def ExitQuote.valid (quote : ExitQuote) : Bool := decide (quote.status = "VALID" ∧ 0 < quote.bid)

/-- What an evaluation of a position meets: the clock, the market and the settings, the id and the
state a new order gets, and the broker gateway, if there is one. -/
structure ExitInput where
  now : Int
  features : MarketFeatures
  quote : ExitQuote
  manager : PositionManager
  costs : PaperCosts
  protection : ProtectionConfig
  orderId : String
  placedStatus : OrderState
  brokerOrderId : Option String
  gateway : Option CancelAnswer

namespace LiveExit

/-! ### Prices -/

/-- Normalize an option price to the tick of the exchange. -/
def optionTickPrice (value : ℚ) (down : Bool) : ℚ :=
  let tick : ℚ := 1 / 20
  if value ≤ 0 then tick
  else
    let steps : Int := if down then (value / tick).floor else roundHalfEven (value / tick)
    roundTo 2 (max tick (steps * tick))

/-- The price of a final sale. -/
def finalExitPrice (quote : ExitQuote) : ℚ := optionTickPrice quote.bid true

/-- What a sale is taken to fetch: the bid less the configured slippage. -/
def slippedBid (quote : ExitQuote) (costs : PaperCosts) : ℚ :=
  roundTo 2 (quote.bid - costs.slippagePoints)

/-- The trigger and the limit of the stop held at the broker. -/
def protectiveStopPrices (trade : ManagedTrade) (protection : ProtectionConfig) : ℚ × ℚ :=
  let trigger := optionTickPrice trade.optionHardStopPrice false
  let limitPrice := optionTickPrice (trigger * (1 - protection.limitBufferPct / 100)) true
  if trigger ≤ limitPrice then (trigger, optionTickPrice (trigger - 1 / 20) true)
  else (trigger, limitPrice)

/-! ### The order management -/

def getOrder (orders : List SellOrder) (orderId : String) : Option SellOrder :=
  orders.find? fun order => decide (order.orderId = orderId)

/-- `create_order_intent`, of a sale. -/
def createOrder (desk : ExitDesk) (input : ExitInput) (kind : SellKind) (quantity : Int)
    (price : ℚ) (triggerPrice : Option ℚ) : ExitDesk :=
  { desk with
    orders := desk.orders ++
      [{ orderId := input.orderId
         kind
         quantity
         price
         triggerPrice
         status := input.placedStatus
         brokerOrderId := input.brokerOrderId }] }

def closeTrade (desk : ExitDesk) (input : ExitInput) (price : ℚ) (reason : Option String) :
    ExitDesk :=
  { desk with
    trade := { desk.trade with
      toActiveTrade := desk.trade.toActiveTrade.closeAt input.costs input.features.futuresPrice price
        reason input.now } }

/-- The quantity that is still open. -/
def openQuantity (trade : ManagedTrade) : Int := max 0 (trade.quantity - trade.exitFilledQuantity)

/-! ### The stop held at the broker -/

/-- Persist a protection failure; the last one that is allowed decides the exit. -/
def recordProtectiveStopFailure (trade : ManagedTrade) (protection : ProtectionConfig)
    (stateUnknown : Bool) : ManagedTrade × Bool :=
  let failed := { trade with protectiveStopFailures := trade.protectiveStopFailures + 1 }
  let exhausted := stateUnknown || decide (protection.maxFailures ≤ failed.protectiveStopFailures)
  if exhausted && !stateUnknown then
    ({ failed with
        pendingExitReason := some "BROKER_PROTECTIVE_STOP_UNAVAILABLE"
        optionExitReason := some "BROKER_PROTECTIVE_STOP_UNAVAILABLE" }, exhausted)
  else (failed, exhausted)

/-- The state of the stop cannot be known. -/
def stateUnknown (desk : ExitDesk) (input : ExitInput) : ExitDesk :=
  { desk with trade := (recordProtectiveStopFailure desk.trade input.protection true).1 }

/-- The fills of the stop that were not accounted yet. -/
def applyProtectiveProgress (trade : ManagedTrade) (order : SellOrder) : ManagedTrade :=
  let newFilled := order.filledQuantity
  let accounted := trade.protectiveStopFilledQuantity
  if accounted ≤ newFilled then
    let cumulativeAverage := orNumber order.averagePrice
      (orPrice trade.protectiveStopLimitPrice trade.optionHardStopPrice)
    let newProceeds := cumulativeAverage * newFilled
    let deltaFilled := newFilled - accounted
    let deltaProceeds := newProceeds - trade.protectiveStopFilledProceeds
    if deltaFilled ≠ 0 ∨ 1 / 1000000000 < deltaProceeds ∨ deltaProceeds < -(1 / 1000000000) then
      { trade with
        exitFilledQuantity := min trade.quantity (trade.exitFilledQuantity + deltaFilled)
        exitProceeds := trade.exitProceeds + deltaProceeds
        protectiveStopFilledQuantity := newFilled
        protectiveStopFilledProceeds := newProceeds }
    else trade
  else trade

/-- The stop is forgotten once it is over. -/
def clearProtectiveStop (trade : ManagedTrade) : ManagedTrade :=
  { trade with
    protectiveStopOrderId := none
    protectiveStopFilledQuantity := 0
    protectiveStopFilledProceeds := 0
    protectiveStopCancelForExit := false
    protectiveStopCancelAttempts := 0
    protectiveStopCancelRequestedAt := none }

/-- The states in which the stop protects the position. -/
def protecting : List OrderState := [.open, .acknowledged, .partiallyFilled]

/-- A new stop for what is open, unless an exit is decided or a sale is under way. -/
def placeProtectiveStop (desk : ExitDesk) (input : ExitInput) : ExitDesk × Bool :=
  let trade := desk.trade
  if trade.pendingExitReason.isSome ∨ trade.exitOrderId.isSome ∨
      trade.partialExitOrderId.isSome then (desk, true)
  else
    let (triggerPrice, limitPrice) := protectiveStopPrices trade input.protection
    let placed :=
      createOrder desk input .protective (openQuantity trade) limitPrice (some triggerPrice)
    ({ placed with
        trade :=
          { clearProtectiveStop trade with
            protectiveStopOrderId := some input.orderId
            protectiveStopTriggerPrice := some triggerPrice
            protectiveStopLimitPrice := some limitPrice } }, false)

/-- What the report of the stop comes to. -/
def reconcileProtectiveStop (desk : ExitDesk) (input : ExitInput) (protective : SellOrder) :
    ExitDesk × Bool :=
  let trade := applyProtectiveProgress desk.trade protective
  let desk := { desk with trade }
  if protective.status = .filled ∨ trade.quantity ≤ trade.exitFilledQuantity then
    let averageExit :=
      if 0 < trade.quantity then trade.exitProceeds / trade.quantity else protective.averagePrice
    (closeTrade desk input averageExit (some optionEmergencyStop), false)
  else if protective.terminal then
    let cleared := clearProtectiveStop trade
    if trade.protectiveStopCancelForExit ∧ protective.status = .cancelled then
      ({ desk with trade := cleared }, true)
    else
      let (failed, exhausted) := recordProtectiveStopFailure cleared input.protection false
      if exhausted then ({ desk with trade := failed }, true)
      else placeProtectiveStop { desk with trade := failed } input
  else
    let active := decide (protective.status ∈ protecting)
    let healthy := if active then { trade with protectiveStopFailures := 0 } else trade
    ({ desk with trade := healthy }, active && !trade.protectiveStopCancelForExit)

/-- Keep the live position protected without racing duplicate sales. Returns whether management
may go on. -/
def syncLiveProtectiveStop (desk : ExitDesk) (input : ExitInput) : ExitDesk × Bool :=
  let trade := desk.trade
  if trade.mode ≠ .live ∨ trade.filledQuantity ≤ 0 then (desk, true)
  else if trade.state = .closed then (desk, false)
  else if openQuantity trade ≤ 0 then
    if 0 < trade.exitProceeds ∧ 0 < trade.quantity then
      (closeTrade desk input (trade.exitProceeds / trade.quantity) (some optionEmergencyStop), false)
    else (desk, false)
  else
    match trade.protectiveStopOrderId with
    | none => placeProtectiveStop desk input
    | some orderId =>
        match getOrder desk.orders orderId with
        | none => (stateUnknown desk input, false)
        | some protective => reconcileProtectiveStop desk input protective

/-- A request to cancel the stop, counted on the trade. -/
def requestCancel (desk : ExitDesk) (input : ExitInput) (answer : CancelAnswer) : ExitDesk :=
  let trade := desk.trade
  let requested :=
    { trade with
      protectiveStopCancelAttempts := trade.protectiveStopCancelAttempts + 1
      protectiveStopCancelRequestedAt := some input.now
      protectiveStopCancelForExit := true }
  let asked := { desk with trade := requested }
  if input.protection.cancelMaxAttempts ≤ requested.protectiveStopCancelAttempts ∧
      answer ≠ .success then stateUnknown asked input
  else asked

/-- The stop stands, and a request to cancel it is due. -/
def cancelStanding (desk : ExitDesk) (input : ExitInput) (orderId : String) : ExitDesk :=
  match getOrder desk.orders orderId with
  | none => stateUnknown desk input
  | some protective =>
      if protective.status = .filled ∨ protective.brokerOrderId = none then desk
      else
        match input.gateway with
        | none => stateUnknown desk input
        | some answer => requestCancel desk input answer

/-- A request to cancel the stop is not answered yet. -/
def cancelPending (trade : ManagedTrade) (input : ExitInput) : Bool :=
  trade.protectiveStopCancelRequestedAt.any fun requestedAt =>
    decide (max 0 (input.now - requestedAt) < input.protection.cancelTimeout)

/-- Cancel the stop before any competing sale. Returns whether the sale may go on. -/
def cancelLiveProtectiveStopForExit (desk : ExitDesk) (input : ExitInput) : ExitDesk × Bool :=
  if desk.trade.mode ≠ .live ∨ desk.trade.protectiveStopOrderId = none then (desk, true)
  else
    let (synced, mayContinue) := syncLiveProtectiveStop desk input
    if synced.trade.state = .closed then (synced, false)
    else
      match synced.trade.protectiveStopOrderId with
      | none => (synced, mayContinue)
      | some orderId =>
          if synced.trade.protectiveStopCancelForExit then
            if cancelPending synced.trade input then (synced, false)
            else if input.protection.cancelMaxAttempts ≤
                synced.trade.protectiveStopCancelAttempts then
              (stateUnknown synced input, false)
            else
              (cancelStanding
                { synced with trade := { synced.trade with protectiveStopCancelForExit := false } }
                input orderId, false)
          else (cancelStanding synced input orderId, false)

/-! ### The sale of the first target -/

/-- Apply the fills of a T1 order once. -/
def applyLiveT1OrderProgress (trade : ManagedTrade) (order : SellOrder) (now : Int) :
    ManagedTrade :=
  let newFilled := max 0 (min order.filledQuantity order.quantity)
  let accounted := trade.partialExitOrderAccountedFilledQuantity
  if newFilled < accounted then trade
  else
    let newOrderProceeds := order.averagePrice * newFilled
    let deltaFilled := newFilled - accounted
    let deltaProceeds := newOrderProceeds - trade.partialExitOrderAccountedProceeds
    if deltaFilled ≠ 0 ∨ 1 / 1000000000 < deltaProceeds ∨ deltaProceeds < -(1 / 1000000000) then
      let originalQuantity := orQuantity trade.initialQuantity
        (trade.quantity + trade.partialExitFilledQuantity)
      let filled := min trade.t1ExitQuantity (trade.partialExitFilledQuantity + deltaFilled)
      let proceeds := trade.partialExitProceeds + deltaProceeds
      let remaining := max 0 (originalQuantity - filled)
      { trade with
        partialExitFilledQuantity := filled
        partialExitProceeds := proceeds
        partialExitPrice :=
          if 0 < filled ∧ 0 < proceeds then some (proceeds / filled) else trade.partialExitPrice
        partialExitOrderAccountedFilledQuantity := newFilled
        partialExitOrderAccountedProceeds := newOrderProceeds
        partialExitTime := some now
        partialExitReason := some "T1_REACHED_PARTIAL_EXIT"
        remainingQuantity := some remaining
        quantity := remaining
        lots := if 0 < trade.lotSize then remaining.fdiv trade.lotSize else 0
        t1ExitPending := decide (filled < trade.t1ExitQuantity)
        t1RealizedR := if 0 < filled then trade.t1DecisionR else trade.t1RealizedR }
    else trade

def resetLiveT1OrderProgress (trade : ManagedTrade) : ManagedTrade :=
  { trade with
    partialExitOrderAccountedFilledQuantity := 0
    partialExitOrderAccountedProceeds := 0 }

/-- Reconcile a live T1 order before further management. Returns whether management may go on. -/
def syncLiveT1PartialExit (desk : ExitDesk) (input : ExitInput) : ExitDesk × Bool :=
  match desk.trade.partialExitOrderId with
  | none => (desk, true)
  | some orderId =>
      match getOrder desk.orders orderId with
      | none => (desk, false)
      | some order =>
          let progressed := applyLiveT1OrderProgress desk.trade order input.now
          if order.terminal = false then ({ desk with trade := progressed }, false)
          else
            let settled : ManagedTrade :=
              { resetLiveT1OrderProgress progressed with
                partialExitOrderId := none
                t1ExitPending :=
                  decide (progressed.partialExitFilledQuantity < progressed.t1ExitQuantity) }
            -- the sale no longer competes with the stop, which is restored for what remains
            if 0 < settled.quantity then
              syncLiveProtectiveStop { desk with trade := settled } input
            else ({ desk with trade := settled }, true)

/-- Submit the outstanding T1 quantity. -/
def submitLiveT1PartialExit (desk : ExitDesk) (input : ExitInput) : ExitDesk :=
  if desk.trade.partialExitOrderId.isSome then desk
  else
    let outstanding := max 0 (desk.trade.t1ExitQuantity - desk.trade.partialExitFilledQuantity)
    let quantity := min outstanding (max 0 desk.trade.quantity)
    if quantity ≤ 0 then { desk with trade := { desk.trade with t1ExitPending := false } }
    else
      let (cancelled, mayContinue) := cancelLiveProtectiveStopForExit desk input
      if mayContinue = false ∨ input.quote.bid ≤ 0 then
        { cancelled with trade := { cancelled.trade with t1ExitPending := true } }
      else
        let placed := createOrder cancelled input .t1 quantity
          (optionTickPrice input.quote.bid true) none
        { placed with
          trade :=
            { resetLiveT1OrderProgress cancelled.trade with
              partialExitOrderId := some input.orderId
              partialExitRawBid := some input.quote.bid
              t1ExitPending := true } }

/-! ### The final sale -/

/-- Apply the fills of an exit order once. -/
def applyExitOrderProgress (trade : ManagedTrade) (order : SellOrder) : ManagedTrade :=
  let newFilled := max 0 (min order.filledQuantity order.quantity)
  let accounted := trade.exitOrderAccountedFilledQuantity
  if newFilled < accounted then trade
  else
    let newOrderProceeds := order.averagePrice * newFilled
    let deltaFilled := newFilled - accounted
    let deltaProceeds := newOrderProceeds - trade.exitOrderAccountedProceeds
    if deltaFilled ≠ 0 ∨ 1 / 1000000000 < deltaProceeds ∨ deltaProceeds < -(1 / 1000000000) then
      { trade with
        exitFilledQuantity := min trade.quantity (trade.exitFilledQuantity + deltaFilled)
        exitProceeds := trade.exitProceeds + deltaProceeds
        exitOrderAccountedFilledQuantity := newFilled
        exitOrderAccountedProceeds := newOrderProceeds }
    else trade

def resetExitOrderProgress (trade : ManagedTrade) : ManagedTrade :=
  { trade with exitOrderAccountedFilledQuantity := 0, exitOrderAccountedProceeds := 0 }

/-- The exit is decided, and waits. -/
def awaitExit (desk : ExitDesk) (reason : String) : ExitDesk :=
  { desk with trade := { desk.trade with pendingExitReason := some reason } }

/-- An exit order is sent. -/
def sendExit (desk : ExitDesk) (input : ExitInput) (quantity : Int) (price : ℚ)
    (reason : String) : ExitDesk :=
  { createOrder desk input .final quantity price none with
    trade :=
      { resetExitOrderProgress desk.trade with
        exitOrderId := some input.orderId
        pendingExitReason := some reason
        state := .exitPending } }

/-- Route the final exit through one order. The stop held at the broker owns an emergency exit. -/
def submitLiveFinalExit (desk : ExitDesk) (input : ExitInput) (reason : String) : ExitDesk :=
  if desk.trade.exitOrderId.isSome then desk
  else if isOptionEmergencyStop (some reason) then
    { desk with
      trade := { desk.trade with
        pendingExitReason := some optionEmergencyStop
        optionExitReason := some optionEmergencyStop } }
  else
    let (cancelled, mayContinue) := cancelLiveProtectiveStopForExit desk input
    if mayContinue = false ∨ input.quote.bid ≤ 0 then awaitExit cancelled reason
    else if openQuantity cancelled.trade ≤ 0 then cancelled
    else sendExit cancelled input (openQuantity cancelled.trade) (finalExitPrice input.quote) reason

/-- The exit of Strategy B. -/
def submitStrategyBExit (desk : ExitDesk) (input : ExitInput) (reason : String) : ExitDesk :=
  if isOptionEmergencyStop (some reason) then
    { desk with
      trade := { desk.trade with
        pendingExitReason := some optionEmergencyStop
        optionExitReason := some optionEmergencyStop } }
  else
    let (cancelled, mayContinue) := cancelLiveProtectiveStopForExit desk input
    if mayContinue = false then awaitExit cancelled reason
    else if input.quote.bid ≤ 0 then cancelled
    else
      sendExit cancelled input (cancelled.trade.quantity - cancelled.trade.exitFilledQuantity)
        (slippedBid input.quote input.costs) reason

/-- Follow an exit order that was sent. Returns whether management may go on. -/
def syncExitOrder (desk : ExitDesk) (input : ExitInput) : ExitDesk × Bool :=
  match desk.trade.exitOrderId with
  | none => (desk, true)
  | some orderId =>
      match getOrder desk.orders orderId with
      | none => (desk, false)
      | some order =>
          let progressed := applyExitOrderProgress desk.trade order
          if order.status = .filled ∨ progressed.quantity ≤ progressed.exitFilledQuantity then
            (closeTrade { desk with trade := progressed } input
              (progressed.exitProceeds / progressed.quantity) progressed.pendingExitReason, false)
          else if order.terminal then
            ({ desk with
                trade := { resetExitOrderProgress progressed with exitOrderId := none } }, true)
          else ({ desk with trade := progressed }, false)

/-- Reconcile the orders of a position. Returns whether management may go on. -/
def reconcile (desk : ExitDesk) (input : ExitInput) : ExitDesk × Bool :=
  let (protected', ready) :=
    if desk.trade.mode = .live ∧ 0 < desk.trade.filledQuantity then
      syncLiveProtectiveStop desk input
    else (desk, true)
  if protected'.trade.state = .closed ∨ ready = false then (protected', false)
  else
    let (reduced, partialReady) :=
      if protected'.trade.mode = .live then syncLiveT1PartialExit protected' input
      else (protected', true)
    if reduced.trade.state = .closed ∨ partialReady = false then (reduced, false)
    else syncExitOrder reduced input

end LiveExit

end BreezeTrading
