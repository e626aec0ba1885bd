/-
This file defines the trades of the strategies: the position as it is tracked, what
management changes of it, how it is settled when it closes, and the exposure a live
trade still has at the broker. Management changes the tracked values only; the
identity of a trade is fixed at its entry.
-/

import BreezeTrading.Strategy.RiskGates
import Mathlib.Data.List.Sort

namespace BreezeTrading

/-! ### Trades -/

/-- The charges of a closed trade. -/
structure Charges where
  brokerage : ℚ
  exchangeCharges : ℚ
  stt : ℚ
  gst : ℚ
  sebiCharges : ℚ
  stampDuty : ℚ
  deriving DecidableEq

/-- What a trade made, as it was settled when it closed. -/
structure Settlement where
  exitOptionPrice : ℚ
  exitSpotPrice : Option ℚ
  finalExitQuantity : Int
  executionOrderCount : Nat
  charges : Charges
  transactionCosts : ℚ
  grossPnl : ℚ
  netPnl : ℚ
  realizedR : Option ℚ
  deriving DecidableEq

/-- Live or paper tracking state of a position, with the fields the modelled services
read or set. -/
structure ActiveTrade where
  tradeId : String
  mode : AutoTradingMode
  strategy : StrategyName
  direction : TradeDirection
  optionType : OptionType
  contractSymbol : String
  contractInstrumentId : String
  expiry : String
  strike : ℚ
  quantity : Int
  entryTime : Int
  entryOptionPrice : ℚ
  entrySpotPrice : ℚ
  initialRPoints : ℚ
  signalId : Option String := none
  contractCaptured : Bool := false
  underlyingEntryPrice : Option ℚ := none
  underlyingR : Option ℚ := none
  initialQuantity : Option Int := none
  entryOrderId : Option String := none
  exitOrderId : Option String := none
  partialExitOrderId : Option String := none
  protectiveStopOrderId : Option String := none
  filledQuantity : Int := 0
  exitFilledQuantity : Int := 0
  exitProceeds : ℚ := 0
  pendingExitReason : Option String := none
  partialExitFilledQuantity : Int := 0
  partialExitPrice : Option ℚ := none
  t1DecisionUnderlyingPrice : Option ℚ := none
  currentOptionPrice : ℚ := 0
  currentSpotPrice : ℚ := 0
  underlyingCurrentPrice : Option ℚ := none
  underlyingExitPrice : Option ℚ := none
  state : TradeLifecycleState := .openInitialRisk
  exitTime : Option Int := none
  exitReason : Option String := none
  settlement : Option Settlement := none
  deriving DecidableEq

/-- The values management sets on a trade it keeps open. -/
structure Tracking where
  state : TradeLifecycleState
  quantity : Int
  entryOptionPrice : ℚ
  initialQuantity : Option Int
  exitOrderId : Option String
  partialExitOrderId : Option String
  protectiveStopOrderId : Option String
  filledQuantity : Int
  exitFilledQuantity : Int
  exitProceeds : ℚ
  pendingExitReason : Option String
  partialExitFilledQuantity : Int
  partialExitPrice : Option ℚ
  t1DecisionUnderlyingPrice : Option ℚ
  currentOptionPrice : ℚ
  currentSpotPrice : ℚ
  underlyingCurrentPrice : Option ℚ
  underlyingExitPrice : Option ℚ
  notClosed : state ≠ .closed
  deriving DecidableEq

namespace ActiveTrade

def netPnl (trade : ActiveTrade) : Option ℚ := trade.settlement.map Settlement.netPnl

def realizedR (trade : ActiveTrade) : Option ℚ := trade.settlement.bind Settlement.realizedR

def isOpen (trade : ActiveTrade) : Bool := decide (trade.state ≠ .closed)

theorem isOpen_iff {trade : ActiveTrade} : trade.isOpen = true ↔ trade.state ≠ .closed := by
  simp [isOpen]

/-- Return locally confirmed broker exposure, not merely requested entry size. -/
def localLiveRemainingQuantity (trade : ActiveTrade) : Int :=
  let baseQuantity := if trade.state = .entryPending then trade.filledQuantity else trade.quantity
  max 0 (baseQuantity - trade.exitFilledQuantity)

theorem localLiveRemainingQuantity_nonneg (trade : ActiveTrade) :
    0 ≤ trade.localLiveRemainingQuantity := le_max_left _ _

/-- Management sets the tracked values of a trade. -/
def track (trade : ActiveTrade) (tracking : Tracking) : ActiveTrade :=
  { trade with
    state := tracking.state
    quantity := tracking.quantity
    entryOptionPrice := tracking.entryOptionPrice
    initialQuantity := tracking.initialQuantity
    exitOrderId := tracking.exitOrderId
    partialExitOrderId := tracking.partialExitOrderId
    protectiveStopOrderId := tracking.protectiveStopOrderId
    filledQuantity := tracking.filledQuantity
    exitFilledQuantity := tracking.exitFilledQuantity
    exitProceeds := tracking.exitProceeds
    pendingExitReason := tracking.pendingExitReason
    partialExitFilledQuantity := tracking.partialExitFilledQuantity
    partialExitPrice := tracking.partialExitPrice
    t1DecisionUnderlyingPrice := tracking.t1DecisionUnderlyingPrice
    currentOptionPrice := tracking.currentOptionPrice
    currentSpotPrice := tracking.currentSpotPrice
    underlyingCurrentPrice := tracking.underlyingCurrentPrice
    underlyingExitPrice := tracking.underlyingExitPrice }

/-- Two states of one trade: its identity and its entry order are the same. -/
structure SameEntry (first second : ActiveTrade) : Prop where
  tradeId : second.tradeId = first.tradeId
  mode : second.mode = first.mode
  strategy : second.strategy = first.strategy
  entryTime : second.entryTime = first.entryTime
  entryOrderId : second.entryOrderId = first.entryOrderId

theorem SameEntry.refl (trade : ActiveTrade) : SameEntry trade trade := ⟨rfl, rfl, rfl, rfl, rfl⟩

theorem SameEntry.trans {first second third : ActiveTrade} (early : SameEntry first second)
    (late : SameEntry second third) : SameEntry first third where
  tradeId := late.tradeId.trans early.tradeId
  mode := late.mode.trans early.mode
  strategy := late.strategy.trans early.strategy
  entryTime := late.entryTime.trans early.entryTime
  entryOrderId := late.entryOrderId.trans early.entryOrderId

section Track

variable (trade : ActiveTrade) (tracking : Tracking)

theorem sameEntry_track : SameEntry trade (trade.track tracking) := ⟨rfl, rfl, rfl, rfl, rfl⟩

end Track

end ActiveTrade

/-! ### Settlement -/

/-- A price that is missing or zero counts as false. -/
def orPrice (price : Option ℚ) (other : ℚ) : ℚ := orNumber (price.getD 0) other

/-- The reasons under which an option is sold because its premium fell too far. -/
def isOptionEmergencyStop (reason : Option String) : Bool :=
  let value := String.ofList ((reason.getD "").toList.takeWhile fun character => character ≠ ' ')
  decide (value = "OPTION_EMERGENCY_STOP" ∨ value = "OPTION_HARD_STOP_HIT")

/-- Return the underlying R multiple for one completed exit fill. -/
def underlyingRForPrice (direction : TradeDirection) (entryPrice riskPoints exitPrice : ℚ) : ℚ :=
  if entryPrice ≤ 0 ∨ riskPoints ≤ 0 ∨ exitPrice ≤ 0 then 0
  else
    let favorable := if direction = .bullish then exitPrice - entryPrice else entryPrice - exitPrice
    roundTo 6 (favorable / riskPoints)

/-- Calculate weighted underlying R across all executed exit quantities. -/
def calculateRealizedTradeR (direction : TradeDirection) (entryPrice riskPoints : ℚ)
    (originalQuantity : Int) (exits : List (Int × ℚ)) : ℚ :=
  if originalQuantity ≤ 0 then 0
  else
    let weighted := ((exits.filter fun exit => decide (0 < exit.1)).map fun exit =>
      exit.1 * underlyingRForPrice direction entryPrice riskPoints exit.2).sum
    roundTo 4 (weighted / originalQuantity)

namespace ActiveTrade

/-- The price of the underlying a trade is taken to exit at. -/
def exitUnderlying (trade : ActiveTrade) (futuresPrice : ℚ) : ℚ :=
  orPrice trade.underlyingExitPrice
    (if 0 < futuresPrice then futuresPrice
    else orPrice trade.underlyingCurrentPrice trade.currentSpotPrice)

/-- The quantity a trade was entered with. -/
def originalQuantity (trade : ActiveTrade) : Int :=
  match trade.initialQuantity with
  | some quantity => if quantity = 0 then trade.quantity + trade.partialExitFilledQuantity else quantity
  | none => trade.quantity + trade.partialExitFilledQuantity

def executionOrderCount (trade : ActiveTrade) : Nat :=
  1 + (if 0 < trade.partialExitFilledQuantity then 1 else 0) +
    if 0 < max 0 trade.quantity then 1 else 0

/-- The charges of a trade that exits at a price. -/
def charges (trade : ActiveTrade) (costs : PaperCosts) (price : ℚ) : Charges :=
  let partialPrice := trade.partialExitPrice.getD 0
  let buyTurnover := trade.entryOptionPrice * trade.originalQuantity
  let turnover := buyTurnover + partialPrice * trade.partialExitFilledQuantity +
    price * (max 0 trade.quantity : Int)
  let sellTurnover := price * trade.quantity + partialPrice * trade.partialExitFilledQuantity
  let brokerage := roundTo 2 (trade.executionOrderCount * costs.brokeragePerOrder)
  let exchangeCharges := roundTo 2 (turnover * costs.exchangeChargeRate)
  let sebiCharges := roundTo 2 (turnover * costs.sebiChargeRate)
  { brokerage := brokerage
    exchangeCharges := exchangeCharges
    stt := roundTo 2 (sellTurnover * costs.sttSellRate)
    gst := roundTo 2 ((brokerage + exchangeCharges + sebiCharges) * costs.gstRate)
    sebiCharges := sebiCharges
    stampDuty := roundTo 2 (buyTurnover * costs.stampBuyRate) }

/-- What a trade realized in R: nothing is realized by the underlying in an emergency stop. -/
def settledR (trade : ActiveTrade) (futuresPrice : ℚ) (reason : Option String) : Option ℚ :=
  let finalQuantity := max 0 trade.quantity
  let exitUnderlying := trade.exitUnderlying futuresPrice
  let partialExits :=
    match trade.t1DecisionUnderlyingPrice with
    | some price =>
        if trade.partialExitFilledQuantity ≠ 0 ∧ price ≠ 0 then
          [(trade.partialExitFilledQuantity, price)]
        else []
    | none => []
  let finalExit :=
    if finalQuantity ≠ 0 ∧ exitUnderlying ≠ 0 then [(finalQuantity, exitUnderlying)] else []
  if isOptionEmergencyStop reason then none
  else
    some (calculateRealizedTradeR trade.direction
      (orPrice trade.underlyingEntryPrice trade.entrySpotPrice)
      (orPrice trade.underlyingR trade.initialRPoints) trade.originalQuantity
      (partialExits ++ finalExit))

/-- What a trade makes that exits at a price. -/
def settlementAt (trade : ActiveTrade) (costs : PaperCosts) (futuresPrice price : ℚ)
    (reason : Option String) : Settlement :=
  let finalQuantity := max 0 trade.quantity
  let grossPnl := roundTo 2 ((price - trade.entryOptionPrice) * finalQuantity +
    (trade.partialExitPrice.getD 0 - trade.entryOptionPrice) * trade.partialExitFilledQuantity)
  let charges := trade.charges costs price
  let transactionCosts := roundTo 2 (charges.brokerage + charges.exchangeCharges + charges.stt +
    charges.gst + charges.sebiCharges + charges.stampDuty)
  { exitOptionPrice := price
    exitSpotPrice :=
      if isOptionEmergencyStop reason then none else some (trade.exitUnderlying futuresPrice)
    finalExitQuantity := finalQuantity
    executionOrderCount := trade.executionOrderCount
    charges := charges
    transactionCosts := transactionCosts
    grossPnl := grossPnl
    netPnl := roundTo 2 (grossPnl - transactionCosts)
    realizedR := trade.settledR futuresPrice reason }

/-- The trade as it is closed at a price: the values `_close_trade` sets. -/
def closeAt (trade : ActiveTrade) (costs : PaperCosts) (futuresPrice price : ℚ)
    (reason : Option String) (exitTime : Int) : ActiveTrade :=
  let closeReason :=
    if isOptionEmergencyStop reason then some "OPTION_EMERGENCY_STOP" else reason
  let settlement := trade.settlementAt costs futuresPrice price reason
  { trade with
    state := .closed
    exitTime := some exitTime
    exitReason := closeReason
    underlyingExitPrice := settlement.exitSpotPrice
    settlement := some settlement }

/-- The trade as it is closed when its entry order ended without a fill. -/
def closeUnfilled (trade : ActiveTrade) (status : String) (exitTime : Int) : ActiveTrade :=
  { trade with
    state := .closed
    exitTime := some exitTime
    exitReason := some ("ENTRY_UNFILLED_" ++ status) }

section Close

variable (trade : ActiveTrade) (costs : PaperCosts) (futuresPrice price : ℚ)
  (reason : Option String) (exitTime : Int)

theorem sameEntry_closeAt :
    SameEntry trade (trade.closeAt costs futuresPrice price reason exitTime) :=
  ⟨rfl, rfl, rfl, rfl, rfl⟩

variable (status : String)

theorem sameEntry_closeUnfilled : SameEntry trade (trade.closeUnfilled status exitTime) :=
  ⟨rfl, rfl, rfl, rfl, rfl⟩

end Close

end ActiveTrade

/-! ### The table of trades -/

/-- `INSERT OR REPLACE`: a trade takes the place of the row with its id. -/
def putTrade (trades : List ActiveTrade) (trade : ActiveTrade) : List ActiveTrade :=
  (trades.filter fun row => decide (row.tradeId ≠ trade.tradeId)) ++ [trade]

variable {trades : List ActiveTrade}

theorem mem_putTrade {trade row : ActiveTrade} : row ∈ putTrade trades trade ↔
      (row ∈ trades ∧ row.tradeId ≠ trade.tradeId) ∨ row = trade := by
  unfold putTrade
  rw [List.mem_append, List.mem_filter, List.mem_singleton, decide_eq_true_eq]

theorem nodup_putTrade (unique : (trades.map ActiveTrade.tradeId).Nodup) (trade : ActiveTrade) :
    ((putTrade trades trade).map ActiveTrade.tradeId).Nodup :=
  Stored.nodup_map_replaced unique trade

/-- `get_active_trades`: the stored trades that are not closed, the latest entry first. -/
def getActiveTrades (trades : List ActiveTrade) : List ActiveTrade :=
  (trades.filter ActiveTrade.isOpen).insertionSort fun first second =>
    second.entryTime ≤ first.entryTime

theorem mem_getActiveTrades {trade : ActiveTrade} :
    trade ∈ getActiveTrades trades ↔ trade ∈ trades ∧ trade.state ≠ .closed := by
  unfold getActiveTrades
  rw [List.mem_insertionSort, List.mem_filter, ActiveTrade.isOpen_iff]

theorem nodup_getActiveTrades (unique : (trades.map ActiveTrade.tradeId).Nodup) :
    ((getActiveTrades trades).map ActiveTrade.tradeId).Nodup := by
  unfold getActiveTrades
  rw [((List.perm_insertionSort _ _).map ActiveTrade.tradeId).nodup_iff]
  exact unique.sublist (List.filter_sublist.map _)

/-- `list_trades`: the latest entries. -/
def listTrades (limit : Nat) (trades : List ActiveTrade) : List ActiveTrade :=
  (trades.insertionSort fun first second => second.entryTime ≤ first.entryTime).take limit

theorem mem_of_mem_listTrades {limit : Nat} {trade : ActiveTrade}
    (listed : trade ∈ listTrades limit trades) : trade ∈ trades :=
  (List.mem_insertionSort _).mp (List.mem_of_mem_take listed)

end BreezeTrading
