/-
This file models the evaluation of a trade whose entry is confirmed: its orders are reconciled,
and then its strategy decides. Strategies A and B ask the position manager, C and D follow the row
of their frozen lifecycle, and E compares its stop and target with a tick or the last completed
candle.
-/

import BreezeTrading.Strategy.LiveExit
import BreezeTrading.Strategy.ReplayExecution

namespace BreezeTrading

/-! ### Inputs -/

/-- A row of the monitor of a frozen lifecycle. -/
structure LifecycleRow where
  signalId : String
  currentR : Option ℚ := none
  currentUnderlyingStop : Option ℚ := none
  underlyingExitReason : Option String := none
  underlyingExitTime : Option Int := none
  underlyingExitPrice : Option ℚ := none
  scaleOutTime : Option Int := none
  scaleOutPrice : Option ℚ := none
  deriving DecidableEq

/-- The status of a monitor; only that of Strategy C keeps a candidate without an option. -/
structure MonitorStatus where
  activeExecutionTrade : Option LifecycleRow := none
  activePaperTrade : Option LifecycleRow := none
  paperTrades : List LifecycleRow := []
  activeCandidateTrade : Option LifecycleRow := none
  deriving DecidableEq

/-- A tick of the futures, and whether it comes from a broker. -/
structure FuturesTick where
  lastPrice : ℚ
  timestamp : Int
  fromBroker : Bool
  deriving DecidableEq

/-- What an evaluation meets of a trade, of the monitors and of the futures. The forced exit of
Strategy E is a minute of the day. -/
structure EvaluationInput extends ExitInput where
  strategyCStatus : MonitorStatus := {}
  strategyDStatus : MonitorStatus := {}
  /-- The last tick of a futures contract. -/
  futuresTick : String → Option FuturesTick := fun _ => none
  strategyEFutures5m : List InstrumentCandle := []
  strategyEForcedExitTime : Int := 915

namespace LiveExit

/-! ### Quotes -/

/-- The last price of an option, or else its bid. -/
def optionPrice (quote : ExitQuote) : ℚ := orNumber quote.lastPrice quote.bid

/-- A simulated position is sold at the bid less the slippage, unless nothing is left of it. -/
def closeAtBid (desk : ExitDesk) (input : ExitInput) (reason : String) : ExitDesk :=
  if slippedBid input.quote input.costs ≤ 0 then desk
  else closeTrade desk input (slippedBid input.quote input.costs) (some reason)

/-- Without a spot price the last one of the trade is used, and no completed bar. -/
def usableFeatures (trade : ManagedTrade) (features : MarketFeatures) : MarketFeatures :=
  if features.spotPrice ≤ 0 then
    { features with
      spotPrice := trade.currentSpotPrice
      closed5mTime := none
      closed5mPrice := none }
  else features

/-- The partial exit of a simulated position. A quantity that is not in whole lots raises, and
leaves the trade as it is. -/
def executePartialExit (trade : ManagedTrade) (input : ExitInput) : ManagedTrade :=
  let price := max 0 (slippedBid input.quote input.costs)
  if trade.t1ExitQuantity ≤ 0 ∨ trade.t1ExitQuantity.fmod trade.lotSize ≠ 0 then trade
  else if input.quote.bid ≤ 0 ∨ price ≤ 0 then { trade with t1ExitPending := true }
  else
    (PositionManager.applyT1PartialFill trade input.quote.bid price input.costs.slippagePoints
      input.features.timestamp).2

/-- The first target is sold, if there is a bid for it. -/
def exitPartially (desk : ExitDesk) (input : ExitInput) : ExitDesk :=
  if desk.trade.mode = .live then submitLiveT1PartialExit desk input
  else { desk with trade := executePartialExit desk.trade input }

/-! ### Strategy A -/

def optionEmergencyStopUnderlyingReason : String := "OPTION_HARD_STOP_PREEMPTED_UNDERLYING"

/-- An exit that was decided before is carried out; it is never decided again. -/
def carryOutExitA (desk : ExitDesk) (input : ExitInput) (reason : String) : ExitDesk :=
  if input.quote.valid = false ∨ slippedBid input.quote input.costs ≤ 0 then desk
  else if desk.trade.mode = .live then submitLiveFinalExit desk input reason
  else closeAtBid desk input reason

/-- The premium fell too far: the option is sold whatever the futures do. -/
def decideEmergencyA (desk : ExitDesk) (input : ExitInput) : ExitDesk :=
  let decided :=
    { desk with
      trade := { desk.trade with
        pendingExitReason := some optionEmergencyStop
        optionExitReason := some optionEmergencyStop
        underlyingExitReason := some optionEmergencyStopUnderlyingReason
        underlyingExitTime := none
        underlyingExitPrice := none } }
  if input.quote.valid = false then decided
  else if desk.trade.mode = .live then submitLiveFinalExit decided input optionEmergencyStop
  else closeAtBid decided input optionEmergencyStop

/-- The futures decide the exit, with or without a price for the option. -/
def decideExitA (desk : ExitDesk) (input : ExitInput) (reason : String) : ExitDesk :=
  let decided :=
    { desk with
      trade := { desk.trade with
        pendingExitReason := some reason
        underlyingExitReason := some reason
        underlyingExitTime := some input.features.timestamp
        pendingUnderlyingExitTime := some input.features.timestamp
        underlyingExitPrice :=
          if 0 < input.features.futuresPrice then some input.features.futuresPrice
          else desk.trade.underlyingCurrentPrice } }
  if input.quote.valid = false then decided
  else if desk.trade.mode = .live then submitLiveFinalExit decided input reason
  else closeAtBid decided input reason

/-- The update of the position manager that an evaluation asks for. -/
def managerUpdate (trade : ManagedTrade) (input : ExitInput) : ManagedTrade × Option String :=
  let price := optionPrice input.quote
  input.manager.updatePosition trade input.features
    (if 0 < price then some (roundTo 2 price) else none) input.now
    (some input.features.timestamp)

/-- What the update of a trade of Strategy A decided. -/
def settleUpdateA (desk : ExitDesk) (input : ExitInput) : Option String → ExitDesk
  | none => desk
  | some event =>
      if isOptionEmergencyStop (some event) then decideEmergencyA desk input
      else if event = "T1_PARTIAL_EXIT" then
        if input.quote.valid then exitPartially desk input
        else { desk with trade := { desk.trade with t1ExitPending := true } }
      else if event = "T1_REACHED_NO_PARTIAL_ONE_LOT" then desk
      else decideExitA desk input event

def evaluateStrategyA (desk : ExitDesk) (input : ExitInput) : ExitDesk :=
  match desk.trade.pendingExitReason with
  | some reason => carryOutExitA desk input reason
  | none =>
      settleUpdateA { desk with trade := (managerUpdate desk.trade input).1 } input
        (managerUpdate desk.trade input).2

/-! ### Strategy B -/

/-- Strategy B is managed only with a price of the option. -/
def evaluateStrategyB (desk : ExitDesk) (input : ExitInput) : ExitDesk :=
  if input.quote.status ≠ "VALID" ∨ optionPrice input.quote ≤ 0 then desk
  else
    let updated := { desk with trade := (managerUpdate desk.trade input).1 }
    let event := (managerUpdate desk.trade input).2
    if event = some "T1_PARTIAL_EXIT" then exitPartially updated input
    else if event = some "T1_REACHED_NO_PARTIAL_ONE_LOT" then updated
    else
      match updated.trade.pendingExitReason <|> event with
      | none => updated
      | some reason =>
          if desk.trade.mode = .live then submitStrategyBExit updated input reason
          else closeTrade updated input (slippedBid input.quote input.costs) (some reason)

/-! ### Strategies C and D -/

/-- `_candidate_runtime_for_trade`: the row of the frozen lifecycle of a trade. -/
def candidateRuntime (trade : ManagedTrade) (input : EvaluationInput) : Option LifecycleRow :=
  let own (row : LifecycleRow) : Bool := decide (row.signalId = trade.signalId.getD "")
  let rows (status : MonitorStatus) : List LifecycleRow :=
    status.activeExecutionTrade.toList ++ status.activePaperTrade.toList ++ status.paperTrades
  match trade.strategy with
  | .diContinuation =>
      (rows input.strategyCStatus).find? own <|>
        input.strategyCStatus.activeCandidateTrade.filter own
  | .srMomentumBreakout => (rows input.strategyDStatus).find? own
  | _ => none

/-- Exit about half the position while preserving whole exchange lots. -/
def scaleOutLots (totalLots : Int) : Int := if 2 ≤ totalLots then totalLots.fdiv 2 else 0

/-- The price of the underlying by the row of the lifecycle. -/
def rowUnderlying (trade : ManagedTrade) (features : MarketFeatures) (row : LifecycleRow) : ℚ :=
  let entry := orPrice trade.underlyingEntryPrice trade.entrySpotPrice
  let risk := orPrice trade.underlyingR trade.initialRPoints
  match row.underlyingExitPrice with
  | some price => price
  | none =>
      if 0 < risk then levelAbove trade.direction entry (trade.currentR * risk)
      else if trade.strategy = .diContinuation then features.futuresPrice
      else features.spotPrice

/-- The values the row of the lifecycle sets on a trade. -/
def trackRow (trade : ManagedTrade) (input : ExitInput) (row : LifecycleRow) : ManagedTrade :=
  let currentR := roundTo 6 (row.currentR.getD trade.currentR)
  let moved : ManagedTrade :=
    { trade with
      currentTrailingStop := row.currentUnderlyingStop.getD trade.currentTrailingStop
      currentR
      peakR := max trade.peakR currentR }
  let underlying := rowUnderlying moved input.features row
  let price := optionPrice input.quote
  let priced := input.quote.valid && decide (0 < price)
  { moved with
    currentSpotPrice := underlying
    underlyingCurrentPrice := some underlying
    currentOptionPrice := if priced then price else moved.currentOptionPrice
    unrealizedPnl :=
      if priced then roundTo 2 ((price - trade.entryOptionPrice) * trade.quantity)
      else moved.unrealizedPnl }

/-- Strategy D scales out once its lifecycle did, unless an exit is decided. -/
def scaleOut (trade : ManagedTrade) (row : LifecycleRow) : ManagedTrade :=
  if trade.strategy = .srMomentumBreakout ∧ row.scaleOutTime.isSome ∧ trade.t1Reached = false ∧
      trade.pendingExitReason = none then
    let originalQuantity := orQuantity trade.initialQuantity trade.quantity
    let originalLots := if 0 < trade.lotSize then originalQuantity.fdiv trade.lotSize else 0
    let partialLots := scaleOutLots originalLots
    if 0 < partialLots then
      let scalePrice := orPrice row.scaleOutPrice (trade.underlyingCurrentPrice.getD 0)
      { trade with
        t1Reached := true
        t1ExitQuantity := partialLots * trade.lotSize
        t1DecisionUnderlyingPrice := some scalePrice
        t1DecisionR := some (underlyingRForPrice trade.direction
          (orPrice trade.underlyingEntryPrice trade.entrySpotPrice)
          (orPrice trade.underlyingR trade.initialRPoints) scalePrice)
        t1ExitPending := true }
    else { trade with t1Reached := true, t1ExitQuantity := 0, t1ExitPending := false }
  else trade

/-- The partial exit of a trade is decided and not filled. -/
def partialDue (trade : ManagedTrade) : Bool :=
  trade.t1ExitPending && decide (trade.partialExitFilledQuantity < trade.t1ExitQuantity)

def decideCandidateExit (desk : ExitDesk) (input : ExitInput) (row : LifecycleRow)
    (reason : String) : ExitDesk :=
  let exitTime := row.underlyingExitTime.getD input.features.timestamp
  let decided :=
    { desk with
      trade := { desk.trade with
        pendingExitReason := some reason
        underlyingExitReason := some reason
        underlyingExitTime := some exitTime
        pendingUnderlyingExitTime := some exitTime
        underlyingExitPrice :=
          some (orPrice row.underlyingExitPrice (desk.trade.underlyingCurrentPrice.getD 0)) } }
  if input.quote.valid = false then decided
  else if desk.trade.mode = .live then
    if desk.trade.partialExitOrderId.isSome then decided
    else submitLiveFinalExit decided input reason
  else closeAtBid decided input reason

/-- The first target of a simulated trade of C or D makes it a runner. -/
def candidatePartialExit (desk : ExitDesk) (input : ExitInput) : ExitDesk :=
  if input.quote.valid = false then desk
  else if desk.trade.mode = .live then submitLiveT1PartialExit desk input
  else { desk with trade := executePartialExit { desk.trade with state := .runnerMode } input }

/-- The premium of a simulated position fell to its hard stop. -/
def optionStopHit (trade : ManagedTrade) (quote : ExitQuote) : Bool :=
  decide (trade.mode ≠ .live) && quote.valid && decide (0 < optionPrice quote) &&
    decide (optionPrice quote ≤ trade.optionHardStopPrice)

/-- A trade that the row of its lifecycle is known for. -/
def settleRow (desk : ExitDesk) (input : ExitInput) (row : LifecycleRow) : ExitDesk :=
  let tracked := trackRow desk.trade input row
  if optionStopHit tracked input.quote then
    closeTrade { desk with trade := tracked } input
      (max 0 (slippedBid input.quote input.costs)) (some optionEmergencyStop)
  else
    let scaled := { desk with trade := scaleOut tracked row }
    -- the partial exit is asked for before the exit is
    if partialDue scaled.trade then candidatePartialExit scaled input
    else
      match desk.trade.pendingExitReason <|> row.underlyingExitReason with
      | some reason => decideCandidateExit scaled input row reason
      | none => scaled

/-- Manage promoted C and D trades from their frozen underlying lifecycle. -/
def evaluateCandidate (desk : ExitDesk) (input : EvaluationInput) : ExitDesk :=
  match candidateRuntime desk.trade input with
  | none => desk
  | some row => settleRow desk input.toExitInput row

/-! ### Strategy E -/

/-- What Strategy E sees of its underlying: a price with its time, and how low and high it went. -/
structure UnderlyingView where
  price : ℚ
  time : Int
  low : ℚ
  high : ℚ
  completed : Bool

/-- A fresh tick, or else the last completed candle. -/
def underlyingView (trade : ManagedTrade) (input : EvaluationInput) : Option UnderlyingView :=
  let contract := trade.futuresContractId.filter fun contract => decide (contract ≠ "")
  let tick := (contract.bind input.futuresTick).filter fun tick =>
    tick.fromBroker && decide (0 < tick.lastPrice ∧ input.now - tick.timestamp ≤ 30000000)
  match tick with
  | some tick => some ⟨tick.lastPrice, tick.timestamp, tick.lastPrice, tick.lastPrice, false⟩
  | none =>
      ((input.strategyEFutures5m.filter fun candle =>
        contract.all fun contract => decide (candle.instrumentId = contract)).getLast?).map
          fun candle => ⟨candle.close, candle.endTime, candle.low, candle.high, true⟩

/-- The levels a trade of Strategy E was entered with. -/
structure EntryLevels where
  entry : ℚ
  risk : ℚ
  stop : ℚ
  target : ℚ

def entryLevels (trade : ManagedTrade) : EntryLevels where
  entry := orPrice trade.underlyingEntryPrice trade.entrySpotPrice
  risk := orNumber trade.initialRPoints (trade.underlyingR.getD 0)
  stop := orNumber trade.currentTrailingStop trade.initialStructuralStop
  target := trade.strategyTargetPrice.getD 0

def EntryLevels.positive (levels : EntryLevels) : Bool :=
  decide (0 < levels.entry ∧ 0 < levels.risk ∧ 0 < levels.stop ∧ 0 < levels.target)

/-- The view touches the stop. -/
def viewStopped (direction : TradeDirection) (view : UnderlyingView) (stop : ℚ) : Bool :=
  hitsStop direction (if direction = .bullish then view.low else view.high) stop

/-- The view touches the target. -/
def viewReached (direction : TradeDirection) (view : UnderlyingView) (target : ℚ) : Bool :=
  if direction = .bullish then decide (target ≤ view.high) else decide (view.low ≤ target)

/-- The exit of Strategy E with its price; if both levels are touched the stop wins. -/
def lifecycleExit (direction : TradeDirection) (levels : EntryLevels) (view : UnderlyingView)
    (forcedExitTime : Int) : Option (String × ℚ) :=
  let decisionPrice (price : ℚ) : ℚ := if view.completed then roundTo 6 price else price
  if viewStopped direction view levels.stop then
    some ("STRATEGY_E_STOP_LOSS", decisionPrice levels.stop)
  else if viewReached direction view levels.target then
    some ("STRATEGY_E_TARGET", decisionPrice levels.target)
  else if forcedExitTime ≤ PositionManager.minutesOfDay view.time then
    some ("STRATEGY_E_FORCED_EXIT", decisionPrice view.price)
  else none

/-- The values a quote sets on a trade of Strategy E. -/
def trackQuoteE (trade : ManagedTrade) (quote : ExitQuote) : ManagedTrade :=
  if 0 < optionPrice quote then
    { trade with
      currentOptionPrice := roundTo 2 (optionPrice quote)
      unrealizedPnl := roundTo 2
        ((roundTo 2 (optionPrice quote) - trade.entryOptionPrice) * openQuantity trade) }
  else trade

/-- The values the underlying sets on a trade of Strategy E. -/
def trackViewE (trade : ManagedTrade) (levels : EntryLevels) (view : UnderlyingView) :
    ManagedTrade :=
  let currentR := underlyingRForPrice trade.direction levels.entry levels.risk view.price
  { trade with
    currentSpotPrice := roundTo 2 view.price
    underlyingCurrentPrice := some (roundTo 2 view.price)
    currentR
    peakR := max trade.peakR currentR }

/-- An exit of Strategy E is carried out, as far as there is a quote. -/
def carryOutExitE (desk : ExitDesk) (input : ExitInput) (reason : String) : ExitDesk :=
  if input.quote.valid = false then desk
  else if desk.trade.mode = .live then submitLiveFinalExit desk input reason
  else closeAtBid desk input reason

/-- The underlying decides the exit of Strategy E. -/
def decideExitE (desk : ExitDesk) (input : ExitInput) (view : UnderlyingView) (reason : String)
    (price : ℚ) : ExitDesk :=
  let emergency := isOptionEmergencyStop (some reason)
  carryOutExitE
    { desk with
      trade := { desk.trade with
        pendingExitReason := some reason
        underlyingExitReason :=
          some (if emergency then optionEmergencyStopUnderlyingReason else reason)
        underlyingExitTime := some view.time
        underlyingExitPrice := some (roundTo 2 price)
        optionExitReason :=
          if emergency then some optionEmergencyStop else desk.trade.optionExitReason } }
    input reason

/-- The exit of a view: that of the lifecycle, or of a simulated position by its premium. -/
def exitOfView (trade : ManagedTrade) (input : EvaluationInput) (view : UnderlyingView) :
    Option (String × ℚ) :=
  lifecycleExit trade.direction (entryLevels trade) view input.strategyEForcedExitTime <|>
    if trade.mode ≠ .live ∧ input.quote.valid = true ∧ optionPrice input.quote ≠ 0 ∧
        optionPrice input.quote ≤ trade.optionHardStopPrice then
      some (optionEmergencyStop, view.price)
    else none

/-- Manage Strategy E from its underlying futures stop/target thesis. -/
def evaluateStrategyE (desk : ExitDesk) (input : EvaluationInput) : ExitDesk :=
  let quoted := { desk with trade := trackQuoteE desk.trade input.quote }
  match desk.trade.pendingExitReason with
  | some reason => carryOutExitE quoted input.toExitInput reason
  | none =>
      match (underlyingView desk.trade input).filter fun view => decide (0 < view.price) with
      | none => quoted
      | some view =>
          if (entryLevels desk.trade).positive = false then quoted
          else
            let viewed :=
              { quoted with trade := trackViewE quoted.trade (entryLevels desk.trade) view }
            match exitOfView desk.trade input view with
            | none => viewed
            | some (reason, price) => decideExitE viewed input.toExitInput view reason price

/-! ### The evaluation -/

/-- What the strategy of a trade decides once its orders are reconciled. -/
def evaluateByStrategy (desk : ExitDesk) (input : EvaluationInput) : ExitDesk :=
  match desk.trade.strategy with
  | .trendPullback => evaluateStrategyA desk input.toExitInput
  | .volatilityBreakout => evaluateStrategyB desk input.toExitInput
  | .diContinuation | .srMomentumBreakout => evaluateCandidate desk input
  | .pivotVwapScalp => evaluateStrategyE desk input

/-- Evaluate a trade whose entry is confirmed. -/
def evaluateActiveTrade (desk : ExitDesk) (input : EvaluationInput) : ExitDesk :=
  let input :=
    { input with features := usableFeatures desk.trade input.features }
  let (reconciled, ready) := reconcile desk input.toExitInput
  if ready then evaluateByStrategy reconciled input else reconciled

end LiveExit

end BreezeTrading
