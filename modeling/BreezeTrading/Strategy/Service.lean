/-
This file models the strategy service: the operations on its configuration, the
evaluation cycle with its entry gates and the dispatch of an entry, the entry an
operator forces, and the status. Every await is an operation; what the strategies,
the contract selection and the sizing come to is answered from outside.
-/

import BreezeTrading.Strategy.Management

namespace BreezeTrading

/-! ### The execution policy -/

/-- The execution authority granted to a strategy. -/
structure StrategyExecutionPolicy where
  strategy : StrategyName
  callMode : AutoTradingMode
  putMode : AutoTradingMode
  liveTradingAllowed : Bool
  promotionState : String
  liveBlockReason : String
  forceEntryAllowed : Bool
  deriving DecidableEq, Repr

/-- Return the maximum currently-approved execution authority. -/
def resolveStrategyExecutionPolicy (strategy : StrategyName) (requestedMode : AutoTradingMode) :
    StrategyExecutionPolicy where
  strategy := strategy
  callMode := requestedMode
  putMode := requestedMode
  liveTradingAllowed := true
  promotionState := "LIVE_PROMOTED"
  liveBlockReason := ""
  forceEntryAllowed := decide (strategy = .volatilityBreakout)

def StrategyExecutionPolicy.modeFor (policy : StrategyExecutionPolicy) :
    OptionType → AutoTradingMode
  | .call => policy.callMode
  | .put => policy.putMode

/-- Resolve execution mode from the authoritative permission policy. -/
def executionModeForStrategy (config : AutoTradingConfig) (strategy : StrategyName)
    (optionType : OptionType) : AutoTradingMode :=
  (resolveStrategyExecutionPolicy strategy config.mode).modeFor optionType

@[simp] theorem executionModeForStrategy_eq (config : AutoTradingConfig) (strategy : StrategyName)
    (optionType : OptionType) : executionModeForStrategy config strategy optionType = config.mode := by
  cases optionType <;> rfl

/-! ### The day of a trade -/

/-- The trades entered on the day of a moment. -/
def tradesOfDay (moment : Int) (trades : List ActiveTrade) : List ActiveTrade :=
  trades.filter fun trade => decide (istDay trade.entryTime = istDay moment)

def lossExits (trades : List ActiveTrade) : List Int :=
  (trades.filter fun trade => decide (trade.netPnl.getD 0 < 0)).filterMap ActiveTrade.exitTime

def tradesOf (strategy : StrategyName) (trades : List ActiveTrade) : List ActiveTrade :=
  trades.filter fun trade => decide (trade.strategy = strategy)

/-- The losing trades of a strategy that have ended. -/
def failuresOf (strategy : StrategyName) (trades : List ActiveTrade) : List ActiveTrade :=
  (tradesOf strategy trades).filter fun trade =>
    decide (trade.exitTime ≠ none ∧ trade.netPnl.getD 0 < 0)

def totalR (trades : List ActiveTrade) : ℚ := (trades.map fun trade => trade.realizedR.getD 0).sum

/-- What the trades made. -/
def totalPnl (trades : List ActiveTrade) : ℚ := (trades.map fun trade => trade.netPnl.getD 0).sum

namespace StrategyService

/-! ### The configuration -/

def saveAutoConfig (object : Nat) (persistFile : Bool) : StrategyTask Unit := do
  let _ ← suspend (.insertConfigRow object)
  suspendIf (persistFile = true) (.writeConfigFile object)

def updateConfig (change : ConfigChange) : StrategyTask Unit := do
  let object ← suspend (.applyConfig change)
  let _ ← suspend .elsewhere
  saveAutoConfig object true
  let _ ← suspend .elsewhere

/-- The end of `arm_system`: what was set is stored. -/
def storeArming (object : Nat) : StrategyTask Unit := do
  saveAutoConfig object false
  let _ ← suspend .elsewhere

/-- Switch PAPER/SHADOW/LIVE authority while forcing the system disarmed. -/
def setExecutionMode (mode : AutoTradingMode) : StrategyTask Unit := do
  if mode = .disabled then
    throw ⟨"DISABLED is not available from the trading-mode switch."⟩
  let activeTrades ← suspend (.getActiveTrades .looking)
  match ← suspend (.beginSwitch mode activeTrades) with
  | .applied object =>
      let _ ← suspend .elsewhere
      saveAutoConfig object true
      let _ ← suspend .elsewhere
  | .disarming object =>
      storeArming object
      updateConfig (.switched mode)

/-- `arm_strategy_system`: arming in the live mode waits for the preflight. -/
def armStrategySystem (armed : Bool) : StrategyTask Unit := do
  match ← suspend (.requestArm armed) with
  | .carriedOut object => storeArming object
  | .preflight =>
      let readiness ← suspend .getLivePreflight
      if readiness ≠ "READY_FOR_LIVE" then
        throw ⟨"LIVE strategy arming blocked by current preflight"⟩
      let object ← suspend (.armSystem ⟨.live, some readiness⟩)
      storeArming object

def setAutoTrade (enabled : Bool) : StrategyTask Unit := do
  let object ← suspend (.setAutoTrade enabled)
  saveAutoConfig object true
  let _ ← suspend .elsewhere

def toggleKillSwitch (active : Bool) : StrategyTask Unit := do
  let (object, call) ← suspend (.setKillSwitch active)
  saveAutoConfig object true
  let _ ← suspend .elsewhere
  let _ ← suspend (.killSwitchReturned active call)

/-- Status payload consumed by the UI. -/
def getStatus : StrategyTask Unit := do
  let _ ← suspend (.getActiveTrades .looking)
  let activeTrades ← suspend (.getActiveTrades .looking)
  let _ ← suspend (.cacheActiveTrades activeTrades)
  let _ ← suspend .elsewhere

/-! ### The entry gates of a cycle -/

/-- Some strategy has the data to trade on. -/
def dataAvailable (tunables : StrategyTunables) (market : MarketView) : Bool :=
  (tunables.trendPullbackEnabled && market.hasFuturesCandles) ||
    (tunables.pivotVwapScalpEnabled && market.hasStrategyECandles) ||
    market.dataReady || market.breakoutDataReady ||
    (tunables.diContinuationEnabled && market.activeCandidateTrade) ||
    (tunables.srMomentumBreakoutEnabled && market.executionSignal) ||
    (market.bypassEntryWindow && decide (0 < market.spotPrice))

/-- The entry window of the enabled strategies is open. -/
def enabledWindow (tunables : StrategyTunables) (market : MarketView) : Bool :=
  let shared :=
    if tunables.trendPullbackEnabled && !tunables.volatilityBreakoutEnabled then
      market.strategyAWindow
    else if tunables.volatilityBreakoutEnabled && !tunables.trendPullbackEnabled then
      market.strategyBWindow
    else market.strategyAWindow || market.strategyBWindow
  if tunables.pivotVwapScalpEnabled then
    if !tunables.trendPullbackEnabled && !tunables.volatilityBreakoutEnabled then
      market.strategyEWindow
    else shared || market.strategyEWindow
  else shared

/-- The gates of a cycle up to the read of the trades of the day: the status of the first one
that refuses. -/
def entryGate (memory : Memory) (now : Int) (market : MarketView) : Option String :=
  let config := memory.config
  let capacityGate := checkPositionCapacity config.risk memory.activeTradesCache.length
  let cooldownGate := checkLossCooldown config.risk now memory.lastLossExitTime
  if config.killSwitch then some "HALTED_KILL_SWITCH"
  else if !dataAvailable config.tunables market then some "DATA_UNAVAILABLE"
  else if !capacityGate.allowed then some capacityGate.status
  else if !config.autoTradeEnabled || decide (config.mode = .disabled) then
    some "AUTO_TRADE_DISABLED"
  else if !(enabledWindow config.tunables market || market.bypassEntryWindow) then
    some "OUTSIDE_ENTRY_WINDOW"
  else if !cooldownGate.allowed then some cooldownGate.status
  else none

/-- The gates of a cycle over the trades of the day. -/
def dayGate (config : AutoTradingConfig) (now : Int) (todayTrades : List ActiveTrade) :
    Option String :=
  let dailyLossGate := checkDailyLossLimits config.risk (totalR todayTrades)
    (some (totalPnl todayTrades)) (some config.risk.accountEquity)
  let repositoryCooldownGate := checkLossCooldown config.risk now (lossExits todayTrades).max?
  let dailyTradeGate := checkDailyTradeLimit config.risk todayTrades.length none
  if !dailyLossGate.allowed then some dailyLossGate.status
  else if !repositoryCooldownGate.allowed then some repositoryCooldownGate.status
  else if !dailyTradeGate.allowed then some dailyTradeGate.status
  else if decide (config.mode = .live) && !config.systemArmed then some "LIVE_SYSTEM_NOT_ARMED"
  else none

/-- The gates of a signal: one position of Strategy E at a time, and the limits of its
strategy. -/
def signalGate (memory : Memory) (strategy : StrategyName) (todayTrades : List ActiveTrade) :
    Option String :=
  let strategyGate := checkStrategyTradeLimits memory.config.risk
    (tradesOf strategy todayTrades).length (failuresOf strategy todayTrades).length
  if decide (strategy = .pivotVwapScalp) &&
      memory.activeTradesCache.any fun trade => decide (trade.strategy = .pivotVwapScalp) then
    some "STRATEGY_E_POSITION_ALREADY_OPEN"
  else if !strategyGate.allowed then some strategyGate.status
  else none

def liveOrderGate (config : AutoTradingConfig) (executionMode : AutoTradingMode)
    (contract : SelectedContract) : Option String :=
  if decide (executionMode = .live) && !contract.liveOrdersEnabled then
    some "LIVE_TRADING_DISABLED"
  else if decide (executionMode = .live) && !config.systemArmed then some "LIVE_SYSTEM_NOT_ARMED"
  else none

/-! ### The dispatch of an entry -/

/-- The price a trade is entered at: a simulated one pays the slippage. -/
def entryPrice (costs : PaperCosts) (mode : AutoTradingMode) (contract : SelectedContract) : ℚ :=
  roundTo 2 (contract.askPrice +
    if mode = .paper ∨ mode = .shadowOnly then costs.slippagePoints else 0)

/-- The trade a contract is entered with, in a mode, at a time. -/
def newTrade (tradeId : String) (costs : PaperCosts) (mode : AutoTradingMode)
    (strategy : StrategyName) (direction : TradeDirection) (optionType : OptionType)
    (contract : SelectedContract) (now : Int) (underlying rPoints : ℚ) : ActiveTrade where
  tradeId := tradeId
  mode := mode
  strategy := strategy
  direction := direction
  optionType := optionType
  contractSymbol := contract.symbol
  contractInstrumentId := contract.instrumentId
  expiry := contract.expiry
  strike := contract.strike
  quantity := contract.quantity
  entryTime := now
  entryOptionPrice := entryPrice costs mode contract
  entrySpotPrice := underlying
  initialRPoints := rPoints
  contractCaptured := true
  initialQuantity := some contract.quantity
  currentOptionPrice := orNumber contract.lastPrice contract.askPrice
  currentSpotPrice := underlying
  state := if mode = .live then .entryPending else .openInitialRisk

/-- The distance of the structural stop of a forced entry. -/
def forcedRPoints (direction : TradeDirection) (spot atr5m : ℚ) : ℚ :=
  let atr := max 10 (if 0 < atr5m then atr5m else 15)
  if direction = .bullish then roundTo 2 (spot - roundTo 2 (spot - 85 / 100 * atr))
  else roundTo 2 (roundTo 2 (spot + 85 / 100 * atr) - spot)

/-- The trade of a forced entry. Its id has the resolution of one second. -/
def forcedTrade (costs : PaperCosts) (mode : AutoTradingMode) (strategy : StrategyName)
    (direction : TradeDirection) (optionType : OptionType) (contract : SelectedContract)
    (now : Int) (market : MarketView) : ActiveTrade :=
  newTrade ("TRD-FORCED-" ++ toString (now / 1000000)) costs mode strategy direction optionType
    contract now market.spotPrice (forcedRPoints direction market.spotPrice market.atr5m)

/-- The trade of a signal of a cycle. Its id has the resolution of one second. -/
def signalTrade (costs : PaperCosts) (mode : AutoTradingMode) (signal : EntrySignal)
    (contract : SelectedContract) (now : Int) : ActiveTrade :=
  { newTrade ("TRD-" ++ toString (now / 1000000)) costs mode signal.strategy signal.direction
      signal.optionType contract now signal.underlyingEntry signal.rPoints with
    signalId := some signal.signalId
    underlyingEntryPrice := some signal.underlyingEntry
    underlyingCurrentPrice := some signal.underlyingEntry
    underlyingR := some signal.rPoints }

/-- The purchase of a simulated entry is recorded at once. -/
def recordSimulatedEntry (trade : ActiveTrade) : StrategyTask Unit :=
  suspendIf (trade.mode ≠ .live) (.recordExecution
    { tradeId := trade.tradeId
      kind := .entry
      side := .buy
      executablePrice := trade.entryOptionPrice
      quantity := trade.quantity
      reason := some "PAPER_OR_SHADOW_ENTRY" })

/-- The order of a live entry is created, and the trade is stored once more with its id. -/
def submitEntryOrder (trade : ActiveTrade) (contract : SelectedContract) : StrategyTask Unit :=
  if trade.mode ≠ .live then return ()
  else do
    let orderId ← suspend (.createOrderIntent
      { correlationId := trade.tradeId
        instrumentId := contract.instrumentId
        symbol := contract.symbol
        side := .buy
        orderType := .limit
        quantity := contract.quantity
        price := contract.askPrice })
    let _ ← suspend (.saveTrade
      { trade with entryOrderId := some orderId, state := .entryPending } .reference)

/-- Create the trade of a signal and dispatch its order. -/
def enterTrade (trade : ActiveTrade) (contract : SelectedContract) : StrategyTask Unit := do
  let _ ← suspend (.saveTrade trade .entry)
  finallyDo (do
    suspendIf (trade.strategy = .trendPullback) (.logEntry trade)
    recordSimulatedEntry trade
    suspendIf (trade.strategy = .trendPullback ∧ trade.mode ≠ .live) (.logEntry trade)
    let _ ← suspend (.appendActiveTrade trade)
    let _ ← suspend (.logEntry trade)
    submitEntryOrder trade contract
    let _ ← suspend .elsewhere) (.endEntry trade.tradeId)

/-- Create a forced trade and dispatch its order. -/
def enterForcedTrade (trade : ActiveTrade) (contract : SelectedContract) : StrategyTask Unit := do
  let _ ← suspend (.saveTrade trade .forcedEntry)
  finallyDo (do
    let _ ← suspend (.appendActiveTrade trade)
    recordSimulatedEntry trade
    let _ ← suspend (.logEntry trade)
    submitEntryOrder trade contract
    let _ ← suspend .elsewhere) (.endEntry trade.tradeId)

/-! ### The evaluation cycle -/

/-- The runtime of the strategies is saved, and a status returned. -/
def refuse (status : String) : StrategyTask String := do
  let _ ← suspend .elsewhere
  return status

/-- The live gate and the dispatch of a signal, in the mode it is executed in. -/
def dispatchSignal (now : Int) (signal : EntrySignal) (contract : SelectedContract)
    (executionMode : AutoTradingMode) (config : AutoTradingConfig) : StrategyTask String := do
  match liveOrderGate config executionMode contract with
  | some status => refuse status
  | none =>
    enterTrade (signalTrade config.costs executionMode signal contract now) contract
    return "TRADE_OPENED"

/-- The execution of a signal that passed its gates: contract, size, live gate, dispatch. -/
def executeSignal (now : Int) (signal : EntrySignal) : StrategyTask String := do
  let _ ← suspend .elsewhere
  let memory ← suspend .readMemory
  let executionMode := executionModeForStrategy memory.config signal.strategy signal.optionType
  match ← suspend .selectContract with
  | none => refuse "CONTRACT_SELECTION_FAILED"
  | some contract =>
    let _ ← suspend .elsewhere
    let memory ← suspend .readMemory
    if contract.lots < 1 then
      refuse "INSUFFICIENT_CAPITAL_OR_RISK_BUDGET"
    else
      dispatchSignal now signal contract executionMode memory.config

/-- The search for an entry, once the first gates are passed. -/
def seekEntry (now : Int) : StrategyTask String := do
  let listed ← suspend (.listTrades 1000)
  let memory ← suspend .readMemory
  let todayTrades := tradesOfDay now listed
  match dayGate memory.config now todayTrades with
  | some status => refuse status
  | none =>
    match ← suspend .evaluateStrategies with
    | none => return "NO_SIGNAL"
    | some signal =>
      let memory ← suspend .readMemory
      match signalGate memory signal.strategy todayTrades with
      | some status => return status
      | none => executeSignal now signal

/-- `_evaluate_cycle`: features, management of the open trades, entry. -/
def evaluateCycleLocked : StrategyTask String := do
  let now ← suspend .utcNow
  let market ← suspend .gatherFeatures
  let active ← suspend (.getActiveTrades .management)
  finallyDo (do
    let _ ← suspend (.cacheActiveTrades active)
    evaluateActiveTrades active) (.putDown (active.map ActiveTrade.tradeId))
  let remaining ← suspend (.getActiveTrades .entry)
  let gate ← suspend (.passEntryGate remaining market.executionFeedHealthy)
  match gate.disarmed with
  | some object =>
      saveAutoConfig object false
      let _ ← suspend .elsewhere
      return "LIVE_RUNTIME_HEALTH_AUTO_DISARMED"
  | none =>
    match entryGate gate.memory now market with
    | some status => refuse status
    | none => seekEntry now

/-- `evaluate_cycle`, under the evaluation lock. -/
def evaluateCycle : StrategyTask String := do
  let _ ← suspend .acquireEvaluationLock
  finallyDo evaluateCycleLocked .releaseEvaluationLock

/-! ### The forced entry -/

/-- The live gate and the dispatch of a forced entry. -/
def dispatchForced (strategy : StrategyName) (direction : TradeDirection)
    (optionType : OptionType) (now : Int) (market : MarketView) (contract : SelectedContract)
    (config : AutoTradingConfig) : StrategyTask String := do
  let executionMode := executionModeForStrategy config strategy optionType
  match liveOrderGate config executionMode contract with
  | some status => refuse status
  | none =>
    enterForcedTrade (forcedTrade config.costs executionMode strategy direction optionType contract
      now market) contract
    return "TRADE_OPENED"

/-- The forced entry, once its policy allows it. -/
def forceAllowedEntry (strategy : StrategyName) (direction : TradeDirection)
    (optionType : OptionType) : StrategyTask String := do
  let now ← suspend .utcNow
  let market ← suspend .gatherFeatures
  if !(market.executionFeedHealthy && market.strategyBSignalDataFresh) then
    return "ENTRY_DATA_UNHEALTHY"
  else if market.spotPrice ≤ 0 then
    return "DATA_UNAVAILABLE"
  else
    match ← suspend .selectContract with
    | none => refuse "CONTRACT_SELECTION_FAILED"
    | some contract =>
      let memory ← suspend .readMemory
      if contract.lots < 1 then
        return "INSUFFICIENT_CAPITAL_OR_RISK_BUDGET"
      else
        dispatchForced strategy direction optionType now market contract memory.config

/-- The option a forced entry buys: the one asked for, or the one of its direction. -/
def forcedOptionType (direction : TradeDirection) (optionType : Option OptionType) : OptionType :=
  optionType.getD (if direction = .bullish then .call else .put)

/-- Manually force a non-Strategy-A trade setup entry immediately. -/
def forceEntry (strategy : StrategyName) (direction : TradeDirection)
    (optionType : Option OptionType) : StrategyTask String := do
  if (resolveStrategyExecutionPolicy strategy .paper).forceEntryAllowed then
    let _ ← suspend .beginForceEntry
    finallyDo (forceAllowedEntry strategy direction (forcedOptionType direction optionType))
      .endForceEntry
  else
    return "EXECUTION_POLICY_FORCE_ENTRY_DISABLED"

/-! ### What the operations on the configuration await -/

open Async.Coroutine

/-- The operations that the control of the service awaits. It arms after a preflight only for a
request made in the live mode whose preflight answered that it is ready. -/
def IsControl : StrategyOp → Prop
  | .elsewhere | .insertConfigRow _ | .writeConfigFile _ | .getLivePreflight => True
  | .getActiveTrades reader => reader = .looking
  | .beginSwitch _ _ | .applyConfig _ | .requestArm _ | .setAutoTrade _ | .setKillSwitch _ => True
  | .killSwitchReturned _ _ | .cacheActiveTrades _ => True
  | .armSystem request => request.mode = .live ∧ request.readiness = some "READY_FOR_LIVE"
  | _ => False

theorem stays_saveAutoConfig (object : Nat) (persistFile : Bool) :
    (saveAutoConfig object persistFile).Stays IsControl fun _ => True :=
  Stays.perform_bind trivial fun _ => stays_suspendIf _ trivial

theorem stays_storeArming (object : Nat) :
    (storeArming object).Stays IsControl fun _ => True :=
  (stays_saveAutoConfig object false).bind fun _ _ => Stays.perform_bind trivial fun _ => trivial

theorem stays_updateConfig (change : ConfigChange) :
    (updateConfig change).Stays IsControl fun _ => True :=
  Stays.perform_bind trivial fun object => Stays.perform_bind trivial fun _ =>
    (stays_saveAutoConfig object true).bind fun _ _ => Stays.perform_bind trivial fun _ => trivial

theorem stays_setExecutionMode (mode : AutoTradingMode) :
    (setExecutionMode mode).Stays IsControl fun _ => True := by
  unfold setExecutionMode
  have switches : (do
      let activeTrades ← suspend (.getActiveTrades .looking)
      match ← suspend (.beginSwitch mode activeTrades) with
      | .applied object =>
          let _ ← suspend .elsewhere
          saveAutoConfig object true
          let _ ← suspend .elsewhere
      | .disarming object =>
          storeArming object
          updateConfig (.switched mode) : StrategyTask Unit).Stays IsControl fun _ => True := by
    refine Stays.perform_bind rfl fun activeTrades => Stays.perform_bind trivial
      fun started => ?_
    cases started with
    | applied object =>
      exact Stays.perform_bind trivial fun _ => (stays_saveAutoConfig object true).bind
        fun _ _ => Stays.perform_bind trivial fun _ => trivial
    | disarming object =>
      exact (stays_storeArming object).bind fun _ _ => stays_updateConfig (.switched mode)
  split
  · trivial
  · exact switches

theorem stays_armStrategySystem (armed : Bool) :
    (armStrategySystem armed).Stays IsControl fun _ => True := by
  refine Stays.perform_bind trivial fun started => ?_
  cases started with
  | carriedOut object => exact stays_storeArming object
  | preflight =>
    refine Stays.perform_bind trivial fun readiness => ?_
    by_cases ready : readiness = "READY_FOR_LIVE"
    · subst ready
      exact Stays.perform_bind ⟨rfl, rfl⟩ fun object => stays_storeArming object
    · simp only [ne_eq, ready, not_false_eq_true, if_true]
      trivial

theorem stays_setAutoTrade (enabled : Bool) :
    (setAutoTrade enabled).Stays IsControl fun _ => True :=
  Stays.perform_bind trivial fun object => (stays_saveAutoConfig object true).bind
    fun _ _ => Stays.perform_bind trivial fun _ => trivial

theorem stays_toggleKillSwitch (active : Bool) :
    (toggleKillSwitch active).Stays IsControl fun _ => True :=
  Stays.perform_bind trivial fun set => (stays_saveAutoConfig set.1 true).bind
    fun _ _ => Stays.perform_bind trivial fun _ => Stays.perform_bind trivial fun _ => trivial

theorem stays_getStatus : getStatus.Stays IsControl fun _ => True :=
  Stays.perform_bind rfl fun _ => Stays.perform_bind rfl fun _ =>
    Stays.perform_bind trivial fun _ => Stays.perform_bind trivial fun _ => trivial

end StrategyService

end BreezeTrading
