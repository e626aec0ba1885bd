/-
This file models the replay of a lifecycle by completed bars. An entry whose bar touches the stop
is ordered by its minutes; every later bar is checked against the stop at its start, and otherwise
handed to the position manager. The features of a bar and the frozen lifecycles are parameters.
-/

import BreezeTrading.Strategy.ReplayIntrabar

namespace BreezeTrading

/-! ### Data -/

/-- A replayed signal: what is known at its entry, and what its lifecycle came to. -/
structure LifecycleRecord extends ReplayManifestRecord where
  tradingDate : String
  triggerLevel : ℚ
  simulatedEntryTimestamp : Int
  simulatedEntryPrice : ℚ
  entry5mCandleTimestamp : Int
  entryOccurredIntrabar : Bool
  initialStructuralStop : ℚ
  initialRiskPoints : ℚ
  currentTrailingStop : ℚ
  currentR : ℚ := 0
  peakR : ℚ := 0
  reversalScore : Nat := 0
  underlyingEntryPrice : Option ℚ := none
  futuresContract : Option String := none
  futuresContractId : Option String := none
  strategyTargetPrice : Option ℚ := none
  targetPrice : Option ℚ := none
  pullbackSwingLow : Option ℚ := none
  pullbackSwingHigh : Option ℚ := none
  boxHigh : Option ℚ := none
  boxLow : Option ℚ := none
  atrAtLock : Option ℚ := none
  consecutiveInsideBoxCloses : Option Nat := none
  highestFavorablePrice : Option ℚ := none
  lowestFavorablePrice : Option ℚ := none
  lastManagedCompletedBarTimestamp : Option Int := none
  exitPrice : Option ℚ := none
  mfeR : Option ℚ := none
  maeR : Option ℚ := none
  ambiguous : Bool := false
  deriving DecidableEq

/-- One active lifecycle cursor advanced by completed bars. -/
structure ManagedReplayPosition where
  record : LifecycleRecord
  trade : ManagedTrade
  entryBar : InstrumentCandle
  managedBars : Nat := 0
  deriving DecidableEq

/-- What the replay of lifecycles is built with. -/
structure HistoricalPositionManagerReplayer where
  manager : PositionManager
  instrumentId : String
  session : List InstrumentCandle
  futures : List InstrumentCandle
  oneMinute : List InstrumentCandle
  /-- The features of a bar, from the bars up to it. -/
  features : InstrumentCandle → List InstrumentCandle → MarketFeatures
  /-- How the strategies with a frozen lifecycle advance. -/
  advanceFrozen : StrategyName → ManagedReplayPosition → InstrumentCandle →
    Except String (Bool × ManagedReplayPosition)

/-! ### The stop of a bar -/

inductive ReplayStopEvent where
  | ambiguousEntryCandle
  | structuralStop
  | thesisInvalidation
  | noExit
  deriving DecidableEq, Repr

/-- Result of applying one historical candle to an already-active stop. -/
structure ReplayStopDecision where
  event : ReplayStopEvent
  crossed : Bool
  ambiguous : Bool
  stopLevel : ℚ
  exitPrice : Option ℚ := none
  deriving DecidableEq

/-- Evaluate a candle against the stop active at candle start. -/
def evaluateReplayCandle (direction : TradeDirection) (candle : Candle) (activeStop : ℚ)
    (entryCandle thesisInvalidatedAtClose : Bool) : Except String ReplayStopDecision :=
  if activeStop ≤ 0 then .error "active_stop must be positive"
  else if candle.high < candle.low then .error "candle_low must not exceed candle_high"
  else if ReplayIntrabar.stopHit direction candle activeStop = true then
    if entryCandle then
      .ok { event := .ambiguousEntryCandle
            crossed := true
            ambiguous := true
            stopLevel := activeStop }
    else
      .ok { event := .structuralStop
            crossed := true
            ambiguous := false
            stopLevel := activeStop
            exitPrice := some (ReplayIntrabar.stopFill direction candle activeStop) }
  else
    .ok { event := if thesisInvalidatedAtClose then .thesisInvalidation else .noExit
          crossed := false
          ambiguous := false
          stopLevel := activeStop }

/-! ### Labels and results -/

namespace ReplayLifecycle

def directionOf (direction : OptionType) : TradeDirection :=
  if direction = .call then .bullish else .bearish

/-- The R of a price, rounded. -/
def rFor (direction : TradeDirection) (entry price risk : ℚ) : ℚ :=
  if risk ≤ 0 then 0 else roundTo 4 (favorablePoints direction entry price / risk)

/-- The text before the first opening parenthesis that follows a space. -/
def beforeParenthesis : List Char → List Char
  | first :: second :: rest =>
      if first = ' ' ∧ second = '(' then []
      else first :: beforeParenthesis (second :: rest)
  | letters => letters

/-- The label of an exit, by the reason of the manager and the state of the trade. -/
def exitLabel (reason : Option String) (state : TradeLifecycleState) : String :=
  match reason with
  | none => "UNKNOWN"
  | some reason =>
      let startsWith (start : String) : Bool := start.toList.isPrefixOf reason.toList
      if reason = "" then "UNKNOWN"
      else if startsWith "IMMEDIATE_THESIS_INVALIDATION" then "THESIS_INVALIDATION"
      else if startsWith "ADVERSE_HEALTH" then "ADVERSE_HEALTH_EXIT"
      else if reason ∈ ["SESSION_FORCE_SQUARE_OFF_1515", "SESSION_FORCE_SQUARE_OFF_1520"] then
        "SESSION_EXIT"
      else if startsWith "STRUCTURAL_SPOT_STOP" then
        match state with
        | .protectedBreakeven => "PROTECTED_BREAKEVEN"
        | .profitLocked => "TRAILING_STOP_EXIT"
        | .runnerMode => "RUNNER_STOP_EXIT"
        | _ => "STRUCTURAL_STOP"
      else String.ofList (beforeParenthesis reason.toList)

/-- `_finish`: the lifecycle result of a record. -/
def finish (record : LifecycleRecord) (trade : ManagedTrade) (status : LifecycleStatus)
    (reason : String) (timestamp : Option Int) (price : Option ℚ) (ambiguous : Bool) :
    LifecycleRecord :=
  let inR (points : ℚ) : Option ℚ :=
    if 0 < trade.initialRPoints then some (points / trade.initialRPoints) else none
  { record with
    lifecycleStatus := status
    exitTimestamp := timestamp
    exitPrice := price
    exitReason := some reason
    realizedR := price.map fun price =>
      rFor trade.direction trade.entrySpotPrice price trade.initialRPoints
    mfeR := inR trade.mfePoints
    maeR := inR trade.maePoints
    ambiguous }

/-- `_feature_at`: a spot-only poll without inventing a completed candle. -/
def featureAt (features : MarketFeatures) (spot : ℚ) (timestamp : Int) (completed : Bool) :
    MarketFeatures :=
  { features with
    spotPrice := spot
    futuresPrice := spot
    timestamp
    closed5mPrice := if completed then features.closed5mPrice else none
    closed5mTime := if completed then features.closed5mTime else none }

/-- The manager is asked at a price inside the bar. With a time given it does not read the clock. -/
def poll (manager : PositionManager) (trade : ManagedTrade) (features : MarketFeatures) (spot : ℚ)
    (timestamp : Int) : ManagedTrade × Option String :=
  manager.updatePosition trade (featureAt features spot timestamp false) (some 0) timestamp
    (some timestamp)

/-! ### The trade of a record -/

/-- The names of the structural values a breakout record is missing. -/
def missingStructure (record : LifecycleRecord) : List String :=
  ([("box_high", record.boxHigh), ("box_low", record.boxLow),
    ("atr_at_lock", record.atrAtLock)].filter fun field => field.2.isNone).map Prod.fst

/-- The structural values of a breakout record are there and make sense. -/
def checkStructure (record : LifecycleRecord) : Except String Unit :=
  if missingStructure record ≠ [] then
    .error ("Strategy B replay record " ++ record.replaySignalId ++
      " is missing structural state: " ++ ", ".intercalate (missingStructure record))
  else if record.atrAtLock.getD 0 ≤ 0 ∨ record.boxHigh.getD 0 ≤ record.boxLow.getD 0 then
    .error ("Invalid Strategy B structural state for " ++ record.replaySignalId)
  else .ok ()

/-- `_entry_trade`: the trade a record enters. -/
def entryTrade (record : LifecycleRecord) (instrumentId : String) : Except String ManagedTrade := do
  let some strategy := StrategyName.ofValue record.strategyId
    | .error ("Unsupported replay strategy_id: " ++ record.strategyId)
  let breakout := decide (strategy = .volatilityBreakout)
  if breakout then checkStructure record
  let underlyingEntry := record.underlyingEntryPrice.getD record.simulatedEntryPrice
  let futuresAuthoritative :=
    decide (strategy ∈ [.trendPullback, .diContinuation, .pivotVwapScalp])
  return {
    tradeId := record.replaySignalId
    mode := .paper
    strategy
    direction := directionOf record.direction
    optionType := record.direction
    contractSymbol := "HISTORICAL-SPOT"
    contractInstrumentId := instrumentId
    expiry := record.tradingDate
    strike := 0
    quantity := 1
    lotSize := 1
    lots := 1
    entryTime := record.simulatedEntryTimestamp
    entryOptionPrice := 0
    entrySpotPrice := underlyingEntry
    initialStructuralStop := record.initialStructuralStop
    initialRPoints := record.initialRiskPoints
    pullbackSwingLow := record.pullbackSwingLow
    pullbackSwingHigh := record.pullbackSwingHigh
    boxHigh := if breakout then record.boxHigh else none
    boxLow := if breakout then record.boxLow else none
    atrAtLock := if breakout then record.atrAtLock else none
    consecutiveInsideBoxCloses :=
      if breakout then record.consecutiveInsideBoxCloses.getD 0 else 0
    highestCloseSinceEntry :=
      some (orPrice record.highestFavorablePrice record.simulatedEntryPrice)
    lowestCloseSinceEntry := some (orPrice record.lowestFavorablePrice record.simulatedEntryPrice)
    lastManagedBar := record.lastManagedCompletedBarTimestamp
    currentOptionPrice := 0
    currentSpotPrice := underlyingEntry
    futuresContractId :=
      if futuresAuthoritative then orText record.futuresContract record.futuresContractId else none
    underlyingEntryPrice := some underlyingEntry
    underlyingCurrentPrice := some underlyingEntry
    underlyingR := some record.initialRiskPoints
    strategyTargetPrice := record.strategyTargetPrice <|> record.targetPrice
    initialQuantity := some 1
    remainingQuantity := some 1
    currentTrailingStop := record.currentTrailingStop
    optionHardStopPrice := 0
    currentR := record.currentR
    peakR := record.peakR
    reversalScore := record.reversalScore
    state := .openInitialRisk }

end ReplayLifecycle

/-! ### The replayer -/

namespace HistoricalPositionManagerReplayer

open ReplayLifecycle ReplayIntrabar

variable (replayer : HistoricalPositionManagerReplayer)

/-- `_minutes`: the available minutes of a bar. -/
def minutes (bar : InstrumentCandle) : List Candle :=
  (replayer.oneMinute.filter fun candle =>
    decide (bar.startTime ≤ candle.startTime ∧ candle.startTime < bar.endTime ∧
      candle.instrumentId = bar.instrumentId)).map InstrumentCandle.toCandle

/-- `_underlying_bar`: Strategy A is replayed on the bar of its futures contract. -/
def underlyingBar (record : LifecycleRecord) (sessionBar : InstrumentCandle) :
    Option InstrumentCandle :=
  if record.strategyId ≠ StrategyName.trendPullback.value then some sessionBar
  else do
    let contract ← orText record.futuresContract record.futuresContractId
    guard (contract ≠ "")
    replayer.futures.find? fun candle =>
      decide (candle.instrumentId = contract ∧ candle.startTime = sessionBar.startTime ∧
        candle.endTime = sessionBar.endTime)

/-- `_bars_after`: the bar of the entry, by its end or else by its start. -/
def entryBarOf (record : LifecycleRecord) : Option InstrumentCandle :=
  (replayer.session.find? fun bar => decide (bar.endTime = record.entry5mCandleTimestamp)) <|>
    replayer.session.find? fun bar => decide (bar.startTime = record.entry5mCandleTimestamp)

/-! ### The entry bar -/

/-- What the minutes of the entry bar make of a record: whether it is opened, and its result. -/
def settleEntry (record : LifecycleRecord) (trade : ManagedTrade) (entryBar : InstrumentCandle)
    (resolution : IntrabarResolution) : Bool × LifecycleRecord :=
  let eventTime := resolution.eventTime.getD entryBar.endTime
  match resolution.event with
  | .adverseBeforeEntry =>
      (false, finish record trade .adverseBeforeEntry "ADVERSE_BEFORE_ENTRY" eventTime none false)
  | .stillAmbiguous =>
      (false, finish record trade .ambiguous "AMBIGUOUS_ENTRY_CANDLE" eventTime none true)
  | .entryThenStop =>
      let exitPrice := orPrice resolution.exitPrice trade.currentTrailingStop
      let polled := poll replayer.manager trade { timestamp := eventTime, spotPrice := exitPrice }
        exitPrice eventTime
      (false, finish record polled.1 .resolved "STRUCTURAL_STOP" eventTime exitPrice false)
  | _ => (true, record)

/-- `_entry_resolution`: an entry bar that touches the stop is ordered by its minutes. -/
def entryResolution (record : LifecycleRecord) (trade : ManagedTrade)
    (entryBar : InstrumentCandle) : Except String (Bool × LifecycleRecord) :=
  match replayer.underlyingBar record entryBar with
  | none =>
      .ok (false, finish record trade .unresolved "FUTURES_ENTRY_CANDLE_NOT_FOUND" none none false)
  | some priceBar => do
      let direction := directionOf record.direction
      let decision ← evaluateReplayCandle direction priceBar.toCandle trade.currentTrailingStop
        true false
      if decision.crossed = false then return (true, record)
      else if replayer.minutes priceBar = [] then
        return (false, finish record trade .ambiguous "AMBIGUOUS_ENTRY_CANDLE" entryBar.endTime
          none true)
      else
        let resolution ← resolveEntryCandle direction record.triggerLevel
          trade.currentTrailingStop (replayer.minutes priceBar)
        return replayer.settleEntry record trade entryBar resolution

/-- Create a lifecycle cursor without scanning future bars. -/
def startRecord (record : LifecycleRecord) :
    Except String (LifecycleRecord × Option ManagedReplayPosition) := do
  let trade ← entryTrade record replayer.instrumentId
  match replayer.entryBarOf record with
  | none =>
      return (finish record trade .unresolved "ENTRY_CANDLE_NOT_FOUND" none none false, none)
  | some entryBar =>
      let (opens, settled) ←
        if record.entryOccurredIntrabar then replayer.entryResolution record trade entryBar
        else pure (true, record)
      if opens = false then return (settled, none)
      let position : ManagedReplayPosition := { record := settled, trade, entryBar }
      if record.strategyId = StrategyName.diContinuation.value then
        let (goesOn, position) ← replayer.advanceFrozen .diContinuation position entryBar
        return (position.record, if goesOn then some position else none)
      else return (settled, some position)

/-! ### A later bar -/

/-- The excursions of a trade over a bar. -/
def trackExcursions (trade : ManagedTrade) (bar : Candle) : ManagedTrade :=
  let points (price : ℚ) : ℚ := favorablePoints trade.direction trade.entrySpotPrice price
  { trade with
    mfePoints :=
      max trade.mfePoints (points (if trade.direction = .bullish then bar.high else bar.low))
    maePoints :=
      min trade.maePoints (points (if trade.direction = .bullish then bar.low else bar.high)) }

/-- `_next_favorable_level`: the next level of R with its price, if the bar reaches it. -/
def nextFavorableLevel (trade : ManagedTrade) (bar : Candle) : Option (ℚ × ℚ) := do
  let level ← [1, 3 / 2, 2].find? fun level => decide (trade.peakR < level)
  guard (0 < trade.initialRPoints)
  let price := levelAbove trade.direction trade.entrySpotPrice (level * trade.initialRPoints)
  guard (levelHit trade.direction bar price = true)
  return (level, price)

/-- Whether minutes are needed to order a bar, whether they are there, and what they tell. -/
inductive IntrabarOrder where
  | notNeeded
  | unavailable
  | resolved (resolution : IntrabarResolution)
  deriving DecidableEq

/-- The stop that reaching a favorable level would leave, as a copy of the trade tells. -/
def transitionedStop (trade : ManagedTrade) (features : MarketFeatures) (price : ℚ)
    (bar : InstrumentCandle) : ℚ :=
  (poll replayer.manager trade features price bar.endTime).1.currentTrailingStop

/-- The order of a bar that reaches a favorable level, by its minutes. -/
def intrabarOrder (record : LifecycleRecord) (trade : ManagedTrade) (features : MarketFeatures)
    (priceBar bar : InstrumentCandle) (crossed : Bool) : Except String IntrabarOrder :=
  match nextFavorableLevel trade priceBar.toCandle with
  | none => .ok .notNeeded
  | some (_, favorablePrice) =>
      let newStop := replayer.transitionedStop trade features favorablePrice bar
      if crossed = false ∧ newStop = trade.currentTrailingStop then .ok .notNeeded
      else if replayer.minutes priceBar = [] then .ok .unavailable
      else
        (resolveActiveStopTransition (directionOf record.direction) trade.currentTrailingStop
          favorablePrice newStop (replayer.minutes priceBar)).map .resolved

/-- The manager decides an exit at a price inside the bar. -/
def exitInside (position : ManagedReplayPosition) (trade : ManagedTrade)
    (features : MarketFeatures) (exitPrice : ℚ) (eventTime : Int) :
    Bool × ManagedReplayPosition :=
  let polled := poll replayer.manager trade features exitPrice eventTime
  let reason := polled.2.getD "STRUCTURAL_SPOT_STOP_BREACHED"
  (false,
    { position with
      trade := polled.1
      record := finish position.record polled.1 .resolved (exitLabel (some reason) polled.1.state)
        eventTime exitPrice false })

/-- The bar is ambiguous, and its lifecycle ends there. -/
def markAmbiguous (position : ManagedReplayPosition) (trade : ManagedTrade) (timestamp : Int) :
    Bool × ManagedReplayPosition :=
  (false,
    { position with
      trade
      record := finish position.record trade .ambiguous "AMBIGUOUS_INTRABAR_ORDER" timestamp none
        true })

/-- What the manager makes of a completed bar, after a favorable level that it reached. -/
def completedBar (trade : ManagedTrade) (features : MarketFeatures)
    (priceBar bar : InstrumentCandle) : ManagedTrade × Option String :=
  let trade :=
    match nextFavorableLevel trade priceBar.toCandle with
    | none => trade
    | some (_, favorablePrice) =>
        (poll replayer.manager trade features favorablePrice bar.endTime).1
  replayer.manager.updatePosition trade features (some 0) bar.endTime (some bar.endTime)

/-- The reasons of the manager that leave a trade open. -/
def targetReasons : List String := ["T1_PARTIAL_EXIT", "T1_REACHED_NO_PARTIAL_ONE_LOT"]

/-- The decision of the manager at the end of a bar. -/
def settleBar (position : ManagedReplayPosition) (features : MarketFeatures)
    (bar : InstrumentCandle) (trade : ManagedTrade) (reason : Option String) :
    Bool × ManagedReplayPosition :=
  match reason.filter fun reason => decide (reason ∉ targetReasons) with
  | none => (true, { position with trade, managedBars := position.managedBars + 1 })
  | some reason =>
      let price :=
        if position.record.strategyId = StrategyName.trendPullback.value then
          features.futuresPrice
        else features.spotPrice
      (false,
        { position with
          trade
          record := finish position.record trade .resolved (exitLabel (some reason) trade.state)
            bar.endTime price false })

/-- What happens in a bar whose order is known, or not needed. -/
def settleOrder (position : ManagedReplayPosition) (trade : ManagedTrade)
    (features : MarketFeatures) (priceBar bar : InstrumentCandle) (decision : ReplayStopDecision)
    (resolution : Option IntrabarResolution) : Bool × ManagedReplayPosition :=
  let activeStop := trade.currentTrailingStop
  if decision.crossed = true ∧ resolution.all fun known => decide (known.event = .structuralStop)
  then
    replayer.exitInside position trade features (orPrice decision.exitPrice activeStop)
      ((resolution.bind IntrabarResolution.eventTime).getD priceBar.startTime)
  else
    match resolution.filter fun known => decide (known.event = .transitionThenStop) with
    | some known =>
        let eventTime := known.eventTime.getD priceBar.startTime
        let favorablePrice := orPrice
          ((nextFavorableLevel trade priceBar.toCandle).map Prod.snd) features.spotPrice
        let moved := (poll replayer.manager trade features favorablePrice eventTime).1
        replayer.exitInside position moved features (orPrice known.exitPrice activeStop) eventTime
    | none =>
        let managed := replayer.completedBar trade features priceBar bar
        settleBar position features bar managed.1 managed.2

/-- A bar of a strategy that the position manager manages. -/
def advanceManaged (position : ManagedReplayPosition) (bar priceBar : InstrumentCandle)
    (running : List InstrumentCandle) : Except String (Bool × ManagedReplayPosition) := do
  let record := position.record
  let features := replayer.features bar running
  let trade := trackExcursions position.trade priceBar.toCandle
  let decision ← evaluateReplayCandle (directionOf record.direction) priceBar.toCandle
    trade.currentTrailingStop false false
  match ← replayer.intrabarOrder record trade features priceBar bar decision.crossed with
  | .unavailable => return markAmbiguous position trade bar.endTime
  | .notNeeded =>
      return replayer.settleOrder position trade features priceBar bar decision none
  | .resolved resolution =>
      if resolution.ambiguous then
        return markAmbiguous position trade (resolution.eventTime.getD bar.endTime)
      else
        return replayer.settleOrder position trade features priceBar bar decision
          (some resolution)

/-- Advance one active lifecycle using only this completed bar. -/
def advanceRecord (position : ManagedReplayPosition) (bar : InstrumentCandle)
    (running : List InstrumentCandle) : Except String (Bool × ManagedReplayPosition) :=
  let record := position.record
  if bar.startTime < position.entryBar.endTime then .ok (true, position)
  else if record.strategyId = StrategyName.diContinuation.value then
    replayer.advanceFrozen .diContinuation position bar
  else if record.strategyId = StrategyName.srMomentumBreakout.value then
    replayer.advanceFrozen .srMomentumBreakout position bar
  else if record.strategyId = StrategyName.pivotVwapScalp.value then
    replayer.advanceFrozen .pivotVwapScalp position bar
  else
    match replayer.underlyingBar record bar with
    | none =>
        let reason :=
          if record.strategyId = StrategyName.trendPullback.value then "FUTURES_CANDLE_NOT_FOUND"
          else "SESSION_CANDLE_NOT_FOUND"
        .ok (false,
          { position with
            record := finish record position.trade .unresolved reason bar.endTime none false })
    | some priceBar => replayer.advanceManaged position bar priceBar running

end HistoricalPositionManagerReplayer

end BreezeTrading
