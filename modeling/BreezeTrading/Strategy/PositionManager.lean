/-
This file models the position manager: what it keeps of a trade, the management of Strategy A
from the futures price, and the management of the other strategies from the completed bars
of the spot price. Each update sets the tracked values of the trade and may decide an exit,
whose reason it returns. It proves what an update decides from the square-off time on.
-/

import BreezeTrading.Strategy.Trades

namespace BreezeTrading

/-! ### Data -/

/-- A quantity that is missing or zero counts as false. -/
def orQuantity (quantity : Option Int) (other : Int) : Int :=
  match quantity with
  | some number => if number = 0 then other else number
  | none => other

/-- A trade, with the values management sets on it beside those of `ActiveTrade`. -/
structure ManagedTrade extends ActiveTrade where
  lotSize : Int
  lots : Int
  initialStructuralStop : ℚ
  optionHardStopPrice : ℚ
  currentTrailingStop : ℚ
  strategyTargetPrice : Option ℚ := none
  futuresContractId : Option String := none
  pullbackSwingLow : Option ℚ := none
  pullbackSwingHigh : Option ℚ := none
  boxHigh : Option ℚ := none
  boxLow : Option ℚ := none
  atrAtLock : Option ℚ := none
  consecutiveInsideBoxCloses : Nat := 0
  highestCloseSinceEntry : Option ℚ := none
  lowestCloseSinceEntry : Option ℚ := none
  lastManagedBar : Option Int := none
  currentR : ℚ := 0
  peakR : ℚ := 0
  mfePoints : ℚ := 0
  maePoints : ℚ := 0
  reversalScore : Nat := 0
  unrealizedPnl : ℚ := 0
  exitOrderAccountedFilledQuantity : Int := 0
  exitOrderAccountedProceeds : ℚ := 0
  remainingQuantity : Option Int := none
  t1Reached : Bool := false
  t1ExitQuantity : Int := 0
  t1ExitPending : Bool := false
  t1DecisionR : Option ℚ := none
  t1RealizedR : Option ℚ := none
  partialExitProceeds : ℚ := 0
  partialExitOrderAccountedFilledQuantity : Int := 0
  partialExitOrderAccountedProceeds : ℚ := 0
  partialExitRawBid : Option ℚ := none
  partialExitSlippagePoints : Option ℚ := none
  partialExitTime : Option Int := none
  partialExitReason : Option String := none
  protectiveStopTriggerPrice : Option ℚ := none
  protectiveStopLimitPrice : Option ℚ := none
  protectiveStopFilledQuantity : Int := 0
  protectiveStopFilledProceeds : ℚ := 0
  protectiveStopCancelForExit : Bool := false
  protectiveStopFailures : Nat := 0
  protectiveStopCancelAttempts : Nat := 0
  protectiveStopCancelRequestedAt : Option Int := none
  underlyingExitReason : Option String := none
  underlyingExitTime : Option Int := none
  pendingUnderlyingExitTime : Option Int := none
  optionExitReason : Option String := none
  deriving DecidableEq

/-- The features of the market that management reads. -/
structure MarketFeatures where
  timestamp : Int
  spotPrice : ℚ
  futuresPrice : ℚ := 0
  futuresVwap : ℚ := 0
  closed5mPrice : Option ℚ := none
  closed5mTime : Option Int := none
  plusDi5m : ℚ := 0
  minusDi5m : ℚ := 0
  swingLow5m : Option ℚ := none
  swingHigh5m : Option ℚ := none
  ema95m : ℚ := 0
  ema205m : ℚ := 0
  rsi5m : ℚ := 50
  atr5m : ℚ := 25
  supertrendDirection : String := "BULLISH"
  futuresBuildup : String := "NEUTRAL"
  bullDerivativesScore : ℚ := 0
  bearDerivativesScore : ℚ := 0
  breakoutBullDerivativesScore : ℚ := 0
  breakoutBearDerivativesScore : ℚ := 0
  deriving DecidableEq

/-- The settings of the position manager. Times of the day are minutes; `show` is how a number is
printed in a reason. -/
structure PositionManager where
  breakevenBufferPoints : ℚ
  forceExitTime : Int
  strategyAForcedExitTime : Int
  trailingActivationR : ℚ
  t1R : ℚ
  runnerTargetReferenceR : ℚ
  bullDerivativesThreshold : ℚ
  bearDerivativesThreshold : ℚ
  showNumber : ℚ → String

/-- The settings as they are when nothing is configured. -/
def PositionManager.defaults (showNumber : ℚ → String) : PositionManager where
  breakevenBufferPoints := 2
  forceExitTime := 920
  strategyAForcedExitTime := 915
  trailingActivationR := 1
  t1R := 3 / 2
  runnerTargetReferenceR := 5 / 2
  bullDerivativesThreshold := 2
  bearDerivativesThreshold := 2
  showNumber

/-- A trade as it is entered: the stop that trails is the structural one. -/
def ManagedTrade.entered (tradeId : String) (mode : AutoTradingMode) (strategy : StrategyName)
    (direction : TradeDirection) (quantity lotSize entryTime : Int)
    (entryPrice optionPrice structuralStop hardStopPrice : ℚ) : ManagedTrade where
  tradeId
  mode
  strategy
  direction
  optionType := if direction = .bullish then .call else .put
  contractSymbol := ""
  contractInstrumentId := ""
  expiry := ""
  strike := 0
  quantity
  lotSize
  lots := quantity.fdiv lotSize
  entryTime
  entryOptionPrice := optionPrice
  entrySpotPrice := entryPrice
  initialRPoints := |entryPrice - structuralStop|
  initialStructuralStop := structuralStop
  currentTrailingStop := structuralStop
  optionHardStopPrice := hardStopPrice
  currentOptionPrice := optionPrice
  currentSpotPrice := entryPrice
  state := if mode = .live then .entryPending else .openInitialRisk
  underlyingEntryPrice := some entryPrice
  underlyingCurrentPrice := some entryPrice
  underlyingR := some |entryPrice - structuralStop|
  initialQuantity := some quantity
  remainingQuantity := some quantity

/-- The reason of an option that is sold because its premium fell too far. -/
def optionEmergencyStop : String := "OPTION_EMERGENCY_STOP"

/-! ### Prices by direction -/

/-- How far a price has moved in favour of a direction. -/
def favorablePoints (direction : TradeDirection) (entry price : ℚ) : ℚ :=
  if direction = .bullish then price - entry else entry - price

/-- A level some points on the favourable side of a price. -/
def levelAbove (direction : TradeDirection) (price points : ℚ) : ℚ :=
  if direction = .bullish then price + points else price - points

/-- The stop that protects more. -/
def tighterStop (direction : TradeDirection) (first second : ℚ) : ℚ :=
  if direction = .bullish then max first second else min first second

/-- A price is at a stop or beyond it. -/
def hitsStop (direction : TradeDirection) (price stop : ℚ) : Bool :=
  if direction = .bullish then decide (price ≤ stop) else decide (stop ≤ price)

namespace PositionManager

/-! ### The clock -/

/-- The minutes of the day of a point in time, in IST. -/
def minutesOfDay (moment : Int) : Int := (moment + 19800000000) / 60000000 % 1440

/-- The square-off time that the strategies without one of their own share; without a point in
time it is now. -/
def isForceExitTime (manager : PositionManager) (now : Int) (asOf : Option Int) : Bool :=
  decide (manager.forceExitTime ≤ minutesOfDay (asOf.getD now))

def isStrategyAForceExitTime (manager : PositionManager) (asOf : Int) : Bool :=
  decide (manager.strategyAForcedExitTime ≤ minutesOfDay asOf)

/-! ### Strategy A -/

section StrategyA

variable (manager : PositionManager) (trade : ManagedTrade)

/-- The values the futures price sets on a trade. -/
def trackUnderlying (price optionPrice entryPrice initialR : ℚ) : ManagedTrade :=
  let directionalPoints := favorablePoints trade.direction entryPrice price
  let currentR := roundTo 4 (directionalPoints / initialR)
  { trade with
    underlyingEntryPrice := some entryPrice
    underlyingCurrentPrice := some price
    currentSpotPrice := price
    currentOptionPrice := if 0 < optionPrice then optionPrice else trade.currentOptionPrice
    currentR := currentR
    peakR := max trade.peakR currentR
    mfePoints := max trade.mfePoints directionalPoints
    maePoints := min trade.maePoints directionalPoints
    unrealizedPnl :=
      if 0 < optionPrice then roundTo 2 ((optionPrice - trade.entryOptionPrice) * trade.quantity)
      else trade.unrealizedPnl }

/-- The stop is set when it is missing, and tightened to breakeven once it is activated. -/
def protectBreakeven (entryPrice : ℚ) : ManagedTrade :=
  let stop :=
    if trade.currentTrailingStop ≤ 0 then trade.initialStructuralStop
    else trade.currentTrailingStop
  if manager.trailingActivationR ≤ trade.peakR then
    { trade with
      state := .protectedBreakeven
      currentTrailingStop := roundTo 2 (tighterStop trade.direction stop
        (levelAbove trade.direction entryPrice manager.breakevenBufferPoints)) }
  else { trade with currentTrailingStop := stop }

/-- The first target is reached: the stop locks half of the risk, and half of the lots are due. -/
def reachT1 (price entryPrice initialR : ℚ) : ManagedTrade × Option String :=
  let locked :=
    { trade with
      t1Reached := true
      state := .profitLocked
      currentTrailingStop := roundTo 2 (tighterStop trade.direction trade.currentTrailingStop
        (levelAbove trade.direction entryPrice (1 / 2 * initialR))) }
  let originalQuantity := orQuantity trade.initialQuantity trade.quantity
  let partialLots := (max 1 (originalQuantity.fdiv trade.lotSize)).fdiv 2
  if partialLots < 1 then
    ({ locked with
        remainingQuantity := some originalQuantity
        partialExitReason := some "T1_REACHED_NO_PARTIAL_ONE_LOT" },
      some "T1_REACHED_NO_PARTIAL_ONE_LOT")
  else
    ({ locked with
        t1ExitQuantity := partialLots * trade.lotSize
        remainingQuantity := some (originalQuantity - trade.partialExitFilledQuantity)
        t1ExitPending := true
        t1DecisionUnderlyingPrice := some price
        t1DecisionR := some trade.currentR
        partialExitReason := some "T1_PARTIAL_EXIT" },
      some "T1_PARTIAL_EXIT")

/-- What the targets decide of a trade whose stop is not hit. -/
def manageTargets (price entryPrice initialR : ℚ) : ManagedTrade × Option String :=
  if manager.t1R ≤ trade.peakR ∧ trade.t1Reached = false then
    reachT1 trade price entryPrice initialR
  else if trade.t1ExitPending = true ∧ trade.partialExitFilledQuantity < trade.t1ExitQuantity then
    (trade, some "T1_PARTIAL_EXIT")
  else if manager.runnerTargetReferenceR ≤ trade.peakR then
    ({ trade with state := .runnerMode }, none)
  else (trade, none)

/-- The price a trade of Strategy A was entered at. -/
def underlyingEntry : ℚ := orPrice trade.underlyingEntryPrice trade.entrySpotPrice

/-- The risk a trade of Strategy A was entered with. -/
def underlyingRisk : ℚ := orPrice trade.underlyingR trade.initialRPoints

/-- The underlying stop of a tracked trade is hit. -/
def underlyingStopReason (price : ℚ) : Option String :=
  if hitsStop trade.direction price trade.currentTrailingStop = true then
    if manager.trailingActivationR ≤ trade.peakR then some "UNDERLYING_TRAILING_STOP"
    else some "UNDERLYING_STRUCTURAL_STOP"
  else none

/-- Manage Strategy A from futures structural R only. -/
def updateStrategyAPosition (price : ℚ) (currentOptionPrice : Option ℚ)
    (asOf : Option Int) : ManagedTrade × Option String :=
  let entryPrice := underlyingEntry trade
  let initialR := underlyingRisk trade
  if price ≤ 0 ∨ entryPrice ≤ 0 ∨ initialR ≤ 0 then
    (trade, some "INVALID_INITIAL_UNDERLYING_R")
  else
    let optionPrice := currentOptionPrice.getD 0
    let tracked := trackUnderlying trade price optionPrice entryPrice initialR
    if asOf.any (isStrategyAForceExitTime manager) then
      (tracked, some "SESSION_FORCE_SQUARE_OFF_1515")
    else if 0 < optionPrice ∧ optionPrice ≤ trade.optionHardStopPrice then
      (tracked, some optionEmergencyStop)
    else
      let stopped := protectBreakeven manager tracked entryPrice
      match underlyingStopReason manager stopped price with
      | some reason => (stopped, some reason)
      | none => manageTargets manager stopped price entryPrice initialR

end StrategyA

/-- Apply a confirmed T1 option fill; the decision itself never mutates quantity. What is returned
is the error that was raised, if any, and the trade as the call left it. -/
def applyT1PartialFill (trade : ManagedTrade) (rawBid executablePrice slippagePoints : ℚ)
    (filledAt : Int) : Except String Unit × ManagedTrade :=
  let quantity := trade.t1ExitQuantity
  let originalQuantity := orQuantity trade.initialQuantity trade.quantity
  if quantity ≤ 0 ∨ quantity.fmod trade.lotSize ≠ 0 then
    (.error "Strategy A partial exit quantity must be a positive whole-lot quantity", trade)
  else if originalQuantity < trade.partialExitFilledQuantity + quantity then
    (.error "Strategy A partial exit exceeds original quantity", trade)
  else if rawBid ≤ 0 ∨ executablePrice ≤ 0 then
    (.error "Strategy A partial exit requires a valid executable bid", trade)
  else if 0 < trade.partialExitFilledQuantity then (.ok (), trade)
  else
    let remainingQuantity := originalQuantity - quantity
    (.ok (),
      { trade with
        partialExitFilledQuantity := quantity
        partialExitRawBid := some (roundTo 2 rawBid)
        partialExitPrice := some (roundTo 2 executablePrice)
        partialExitSlippagePoints := some (roundTo 4 slippagePoints)
        partialExitTime := some filledAt
        partialExitReason := some "T1_REACHED_PARTIAL_EXIT"
        t1ExitPending := false
        remainingQuantity := some remainingQuantity
        quantity := remainingQuantity
        lots := remainingQuantity.fdiv trade.lotSize
        t1RealizedR := trade.t1DecisionR })

/-! ### The other strategies -/

section Spot

variable (manager : PositionManager) (trade : ManagedTrade) (features : MarketFeatures)

/-- The factors of the health of a bullish trade that speak against it. -/
def bearishFactors (spot : ℚ) : List Bool :=
  [decide (spot < features.ema95m), decide (spot < features.ema205m),
    decide (features.futuresPrice < features.futuresVwap), decide (features.rsi5m < 48),
    decide (features.plusDi5m < features.minusDi5m),
    decide (features.supertrendDirection = "BEARISH"),
    decide (manager.bearDerivativesThreshold ≤
      if trade.strategy = .volatilityBreakout then features.breakoutBearDerivativesScore
      else features.bearDerivativesScore),
    if trade.strategy = .volatilityBreakout then
      decide (features.futuresBuildup ∈ ["SHORT_BUILDUP", "LONG_UNWINDING"])
    else features.swingLow5m.any fun low => decide (spot < low)]

/-- The factors of the health of a bearish trade that speak against it. -/
def bullishFactors (spot : ℚ) : List Bool :=
  [decide (features.ema95m < spot), decide (features.ema205m < spot),
    decide (features.futuresVwap < features.futuresPrice), decide (52 < features.rsi5m),
    decide (features.minusDi5m < features.plusDi5m),
    decide (features.supertrendDirection = "BULLISH"),
    decide (manager.bullDerivativesThreshold ≤
      if trade.strategy = .volatilityBreakout then features.breakoutBullDerivativesScore
      else features.bullDerivativesScore),
    if trade.strategy = .volatilityBreakout then
      decide (features.futuresBuildup ∈ ["LONG_BUILDUP", "SHORT_COVERING"])
    else features.swingHigh5m.any fun high => decide (high < spot)]

/-- Explicit 8-factor adverse-health score. -/
def calculateReversalScore : Nat :=
  match features.closed5mPrice with
  | none => 0
  | some spot =>
      min 8 ((if trade.direction = .bullish then bearishFactors manager trade features spot
        else bullishFactors manager trade features spot).count true)

/-- The close of a completed bar that was not managed yet. -/
def newBar : Option ℚ := do
  let closedTime ← features.closed5mTime
  let closed ← features.closed5mPrice
  let age := features.timestamp - closedTime
  guard (0 ≤ age ∧ age < 300000000 ∧ trade.entryTime < closedTime ∧
    trade.lastManagedBar.all fun last => decide (last < closedTime))
  return closed

/-- The values the spot price sets on a trade. -/
def trackSpot (optionPrice : ℚ) : ManagedTrade :=
  { trade with
    currentSpotPrice := features.spotPrice
    currentOptionPrice := optionPrice
    unrealizedPnl := roundTo 2 ((optionPrice - trade.entryOptionPrice) * trade.quantity) }

/-- The R of a trade at the spot price, and how far it went either way. -/
def trackR : ManagedTrade :=
  let points := favorablePoints trade.direction trade.entrySpotPrice features.spotPrice
  let currentR := roundTo 2 (points / trade.initialRPoints)
  { trade with
    currentR
    peakR := max trade.peakR currentR
    mfePoints := roundTo 2 (max trade.mfePoints points)
    maePoints := roundTo 2 (min trade.maePoints points) }

/-- A new bar counts among the closes since the entry. -/
def countClose (closed : Option ℚ) : ManagedTrade :=
  match closed with
  | none => trade
  | some price =>
      { trade with
        lastManagedBar := features.closed5mTime
        highestCloseSinceEntry :=
          some (max (orPrice trade.highestCloseSinceEntry trade.entrySpotPrice) price)
        lowestCloseSinceEntry :=
          some (min (orPrice trade.lowestCloseSinceEntry trade.entrySpotPrice) price) }

/-- A completed close beyond the swing of the pullback invalidates the thesis. -/
def thesisInvalidation (closed : Option ℚ) : Option String :=
  let spotText := manager.showNumber features.spotPrice
  match closed, trade.direction, trade.pullbackSwingLow, trade.pullbackSwingHigh with
  | some price, .bullish, some low, _ =>
      if price < low then
        some ("IMMEDIATE_THESIS_INVALIDATION (Spot " ++ spotText ++ " < Pullback Low " ++
          manager.showNumber low ++ ")")
      else none
  | some price, .bearish, _, some high =>
      if high < price then
        some ("IMMEDIATE_THESIS_INVALIDATION (Spot " ++ spotText ++ " > Pullback High " ++
          manager.showNumber high ++ ")")
      else none
  | _, _, _, _ => none

/-- A close back in the box of the breakout, at its edge, by a direction. -/
def insideBox (price edge : ℚ) : Bool :=
  if trade.direction = .bullish then decide (price < edge) else decide (edge < price)

/-- A breakout whose bars close back in the box is false: at once when one closes a tenth of the
range inside, else at the second. -/
def falseBreakout (closed : Option ℚ) : ManagedTrade × Option String :=
  let box := if trade.direction = .bullish then trade.boxHigh else trade.boxLow
  match closed, box with
  | some price, some edge =>
      if trade.strategy ≠ .volatilityBreakout then (trade, none)
      else
        let atrRef := trade.atrAtLock.getD features.atr5m
        let bullish := decide (trade.direction = .bullish)
        let limit := levelAbove trade.direction edge (-(1 / 10 * atrRef))
        if insideBox trade price limit then
          (trade, some ("FALSE_BREAKOUT_EXIT (Spot " ++ manager.showNumber features.spotPrice ++
            (if bullish then " < BoxHigh " else " > BoxLow ") ++ manager.showNumber edge ++
            (if bullish then " - 0.10*ATR " else " + 0.10*ATR ") ++
            manager.showNumber (roundTo 2 (1 / 10 * atrRef)) ++ ")"))
        else if insideBox trade price edge then
          let counted :=
            { trade with consecutiveInsideBoxCloses := trade.consecutiveInsideBoxCloses + 1 }
          if 2 ≤ counted.consecutiveInsideBoxCloses then
            (counted, some ("FALSE_BREAKOUT_EXIT (2 consecutive closes inside box " ++
              (if bullish then "< " else "> ") ++ manager.showNumber edge ++ ")"))
          else (counted, none)
        else ({ trade with consecutiveInsideBoxCloses := 0 }, none)
  | _, _ => (trade, none)

/-- The stops and the square-off, by the prices of the moment. -/
def stopOrSquareOff (optionPrice : ℚ) (now : Int) (asOf : Option Int) : Option String :=
  if 0 < optionPrice ∧ optionPrice ≤ trade.optionHardStopPrice then
    some ("OPTION_HARD_STOP_HIT (LTP " ++ manager.showNumber optionPrice ++ " <= SL " ++
      manager.showNumber trade.optionHardStopPrice ++ ")")
  else if 0 < features.spotPrice ∧
      hitsStop trade.direction features.spotPrice trade.currentTrailingStop = true then
    some ("STRUCTURAL_SPOT_STOP_BREACHED (Spot " ++ manager.showNumber features.spotPrice ++
      (if trade.direction = .bullish then " <= SL " else " >= SL ") ++
      manager.showNumber trade.currentTrailingStop ++ ")")
  else if isForceExitTime manager now asOf then some "SESSION_FORCE_SQUARE_OFF_1520"
  else none

/-- The stop a health score of two asks for, on the protective side of the close. -/
def closeStop (closed : ℚ) : ℚ :=
  tighterStop (if trade.direction = .bullish then .bearish else .bullish)
    (levelAbove trade.direction features.ema95m (-(1 / 4 * features.atr5m)))
    (levelAbove trade.direction closed (-(15 / 100 * features.atr5m)))

/-- A health score of two tightens the stop. -/
def tightenToClose (closed : ℚ) : ManagedTrade :=
  { trade with
    currentTrailingStop := roundTo 2
      (tighterStop trade.direction trade.currentTrailingStop (closeStop trade features closed)) }

/-- The last swing on the protective side. -/
def protectiveSwing : Option ℚ :=
  if trade.direction = .bullish then features.swingLow5m else features.swingHigh5m

/-- The candidates of a stop that are on the protective side of the close. -/
def protectiveCandidates (closed : ℚ) : List ℚ :=
  (levelAbove trade.direction features.ema95m (-(1 / 4 * features.atr5m)) ::
    (protectiveSwing trade features).toList).filter fun candidate =>
      if trade.direction = .bullish then decide (candidate < closed) else decide (closed < candidate)

/-- A health score of three tightens the stop of a trade in profit. -/
def tightenInProfit (closed : ℚ) : ManagedTrade :=
  { trade with
    currentTrailingStop := (protectiveCandidates trade features closed).foldl
      (tighterStop trade.direction) trade.currentTrailingStop }

/-- A trade whose health is scored tightens its stop by the score. -/
def tightenByHealth (closed : ℚ) : ManagedTrade :=
  if trade.reversalScore = 2 then tightenToClose trade features closed
  else if trade.reversalScore = 3 ∧ 1 ≤ trade.currentR then tightenInProfit trade features closed
  else trade

/-- The average and the best close that the stop of a runner follows. -/
def runnerLevels : List ℚ :=
  let bestClose :=
    if trade.direction = .bullish then trade.highestCloseSinceEntry
    else trade.lowestCloseSinceEntry
  [levelAbove trade.direction features.ema95m (-(1 / 4 * features.atr5m)),
    levelAbove trade.direction (bestClose.getD 0) (-features.atr5m)]

/-- The stop of a runner follows the average, the best close and the swing. -/
def runnerStop : ℚ :=
  (runnerLevels trade features ++
    [(protectiveSwing trade features).getD trade.currentTrailingStop]).foldl
      (tighterStop trade.direction) trade.currentTrailingStop

/-- The multi-level trailing stop. -/
def trailLadder : ManagedTrade :=
  let tightenTo (state : TradeLifecycleState) (stop : ℚ) : ManagedTrade :=
    { trade with
      state
      currentTrailingStop :=
        roundTo 2 (tighterStop trade.direction trade.currentTrailingStop stop) }
  if 2 ≤ trade.peakR then tightenTo .runnerMode (runnerStop trade features)
  else if 3 / 2 ≤ trade.peakR then
    tightenTo .profitLocked
      (levelAbove trade.direction trade.entrySpotPrice (1 / 2 * trade.initialRPoints))
  else if 1 ≤ trade.peakR then
    tightenTo .protectedBreakeven
      (levelAbove trade.direction trade.entrySpotPrice manager.breakevenBufferPoints)
  else trade

/-- A trade with the score of its health. -/
def scored : ManagedTrade :=
  { trade with reversalScore := calculateReversalScore manager trade features }

/-- The management of a new bar: the health of the trade, and its trailing stop. -/
def manageBar (closed : ℚ) : ManagedTrade × Option String :=
  let trade := scored manager trade features
  if 4 ≤ trade.reversalScore then
    (trade, some ("ADVERSE_HEALTH_SCORE_CRITICAL (Score " ++ toString trade.reversalScore ++
      "/8 >= 4)"))
  else if 3 ≤ trade.reversalScore ∧ trade.currentR < 1 then
    (trade, some ("ADVERSE_HEALTH_SCORE_EARLY_EXIT (Score " ++ toString trade.reversalScore ++
      "/8 with R " ++ manager.showNumber trade.currentR ++ " < 1.0R)"))
  else (trailLadder manager (tightenByHealth trade features closed) features, none)

/-- What a trade is checked for before its bar is managed: its R, the thesis, the box of its
breakout, the stops and the square-off. -/
def checkStops (optionPrice : ℚ) (now : Int) (asOf : Option Int) : ManagedTrade × Option String :=
  let closed := newBar trade features
  let counted := countClose (trackR trade features) features closed
  match thesisInvalidation manager counted features closed with
  | some reason => (counted, some reason)
  | none =>
    match falseBreakout manager counted features closed with
    | (boxed, some reason) => (boxed, some reason)
    | (boxed, none) => (boxed, stopOrSquareOff manager boxed features optionPrice now asOf)

/-- Evaluates a trade against stops, trailing transitions, reversal scores, and time square-off. -/
def updatePosition (currentOptionPrice : Option ℚ) (now : Int) (asOf : Option Int) :
    ManagedTrade × Option String :=
  if trade.strategy = .trendPullback then
    updateStrategyAPosition manager trade features.futuresPrice currentOptionPrice asOf
  else
    let optionPrice := currentOptionPrice.getD 0
    let priced := trackSpot trade features optionPrice
    if trade.initialRPoints ≤ 0 then (priced, some "INVALID_INITIAL_R")
    else
      match checkStops manager priced features optionPrice now asOf, newBar trade features with
      | (checked, some reason), _ => (checked, some reason)
      | (checked, none), none => (checked, none)
      | (checked, none), some closed => manageBar manager checked features closed

end Spot

/-! ### From the square-off time on -/

/-- A reason that is none of those of the first target, by its first character. -/
def EndsTrade (reason : String) : Prop :=
  ∃ first rest, reason.toList = first :: rest ∧ first ≠ 'T'

theorem EndsTrade.append {reason : String} (ends : EndsTrade reason) (rest : String) :
    EndsTrade (reason ++ rest) := by
  obtain ⟨first, later, starts, other⟩ := ends
  refine ⟨first, later ++ rest.toList, ?_, other⟩
  rw [String.toList_append, starts]
  rfl

theorem EndsTrade.ne_target {reason : String} (ends : EndsTrade reason) :
    reason ≠ "T1_PARTIAL_EXIT" ∧ reason ≠ "T1_REACHED_NO_PARTIAL_ONE_LOT" := by
  obtain ⟨first, rest, starts, other⟩ := ends
  constructor
  · rintro rfl
    cases starts
    exact other rfl
  · rintro rfl
    cases starts
    exact other rfl

section SquareOff

variable (manager : PositionManager) (trade : ManagedTrade) (features : MarketFeatures)

theorem thesisInvalidation_ends (closed : Option ℚ) :
    ∀ reason ∈ thesisInvalidation manager trade features closed, EndsTrade reason := by
  intro reason isReason
  unfold thesisInvalidation at isReason
  split at isReason
  · split at isReason
    · cases isReason
      exact (((EndsTrade.append ⟨'I', _, rfl, by decide⟩ _).append _).append _).append _
    · cases isReason
  · split at isReason
    · cases isReason
      exact (((EndsTrade.append ⟨'I', _, rfl, by decide⟩ _).append _).append _).append _
    · cases isReason
  · cases isReason

theorem falseBreakout_ends (closed : Option ℚ) :
    ∀ reason ∈ (falseBreakout manager trade features closed).2, EndsTrade reason := by
  intro reason isReason
  unfold falseBreakout at isReason
  dsimp only at isReason
  split at isReason
  · split at isReason
    · cases isReason
    split at isReason
    · cases isReason
      exact ((((((EndsTrade.append ⟨'F', _, rfl, by decide⟩ _).append _).append _).append _).append
        _).append _)
    split at isReason
    · split at isReason
      · cases isReason
        exact ((EndsTrade.append ⟨'F', _, rfl, by decide⟩ _).append _).append _
      · cases isReason
    · cases isReason
  · cases isReason

variable {now : Int} {asOf : Option Int}

theorem stopOrSquareOff_of_late (optionPrice : ℚ) (late : isForceExitTime manager now asOf = true) :
    ∃ reason, stopOrSquareOff manager trade features optionPrice now asOf = some reason ∧
      EndsTrade reason := by
  unfold stopOrSquareOff
  split
  · exact ⟨_, rfl, (((EndsTrade.append ⟨'O', _, rfl, by decide⟩ _).append _).append _).append _⟩
  split
  · exact ⟨_, rfl, ((((EndsTrade.append ⟨'S', _, rfl, by decide⟩ _).append _).append _).append _)⟩
  · exact ⟨_, rfl, 'S', _, rfl, by decide⟩

theorem checkStops_of_late (optionPrice : ℚ) (late : isForceExitTime manager now asOf = true) :
    ∃ reason, (checkStops manager trade features optionPrice now asOf).2 = some reason ∧
      EndsTrade reason := by
  unfold checkStops
  dsimp only
  split
  · rename_i reason invalidated
    exact ⟨reason, rfl, thesisInvalidation_ends manager _ features _ reason invalidated⟩
  split
  · rename_i boxed reason outside
    have ends := falseBreakout_ends manager
      (countClose (trackR trade features) features (newBar trade features)) features
      (newBar trade features) reason
    rw [outside] at ends
    exact ⟨reason, rfl, ends rfl⟩
  · exact stopOrSquareOff_of_late manager _ features optionPrice late

/-- An update from the square-off time on ends a trade of the strategies without a time of their
own, whatever the market data are. -/
theorem updatePosition_of_late (other : trade.strategy ≠ .trendPullback)
    (currentOptionPrice : Option ℚ) (late : isForceExitTime manager now asOf = true) :
    ∃ reason, (updatePosition manager trade features currentOptionPrice now asOf).2 = some reason ∧
      EndsTrade reason := by
  obtain ⟨reason, decided, ends⟩ := checkStops_of_late manager
    (trackSpot trade features (currentOptionPrice.getD 0)) features (currentOptionPrice.getD 0) late
  unfold updatePosition
  rw [if_neg other]
  dsimp only
  split
  · exact ⟨_, rfl, 'I', _, rfl, by decide⟩
  · generalize checkStops manager (trackSpot trade features (currentOptionPrice.getD 0)) features
      (currentOptionPrice.getD 0) now asOf = outcome at decided ⊢
    obtain ⟨checked, event⟩ := outcome
    cases decided
    exact ⟨reason, rfl, ends⟩

/-- An update from its own square-off time on ends a trade of Strategy A, whatever the market data
are. -/
theorem updateStrategyAPosition_of_late (price : ℚ) (currentOptionPrice : Option ℚ) {asOf : Int}
    (late : isStrategyAForceExitTime manager asOf = true) :
    ∃ reason ∈ ["INVALID_INITIAL_UNDERLYING_R", "SESSION_FORCE_SQUARE_OFF_1515"],
      (updateStrategyAPosition manager trade price currentOptionPrice (some asOf)).2 =
        some reason := by
  have squareOff : (some asOf).any (isStrategyAForceExitTime manager) = true := late
  unfold updateStrategyAPosition
  dsimp only
  split
  · exact ⟨_, by decide, rfl⟩
  · exact ⟨_, by decide, rfl⟩

end SquareOff

end PositionManager

end BreezeTrading
