/-
This file models Strategy B. A window of compressed bars is locked as a box, which ages with the
completed bars that follow; a completed close outside of it, confirmed and within the limits of
extension and risk, gives a signal.
-/

import BreezeTrading.Strategy.Features
import BreezeTrading.Strategy.PositionManager

namespace BreezeTrading

/-! ### Data -/

/-- The arguments of the constructor. Times of the day are minutes. -/
structure VolatilityBreakoutConfig where
  rvolThreshold : ℚ := 6 / 5
  minConfirmationScore : Int := 3
  minAvailableConfirmations : Int := 3
  bbWidthThreshold : ℚ := 25
  boxMaxHeightAtr : ℚ := 13 / 10
  lookbackBars : Nat := 8
  maxAgeBars : Int := 8
  breakoutBufferAtr : ℚ := 1 / 20
  maxExtensionAtr : ℚ := 3 / 4
  entryStart : Int := 565
  entryEnd : Int := 885
  deriving DecidableEq

def VolatilityBreakoutConfig.standard : VolatilityBreakoutConfig := {}

/-- The overrides the strategy reads. -/
structure ThresholdOverrides where
  bbWidthPercentile : Option ℚ := none
  boxMaxHeightAtr : Option ℚ := none
  stratBMinConfirmation : Option Int := none
  stratBMinAvailableConfirmations : Option Int := none
  rvolThreshold : Option ℚ := none
  stratBBoxMaxAgeBars : Option Int := none
  stratBBreakoutBufferAtr : Option ℚ := none
  breakoutBufferAtr : Option ℚ := none
  stratBMaxExtensionAtr : Option ℚ := none
  bullDerivativesScore : Option ℚ := none
  bearDerivativesScore : Option ℚ := none
  bypassEntryWindow : Bool := false
  deriving DecidableEq

/-- Nothing is overridden. -/
def ThresholdOverrides.standard : ThresholdOverrides := {}

/-- The settings of a call: what is not overridden is the strategy's own. -/
structure BreakoutSettings where
  bbTarget : ℚ
  heightTarget : ℚ
  requiredConf : Int
  minAvailable : Int
  rvolTarget : ℚ
  lookbackBars : Nat
  maxAge : Int
  bufAtr : ℚ
  maxExt : ℚ
  entryStart : Int
  entryEnd : Int
  bullDerivativesScore : ℚ
  bearDerivativesScore : ℚ
  deriving DecidableEq

/-- The features the strategy reads. -/
structure BreakoutFeatures extends MarketFeatures where
  breakoutDataReady : Bool
  bbWidthPercentile : ℚ
  rvol5m : ℚ
  bullishOiWall : Bool
  bearishOiWall : Bool
  deriving DecidableEq

/-- Consolidation box locked during volatility compression. -/
structure CompressionBox where
  boxHigh : ℚ
  boxLow : ℚ
  boxHeight : ℚ
  atrAtLock : ℚ
  bbWidthAtLock : ℚ
  lockedAt : Int
  createdBarTime : Int
  barsActive : Nat
  maxBars : Int
  isLocked : Bool
  deriving DecidableEq

/-- What the id of a signal is made of: times are in seconds. -/
structure BreakoutKey where
  direction : TradeDirection
  created : Int
  triggered : Int
  deriving DecidableEq

def TradeDirection.value : TradeDirection → String
  | .bullish => "BULLISH"
  | .bearish => "BEARISH"

def BreakoutKey.signalId (key : BreakoutKey) : String :=
  "SIG-B-" ++ key.direction.value ++ "-" ++ toString key.created ++ "-" ++ toString key.triggered

structure BreakoutSignal where
  signalId : String
  direction : TradeDirection
  optionType : OptionType
  timestamp : Int
  spotReferencePrice : ℚ
  structuralStop : ℚ
  rPoints : ℚ
  derivativesScore : ℚ
  boxHigh : ℚ
  boxLow : ℚ
  atrAtLock : ℚ
  boxCreatedTime : Int
  rawConfirmationScore : Nat
  oiWallPenalty : Nat
  effectiveConfirmationScore : Nat
  confirmationFactors : List (String × Option Bool)
  breakoutTriggerPrice : ℚ
  deriving DecidableEq

/-- Why a call ended where it did. -/
inductive BreakoutReason where
  | invalidData
  | outsideWindow
  | alreadyEvaluated
  | missingBars
  | boxExpired
  | noWindow
  | suspiciousExpansion
  | noCompression
  | boxTooLarge
  | boxLocked
  | structuralExpansion
  | withinBoundaries
  | overextended
  | insufficientData
  | scoreLow
  | riskTooHigh
  | alreadyConsumed
  | qualified
  deriving DecidableEq, Repr

def BreakoutReason.phase : BreakoutReason → String
  | .invalidData | .outsideWindow | .missingBars | .boxExpired | .structuralExpansion
  | .overextended | .alreadyConsumed => "RESET"
  | .alreadyEvaluated | .withinBoundaries => "WAITING_FOR_BREAKOUT"
  | .noWindow | .suspiciousExpansion | .noCompression | .boxTooLarge => "SEARCHING_COMPRESSION"
  | .boxLocked => "BOX_LOCKED"
  | .insufficientData | .scoreLow => "CONFIRMATION_FAILED"
  | .riskTooHigh => "RISK_REJECTED"
  | .qualified => "READY_TO_TRIGGER"

structure BreakoutDecision where
  reason : BreakoutReason
  phase : String
  signal : Option BreakoutSignal
  deriving DecidableEq

/-- `finish`, without the diagnostics. -/
def finish (reason : BreakoutReason) (signal : Option BreakoutSignal) : BreakoutDecision :=
  ⟨reason, reason.phase, signal⟩

/-- What the strategy keeps between calls. -/
structure VolatilityBreakoutStrategy where
  lockedBox : Option CompressionBox
  lastBar : Option Int
  after : Option Int
  session : Option Int
  fingerprint : Option BreakoutSettings
  consumed : Option BreakoutKey
  deriving DecidableEq

/-- What is stored of the strategy. -/
structure BreakoutRuntime where
  box : Option CompressionBox
  breakoutConfirmCount : Nat
  confirmDirection : Option TradeDirection
  lastBar : Option Int
  after : Option Int
  session : Option Int
  fingerprint : Option BreakoutSettings
  consumed : Option BreakoutKey
  deriving DecidableEq

/-- The arguments of a call. -/
structure BreakoutCall where
  features : BreakoutFeatures
  bars : List MarketCandle
  overrides : ThresholdOverrides
  deriving DecidableEq

namespace VolatilityBreakoutStrategy

def initial : VolatilityBreakoutStrategy := ⟨none, none, none, none, none, none⟩

def reset (strategy : VolatilityBreakoutStrategy) (at_ : Int) : VolatilityBreakoutStrategy :=
  { strategy with lockedBox := none, after := some at_ }

/-- `export_state`. No decision counts polls or remembers a direction to confirm. -/
def exportState (strategy : VolatilityBreakoutStrategy) : BreakoutRuntime where
  box := strategy.lockedBox
  breakoutConfirmCount := 0
  confirmDirection := none
  lastBar := strategy.lastBar
  after := strategy.after
  session := strategy.session
  fingerprint := strategy.fingerprint
  consumed := strategy.consumed

/-- `restore_state`, of a new strategy. -/
def restoreState (runtime : BreakoutRuntime) : VolatilityBreakoutStrategy where
  lockedBox := runtime.box
  lastBar := runtime.lastBar
  after := runtime.after
  session := runtime.session
  fingerprint := runtime.fingerprint
  consumed := runtime.consumed

theorem restoreState_exportState (strategy : VolatilityBreakoutStrategy) :
    restoreState (exportState strategy) = strategy := rfl

/-! ### Settings -/

def settings (config : VolatilityBreakoutConfig) (overrides : ThresholdOverrides) :
    BreakoutSettings where
  bbTarget := overrides.bbWidthPercentile.getD config.bbWidthThreshold
  heightTarget := overrides.boxMaxHeightAtr.getD config.boxMaxHeightAtr
  requiredConf := overrides.stratBMinConfirmation.getD config.minConfirmationScore
  minAvailable := overrides.stratBMinAvailableConfirmations.getD config.minAvailableConfirmations
  rvolTarget := overrides.rvolThreshold.getD config.rvolThreshold
  lookbackBars := config.lookbackBars
  maxAge := overrides.stratBBoxMaxAgeBars.getD config.maxAgeBars
  bufAtr := overrides.stratBBreakoutBufferAtr.getD
    (overrides.breakoutBufferAtr.getD config.breakoutBufferAtr)
  maxExt := overrides.stratBMaxExtensionAtr.getD config.maxExtensionAtr
  entryStart := config.entryStart
  entryEnd := config.entryEnd
  bullDerivativesScore := overrides.bullDerivativesScore.getD 2
  bearDerivativesScore := overrides.bearDerivativesScore.getD 2

/-! ### Bars -/

/-- Two times are five minutes apart, within five seconds. -/
def fiveMinutesApart (first second : Int) : Bool := decide (|second - first - 300000000| ≤ 5000000)

/-- Each bar starts five minutes after the one before it. -/
def contiguous (bars : List MarketCandle) : Bool :=
  (bars.zip bars.tail).all fun pair => fiveMinutesApart pair.1.startTime pair.2.startTime

/-- A real completed five-minute bar with an order to its prices. -/
def validBar (now : Int) (bar : MarketCandle) : Bool :=
  bar.isReal5m && decide (bar.endTime ≤ now) && fiveMinutesApart bar.startTime bar.endTime &&
    decide (0 < bar.low ∧ bar.low ≤ min bar.openPrice bar.close ∧
      max bar.openPrice bar.close ≤ bar.high)

/-- The data of a call are ready, and its last bar ended within the last five minutes. -/
def validData (features : BreakoutFeatures) (bars : List MarketCandle) (trigger : MarketCandle) :
    Bool :=
  features.breakoutDataReady && decide (0 < features.atr5m) &&
    bars.all (validBar features.timestamp) &&
    (bars.zip bars.tail).all (fun pair => decide (pair.1.startTime < pair.2.startTime)) &&
    decide (0 ≤ features.timestamp - trigger.endTime ∧
      features.timestamp - trigger.endTime < 300000000)

/-- `max(c.high for c in window)`, of a window that is not empty. -/
def highest (window : List MarketCandle) : ℚ :=
  (window.map fun bar => bar.high).max?.getD 0

def lowest (window : List MarketCandle) : ℚ :=
  (window.map fun bar => bar.low).min?.getD 0

/-- The bars that may define a box: of the session, and after the last reset. -/
def eligible (strategy : VolatilityBreakoutStrategy) (session : Int) (bar : MarketCandle) : Bool :=
  decide (istDay bar.startTime = session) &&
    strategy.after.all fun after => decide (after < bar.endTime)

/-! ### Confirmations -/

section Confirmations

variable (settings : BreakoutSettings) (features : BreakoutFeatures) (trigger : MarketCandle)
  (direction : TradeDirection)

def sign : ℚ := if direction = .bullish then 1 else -1

/-- What a buildup says of a direction. -/
def buildupConfirms (buildup : String) : Option Bool :=
  if buildup ∈ ["UNKNOWN", "UNAVAILABLE", "NONE", ""] then none
  else if buildup ∈ ["LONG_BUILDUP", "SHORT_COVERING"] then some (decide (direction = .bullish))
  else if buildup ∈ ["SHORT_BUILDUP", "LONG_UNWINDING"] then some (decide (direction ≠ .bullish))
  else some false

/-- The ternary factors: passed, failed, or not available. -/
def evalConfirmations : List (String × Option Bool) :=
  let spread := max (trigger.high - trigger.low) (1 / 1000000000000)
  let located := if direction = .bullish then trigger.close - trigger.low
    else trigger.high - trigger.close
  let score := if direction = .bullish then features.breakoutBullDerivativesScore
    else features.breakoutBearDerivativesScore
  let target := if direction = .bullish then settings.bullDerivativesScore
    else settings.bearDerivativesScore
  [("rvol",
      if features.rvol5m ≤ 0 then none else some (decide (settings.rvolTarget ≤ features.rvol5m))),
    ("body_strength",
      some (decide (0 < sign direction * (trigger.close - trigger.openPrice) ∧
        9 / 20 ≤ |trigger.close - trigger.openPrice| / spread))),
    ("close_location", some (decide (7 / 10 ≤ located / spread))),
    ("vwap",
      if features.futuresVwap ≤ 0 ∨ features.futuresPrice ≤ 0 then none
      else some (decide (0 < sign direction * (features.futuresPrice - features.futuresVwap)))),
    ("derivatives", some (decide (target ≤ score))),
    ("futures_oi", buildupConfirms direction features.futuresBuildup)]

structure ConfirmationScore where
  factors : List (String × Option Bool)
  available : Nat
  raw : Nat
  oiWallPenalty : Nat
  effective : Nat

/-- A wall of open interest ahead is one opposing point, and no factor of its own. -/
def scoreConfirmations : ConfirmationScore :=
  let factors := evalConfirmations settings features trigger direction
  let raw := (factors.filter fun factor => decide (factor.2 = some true)).length
  let oiWall := if direction = .bullish then features.bullishOiWall else features.bearishOiWall
  let oiWallPenalty := if oiWall then 1 else 0
  { factors
    available := (factors.filter fun factor => factor.2.isSome).length
    raw
    oiWallPenalty
    effective := raw - oiWallPenalty }

end Confirmations

/-! ### Breakouts -/

section Breakout

variable (settings : BreakoutSettings) (features : BreakoutFeatures)
  (strategy : VolatilityBreakoutStrategy) (box : CompressionBox) (trigger : MarketCandle)

/-- The price a completed close has to be beyond. -/
def triggerPrice (direction : TradeDirection) : ℚ :=
  if direction = .bullish then roundTo 2 (box.boxHigh + settings.bufAtr * box.atrAtLock)
  else roundTo 2 (box.boxLow - settings.bufAtr * box.atrAtLock)

def edge (direction : TradeDirection) : ℚ :=
  if direction = .bullish then box.boxHigh else box.boxLow

def extension (direction : TradeDirection) : ℚ :=
  sign direction * (trigger.close - edge box direction)

def structuralStop (direction : TradeDirection) : ℚ :=
  roundTo 2 (edge box direction - sign direction * (1 / 4) * box.atrAtLock)

def riskPoints (direction : TradeDirection) : ℚ :=
  roundTo 2 (sign direction * (trigger.close - structuralStop box direction))

def signalKey (direction : TradeDirection) : BreakoutKey where
  direction
  created := box.createdBarTime / 1000000
  triggered := trigger.endTime / 1000000

def signalOf (direction : TradeDirection) : BreakoutSignal :=
  let score := scoreConfirmations settings features trigger direction
  { signalId := (signalKey box trigger direction).signalId
    direction
    optionType := if direction = .bullish then .call else .put
    timestamp := trigger.endTime
    spotReferencePrice := trigger.close
    structuralStop := structuralStop box direction
    rPoints := riskPoints box trigger direction
    derivativesScore := if direction = .bullish then features.breakoutBullDerivativesScore
      else features.breakoutBearDerivativesScore
    boxHigh := box.boxHigh
    boxLow := box.boxLow
    atrAtLock := box.atrAtLock
    boxCreatedTime := box.createdBarTime
    rawConfirmationScore := score.raw
    oiWallPenalty := score.oiWallPenalty
    effectiveConfirmationScore := score.effective
    confirmationFactors := score.factors
    breakoutTriggerPrice := triggerPrice settings box direction }

/-- A completed close beyond its trigger price is evaluated once: whatever rejects it resets. -/
def evaluateBreakout (direction : TradeDirection) :
    VolatilityBreakoutStrategy × BreakoutDecision :=
  let score := scoreConfirmations settings features trigger direction
  let risk := riskPoints box trigger direction
  if settings.maxExt * box.atrAtLock + 1 / 1000000000 < extension box trigger direction then
    (strategy.reset trigger.endTime, finish .overextended none)
  else if (score.available : Int) < settings.minAvailable then
    (strategy.reset trigger.endTime, finish .insufficientData none)
  else if (score.effective : Int) < settings.requiredConf then
    (strategy.reset trigger.endTime, finish .scoreLow none)
  else if ¬(0 < risk ∧ risk ≤ 6 / 5 * box.atrAtLock + 1 / 1000000000) then
    (strategy.reset trigger.endTime, finish .riskTooHigh none)
  else if strategy.consumed = some (signalKey box trigger direction) then
    (strategy, finish .alreadyConsumed none)
  else
    ({ strategy with consumed := some (signalKey box trigger direction) }.reset trigger.endTime,
      finish .qualified (some (signalOf settings features box trigger direction)))

/-- The completed close against a frozen box. -/
def evaluateBox : VolatilityBreakoutStrategy × BreakoutDecision :=
  if 4 * box.atrAtLock < trigger.high - trigger.low then
    (strategy.reset trigger.endTime, finish .structuralExpansion none)
  else if triggerPrice settings box .bullish < trigger.close then
    evaluateBreakout settings features strategy box trigger .bullish
  else if trigger.close < triggerPrice settings box .bearish then
    evaluateBreakout settings features strategy box trigger .bearish
  else (strategy, finish .withinBoundaries none)

end Breakout

/-! ### Boxes -/

section Box

variable (settings : BreakoutSettings) (features : BreakoutFeatures)
  (strategy : VolatilityBreakoutStrategy) (bars : List MarketCandle) (trigger : MarketCandle)

/-- The bars that ended after a box was locked. -/
def activeBars (box : CompressionBox) : List MarketCandle :=
  bars.filter fun bar => decide (box.createdBarTime < bar.endTime)

/-- The bars that follow the anchor leave none out. -/
def followsAnchor (anchor : Int) (active : List MarketCandle) : Bool :=
  active.head?.all (fun first => decide (|first.startTime - anchor| ≤ 5000000)) &&
    contiguous active

/-- The box as the bars that ended after it was locked age it. -/
def aged (box : CompressionBox) : CompressionBox :=
  { box with barsActive := (activeBars bars box).length }

/-- A locked box ages, and expires; one that does not is evaluated. -/
def manageBox (box : CompressionBox) : VolatilityBreakoutStrategy × BreakoutDecision :=
  let active := activeBars bars box
  if followsAnchor box.createdBarTime active = false then
    (strategy.reset trigger.endTime, finish .missingBars none)
  else
    let aged := aged bars box
    if aged.maxBars < aged.barsActive then
      (strategy.reset trigger.endTime, finish .boxExpired none)
    else evaluateBox settings features { strategy with lockedBox := some aged } aged trigger

def boxOf (window : List MarketCandle) : CompressionBox where
  boxHigh := highest window
  boxLow := lowest window
  boxHeight := highest window - lowest window
  atrAtLock := features.atr5m
  bbWidthAtLock := features.bbWidthPercentile
  lockedAt := trigger.endTime
  createdBarTime := trigger.endTime
  barsActive := 0
  maxBars := settings.maxAge
  isLocked := true

/-- Without a box the latest window may become one. -/
def searchBox (session : Int) : VolatilityBreakoutStrategy × BreakoutDecision :=
  let window := lastItems settings.lookbackBars (bars.filter (eligible strategy session))
  let height := highest window - lowest window
  if window.length < settings.lookbackBars ∨ contiguous window = false then
    (strategy, finish .noWindow none)
  else if window.any (fun bar => decide (4 * features.atr5m < bar.high - bar.low)) then
    (strategy, finish .suspiciousExpansion none)
  else if ¬features.bbWidthPercentile ≤ settings.bbTarget + 1 / 1000000000 then
    (strategy, finish .noCompression none)
  else if ¬(0 < height ∧ height ≤ settings.heightTarget * features.atr5m + 1 / 1000000000) then
    (strategy, finish .boxTooLarge none)
  else
    ({ strategy with lockedBox := some (boxOf settings features trigger window) },
      finish .boxLocked none)

end Box

/-! ### Decisions -/

section Decision

/-- A new session drops the box and the last bar. -/
def openSession (strategy : VolatilityBreakoutStrategy) (session : Int) :
    VolatilityBreakoutStrategy :=
  if strategy.session = some session then strategy
  else { strategy with lockedBox := none, lastBar := none, session := some session }

/-- New settings reset the strategy. -/
def checkSettings (strategy : VolatilityBreakoutStrategy) (fingerprint : BreakoutSettings)
    (at_ : Int) : VolatilityBreakoutStrategy :=
  let checked := if strategy.fingerprint.all fun known => decide (known = fingerprint) then strategy
    else strategy.reset at_
  { checked with fingerprint := some fingerprint }

variable (config : VolatilityBreakoutConfig) (strategy : VolatilityBreakoutStrategy)
  (call : BreakoutCall)

/-- The strategy in the session and with the settings of a completed bar. -/
def opened (trigger : MarketCandle) : VolatilityBreakoutStrategy :=
  (strategy.openSession (istDay trigger.endTime)).checkSettings (settings config call.overrides)
    trigger.endTime

/-- The bar is the last one that was evaluated. -/
def marked (trigger : MarketCandle) : VolatilityBreakoutStrategy :=
  { opened config strategy call trigger with lastBar := some trigger.endTime }

/-- The completed bar of valid data. -/
def evaluateBar (trigger : MarketCandle) : VolatilityBreakoutStrategy × BreakoutDecision :=
  let session := istDay trigger.endTime
  let clock := PositionManager.minutesOfDay trigger.endTime
  let settings := settings config call.overrides
  let opened := opened config strategy call trigger
  if call.overrides.bypassEntryWindow = false ∧
      ¬(config.entryStart ≤ clock ∧ clock ≤ config.entryEnd) then
    (opened.reset trigger.endTime, finish .outsideWindow none)
  else if opened.lastBar.any fun last => decide (trigger.endTime ≤ last) then
    (opened, finish .alreadyEvaluated none)
  else
    let marked := marked config strategy call trigger
    match marked.lockedBox with
    | some box => manageBox settings call.features marked call.bars trigger box
    | none => searchBox settings call.features marked call.bars trigger session

def decision : VolatilityBreakoutStrategy × BreakoutDecision :=
  match call.bars.getLast? with
  | none => (strategy.reset call.features.timestamp, finish .invalidData none)
  | some trigger =>
      if validData call.features call.bars trigger then evaluateBar config strategy call trigger
      else (strategy.reset call.features.timestamp, finish .invalidData none)

/-- A call, as the next one finds the strategy. -/
def step : VolatilityBreakoutStrategy := (decision config strategy call).1

def evaluate : Option BreakoutSignal := (decision config strategy call).2.signal

end Decision

end VolatilityBreakoutStrategy

end BreezeTrading
