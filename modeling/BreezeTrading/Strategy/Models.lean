/-
This file defines the data the strategies share: the modes, the strategies and
their signals, and the risk limits with the bounds their fields are validated
against. A point in time is a number of microseconds, prices and profits are
exact rationals.
-/

import Mathlib.Data.Rat.Defs

namespace BreezeTrading

/-! ### Enumerations -/

/-- Execution mode of the strategies. -/
inductive AutoTradingMode where
  | paper
  | shadowOnly
  | live
  | disabled
  deriving DecidableEq, Repr

inductive StrategyName where
  | trendPullback
  | volatilityBreakout
  | diContinuation
  | srMomentumBreakout
  | pivotVwapScalp
  deriving DecidableEq, Repr

inductive TradeDirection where
  | bullish
  | bearish
  deriving DecidableEq, Repr

inductive TradeLifecycleState where
  | entryPending
  | exitPending
  | openInitialRisk
  | protectedBreakeven
  | profitLocked
  | runnerMode
  | closed
  deriving DecidableEq, Repr

inductive OptionType where
  | call
  | put
  deriving DecidableEq, Repr

/-- `moment.astimezone(IST).date()`, as a number of days. -/
def istDay (moment : Int) : Int := (moment + 19800000000) / 86400000000

theorem istDay_mono {first second : Int} (le : first ≤ second) : istDay first ≤ istDay second :=
  Int.ediv_le_ediv (by decide) (by omega)

def OptionType.value : OptionType → String
  | .call => "CALL"
  | .put => "PUT"

/-- The value of a strategy, under which its trades are counted. -/
def StrategyName.value : StrategyName → String
  | .trendPullback => "TREND_PULLBACK"
  | .volatilityBreakout => "VOLATILITY_BREAKOUT"
  | .diContinuation => "DI_CONTINUATION"
  | .srMomentumBreakout => "SR_MOMENTUM_BREAKOUT"
  | .pivotVwapScalp => "PIVOT_VWAP_SCALP"

def StrategyName.ofValue (value : String) : Option StrategyName :=
  [StrategyName.trendPullback, .volatilityBreakout, .diContinuation, .srMomentumBreakout,
    .pivotVwapScalp].find? fun name => decide (name.value = value)

inductive HistoricalReplaySource where
  | breeze
  | kite
  | live
  | mixed
  deriving DecidableEq, Repr

/-- The sources of the candles that a replay of a source reads. -/
def HistoricalReplaySource.allowedSources : HistoricalReplaySource → List String
  | .mixed => ["BREEZE", "KITE", "LIVE"]
  | .breeze => ["BREEZE"]
  | .kite => ["KITE"]
  | .live => ["LIVE"]

/-! ### Limits -/

/-- The limits on entries, within the bounds of their fields. -/
structure RiskConfig where
  maxTradesPerStrategyPerDay : Nat := 5
  maxDailyLossR : ℚ := 2
  maxDailyLossPct : ℚ := 3 / 2
  maxFailedTradesPerStrategy : Nat := 2
  maxTradesPerDay : Nat := 5
  maxConcurrentPositions : Nat := 1
  cooldownAfterLossMin : Nat := 10
  accountEquity : ℚ := 500000
  tradesPerStrategyBounds :
    1 ≤ maxTradesPerStrategyPerDay ∧ maxTradesPerStrategyPerDay ≤ 20 := by decide
  dailyLossRBounds : 1 / 2 ≤ maxDailyLossR ∧ maxDailyLossR ≤ 10 := by decide +kernel
  dailyLossPctBounds : 1 / 2 ≤ maxDailyLossPct ∧ maxDailyLossPct ≤ 5 := by decide +kernel
  failedTradesBounds :
    1 ≤ maxFailedTradesPerStrategy ∧ maxFailedTradesPerStrategy ≤ 5 := by decide
  tradesPerDayBounds : 1 ≤ maxTradesPerDay ∧ maxTradesPerDay ≤ 20 := by decide
  concurrentPositionsBounds :
    1 ≤ maxConcurrentPositions ∧ maxConcurrentPositions ≤ 3 := by decide
  cooldownBounds : cooldownAfterLossMin ≤ 60 := by decide
  accountEquityBounds : 0 < accountEquity := by decide +kernel
  deriving DecidableEq

/-- The limits a configuration has when nothing is set. -/
def RiskConfig.standard : RiskConfig where

/-- The same limits with room for a second position. -/
def RiskConfig.twoPositions : RiskConfig where
  maxConcurrentPositions := 2

/-- The assumptions about the costs of a trade, part of the same configuration of limits. -/
structure PaperCosts where
  slippagePoints : ℚ := 0
  brokeragePerOrder : ℚ := 20
  exchangeChargeRate : ℚ := 3503 / 10000000
  sttSellRate : ℚ := 1 / 1000
  gstRate : ℚ := 18 / 100
  sebiChargeRate : ℚ := 1 / 1000000
  stampBuyRate : ℚ := 3 / 100000
  slippageBound : 0 ≤ slippagePoints := by decide +kernel
  brokerageBound : 0 ≤ brokeragePerOrder := by decide +kernel
  exchangeBound : 0 ≤ exchangeChargeRate := by decide +kernel
  sttBound : 0 ≤ sttSellRate := by decide +kernel
  gstBound : 0 ≤ gstRate := by decide +kernel
  sebiBound : 0 ≤ sebiChargeRate := by decide +kernel
  stampBound : 0 ≤ stampBuyRate := by decide +kernel
  deriving DecidableEq

/-- The costs when nothing is set. -/
def PaperCosts.standard : PaperCosts where

/-- The strategies that may trade. -/
structure StrategyTunables where
  trendPullbackEnabled : Bool := true
  volatilityBreakoutEnabled : Bool := true
  diContinuationEnabled : Bool := true
  srMomentumBreakoutEnabled : Bool := true
  pivotVwapScalpEnabled : Bool := true
  deriving DecidableEq, Repr

/-- Aggregated operational and strategy configuration. -/
structure AutoTradingConfig where
  mode : AutoTradingMode := .paper
  autoTradeEnabled : Bool := true
  systemArmed : Bool := false
  killSwitch : Bool := false
  risk : RiskConfig := RiskConfig.standard
  costs : PaperCosts := PaperCosts.standard
  tunables : StrategyTunables := {}
  deriving DecidableEq

/-! ### Signals -/

/-- A setup a strategy wants to enter. -/
structure StrategySignal where
  signalId : String
  strategy : StrategyName
  direction : TradeDirection
  deriving DecidableEq, Repr

end BreezeTrading
