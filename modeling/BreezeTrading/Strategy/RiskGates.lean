/-
This file defines the entry gates shared by production and by the historical
replay: the position capacity, the cooldown after a loss, the daily loss limits
and the trade limits per day and per strategy. Beside each gate stands the exact
condition under which it lets an entry through.
-/

import BreezeTrading.Portfolio.Repository
import BreezeTrading.Strategy.Models

namespace BreezeTrading

/-- A value in the details of a decision. -/
inductive Detail where
  | number (value : ℚ)
  | text (value : String)
  | texts (values : List String)
  | missing
  deriving DecidableEq

/-- `round(number, digits)`. -/
def roundTo (digits : Nat) (number : ℚ) : ℚ :=
  (roundHalfEven (number * 10 ^ digits) : ℚ) / 10 ^ digits

structure RiskGateDecision where
  allowed : Bool
  status : String := "READY"
  details : List (String × Detail) := []
  deriving DecidableEq

/-! ### The gates -/

def checkPositionCapacity (risk : RiskConfig) (activeCount : Nat) : RiskGateDecision :=
  if risk.maxConcurrentPositions ≤ activeCount then
    { allowed := false
      status := "MAX_CONCURRENT_POSITIONS_REACHED"
      details :=
        [("active_count", .number activeCount),
          ("max_concurrent_positions", .number risk.maxConcurrentPositions)] }
  else { allowed := true }

/-- The microseconds of a minute. -/
def microsPerMinute : Int := 60000000

/-- `(now - before).total_seconds() / 60`. -/
def elapsedMinutes (now before : Int) : ℚ := ((now - before : Int) : ℚ) / microsPerMinute

def checkLossCooldown (risk : RiskConfig) (now : Int) (lastLossExitTime : Option Int) :
    RiskGateDecision :=
  match lastLossExitTime with
  | none => { allowed := true }
  | some last =>
      if elapsedMinutes now last < risk.cooldownAfterLossMin then
        { allowed := false
          status := "IN_LOSS_COOLDOWN"
          details :=
            [("cooldown_remaining_min",
              .number (roundTo 1 (risk.cooldownAfterLossMin - elapsedMinutes now last)))] }
      else { allowed := true }

/-- The loss of a day, as an amount, at which entries stop. -/
def dailyLossAmount (risk : RiskConfig) (accountEquity : Option ℚ) : ℚ :=
  accountEquity.getD risk.accountEquity * risk.maxDailyLossPct / 100

def checkDailyLossLimits (risk : RiskConfig) (realizedRTotal : ℚ) (netPnlTotal : Option ℚ)
    (accountEquity : Option ℚ) : RiskGateDecision :=
  let rBlocked := decide (realizedRTotal ≤ -risk.maxDailyLossR)
  let pnlLimit := dailyLossAmount risk accountEquity
  let pnlBlocked := netPnlTotal.any fun total => decide (total ≤ -pnlLimit)
  if rBlocked || pnlBlocked then
    { allowed := false
      status := "DAILY_LOSS_LIMIT_REACHED"
      details :=
        [("reasons", .texts ((if rBlocked then ["MAX_DAILY_LOSS_R"] else []) ++
            if pnlBlocked then ["MAX_DAILY_LOSS_PCT"] else [])),
          ("realized_r_total", .number (roundTo 4 realizedRTotal)),
          ("max_daily_loss_r", .number risk.maxDailyLossR),
          ("net_pnl_total", netPnlTotal.elim .missing fun total => .number (roundTo 2 total)),
          ("max_daily_loss_amount", .number (roundTo 2 pnlLimit))] }
  else { allowed := true }

def checkDailyTradeLimit (risk : RiskConfig) (dailyCount : Nat)
    (maxTradesPerDay : Option Nat) : RiskGateDecision :=
  let limit := maxTradesPerDay.getD risk.maxTradesPerDay
  if limit ≤ dailyCount then
    { allowed := false
      status := "DAILY_TRADE_LIMIT_REACHED"
      details :=
        [("today_trades", .number dailyCount), ("max_trades_per_day", .number limit)] }
  else { allowed := true }

def checkStrategyTradeLimits (risk : RiskConfig) (strategyTradeCount strategyFailureCount : Nat) :
    RiskGateDecision :=
  if risk.maxTradesPerStrategyPerDay ≤ strategyTradeCount then
    { allowed := false
      status := "STRATEGY_DAILY_TRADE_LIMIT_REACHED"
      details :=
        [("strategy_trades", .number strategyTradeCount),
          ("max_trades_per_strategy_per_day", .number risk.maxTradesPerStrategyPerDay)] }
  else if risk.maxFailedTradesPerStrategy ≤ strategyFailureCount then
    { allowed := false
      status := "STRATEGY_FAILURE_LIMIT_REACHED"
      details :=
        [("strategy_failures", .number strategyFailureCount),
          ("max_failed_trades_per_strategy", .number risk.maxFailedTradesPerStrategy)] }
  else { allowed := true }

/-! ### What the gates let through -/

variable (risk : RiskConfig)

@[simp] theorem checkPositionCapacity_allowed (activeCount : Nat) :
    (checkPositionCapacity risk activeCount).allowed = true ↔
      activeCount < risk.maxConcurrentPositions := by
  unfold checkPositionCapacity
  split <;> simp <;> omega

def cooldownEnd (risk : RiskConfig) (exitTime : Int) : Int :=
  exitTime + risk.cooldownAfterLossMin * microsPerMinute

theorem cooldown_over_iff (now last : Int) :
    (risk.cooldownAfterLossMin : ℚ) ≤ elapsedMinutes now last ↔ cooldownEnd risk last ≤ now := by
  have positive : (0 : ℚ) < microsPerMinute := by simp [microsPerMinute]
  rw [elapsedMinutes, le_div_iff₀ positive, cooldownEnd]
  constructor
  · intro enough
    have casted : ((risk.cooldownAfterLossMin * microsPerMinute : Int) : ℚ) ≤ (now - last : Int) := by
      push_cast at enough ⊢
      exact enough
    have := Int.cast_le.mp casted
    omega
  · intro enough
    have := Int.cast_le (R := ℚ).mpr
      (show (risk.cooldownAfterLossMin * microsPerMinute : Int) ≤ now - last by omega)
    push_cast at this ⊢
    exact this

@[simp] theorem checkLossCooldown_allowed (now : Int) (lastLossExitTime : Option Int) :
    (checkLossCooldown risk now lastLossExitTime).allowed = true ↔
      ∀ last ∈ lastLossExitTime, cooldownEnd risk last ≤ now := by
  cases lastLossExitTime with
  | none => simp [checkLossCooldown]
  | some last =>
    simp only [checkLossCooldown, Option.mem_some_iff, forall_eq', ← cooldown_over_iff]
    split
    · rename_i early
      simp [early]
    · rename_i late
      simpa using late

@[simp] theorem checkDailyLossLimits_allowed (realizedRTotal : ℚ)
    (netPnlTotal accountEquity : Option ℚ) :
    (checkDailyLossLimits risk realizedRTotal netPnlTotal accountEquity).allowed = true ↔
      -risk.maxDailyLossR < realizedRTotal ∧
        ∀ total ∈ netPnlTotal, -dailyLossAmount risk accountEquity < total := by
  unfold checkDailyLossLimits
  cases netPnlTotal with
  | none => by_cases low : realizedRTotal ≤ -risk.maxDailyLossR <;> simp [low, ← not_le]
  | some total =>
    by_cases low : realizedRTotal ≤ -risk.maxDailyLossR <;>
      by_cases poor : total ≤ -dailyLossAmount risk accountEquity <;> simp [low, poor, ← not_le]

@[simp] theorem checkDailyTradeLimit_allowed (dailyCount : Nat) (maxTradesPerDay : Option Nat) :
    (checkDailyTradeLimit risk dailyCount maxTradesPerDay).allowed = true ↔
      dailyCount < maxTradesPerDay.getD risk.maxTradesPerDay := by
  simp only [checkDailyTradeLimit]
  split
  · rename_i reached
    simp [reached]
  · rename_i below
    simpa using below

@[simp] theorem checkStrategyTradeLimits_allowed (strategyTradeCount strategyFailureCount : Nat) :
    (checkStrategyTradeLimits risk strategyTradeCount strategyFailureCount).allowed = true ↔
      strategyTradeCount < risk.maxTradesPerStrategyPerDay ∧
        strategyFailureCount < risk.maxFailedTradesPerStrategy := by
  unfold checkStrategyTradeLimits
  split
  · simp
    omega
  · split <;> simp <;> omega

end BreezeTrading
