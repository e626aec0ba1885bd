/-
This file models how a position is sized: from the premium of the option and its hard
stop, or from the structural risk of the underlying. Both return whole lots and the
quantity they come to, and no lots where not even one is within the limits.
-/

import BreezeTrading.Oms.StateMachine
import Mathlib.Data.Rat.Floor

namespace BreezeTrading

/-- The limits a position is sized under. -/
structure SizingLimits where
  maxTradeCapital : ℚ
  accountEquity : ℚ
  riskPerTradePct : ℚ
  optionHardStopPct : ℚ
  maxLotsPerTrade : Int
  deriving DecidableEq

/-- The loss one trade may come to. -/
def SizingLimits.riskBudget (limits : SizingLimits) : ℚ :=
  limits.accountEquity * (limits.riskPerTradePct / 100)

/-- `PositionManager.calculate_position_size`: lots and quantity within the capital and the risk
of a trade. -/
def calculatePositionSize (limits : SizingLimits) (entryPremium : ℚ) (lotSize : Int) : Int × Int :=
  let capitalPerLot := entryPremium * lotSize
  if capitalPerLot ≤ 0 then (0, 0)
  else
    let capitalLots := ⌊limits.maxTradeCapital / capitalPerLot⌋
    let premiumRiskPerLot := entryPremium * (limits.optionHardStopPct / 100) * lotSize
    let riskLots :=
      if 0 < premiumRiskPerLot then ⌊limits.riskBudget / premiumRiskPerLot⌋ else capitalLots
    let lots := min (min capitalLots riskLots) limits.maxLotsPerTrade
    if lots < 1 then (0, 0) else (lots, lots * lotSize)

namespace UnderlyingRiskSizer

/-- What a lot loses when the underlying moves to its stop. -/
def estimateOptionLossPerLot (underlyingEntry underlyingStop : ℚ) (optionDelta : Option ℚ)
    (lotSize : Int) (optionEntry : ℚ) : Except Raised ℚ :=
  let r := |underlyingEntry - underlyingStop|
  if r ≤ 0 ∨ lotSize ≤ 0 ∨ optionEntry ≤ 0 then
    .error ⟨"invalid structural-risk sizing inputs"⟩
  else
    match optionDelta with
    | some delta =>
        if 0 < |delta| ∧ |delta| ≤ 1 then .ok (|delta| * r * lotSize)
        else .error ⟨"OPTION_RISK_UNAVAILABLE"⟩
    | none => .error ⟨"OPTION_RISK_UNAVAILABLE"⟩

/-- Size options from futures structural R: lots and quantity. -/
def size (limits : SizingLimits) (underlyingEntry underlyingStop : ℚ) (optionDelta : Option ℚ)
    (lotSize : Int) (optionEntry : ℚ) : Except Raised (Int × Int) :=
  (estimateOptionLossPerLot underlyingEntry underlyingStop optionDelta lotSize optionEntry).map
    fun lossPerLot =>
      let capitalLots := ⌊limits.maxTradeCapital / (optionEntry * lotSize)⌋
      let riskLots := if 0 < lossPerLot then ⌊limits.riskBudget / lossPerLot⌋ else 0
      let lots := min (min capitalLots riskLots) limits.maxLotsPerTrade
      if lots < 1 then (0, 0) else (lots, lots * lotSize)

end UnderlyingRiskSizer

end BreezeTrading
