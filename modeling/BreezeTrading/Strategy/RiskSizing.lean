/-
This file proves that both sizers return the most lots that fit a trade: their cost within
the capital, their loss at the stop within the risk budget of the equity, and their number
within the limit of lots. An equity of zero is taken for one that is not given, and then
the lots fit the budget of the configured equity instead.
-/

import BreezeTrading.Strategy.Sizing
import Mathlib.Tactic.Positivity

namespace BreezeTrading

/-! ### Sizers that are given an equity -/

/-- Underlying-thesis risk translated into option execution risk. -/
structure StructuralRiskEstimate where
  underlyingR : ℚ
  optionLossPerLot : ℚ
  riskBudget : ℚ
  lots : Int
  quantity : Int
  method : String
  rejectionReason : Option String := none
  deriving DecidableEq

/-- `account_equity or self.config.account_equity`. -/
def SizingLimits.equityOr (limits : SizingLimits) : Option ℚ → ℚ
  | none => limits.accountEquity
  | some given => orNumber given limits.accountEquity

namespace RiskSizing

/-- What a lot loses when the underlying moves to its stop, and how that is estimated. -/
def estimateOptionLossPerLot (underlyingEntry underlyingStop : ℚ) (optionDelta : Option ℚ)
    (lotSize : Int) (optionEntry multiplier : ℚ) (fallbackLossPerLot : Option ℚ) :
    Except Raised (ℚ × String) :=
  let r := |underlyingEntry - underlyingStop|
  if r ≤ 0 ∨ lotSize ≤ 0 ∨ optionEntry ≤ 0 then
    .error ⟨"invalid structural-risk sizing inputs"⟩
  else
    match optionDelta.filter fun delta => decide (0 < |delta| ∧ |delta| ≤ 1) with
    | some delta => .ok (|delta| * r * lotSize * multiplier, "DELTA_APPROXIMATION")
    | none =>
      match fallbackLossPerLot.filter fun loss => decide (0 < loss) with
      | some loss => .ok (loss, "CONFIGURED_FALLBACK")
      | none => .error ⟨"OPTION_RISK_UNAVAILABLE"⟩

/-- Size options from futures structural R. -/
def size (limits : SizingLimits) (underlyingEntry underlyingStop : ℚ) (optionDelta : Option ℚ)
    (lotSize : Int) (optionEntry : ℚ) (accountEquity fallbackLossPerLot : Option ℚ) :
    Except Raised StructuralRiskEstimate := do
  let equity := limits.equityOr accountEquity
  let budget := equity * limits.riskPerTradePct / 100
  let (lossPerLot, method) ← estimateOptionLossPerLot underlyingEntry underlyingStop optionDelta
    lotSize optionEntry 1 fallbackLossPerLot
  let capitalLots := ⌊limits.maxTradeCapital / (optionEntry * lotSize)⌋
  let riskLots := if 0 < lossPerLot then ⌊budget / lossPerLot⌋ else 0
  let lots := min (min capitalLots riskLots) limits.maxLotsPerTrade
  if lots < 1 then
    return ⟨|underlyingEntry - underlyingStop|, lossPerLot, budget, 0, 0, method,
      some "INSUFFICIENT_CAPITAL_OR_RISK_BUDGET"⟩
  else
    return ⟨|underlyingEntry - underlyingStop|, lossPerLot, budget, lots, lots * lotSize, method,
      none⟩

/-- `PositionManager.calculate_position_size` of an equity that is given. -/
def calculatePositionSizeOf (limits : SizingLimits) (entryPremium accountEquity : ℚ)
    (lotSize : Int) : Int × Int :=
  calculatePositionSize { limits with accountEquity := accountEquity } entryPremium lotSize

/-- `StrategyDPositionManager.size_option_position`. -/
def sizeOptionPosition (limits : SizingLimits) (entryPremium : ℚ) (lotSize : Int)
    (accountEquity : Option ℚ) : Int × Int :=
  calculatePositionSizeOf limits entryPremium (limits.equityOr accountEquity) lotSize

/-! ### What a size should be -/

/-- The bounds of the fields of the configuration. -/
structure Bounded (limits : SizingLimits) : Prop where
  capital : 5000 ≤ limits.maxTradeCapital
  equity : 0 < limits.accountEquity
  risk : 1 / 10 ≤ limits.riskPerTradePct ∧ limits.riskPerTradePct ≤ 5
  hardStop : 10 ≤ limits.optionHardStopPct ∧ limits.optionHardStopPct ≤ 50
  lots : 1 ≤ limits.maxLotsPerTrade

/-- A number of lots is within the capital, the risk budget of an equity and the limit of lots. -/
structure Fits (limits : SizingLimits) (equity entry lossPerLot : ℚ) (lotSize : Int)
    (lots : Nat) : Prop where
  capital : lots * lotSize * entry ≤ limits.maxTradeCapital
  risk : lots * lossPerLot ≤ limits.riskPerTradePct / 100 * equity
  limit : (lots : Int) ≤ limits.maxLotsPerTrade

/-- The largest number of lots that fits, or none where no number does. -/
def Largest (fits : Nat → Prop) (lots : Int) : Prop :=
  (∃ largest : Nat, lots = largest ∧ IsGreatest {count | fits count} largest) ∨
    (lots = 0 ∧ ∀ count, ¬ fits count)

/-- Lots are sized to the equity that was given, and do not risk more than its budget. -/
structure SafelySized (limits : SizingLimits) (equity entry lossPerLot : ℚ) (lotSize : Int)
    (sized : Int × Int) : Prop where
  largest : Largest (Fits limits equity entry lossPerLot lotSize) sized.1
  quantity : sized.2 = sized.1 * lotSize
  within : 0 < sized.1 → sized.1 * lossPerLot ≤ limits.riskPerTradePct / 100 * equity

/-- What an option loses per lot at its hard stop. -/
def premiumRiskPerLot (limits : SizingLimits) (entryPremium : ℚ) (lotSize : Int) : ℚ :=
  entryPremium * (limits.optionHardStopPct / 100) * lotSize

/-! ### The largest number under a bound -/

section

variable {fits : Nat → Prop}

/-- Where exactly the numbers up to a bound fit, the bound is the largest, unless it is below
one. -/
theorem largest_of_bound {bound : Int} (upTo : ∀ count, fits count ↔ (count : Int) ≤ bound) :
    Largest fits (if bound < 1 then 0 else bound) := by
  rcases lt_trichotomy bound 0 with negative | rfl | positive
  · rw [if_pos (by omega)]
    refine .inr ⟨rfl, fun count fit => ?_⟩
    have := (upTo count).mp fit
    omega
  · rw [if_pos (by omega)]
    refine .inl ⟨0, rfl, (upTo 0).mpr le_rfl, fun count fit => ?_⟩
    exact Int.ofNat_le.mp ((upTo count).mp fit)
  · rw [if_neg (by omega)]
    obtain ⟨largest, rfl⟩ := Int.eq_ofNat_of_zero_le positive.le
    refine .inl ⟨largest, rfl, (upTo largest).mpr le_rfl, fun count fit => ?_⟩
    exact Int.ofNat_le.mp ((upTo count).mp fit)

theorem Largest.unique {first second : Int} (one : Largest fits first)
    (other : Largest fits second) : first = second := by
  rcases one with ⟨firstLots, rfl, firstGreatest⟩ | ⟨rfl, noneFits⟩
  · rcases other with ⟨secondLots, rfl, secondGreatest⟩ | ⟨rfl, noneFits⟩
    · rw [firstGreatest.unique secondGreatest]
    · exact absurd firstGreatest.1 (noneFits firstLots)
  · rcases other with ⟨secondLots, rfl, secondGreatest⟩ | ⟨rfl, -⟩
    · exact absurd secondGreatest.1 (noneFits secondLots)
    · rfl

theorem Largest.fits_of_pos {lots : Int} (largest : Largest fits lots) (positive : 0 < lots) :
    ∃ count : Nat, lots = count ∧ fits count := by
  rcases largest with ⟨count, rfl, greatest⟩ | ⟨rfl, -⟩
  · exact ⟨count, rfl, greatest.1⟩
  · exact absurd positive (lt_irrefl 0)

end

section

variable {limits : SizingLimits} {equity used entry lossPerLot : ℚ} {lotSize : Int}

/-- The lots both sizers come to. -/
def lotsFor (limits : SizingLimits) (equity entry lossPerLot : ℚ) (lotSize : Int) : Int :=
  min (min ⌊limits.maxTradeCapital / (entry * lotSize)⌋
    ⌊limits.riskPerTradePct / 100 * equity / lossPerLot⌋) limits.maxLotsPerTrade

theorem le_floor_div_iff {amount unit : ℚ} (positive : 0 < unit) (count : Nat) :
    (count : Int) ≤ ⌊amount / unit⌋ ↔ count * unit ≤ amount := by
  rw [Int.le_floor, le_div_iff₀ positive, Int.cast_natCast]

theorem fits_iff (price : 0 < entry) (size : 0 < lotSize) (loses : 0 < lossPerLot) (count : Nat) :
    Fits limits equity entry lossPerLot lotSize count ↔
      (count : Int) ≤ lotsFor limits equity entry lossPerLot lotSize := by
  have lots : (0 : ℚ) < lotSize := Int.cast_pos.mpr size
  have cost : 0 < entry * lotSize := mul_pos price lots
  unfold lotsFor
  rw [le_min_iff, le_min_iff, le_floor_div_iff cost, le_floor_div_iff loses]
  constructor
  · intro fits
    refine ⟨⟨?_, fits.risk⟩, fits.limit⟩
    linarith only [fits.capital]
  · rintro ⟨⟨capital, risk⟩, limit⟩
    refine ⟨?_, risk, limit⟩
    linarith only [capital]

/-- What both sizers return for their lots. -/
def sizedTo (lots lotSize : Int) : Int × Int :=
  if lots < 1 then (0, 0) else (lots, lots * lotSize)

theorem fst_sizedTo (lots lotSize : Int) :
    (sizedTo lots lotSize).1 = if lots < 1 then 0 else lots := by
  unfold sizedTo
  split <;> rfl

theorem snd_sizedTo (lots lotSize : Int) :
    (sizedTo lots lotSize).2 = (sizedTo lots lotSize).1 * lotSize := by
  unfold sizedTo
  split
  · exact (Int.zero_mul lotSize).symm
  · rfl

theorem safelySized_of_largest {lots : Int}
    (largest : Largest (Fits limits equity entry lossPerLot lotSize) (sizedTo lots lotSize).1) :
    SafelySized limits equity entry lossPerLot lotSize (sizedTo lots lotSize) where
  largest := largest
  quantity := snd_sizedTo lots lotSize
  within positive := by
    obtain ⟨count, same, fits⟩ := largest.fits_of_pos positive
    rw [same, Int.cast_natCast]
    exact fits.risk

theorem safelySized_same (price : 0 < entry) (size : 0 < lotSize) (loses : 0 < lossPerLot) :
    SafelySized limits equity entry lossPerLot lotSize
      (sizedTo (lotsFor limits equity entry lossPerLot lotSize) lotSize) := by
  refine safelySized_of_largest ?_
  rw [fst_sizedTo]
  exact largest_of_bound (fits_iff price size loses)

theorem lotsFor_zero_lt :
    lotsFor limits 0 entry lossPerLot lotSize < 1 := by
  unfold lotsFor
  rw [mul_zero, zero_div, Int.floor_zero]
  exact (min_le_left _ _).trans_lt ((min_le_right _ _).trans_lt Int.zero_lt_one)

theorem safelySized_zero_iff (price : 0 < entry) (size : 0 < lotSize) (loses : 0 < lossPerLot) :
    SafelySized limits 0 entry lossPerLot lotSize
        (sizedTo (lotsFor limits used entry lossPerLot lotSize) lotSize) ↔
      ¬ Fits limits used entry lossPerLot lotSize 1 := by
  have none : Largest (Fits limits 0 entry lossPerLot lotSize) 0 := by
    have upTo : ∀ count, Fits limits 0 entry lossPerLot lotSize count ↔
        (count : Int) ≤ lotsFor limits 0 entry lossPerLot lotSize := fits_iff price size loses
    have largest := largest_of_bound upTo
    rwa [if_pos lotsFor_zero_lt] at largest
  rw [fits_iff price size loses, Nat.cast_one, not_le]
  constructor
  · intro safe
    have zero := safe.largest.unique none
    rw [fst_sizedTo] at zero
    split at zero
    · assumption
    · omega
  · intro few
    refine safelySized_of_largest ?_
    rwa [fst_sizedTo, if_pos few]

/-! ### Both sizers -/

theorem estimate_positive {underlyingEntry underlyingStop multiplier : ℚ}
    {optionDelta fallbackLossPerLot : Option ℚ} {method : String} (multiplies : 0 < multiplier)
    (estimated : estimateOptionLossPerLot underlyingEntry underlyingStop optionDelta lotSize entry
      multiplier fallbackLossPerLot = .ok (lossPerLot, method)) :
    0 < entry ∧ 0 < lotSize ∧ 0 < lossPerLot := by
  unfold estimateOptionLossPerLot at estimated
  simp only at estimated
  split at estimated
  · cases estimated
  · rename_i valid
    push Not at valid
    obtain ⟨risk, lots, price⟩ := valid
    have size : (0 : ℚ) < lotSize := Int.cast_pos.mpr lots
    refine ⟨price, lots, ?_⟩
    split at estimated
    · rename_i delta read
      obtain ⟨nonzero, -⟩ := of_decide_eq_true (Option.filter_eq_some_iff.mp read).2
      obtain ⟨rfl, -⟩ := Prod.mk.inj (Except.ok.inj estimated)
      positivity
    · split at estimated
      · rename_i loss read
        obtain ⟨rfl, -⟩ := Prod.mk.inj (Except.ok.inj estimated)
        exact of_decide_eq_true (Option.filter_eq_some_iff.mp read).2
      · cases estimated

theorem size_of_estimate (limits : SizingLimits) (accountEquity : Option ℚ)
    {underlyingEntry underlyingStop : ℚ} {optionDelta fallbackLossPerLot : Option ℚ}
    {method : String}
    (estimated : estimateOptionLossPerLot underlyingEntry underlyingStop optionDelta lotSize entry
      1 fallbackLossPerLot = .ok (lossPerLot, method)) :
    ∃ estimate, size limits underlyingEntry underlyingStop optionDelta lotSize entry accountEquity
        fallbackLossPerLot = .ok estimate ∧
      (estimate.lots, estimate.quantity) = sizedTo
        (lotsFor limits (limits.equityOr accountEquity) entry lossPerLot lotSize) lotSize := by
  have budget : limits.equityOr accountEquity * limits.riskPerTradePct / 100 =
      limits.riskPerTradePct / 100 * limits.equityOr accountEquity := by ring
  unfold size
  rw [estimated]
  have loses := (estimate_positive one_pos estimated).2.2
  simp only [budget, if_pos loses, bind, Except.bind]
  unfold sizedTo lotsFor
  split
  · exact ⟨_, rfl, rfl⟩
  · exact ⟨_, rfl, rfl⟩

theorem calculatePositionSizeOf_eq (bounded : Bounded limits) (price : 0 < entry)
    (size : 0 < lotSize) :
    0 < premiumRiskPerLot limits entry lotSize ∧
      calculatePositionSizeOf limits entry equity lotSize = sizedTo
        (lotsFor limits equity entry (premiumRiskPerLot limits entry lotSize) lotSize) lotSize := by
  have lots : (0 : ℚ) < lotSize := Int.cast_pos.mpr size
  have cost : ¬ entry * lotSize ≤ 0 := not_le.mpr (mul_pos price lots)
  have stop : 0 < limits.optionHardStopPct := by linarith only [bounded.hardStop.1]
  have loses : 0 < premiumRiskPerLot limits entry lotSize := by
    unfold premiumRiskPerLot
    positivity
  refine ⟨loses, ?_⟩
  have budget : equity * (limits.riskPerTradePct / 100) =
      limits.riskPerTradePct / 100 * equity := mul_comm _ _
  unfold calculatePositionSizeOf calculatePositionSize SizingLimits.riskBudget
  unfold premiumRiskPerLot at loses ⊢
  simp only [if_neg cost, if_pos loses, budget]
  rfl

theorem calculatePositionSizeOf_of_not_price (unpriced : ¬ 0 < entry) (size : 0 < lotSize) :
    calculatePositionSizeOf limits entry equity lotSize = (0, 0) := by
  have lots : (0 : ℚ) ≤ lotSize := (Int.cast_pos.mpr size).le
  exact if_pos (mul_nonpos_of_nonpos_of_nonneg (not_lt.mp unpriced) lots)

theorem safelySized_none_iff (bounded : Bounded limits) (unpriced : ¬ 0 < entry)
    (size : 0 < lotSize) :
    SafelySized limits equity entry (premiumRiskPerLot limits entry lotSize) lotSize (0, 0) ↔
      ¬ Fits limits equity entry (premiumRiskPerLot limits entry lotSize) lotSize
        limits.maxLotsPerTrade.toNat := by
  have most : (limits.maxLotsPerTrade.toNat : Int) = limits.maxLotsPerTrade :=
    Int.toNat_of_nonneg (by linarith only [bounded.lots])
  have some : 1 ≤ limits.maxLotsPerTrade.toNat := by
    have := bounded.lots
    omega
  have lots : (0 : ℚ) < lotSize := Int.cast_pos.mpr size
  have free : entry ≤ 0 := not_lt.mp unpriced
  have gains : premiumRiskPerLot limits entry lotSize ≤ 0 := by
    have stop : 0 ≤ limits.optionHardStopPct / 100 := by linarith only [bounded.hardStop.1]
    exact mul_nonpos_of_nonpos_of_nonneg (mul_nonpos_of_nonpos_of_nonneg free stop) lots.le
  constructor
  · intro safe fits
    have greatest : Largest (Fits limits equity entry (premiumRiskPerLot limits entry lotSize)
        lotSize) limits.maxLotsPerTrade :=
      .inl ⟨_, most.symm, fits, fun count fit => by
        have := fit.limit
        omega⟩
    have same := safe.largest.unique greatest
    have := bounded.lots
    omega
  · intro unfit
    refine ⟨.inr ⟨rfl, fun count fit => unfit ?_⟩, (Int.zero_mul lotSize).symm,
      fun positive => absurd positive (lt_irrefl 0)⟩
    have fewer : (count : ℚ) ≤ limits.maxLotsPerTrade.toNat := by
      have := fit.limit
      exact_mod_cast (by omega : count ≤ limits.maxLotsPerTrade.toNat)
    refine ⟨?_, ?_, most.le⟩
    · have cost : limits.maxLotsPerTrade.toNat * lotSize * entry ≤ 0 :=
        mul_nonpos_of_nonneg_of_nonpos (by positivity) free
      linarith only [cost, bounded.capital]
    · exact (mul_le_mul_of_nonpos_right fewer gains).trans fit.risk

theorem equityOr_eq_iff (bounded : Bounded limits) (given : ℚ) :
    limits.equityOr (some given) = given ↔ given ≠ 0 := by
  unfold SizingLimits.equityOr
  by_cases zero : given = 0
  · subst zero
    simp [bounded.equity.ne']
  · simp [orNumber_eq_left _ zero, zero]

theorem safelySized_used_iff (bounded : Bounded limits) (given : ℚ) (price : 0 < entry)
    (size : 0 < lotSize) (loses : 0 < lossPerLot) :
    SafelySized limits given entry lossPerLot lotSize (sizedTo
        (lotsFor limits (limits.equityOr (some given)) entry lossPerLot lotSize) lotSize) ↔
      given ≠ 0 ∨ ¬ Fits limits limits.accountEquity entry lossPerLot lotSize 1 := by
  by_cases zero : given = 0
  · subst zero
    have used : limits.equityOr (some 0) = limits.accountEquity := orNumber_zero _
    rw [used, safelySized_zero_iff price size loses]
    simp
  · rw [(equityOr_eq_iff bounded given).mpr zero]
    exact iff_of_true (safelySized_same price size loses) (.inl zero)

end

end RiskSizing

open RiskSizing

/-- Both sizers return the most lots that fit the equity they are given exactly when that is not
zero, or not one lot fits the configured equity; and the premium sizer, which refuses what is not
a price, exactly when the most lots do not fit it. -/
theorem sizing_safe_iff (limits : SizingLimits) (bounded : Bounded limits) (lotSize : Int)
    (positive : 0 < lotSize) :
    (∀ (underlyingEntry underlyingStop : ℚ) (optionDelta : Option ℚ) (optionEntry equity : ℚ)
      (fallbackLossPerLot : Option ℚ) (lossPerLot : ℚ) (method : String),
      estimateOptionLossPerLot underlyingEntry underlyingStop optionDelta lotSize optionEntry 1
        fallbackLossPerLot = .ok (lossPerLot, method) →
      ∃ estimate, size limits underlyingEntry underlyingStop optionDelta lotSize optionEntry
          (some equity) fallbackLossPerLot = .ok estimate ∧
        (SafelySized limits equity optionEntry lossPerLot lotSize
            (estimate.lots, estimate.quantity) ↔
          equity ≠ 0 ∨ ¬ Fits limits limits.accountEquity optionEntry lossPerLot lotSize 1)) ∧
    ∀ entryPremium equity : ℚ,
      (SafelySized limits equity entryPremium (premiumRiskPerLot limits entryPremium lotSize)
          lotSize (calculatePositionSizeOf limits entryPremium equity lotSize) ↔
        0 < entryPremium ∨ ¬ Fits limits equity entryPremium
          (premiumRiskPerLot limits entryPremium lotSize) lotSize limits.maxLotsPerTrade.toNat) ∧
      (SafelySized limits equity entryPremium (premiumRiskPerLot limits entryPremium lotSize)
          lotSize (sizeOptionPosition limits entryPremium lotSize (some equity)) ↔
        if 0 < entryPremium then
          equity ≠ 0 ∨ ¬ Fits limits limits.accountEquity entryPremium
            (premiumRiskPerLot limits entryPremium lotSize) lotSize 1
        else ¬ Fits limits equity entryPremium (premiumRiskPerLot limits entryPremium lotSize)
          lotSize limits.maxLotsPerTrade.toNat) := by
  refine ⟨?_, fun entryPremium equity => ?_⟩
  · intro underlyingEntry underlyingStop optionDelta optionEntry equity fallbackLossPerLot
      lossPerLot method estimated
    obtain ⟨price, size, loses⟩ := estimate_positive one_pos estimated
    obtain ⟨estimate, returned, sized⟩ := size_of_estimate limits (some equity) estimated
    refine ⟨estimate, returned, ?_⟩
    rw [sized]
    exact safelySized_used_iff bounded equity price size loses
  · unfold sizeOptionPosition
    by_cases price : 0 < entryPremium
    · obtain ⟨loses, sized⟩ := calculatePositionSizeOf_eq bounded price positive
      obtain ⟨-, used⟩ := calculatePositionSizeOf_eq bounded price positive
      rw [sized, used, if_pos price]
      exact ⟨iff_of_true (safelySized_same price positive loses) (.inl price),
        safelySized_used_iff bounded equity price positive loses⟩
    · rw [calculatePositionSizeOf_of_not_price price positive,
        calculatePositionSizeOf_of_not_price price positive, if_neg price,
        safelySized_none_iff bounded price positive]
      simp [price]

namespace RiskSizing

/-- The limits when nothing is set. -/
def standardLimits : SizingLimits := ⟨50000, 500000, 1 / 2, 25, 100⟩

theorem bounded_standardLimits : Bounded standardLimits := by
  unfold standardLimits
  constructor <;> norm_num

end RiskSizing

/-- An account without equity is sized as if it held the configured equity. -/
theorem sizing_not_safe :
    ¬ ∀ (limits : SizingLimits) (lotSize : Int), Bounded limits → 0 < lotSize →
      ∀ (underlyingEntry underlyingStop : ℚ) (optionDelta : Option ℚ) (optionEntry equity : ℚ)
        (fallbackLossPerLot : Option ℚ) (estimate : StructuralRiskEstimate),
        size limits underlyingEntry underlyingStop optionDelta lotSize optionEntry (some equity)
          fallbackLossPerLot = .ok estimate →
        SafelySized limits equity optionEntry estimate.optionLossPerLot lotSize
          (estimate.lots, estimate.quantity) := by
  intro safe
  have sized := safe standardLimits 75 bounded_standardLimits (by decide) 100 90 (some (1 / 2))
    100 0 none ⟨10, 375, 2500, 6, 450, "DELTA_APPROXIMATION", none⟩ (by decide +kernel)
  have risked := sized.within (by decide)
  norm_num at risked

/-- Without equity the premium sizer returns no lots, as it should. -/
theorem sizing_safe_without_equity :
    SafelySized standardLimits 0 100 (premiumRiskPerLot standardLimits 100 75) 75
      (calculatePositionSizeOf standardLimits 100 0 75) :=
  (((sizing_safe_iff standardLimits bounded_standardLimits 75 (by decide)).2 100 0).1).mpr
    (.inl (by norm_num))

end BreezeTrading
