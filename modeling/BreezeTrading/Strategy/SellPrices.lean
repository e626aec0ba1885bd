/-
This file proves which prices of a sale the risk checks accept, counted in ticks. The stop held at
the broker, the final sale, the exit of Strategy B and the manual exit each compute their price in
a way of their own, and each meets the checks under a condition of its own on the premium.
-/

import BreezeTrading.Risk.Soundness
import BreezeTrading.Strategy.LiveExit
import BreezeTrading.Strategy.Rounding

namespace BreezeTrading.LiveExit

open RiskService Soundness

/-! ### Ticks -/

/-- The price of a number of ticks. -/
def ofTicks (ticks : Int) : ℚ := (ticks : ℚ) / 20

/-- A positive multiple of the tick. -/
def OnTick (price : ℚ) : Prop := ∃ ticks : Int, 0 < ticks ∧ price = ofTicks ticks

theorem ofTicks_lt_iff {first second : Int} : ofTicks first < ofTicks second ↔ first < second := by
  unfold ofTicks
  rw [div_lt_div_iff_of_pos_right (by norm_num), Int.cast_lt]

theorem ofTicks_le_iff {first second : Int} : ofTicks first ≤ ofTicks second ↔ first ≤ second := by
  unfold ofTicks
  rw [div_le_div_iff_of_pos_right (by norm_num), Int.cast_le]

theorem ofTicks_one : ofTicks 1 = 1 / 20 := by norm_num [ofTicks]

theorem ofTicks_mul (ticks : Int) : ofTicks ticks * 20 = ticks :=
  div_mul_cancel₀ (ticks : ℚ) (by norm_num)

theorem roundTo_ofTicks (ticks : Int) : roundTo 2 (ofTicks ticks) = ofTicks ticks := by
  have hundredths : ofTicks ticks * 10 ^ 2 = ((5 * ticks : Int) : ℚ) := by
    unfold ofTicks
    push_cast
    ring
  unfold roundTo
  rw [hundredths, roundHalfEven_intCast]
  unfold ofTicks
  push_cast
  ring

/-- The ticks of a normalized price. -/
def ticksOf (value : ℚ) (down : Bool) : Int :=
  max 1 (if down then (value * 20).floor else roundHalfEven (value * 20))

theorem roundHalfEven_nonpos {number : ℚ} (nonpos : number ≤ 0) : roundHalfEven number ≤ 0 := by
  have zero := roundHalfEven_intCast 0
  calc roundHalfEven number ≤ roundHalfEven ((0 : Int) : ℚ) :=
        roundHalfEven_mono (by exact_mod_cast nonpos)
    _ = 0 := zero

theorem optionTickPrice_eq (value : ℚ) (down : Bool) :
    optionTickPrice value down = ofTicks (ticksOf value down) := by
  have scaled : value / (1 / 20) = value * 20 := by ring
  unfold optionTickPrice ticksOf
  dsimp only
  rw [scaled]
  by_cases nonpos : value ≤ 0
  · have small : value * 20 ≤ 0 := by linarith
    have steps : (if down then (value * 20).floor else roundHalfEven (value * 20)) ≤ 0 := by
      cases down
      · exact roundHalfEven_nonpos small
      · have below : ((value * 20).floor : ℚ) ≤ value * 20 := Rat.floor_le _
        have nonposCast : ((value * 20).floor : ℚ) ≤ ((0 : Int) : ℚ) := by
          push_cast
          linarith
        exact_mod_cast nonposCast
    rw [if_pos nonpos, max_eq_left (by omega), ofTicks_one]
  · rw [if_neg nonpos]
    generalize (if down then (value * 20).floor else roundHalfEven (value * 20)) = steps
    have mono : Monotone ofTicks := fun _ _ le => ofTicks_le_iff.mpr le
    have price : (steps : ℚ) * (1 / 20) = ofTicks steps := by
      unfold ofTicks
      ring
    rw [price, ← ofTicks_one, ← mono.map_max, roundTo_ofTicks]

theorem onTick_ofTicks {ticks : Int} (positive : 0 < ticks) : OnTick (ofTicks ticks) :=
  ⟨ticks, positive, rfl⟩

/-! ### The checks -/

def saleIntent (trade : ManagedTrade) (intentId : String) (createdAt : Int) (quantity : Int)
    (price : ℚ) (triggerPrice : Option ℚ) : OrderIntent where
  intentId
  correlationId := trade.tradeId
  strategyInstanceId := some "INST-NIFTY-AUTO-ENGINE"
  instrumentId := trade.contractInstrumentId
  symbol := trade.contractSymbol
  side := .sell
  orderType := if triggerPrice.isSome then .stopLimit else .limit
  quantity
  price
  triggerPrice
  tradingMode := .live
  reduceOnly := true
  createdAt

/-- An intent is on tick, its limit is strictly below its trigger, and the risk checks of its prices
pass. -/
structure Acceptable (service : RiskService) (environment : RiskEnvironment)
    (decisions : List Decision) (intent : OrderIntent) : Prop where
  price : OnTick intent.price
  trigger : ∀ trigger ∈ intent.triggerPrice, OnTick trigger ∧ intent.price < trigger
  stopLimit : Passes environment decisions (checkStopLimit intent)
  priceSanity : Passes environment decisions (checkPrice service intent)

section Checks

variable {service : RiskService} {environment : RiskEnvironment} {decisions : List Decision}

theorem passes_checkPrice_iff {intent : OrderIntent} :
    Passes environment decisions (checkPrice service intent) ↔ 1 / 20 < intent.price := by
  simp only [checkPrice, passes_ite, passes_pass, not_passes_refuse, imp_false, not_le,
    implies_true, and_true]

theorem acceptable_limit_iff (trade : ManagedTrade) (intentId : String)
    (createdAt quantity : Int) (price : ℚ) :
    Acceptable service environment decisions
        (saleIntent trade intentId createdAt quantity price none) ↔
      ∃ ticks : Int, 2 ≤ ticks ∧ price = ofTicks ticks := by
  constructor
  · intro acceptable
    obtain ⟨ticks, positive, isPrice⟩ := acceptable.price
    have above : ofTicks 1 < ofTicks ticks := by
      rw [ofTicks_one, ← isPrice]
      exact passes_checkPrice_iff.mp acceptable.priceSanity
    exact ⟨ticks, ofTicks_lt_iff.mp above, isPrice⟩
  · rintro ⟨ticks, two, rfl⟩
    refine ⟨onTick_ofTicks (by omega), fun _ none => (Option.not_mem_none _ none).elim, ?_, ?_⟩
    · simp [checkStopLimit, saleIntent]
    · rw [passes_checkPrice_iff, ← ofTicks_one]
      exact ofTicks_lt_iff.mpr (by omega)

/-- A stop sale on tick is acceptable exactly when its limit is two ticks or more, and below its
trigger. -/
theorem acceptable_stop_iff (trade : ManagedTrade) (intentId : String)
    (createdAt quantity limit trigger : Int) (positive : 0 < trigger) :
    Acceptable service environment decisions
        (saleIntent trade intentId createdAt quantity (ofTicks limit) (some (ofTicks trigger))) ↔
      2 ≤ limit ∧ limit < trigger := by
  constructor
  · intro acceptable
    have above : ofTicks 1 < ofTicks limit := by
      rw [ofTicks_one]
      exact passes_checkPrice_iff.mp acceptable.priceSanity
    exact ⟨ofTicks_lt_iff.mp above,
      ofTicks_lt_iff.mp (acceptable.trigger _ (Option.mem_some_self _)).2⟩
  · rintro ⟨two, below⟩
    have limitAbove : (1 : ℚ) / 20 < ofTicks limit := by
      rw [← ofTicks_one]
      exact ofTicks_lt_iff.mpr (by omega)
    have triggerAbove : (1 : ℚ) / 20 < ofTicks trigger := by
      rw [← ofTicks_one]
      exact ofTicks_lt_iff.mpr (by omega)
    have ordered : ofTicks limit < ofTicks trigger := ofTicks_lt_iff.mpr below
    refine ⟨onTick_ofTicks (by omega), ?_, ?_, passes_checkPrice_iff.mpr limitAbove⟩
    · rintro _ ⟨⟩
      exact ⟨onTick_ofTicks positive, ordered⟩
    · simp only [checkStopLimit, saleIntent, Option.isSome_some, if_true, Option.getD_some,
        passes_ite, passes_pass, not_passes_refuse, imp_false, not_le]
      exact ⟨triggerAbove, fun _ => ⟨by simp [ordered.le], fun _ => trivial⟩⟩

end Checks

/-! ### The prices of the service -/

theorem protectiveStopPrices_eq (trade : ManagedTrade) (protection : ProtectionConfig) :
    let trigger := ticksOf trade.optionHardStopPrice false
    let limit := ticksOf (ofTicks trigger * (1 - protection.limitBufferPct / 100)) true
    protectiveStopPrices trade protection =
      (ofTicks trigger, ofTicks (if trigger ≤ limit then max 1 (trigger - 1) else limit)) := by
  unfold protectiveStopPrices
  simp only [optionTickPrice_eq, ofTicks_le_iff]
  split
  · have below : ticksOf (ofTicks (ticksOf trade.optionHardStopPrice false) - 1 / 20) true =
        max 1 (ticksOf trade.optionHardStopPrice false - 1) := by
      have ticks : (ofTicks (ticksOf trade.optionHardStopPrice false) - 1 / 20) * 20 =
          ((ticksOf trade.optionHardStopPrice false - 1 : Int) : ℚ) := by
        rw [sub_mul, ofTicks_mul]
        push_cast
        ring
      rw [ticksOf, if_pos rfl, ticks, Rat.floor_intCast]
    rw [below]
  · rfl

/-- The premium is near enough to two ticks or more for a slipped bid to land on a tick. -/
def LandsOnTicks (number : ℚ) : Prop :=
  ∃ ticks : Int, 2 ≤ ticks ∧ Nearest (number * 100) (5 * ticks)

theorem slippedBid_eq_iff (quote : ExitQuote) (costs : PaperCosts) (ticks : Int) :
    slippedBid quote costs = ofTicks ticks ↔
      Nearest ((quote.bid - costs.slippagePoints) * 100) (5 * ticks) := by
  have price : ofTicks ticks = ((5 * ticks : Int) : ℚ) / 10 ^ 2 := by
    unfold ofTicks
    push_cast
    ring
  have scale : (10 : ℚ) ^ 2 = 100 := by norm_num
  unfold slippedBid roundTo
  rw [price, div_left_inj' (by norm_num), Int.cast_inj, roundHalfEven_eq_iff, scale]

theorem ticksOf_down_le_iff (value : ℚ) {ticks : Int} (two : 2 ≤ ticks) :
    ticks ≤ ticksOf value true ↔ (ticks : ℚ) ≤ value * 20 := by
  rw [ticksOf, if_pos rfl, le_max_iff, Rat.le_floor_iff]
  exact or_iff_right (by omega)

theorem ticksOf_nearest_of_two {value : ℚ} (two : 2 ≤ ticksOf value false) :
    ticksOf value false = roundHalfEven (value * 20) := by
  rw [ticksOf, if_neg (by decide)] at two ⊢
  omega

/-- The stop held at the broker is acceptable when its trigger has three ticks or more, and two of
them are left below the buffer. -/
theorem protective_acceptable_iff (service : RiskService) (environment : RiskEnvironment)
    (decisions : List Decision) (trade : ManagedTrade) (intentId : String)
    (createdAt quantity : Int) (protection : ProtectionConfig) :
    Acceptable service environment decisions
        (saleIntent trade intentId createdAt quantity (protectiveStopPrices trade protection).2
          (some (protectiveStopPrices trade protection).1)) ↔
      3 ≤ roundHalfEven (trade.optionHardStopPrice * 20) ∧
        2 ≤ roundHalfEven (trade.optionHardStopPrice * 20) *
          (1 - protection.limitBufferPct / 100) := by
  have prices := protectiveStopPrices_eq trade protection
  have positive : 0 < ticksOf trade.optionHardStopPrice false :=
    lt_of_lt_of_le one_pos (le_max_left _ _)
  have buffered : ofTicks (ticksOf trade.optionHardStopPrice false) *
      (1 - protection.limitBufferPct / 100) * 20 =
      ticksOf trade.optionHardStopPrice false * (1 - protection.limitBufferPct / 100) := by
    rw [mul_right_comm, ofTicks_mul]
  have left := ticksOf_down_le_iff
    (ofTicks (ticksOf trade.optionHardStopPrice false) * (1 - protection.limitBufferPct / 100))
    le_rfl
  rw [buffered] at left
  rw [prices, acceptable_stop_iff _ _ _ _ _ _ positive]
  constructor
  · rintro ⟨two, below⟩
    have three : 3 ≤ ticksOf trade.optionHardStopPrice false := by omega
    rw [← ticksOf_nearest_of_two (by omega : 2 ≤ ticksOf trade.optionHardStopPrice false)]
    refine ⟨three, ?_⟩
    have limit := left.mp (by split_ifs at two <;> omega)
    exact_mod_cast limit
  · rintro ⟨three, two⟩
    have nearest : ticksOf trade.optionHardStopPrice false =
        roundHalfEven (trade.optionHardStopPrice * 20) := by
      rw [ticksOf, if_neg (by decide)]
      omega
    rw [← nearest] at three two
    have limit := left.mpr (by exact_mod_cast two)
    split_ifs <;> omega

/-- The prices of the sales are acceptable: of the stop held at the broker, of the final sale, of
the exit of Strategy B, and of the manual exit. -/
def SalesAcceptable (service : RiskService) (environment : RiskEnvironment)
    (decisions : List Decision) (trade : ManagedTrade) (intentId : String)
    (createdAt quantity : Int) (protection : ProtectionConfig) (quote : ExitQuote)
    (costs : PaperCosts) : Prop :=
  let sale := saleIntent trade intentId createdAt quantity
  let stop := protectiveStopPrices trade protection
  Acceptable service environment decisions (sale stop.2 (some stop.1)) ∧
    Acceptable service environment decisions (sale (finalExitPrice quote) none) ∧
    Acceptable service environment decisions (sale (slippedBid quote costs) none)

/-- Exactly which premiums, bids, buffers and slippages give acceptable sales. -/
theorem sales_acceptable_iff (service : RiskService) (environment : RiskEnvironment)
    (decisions : List Decision) (trade : ManagedTrade) (intentId : String)
    (createdAt quantity : Int) (protection : ProtectionConfig) (quote : ExitQuote)
    (costs : PaperCosts) :
    SalesAcceptable service environment decisions trade intentId createdAt quantity protection
        quote costs ↔
      (3 ≤ roundHalfEven (trade.optionHardStopPrice * 20) ∧
        2 ≤ roundHalfEven (trade.optionHardStopPrice * 20) *
          (1 - protection.limitBufferPct / 100)) ∧
      1 / 10 ≤ quote.bid ∧ LandsOnTicks (quote.bid - costs.slippagePoints) := by
  refine and_congr (protective_acceptable_iff ..) (and_congr ?_ ?_)
  · rw [acceptable_limit_iff, finalExitPrice, optionTickPrice_eq]
    constructor
    · rintro ⟨ticks, two, price⟩
      have same : ticksOf quote.bid true = ticks :=
        le_antisymm (ofTicks_le_iff.mp price.le) (ofTicks_le_iff.mp price.ge)
      have enough := (ticksOf_down_le_iff quote.bid le_rfl).mp (two.trans same.ge)
      push_cast at enough
      linarith
    · intro enough
      refine ⟨ticksOf quote.bid true, (ticksOf_down_le_iff quote.bid le_rfl).mpr ?_, rfl⟩
      push_cast
      linarith
  · rw [acceptable_limit_iff]
    exact exists_congr fun ticks => and_congr_right fun _ => slippedBid_eq_iff quote costs ticks

/-- A long option that is worth one tick. -/
def cheapLong : ManagedTrade :=
  .entered "trade" .live .trendPullback .bullish 65 65 0 24000 (13 / 100) 23900 (1 / 10)

/-- The sale of an option that is worth one tick is refused for its price. -/
theorem cheap_sale_is_refused :
    ¬∀ (service : RiskService) (environment : RiskEnvironment) (decisions : List Decision)
      (trade : ManagedTrade) (intentId : String) (createdAt quantity : Int)
      (protection : ProtectionConfig) (quote : ExitQuote) (costs : PaperCosts),
      0 < trade.optionHardStopPrice → 0 ≤ protection.limitBufferPct →
      protection.limitBufferPct ≤ 100 → 0 < quote.bid →
      SalesAcceptable service environment decisions trade intentId createdAt quantity protection
        quote costs := by
  intro acceptable
  have sales := acceptable exampleService exampleEnvironment [] cheapLong "intent" 0 65
    ⟨10, 2, 5000000, 3⟩ ⟨"VALID", 1 / 20, 1 / 20⟩ {} (by decide +kernel) (by decide +kernel)
    (by decide +kernel) (by decide +kernel)
  have aboveTick := passes_checkPrice_iff.mp sales.2.1.priceSanity
  exact absurd aboveTick (by decide +kernel)

end BreezeTrading.LiveExit
