/-
This file compares the figures a paper trade is booked with to those the replay estimates on the
same quotes. They agree but for two differences: the exit of Strategy B and the manual exit sell at
the bid less the slippage even where it is negative, and the bid of a partial exit is stored in
whole paise before its slippage is counted.
-/

import BreezeTrading.Strategy.ReplayLegs
import BreezeTrading.Strategy.Service
import BreezeTrading.Strategy.SessionEnd

namespace BreezeTrading.PaperFills

open LiveExit

/-! ### Runs -/

/-- A valid quote, with the evidence the replay has of it. -/
structure Quote where
  evidence : ReplayPriceEvidence
  bid : ℚ
  ask : ℚ
  available : evidence.status = "AVAILABLE"
  isBid : evidence.bid = some bid
  isAsk : evidence.ask = some ask
  uncrossed : 0 < bid ∧ bid ≤ ask

/-- The values of a trade its fills set. -/
def fillsOf (trade : ManagedTrade) : ℚ × Int × Option Int × Int × Option ℚ × Option ℚ :=
  (trade.entryOptionPrice, trade.quantity, trade.initialQuantity, trade.partialExitFilledQuantity,
    trade.partialExitPrice, trade.partialExitRawBid)

/-- A paper trade that is bought at a quote, managed in any way that leaves its fills alone, and
partly sold at most once. -/
inductive PaperRun (costs : ReplayCosts) (bought : Quote) (quantity : Int) :
    ManagedTrade → Option (Int × Quote) → Prop
  | entered {trade : ManagedTrade} {contract : SelectedContract} (positive : 0 < quantity)
      (asked : contract.askPrice = bought.ask)
      (fills : fillsOf trade = (StrategyService.entryPrice costs.toPaperCosts .paper contract,
        quantity, some quantity, 0, none, none)) : PaperRun costs bought quantity trade none
  | managed {trade next : ManagedTrade} {scaled : Option (Int × Quote)}
      (run : PaperRun costs bought quantity trade scaled) (same : fillsOf next = fillsOf trade) :
      PaperRun costs bought quantity next scaled
  | scaledOut {trade : ManagedTrade} {input : ExitInput} {quote : Quote}
      (run : PaperRun costs bought quantity trade none) (bid : input.quote.bid = quote.bid)
      (same : input.costs = costs.toPaperCosts) (runner : trade.t1ExitQuantity < quantity)
      (fills : fillsOf (executePartialExit trade input) ≠ fillsOf trade) :
      PaperRun costs bought quantity (executePartialExit trade input)
        (some (trade.t1ExitQuantity, quote))

/-- The places a paper trade is sold at: what the underlying decided for Strategies A, C, D and E,
the premium stop of C and D, the exit of Strategy B, and the manual exit. -/
inductive SaleSite where
  | underlying
  | premiumStop
  | strategyB
  | manual
  deriving DecidableEq

/-- The sale, at its place. -/
def SaleSite.sell (desk : ExitDesk) (input : ExitInput) (reason : String) : SaleSite → ExitDesk
  | .underlying => closeAtBid desk input reason
  | .premiumStop => closeTrade desk input (max 0 (slippedBid input.quote input.costs)) (some reason)
  | .strategyB | .manual =>
      closeTrade desk input (slippedBid input.quote input.costs) (some reason)

/-! ### Figures -/

/-- The prices of a trade, its result, its slippage and its charges. -/
structure Figures where
  (entryPrice exitPrice grossPnl slippageCost brokerage exchangeCharges stt gst sebiCharges
    stampDuty transactionCosts netPnl : ℚ)
  deriving DecidableEq

/-- The slippage of a partial exit, from the bid that is stored. -/
def partialSlippage (trade : ManagedTrade) : ℚ :=
  match trade.partialExitRawBid with
  | some raw =>
      if trade.partialExitFilledQuantity ≠ 0 ∧ raw ≠ 0 then
        |trade.partialExitPrice.getD 0 - raw| * trade.partialExitFilledQuantity
      else 0
  | none => 0

/-- The figures `_close_trade` books, with the raw prices of the entry and the exit. -/
def bookedFigures (trade : ManagedTrade) (rawEntry rawExit : ℚ) : Option Figures :=
  trade.settlement.map fun settlement =>
    { settlement, settlement.charges with
      entryPrice := trade.entryOptionPrice
      exitPrice := settlement.exitOptionPrice
      slippageCost := roundTo 2 (|trade.entryOptionPrice - rawEntry| * trade.originalQuantity +
        partialSlippage trade +
        |rawExit - settlement.exitOptionPrice| * settlement.finalExitQuantity) }

def estimatedFigures (execution : ReplayRoundTripExecution) : Option Figures := do
  return {
    entryPrice := ← execution.entry.executablePrice
    exitPrice := ← execution.exit.executablePrice
    grossPnl := ← execution.grossExecutionPnl
    slippageCost := ← execution.slippageCost
    brokerage := ← execution.brokerage
    exchangeCharges := ← execution.exchangeCharges
    stt := ← execution.stt
    gst := ← execution.gst
    sebiCharges := ← execution.sebiCharges
    stampDuty := ← execution.stampDuty
    transactionCosts := ← execution.transactionCosts
    netPnl := ← execution.netExecutionPnl }

/-- The estimate on the quotes of a run. -/
def replayed (costs : ReplayCosts) (bought : Quote) (quantity : Int) (sold : Quote) :
    Option (Int × Quote) → ReplayRoundTripExecution
  | none => estimateRoundTripExecution bought.evidence sold.evidence quantity costs
  | some (part, quote) =>
      estimateMultiExitExecution bought.evidence
        [(part, quote.evidence), (quantity - part, sold.evidence)] quantity costs

/-- A closed trade is booked as the replay estimates it, its partial exit included. -/
structure AsReplayed (costs : ReplayCosts) (bought : Quote) (quantity : Int)
    (scaled : Option (Int × Quote)) (sold : Quote) (closed : ManagedTrade) : Prop where
  figures : bookedFigures closed bought.ask sold.bid =
    estimatedFigures (replayed costs bought quantity sold scaled)
  scaledOut : closed.partialExitPrice = scaled.bind fun leg =>
    (estimateFill leg.2.evidence .sell costs).executablePrice

/-- Storing the bid of the partial exit in whole paise leaves the slippage of the trade as it is. -/
def KeepsSlippage (costs : ReplayCosts) (bought : Quote) (quantity : Int) (sold : Quote)
    (scaled : Option (Int × Quote)) : Prop :=
  ∀ leg ∈ scaled,
    let slippage (partBid : ℚ) : ℚ :=
      |slippedPrice .buy costs.slippagePoints bought.ask - bought.ask| * quantity +
        (|slippedPrice .sell costs.slippagePoints leg.2.bid - partBid| * leg.1 +
          |slippedPrice .sell costs.slippagePoints sold.bid - sold.bid| * (quantity - leg.1 : Int))
    roundTo 2 (slippage (roundTo 2 leg.2.bid)) = roundTo 2 (slippage leg.2.bid)

/-- All figures, from the prices, the number of orders and the sums over the fills. -/
def figuresOf (costs : PaperCosts) (orders : Nat)
    (entryPrice exitPrice gross slippage buy sell : ℚ) : Figures :=
  let brokerage := roundTo 2 (orders * costs.brokeragePerOrder)
  let exchange := roundTo 2 ((buy + sell) * costs.exchangeChargeRate)
  let stt := roundTo 2 (sell * costs.sttSellRate)
  let sebi := roundTo 2 ((buy + sell) * costs.sebiChargeRate)
  let stamp := roundTo 2 (buy * costs.stampBuyRate)
  let gst := roundTo 2 ((brokerage + exchange + sebi) * costs.gstRate)
  let total := roundTo 2 (brokerage + exchange + stt + gst + sebi + stamp)
  ⟨entryPrice, exitPrice, roundTo 2 gross, roundTo 2 slippage, brokerage, exchange, stt, gst, sebi,
    stamp, total, roundTo 2 (roundTo 2 gross - total)⟩

section Estimates

variable {costs : ReplayCosts} {bought sold : Quote} {quantity : Int}

theorem Quote.estimateFill_eq (quote : Quote) (side : OrderSide) :
    estimateFill quote.evidence side costs =
      pricedFill quote.evidence side costs "POINT_IN_TIME_BID_ASK_PLUS_CONFIGURED_SLIPPAGE"
        (if side = .buy then quote.ask else quote.bid) true none := by
  have both : quote.evidence.bidAskAvailable = true := by
    rw [ReplayPriceEvidence.bidAskAvailable, quote.isBid, quote.isAsk]
    exact decide_eq_true
      ⟨quote.uncrossed.1, quote.uncrossed.1.trans_le quote.uncrossed.2, quote.uncrossed.2⟩
  unfold estimateFill
  rw [if_neg (not_not.mpr quote.available), if_pos both, quote.isBid, quote.isAsk]
  cases side <;> rfl

theorem estimatedFigures_multiExit (entry exit : ReplayFillEstimate)
    (exits : List (Int × ReplayFillEstimate)) (entryPrice exitPrice : ℚ)
    (isEntry : entry.executablePrice = some entryPrice)
    (isExit : exit.executablePrice = some exitPrice) :
    estimatedFigures (multiExit entry exit exits quantity costs) =
      some (figuresOf costs.toPaperCosts (1 + exits.length) entryPrice exitPrice
        (overLegs (fun fill => fill.price - entryPrice) exits)
        (entry.slippage * quantity + overLegs ReplayFillEstimate.slippage exits)
        (entryPrice * quantity) (overLegs ReplayFillEstimate.price exits)) := by
  have price : entry.price = entryPrice := by
    rw [ReplayFillEstimate.price, isEntry]
    rfl
  subst price
  simp only [estimatedFigures, multiExit, isEntry, isExit, Option.bind_eq_bind, Option.bind_some]
  rfl

theorem estimatedFigures_replayed (positive : 0 < quantity) {scaled : Option (Int × Quote)}
    (inside : ∀ leg ∈ scaled, 0 < leg.1 ∧ leg.1 < quantity) :
    let entry := slippedPrice .buy costs.slippagePoints bought.ask
    let exit := slippedPrice .sell costs.slippagePoints sold.bid
    let part := scaled.elim 0 Prod.fst
    let partPrice := scaled.elim 0 fun leg => slippedPrice .sell costs.slippagePoints leg.2.bid
    estimatedFigures (replayed costs bought quantity sold scaled) =
      some (figuresOf costs.toPaperCosts (scaled.elim 2 fun _ => 3) entry exit
        ((partPrice - entry) * part + (exit - entry) * (quantity - part : Int))
        (|entry - bought.ask| * quantity + (scaled.elim 0 (fun leg =>
          |partPrice - leg.2.bid| * leg.1) + |exit - sold.bid| * (quantity - part : Int)))
        (entry * quantity) (partPrice * part + exit * (quantity - part : Int))) := by
  cases scaled with
  | none =>
    have whole : replayed costs bought quantity sold none =
        estimateMultiExitExecution bought.evidence [(quantity, sold.evidence)] quantity costs :=
      (multiExit_one_leg positive).symm
    rw [whole, estimateMultiExitExecution, legFills_singleton positive, bought.estimateFill_eq,
      sold.estimateFill_eq, if_pos (by rw [legsValid_singleton positive]; rfl),
      estimatedFigures_multiExit _ _ _ _ _ rfl rfl]
    simp only [overLegs, List.map_cons, List.map_nil, List.sum_cons, List.sum_nil, add_zero,
      Option.elim_none, sub_zero, Int.cast_zero, mul_zero, zero_add]
    rfl
  | some leg =>
    obtain ⟨part, quote⟩ := leg
    obtain ⟨begun, rest⟩ := inside _ rfl
    have both : legFills [(part, quote.evidence), (quantity - part, sold.evidence)] costs =
        [(part, estimateFill quote.evidence .sell costs),
          (quantity - part, estimateFill sold.evidence .sell costs)] := by
      simp [legFills, begun, rest]
    have valid : legsValid (estimateFill bought.evidence .buy costs)
        [(part, estimateFill quote.evidence .sell costs),
          (quantity - part, estimateFill sold.evidence .sell costs)] quantity = true := by
      rw [bought.estimateFill_eq, quote.estimateFill_eq, sold.estimateFill_eq]
      simp [legsValid, positive, ReplayFillEstimate.priced, pricedFill]
    rw [replayed, estimateMultiExitExecution, both, if_pos valid, bought.estimateFill_eq,
      quote.estimateFill_eq, sold.estimateFill_eq, estimatedFigures_multiExit _ _ _ _ _ rfl rfl]
    simp only [overLegs, List.map_cons, List.map_nil, List.sum_cons, List.sum_nil, add_zero,
      Option.elim_some]
    rfl

end Estimates

/-! ### What a run holds -/

/-- The fills of a trade are those of the quotes of its run. -/
structure Holds (costs : ReplayCosts) (bought : Quote) (quantity : Int) (trade : ManagedTrade)
    (scaled : Option (Int × Quote)) : Prop where
  positive : 0 < quantity
  inside : ∀ leg ∈ scaled, 0 < leg.1 ∧ leg.1 < quantity ∧ 0 < roundTo 2 leg.2.bid
  fills : fillsOf trade = (slippedPrice .buy costs.slippagePoints bought.ask,
    quantity - scaled.elim 0 Prod.fst, some quantity, scaled.elim 0 Prod.fst,
    scaled.map fun leg => slippedPrice .sell costs.slippagePoints leg.2.bid,
    scaled.map fun leg => roundTo 2 leg.2.bid)

section Holds

variable {costs : ReplayCosts} {bought sold : Quote} {quantity : Int} {trade : ManagedTrade}
  {scaled : Option (Int × Quote)}

theorem PaperRun.holds (run : PaperRun costs bought quantity trade scaled) :
    Holds costs bought quantity trade scaled := by
  induction run with
  | entered positive asked fills =>
    refine ⟨positive, fun _ none => (Option.not_mem_none _ none).elim, fills.trans ?_⟩
    rw [StrategyService.entryPrice, asked, if_pos (.inl rfl), Option.elim_none, sub_zero]
    rfl
  | managed run same inductionHypothesis =>
    exact ⟨inductionHypothesis.positive, inductionHypothesis.inside,
      same.trans inductionHypothesis.fills⟩
  | @scaledOut trade input quote run bid same runner fills inductionHypothesis =>
    obtain ⟨entry, whole, initial, unfilled, -⟩ := by
      simpa [fillsOf] using inductionHypothesis.fills
    unfold executePartialExit PositionManager.applyT1PartialFill at fills ⊢
    dsimp only at fills ⊢
    split_ifs at fills ⊢ with quantities lots priced
    all_goals first | exact absurd rfl fills | skip
    obtain ⟨begun, -⟩ := not_or.mp quantities
    obtain ⟨-, sold⟩ := not_or.mp lots
    have positive : 0 < slippedBid input.quote input.costs := by
      by_contra nonpos
      exact sold (max_eq_left (not_lt.mp nonpos)).le
    have price : slippedPrice .sell costs.slippagePoints quote.bid =
        slippedBid input.quote input.costs := by
      rw [slippedPrice, ← bid, ← same]
      exact max_eq_right positive.le
    have below : slippedBid input.quote input.costs ≤ roundTo 2 quote.bid := by
      rw [slippedBid, bid]
      exact roundTo_mono 2 (sub_le_self _ input.costs.slippageBound)
    refine ⟨inductionHypothesis.positive, fun leg member => ?_, ?_⟩
    · cases member
      exact ⟨not_le.mp begun, runner, positive.trans_le below⟩
    · simp only [fillsOf, entry, initial, whole, orQuantity, Option.elim_some, Option.map_some,
        price, max_eq_right positive.le, bid, if_neg inductionHypothesis.positive.ne']
      rw [slippedBid, roundTo_roundTo]

section

variable {input : ExitInput} (holds : Holds costs bought quantity trade scaled)
  (orders : List SellOrder) (same : input.costs = costs.toPaperCosts)

include holds orders same

theorem Holds.booked (price rawExit : ℚ) (reason : Option String) :
    let entry := slippedPrice .buy costs.slippagePoints bought.ask
    let part := scaled.elim 0 Prod.fst
    let partPrice := scaled.elim 0 fun leg => slippedPrice .sell costs.slippagePoints leg.2.bid
    bookedFigures (closeTrade ⟨trade, orders⟩ input price reason).trade bought.ask rawExit =
      some (figuresOf costs.toPaperCosts (scaled.elim 2 fun _ => 3) entry price
        ((partPrice - entry) * part + (price - entry) * (quantity - part : Int))
        (|entry - bought.ask| * quantity + (scaled.elim 0 (fun leg =>
          |partPrice - roundTo 2 leg.2.bid| * leg.1) + |price - rawExit| * (quantity - part : Int)))
        (entry * quantity) (partPrice * part + price * (quantity - part : Int))) := by
  have fills := holds.fills
  simp only [fillsOf, Prod.mk.injEq] at fills
  obtain ⟨entry, rest, initial, part, partPrice, partBid⟩ := fills
  have left : max 0 trade.quantity = trade.quantity := by
    have inside := holds.inside
    rw [rest]
    cases scaled with
    | none => exact max_eq_right (by simpa using holds.positive.le)
    | some leg => exact max_eq_right (sub_nonneg.mpr (inside leg rfl).2.1.le)
  have original : trade.originalQuantity = quantity := by
    rw [ActiveTrade.originalQuantity, initial]
    exact if_neg holds.positive.ne'
  have count : trade.executionOrderCount = scaled.elim 2 fun _ => 3 := by
    rw [ActiveTrade.executionOrderCount, left, part, rest]
    cases scaled with
    | none => simp [holds.positive]
    | some leg =>
      obtain ⟨begun, runner, -⟩ := holds.inside leg rfl
      simp [begun, runner]
  have slippage : partialSlippage trade = scaled.elim 0 fun leg =>
      |trade.partialExitPrice.getD 0 - roundTo 2 leg.2.bid| * leg.1 := by
    rw [partialSlippage, partBid, part]
    cases scaled with
    | none => rfl
    | some leg =>
      obtain ⟨begun, -, bid⟩ := holds.inside leg rfl
      exact if_pos ⟨begun.ne', bid.ne'⟩
  have settled : bookedFigures (closeTrade ⟨trade, orders⟩ input price reason).trade bought.ask
      rawExit = some (figuresOf costs.toPaperCosts trade.executionOrderCount trade.entryOptionPrice
        price
        ((price - trade.entryOptionPrice) * (max 0 trade.quantity : Int) +
          (trade.partialExitPrice.getD 0 - trade.entryOptionPrice) *
            trade.partialExitFilledQuantity)
        (|trade.entryOptionPrice - bought.ask| * trade.originalQuantity + partialSlippage trade +
          |rawExit - price| * (max 0 trade.quantity : Int))
        (trade.entryOptionPrice * trade.originalQuantity)
        (price * trade.quantity + trade.partialExitPrice.getD 0 *
          trade.partialExitFilledQuantity)) := by
    have turnover : trade.entryOptionPrice * trade.originalQuantity +
        trade.partialExitPrice.getD 0 * trade.partialExitFilledQuantity +
        price * (max 0 trade.quantity : Int) = trade.entryOptionPrice * trade.originalQuantity +
          (price * trade.quantity +
            trade.partialExitPrice.getD 0 * trade.partialExitFilledQuantity) := by
      rw [left]
      ring
    simp only [bookedFigures, closeTrade, ActiveTrade.closeAt, ActiveTrade.settlementAt,
      ActiveTrade.charges, Option.map_some, turnover, same]
    rfl
  have gross : trade.partialExitPrice.getD 0 =
      scaled.elim 0 fun leg => slippedPrice .sell costs.slippagePoints leg.2.bid := by
    rw [partPrice]
    cases scaled <;> rfl
  rw [settled, slippage, left, count, original, gross, entry, part, rest, abs_sub_comm rawExit]
  congr 2
  · exact add_comm _ _
  · exact add_assoc _ _ _
  · exact add_comm _ _

/-- A trade that is closed at a price is booked as it is replayed where the price is that of the
replay, and the slippage of the partial exit does not suffer. -/
theorem Holds.asReplayed_iff (price : ℚ) (reason : Option String) :
    AsReplayed costs bought quantity scaled sold
        (closeTrade ⟨trade, orders⟩ input price reason).trade ↔
      price = slippedPrice .sell costs.slippagePoints sold.bid ∧
        KeepsSlippage costs bought quantity sold scaled := by
  have estimated := @estimatedFigures_replayed costs bought sold quantity holds.positive scaled
    fun leg member => ⟨(holds.inside leg member).1, (holds.inside leg member).2.1⟩
  have booked := holds.booked orders same price sold.bid reason
  have partly : (closeTrade ⟨trade, orders⟩ input price reason).trade.partialExitPrice =
      scaled.bind fun leg => (estimateFill leg.2.evidence .sell costs).executablePrice := by
    have fills := holds.fills
    simp only [fillsOf, Prod.mk.injEq] at fills
    refine fills.2.2.2.2.1.trans ?_
    cases scaled with
    | none => rfl
    | some leg =>
      rw [Option.bind_some, leg.2.estimateFill_eq]
      rfl
  constructor
  · rintro ⟨figures, -⟩
    rw [booked, estimated, Option.some.injEq] at figures
    have prices : price = slippedPrice .sell costs.slippagePoints sold.bid :=
      congrArg Figures.exitPrice figures
    refine ⟨prices, fun leg member => ?_⟩
    obtain rfl := Option.mem_def.mp member
    have slippage := congrArg Figures.slippageCost figures
    rw [prices] at slippage
    exact slippage
  · rintro ⟨rfl, keeps⟩
    refine ⟨?_, partly⟩
    rw [booked, estimated]
    cases scaled with
    | none => rfl
    | some leg =>
      have slippage := keeps leg rfl
      dsimp only [Option.elim_some] at slippage ⊢
      unfold figuresOf
      rw [slippage]

end

end Holds

/-- Ten paise of slippage. -/
def thinCosts : ReplayCosts where
  toPaperCosts :=
    { PaperCosts.standard with slippagePoints := 1 / 10, slippageBound := by decide +kernel }

/-- Five paise are bid. -/
def thinQuote : Quote where
  evidence :=
    { status := "AVAILABLE", basis := "QUOTE", source := "BREEZE", eventTimestamp := 0
      evidenceTimestamp := none, bid := some (1 / 20), ask := some (1 / 10) }
  bid := 1 / 20
  ask := 1 / 10
  available := rfl
  isBid := rfl
  isAsk := rfl
  uncrossed := by decide +kernel

/-- One lot of Strategy B, whose exit is decided. -/
def thinTrade : ManagedTrade :=
  { simulatedLot .volatilityBreakout with
    entryOptionPrice := 1 / 5
    initialQuantity := some 65
    pendingExitReason := some "TIME_EXIT" }

def thinInput : ExitInput :=
  { atClose.toExitInput with quote := ⟨"VALID", 1 / 20, 1 / 20⟩, costs := thinCosts.toPaperCosts }

theorem thinRun : PaperRun thinCosts thinQuote 65 thinTrade none :=
  @PaperRun.entered thinCosts thinQuote 65 thinTrade ⟨"", "", "", 0, 1 / 10, 0, 1, 65, true⟩
    (by decide) rfl (by decide +kernel)

end BreezeTrading.PaperFills
