/-
This file models the estimate of what a replayed trade would have been executed at: the fill of an
order from the evidence of a price, and the result and the costs of one buy with one sell, and of
one buy with several sells. The two estimates are written separately.
-/

import BreezeTrading.Strategy.RiskGates

namespace BreezeTrading

/-! ### Evidence and configuration -/

/-- What is known of the price of an option at a time. -/
structure ReplayPriceEvidence where
  status : String
  basis : String
  source : String
  eventTimestamp : Int
  evidenceTimestamp : Option Int
  markPrice : Option ℚ := none
  bid : Option ℚ := none
  ask : Option ℚ := none
  freshnessSeconds : Option ℚ := none
  reason : Option String := none
  deriving DecidableEq

/-- `bid_ask_available`: two sides that are not crossed. -/
def ReplayPriceEvidence.bidAskAvailable (evidence : ReplayPriceEvidence) : Bool :=
  evidence.bid.any fun bid => evidence.ask.any fun ask =>
    decide (0 < bid ∧ 0 < ask ∧ bid ≤ ask)

/-- The costs of the risk configuration, with the version of their assumptions. -/
structure ReplayCosts extends PaperCosts where
  costAssumptionVersion : String := "paper_options_costs_v1"
  deriving DecidableEq

/-- The costs when nothing is set. -/
def ReplayCosts.standard : ReplayCosts where
  toPaperCosts := PaperCosts.standard

/-! ### Fills -/

structure ReplayFillEstimate where
  side : String
  status : String
  method : String
  evidenceBasis : String
  source : String
  rawReferencePrice : Option ℚ
  executablePrice : Option ℚ
  slippagePoints : ℚ
  evidenceTimestamp : Option Int
  freshnessSeconds : Option ℚ
  executableQuoteEquivalent : Bool
  reason : Option String
  deriving DecidableEq

/-- An order without a price. -/
def noFillEstimate (evidence : ReplayPriceEvidence) (side : OrderSide) (costs : ReplayCosts)
    (reason : Option String) : ReplayFillEstimate where
  side := side.value
  status := "UNAVAILABLE"
  method := "NO_FILL_ESTIMATE"
  evidenceBasis := evidence.basis
  source := evidence.source
  rawReferencePrice := none
  executablePrice := none
  slippagePoints := costs.slippagePoints
  evidenceTimestamp := evidence.evidenceTimestamp
  freshnessSeconds := evidence.freshnessSeconds
  executableQuoteEquivalent := false
  reason

/-- A price with the slippage that is configured. -/
def slippedPrice (side : OrderSide) (slippage raw : ℚ) : ℚ :=
  match side with
  | .buy => roundTo 2 (raw + slippage)
  | .sell => max 0 (roundTo 2 (raw - slippage))

def pricedFill (evidence : ReplayPriceEvidence) (side : OrderSide) (costs : ReplayCosts)
    (method : String) (raw : ℚ) (quoted : Bool) (reason : Option String) :
    ReplayFillEstimate where
  side := side.value
  status := "ESTIMATED"
  method
  evidenceBasis := evidence.basis
  source := evidence.source
  rawReferencePrice := some raw
  executablePrice := some (slippedPrice side costs.slippagePoints raw)
  slippagePoints := costs.slippagePoints
  evidenceTimestamp := evidence.evidenceTimestamp
  freshnessSeconds := evidence.freshnessSeconds
  executableQuoteEquivalent := quoted
  reason

/-- The reason of an order without a price reference, where the evidence has none. -/
def orNoReference (reason : Option String) : Option String :=
  if reason.getD "" = "" then some "NO_USABLE_PRICE_REFERENCE" else reason

/-- `estimate_fill`: at the bid and ask, or at the mark where there is no quote. -/
def estimateFill (evidence : ReplayPriceEvidence) (side : OrderSide) (costs : ReplayCosts) :
    ReplayFillEstimate :=
  if evidence.status ≠ "AVAILABLE" then noFillEstimate evidence side costs evidence.reason
  else if evidence.bidAskAvailable then
    pricedFill evidence side costs "POINT_IN_TIME_BID_ASK_PLUS_CONFIGURED_SLIPPAGE"
      ((if side = .buy then evidence.ask else evidence.bid).getD 0) true none
  else
    match evidence.markPrice.filter fun mark => decide (0 < mark) with
    | some mark =>
        pricedFill evidence side costs "COMPLETED_MARK_PLUS_CONFIGURED_SLIPPAGE_ESTIMATE" mark false
          (some ("Historical bid/ask unavailable; completed candle close is a " ++
            "mark reference, not an executable quote."))
    | none => noFillEstimate evidence side costs (orNoReference evidence.reason)

namespace ReplayFillEstimate

/-- The fill has a price, and the reference it comes from. -/
def priced (fill : ReplayFillEstimate) : Bool :=
  fill.executablePrice.isSome && fill.rawReferencePrice.isSome

/-- The price of a fill that has one. -/
def price (fill : ReplayFillEstimate) : ℚ := fill.executablePrice.getD 0

/-- How far a fill is from its reference. -/
def slippage (fill : ReplayFillEstimate) : ℚ := |fill.price - fill.rawReferencePrice.getD 0|

end ReplayFillEstimate

/-! ### Executions -/

structure ReplayRoundTripExecution where
  entry : ReplayFillEstimate
  exit : ReplayFillEstimate
  quantity : Int
  grossExecutionPnl : Option ℚ
  slippageCost : Option ℚ
  brokerage : Option ℚ
  exchangeCharges : Option ℚ
  stt : Option ℚ
  gst : Option ℚ
  sebiCharges : Option ℚ
  stampDuty : Option ℚ
  transactionCosts : Option ℚ
  netExecutionPnl : Option ℚ
  costAssumptionVersion : String
  deriving DecidableEq

/-- An execution that is not estimated. -/
def unpricedExecution (entry exit : ReplayFillEstimate) (quantity : Int) (costs : ReplayCosts) :
    ReplayRoundTripExecution where
  entry
  exit
  quantity
  grossExecutionPnl := none
  slippageCost := none
  brokerage := none
  exchangeCharges := none
  stt := none
  gst := none
  sebiCharges := none
  stampDuty := none
  transactionCosts := none
  netExecutionPnl := none
  costAssumptionVersion := costs.costAssumptionVersion

/-- `estimate_round_trip_execution`: one buy, one sell. -/
def estimateRoundTripExecution (entryEvidence exitEvidence : ReplayPriceEvidence) (quantity : Int)
    (costs : ReplayCosts) : ReplayRoundTripExecution :=
  let entry := estimateFill entryEvidence .buy costs
  let exit := estimateFill exitEvidence .sell costs
  if quantity ≤ 0 ∨ ¬(entry.priced && exit.priced) = true then
    unpricedExecution entry exit quantity costs
  else
    let gross := roundTo 2 ((exit.price - entry.price) * quantity)
    let turnover := (entry.price + exit.price) * quantity
    let brokerage := roundTo 2 (2 * costs.brokeragePerOrder)
    let exchange := roundTo 2 (turnover * costs.exchangeChargeRate)
    let stt := roundTo 2 (exit.price * quantity * costs.sttSellRate)
    let sebi := roundTo 2 (turnover * costs.sebiChargeRate)
    let stamp := roundTo 2 (entry.price * quantity * costs.stampBuyRate)
    let gst := roundTo 2 ((brokerage + exchange + sebi) * costs.gstRate)
    let transactionCosts := roundTo 2 (brokerage + exchange + stt + gst + sebi + stamp)
    { entry
      exit
      quantity
      grossExecutionPnl := some gross
      slippageCost := some (roundTo 2 ((entry.slippage + exit.slippage) * quantity))
      brokerage := some brokerage
      exchangeCharges := some exchange
      stt := some stt
      gst := some gst
      sebiCharges := some sebi
      stampDuty := some stamp
      transactionCosts := some transactionCosts
      netExecutionPnl := some (roundTo 2 (gross - transactionCosts))
      costAssumptionVersion := costs.costAssumptionVersion }

/-- The fills of the legs that sell something. -/
def legFills (exitLegs : List (Int × ReplayPriceEvidence)) (costs : ReplayCosts) :
    List (Int × ReplayFillEstimate) :=
  (exitLegs.filter fun leg => decide (0 < leg.1)).map fun leg =>
    (leg.1, estimateFill leg.2 .sell costs)

/-- A sum over the legs, weighted by their quantities. -/
def overLegs (value : ReplayFillEstimate → ℚ) (exits : List (Int × ReplayFillEstimate)) : ℚ :=
  (exits.map fun leg => value leg.2 * leg.1).sum

/-- What an execution without legs reports as its exit. -/
def noExitLegs (entryEvidence : ReplayPriceEvidence) : ReplayPriceEvidence where
  status := "UNAVAILABLE"
  basis := "NO_EXIT_LEGS"
  source := "REPLAY"
  eventTimestamp := entryEvidence.eventTimestamp
  evidenceTimestamp := none
  reason := some "NO_EXIT_LEGS"

/-- The sells make up the buy, and each of them has a price. -/
def legsValid (entry : ReplayFillEstimate) (exits : List (Int × ReplayFillEstimate))
    (quantity : Int) : Bool :=
  decide (0 < quantity ∧ (exits.map Prod.fst).sum = quantity) && entry.priced &&
    !exits.isEmpty && exits.all fun leg => leg.2.priced

/-- What the legs of an execution come to. -/
def multiExit (entry exit : ReplayFillEstimate) (exits : List (Int × ReplayFillEstimate))
    (quantity : Int) (costs : ReplayCosts) : ReplayRoundTripExecution :=
  let gross := roundTo 2 (overLegs (fun fill => fill.price - entry.price) exits)
  let buyTurnover := entry.price * quantity
  let sellTurnover := overLegs ReplayFillEstimate.price exits
  let turnover := buyTurnover + sellTurnover
  let brokerage := roundTo 2 ((1 + exits.length : Nat) * costs.brokeragePerOrder)
  let exchange := roundTo 2 (turnover * costs.exchangeChargeRate)
  let stt := roundTo 2 (sellTurnover * costs.sttSellRate)
  let sebi := roundTo 2 (turnover * costs.sebiChargeRate)
  let stamp := roundTo 2 (buyTurnover * costs.stampBuyRate)
  let gst := roundTo 2 ((brokerage + exchange + sebi) * costs.gstRate)
  let transactionCosts := roundTo 2 (brokerage + exchange + stt + gst + sebi + stamp)
  { entry
    exit
    quantity
    grossExecutionPnl := some gross
    slippageCost := some (roundTo 2 (entry.slippage * quantity +
      overLegs ReplayFillEstimate.slippage exits))
    brokerage := some brokerage
    exchangeCharges := some exchange
    stt := some stt
    gst := some gst
    sebiCharges := some sebi
    stampDuty := some stamp
    transactionCosts := some transactionCosts
    netExecutionPnl := some (roundTo 2 (gross - transactionCosts))
    costAssumptionVersion := costs.costAssumptionVersion }

/-- `estimate_multi_exit_execution`: one buy, and sells that make it up. -/
def estimateMultiExitExecution (entryEvidence : ReplayPriceEvidence)
    (exitLegs : List (Int × ReplayPriceEvidence)) (quantity : Int) (costs : ReplayCosts) :
    ReplayRoundTripExecution :=
  let entry := estimateFill entryEvidence .buy costs
  let exits := legFills exitLegs costs
  let exit := exits.getLast?.elim (estimateFill (noExitLegs entryEvidence) .sell costs) Prod.snd
  if legsValid entry exits quantity then multiExit entry exit exits quantity costs
  else unpricedExecution entry exit quantity costs

end BreezeTrading
