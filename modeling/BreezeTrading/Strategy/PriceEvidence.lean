/-
This file models the price evidence of the historical replay and proves when it is not from the
future. Completed candles and stored quotes are the latest ones by the time of an event; the
contract of a snapshot is taken for a purchase with whatever time its quote has.
-/

import BreezeTrading.Lib.Ranking
import BreezeTrading.Strategy.Features
import Mathlib.Data.List.Sort

namespace BreezeTrading.PriceEvidence

open Ranking

/-! ### The provider -/

/-- A stored option quote. What is not there is an empty text or nought. -/
structure StoredQuote where
  instrumentId : String
  strategySignalId : String
  quoteTimestamp : Option Int
  bid : ℚ
  ask : ℚ
  ltp : ℚ
  status : String
  source : String

/-- What the provider has loaded for a session. -/
structure Provider where
  historicalSource : HistoricalReplaySource
  quotes : List StoredQuote
  candles : String → List MarketCandle
  maxQuoteAgeSeconds : ℚ

inductive EvidenceStatus where
  | pointInTimeChainSnapshot
  | approximatedSelection
  | unavailable
  deriving DecidableEq, Repr

/-- The selected contract of a snapshot. -/
structure SnapshotContract where
  bidPrice : ℚ
  askPrice : ℚ
  ltp : ℚ
  quoteTimestamp : Option Int
  quoteFreshnessSeconds : Option ℚ

structure SelectionDecision where
  evidenceStatus : EvidenceStatus
  selectedContract : Option SnapshotContract
  snapshotTimestamp : Option Int
  source : String

inductive EvidenceBasis where
  | noCompletedMark
  | noPriceEvidence
  | completedCandleCloseMark
  | pointInTimeBidAsk
  deriving DecidableEq, Repr

structure ReplayPriceEvidence where
  available : Bool
  basis : EvidenceBasis
  source : String
  eventTimestamp : Int
  evidenceTimestamp : Option Int
  markPrice : Option ℚ := none
  bid : Option ℚ := none
  ask : Option ℚ := none
  ltp : Option ℚ := none
  freshnessSeconds : Option ℚ := none
  reason : Option String := none
  deriving DecidableEq

/-- `float(value) or None`. -/
def priceOrNone (price : ℚ) : Option ℚ := if price = 0 then none else some price

/-- `(later - earlier).total_seconds()`. -/
def secondsBetween (earlier later : Int) : ℚ := ((later - earlier : Int) : ℚ) / 1000000

section Provider

variable (provider : Provider) (instrumentId signalId : String) (eventTime : Int)

/-- `_load_option_candles`: the candles of the allowed sources in the order of their starts. -/
def loadOptionCandles : List MarketCandle :=
  ((provider.candles instrumentId).filter fun candle => decide (candle.source ∈
    provider.historicalSource.allowedSources)).insertionSort
      fun first second => first.startTime ≤ second.startTime

/-- `_completed_candle_at`: the first of those that end last by a time. -/
def completedCandleAt (candles : List MarketCandle) : Option MarketCandle :=
  leastBy (fun candle => OrderDual.toDual candle.endTime)
    (candles.filter fun candle => decide (candle.endTime ≤ eventTime))

/-- The quotes that `_latest_quote` chooses from, with their times. -/
def quoteCandidates : List (Int × StoredQuote) :=
  provider.quotes.filterMap fun quote =>
    if quote.instrumentId ≠ instrumentId then none
    else if quote.strategySignalId ≠ "" ∧ quote.strategySignalId ≠ signalId then none
    else quote.quoteTimestamp.bind fun timestamp =>
      if eventTime < timestamp then none
      else if quote.status ≠ "VALID" ∨ quote.bid ≤ 0 ∨ quote.ask ≤ 0 ∨ quote.ask < quote.bid then
        none
      else if provider.maxQuoteAgeSeconds < secondsBetween timestamp eventTime then none
      else some (timestamp, quote)

def latestQuote : Option (Int × StoredQuote) :=
  leastBy (fun candidate => OrderDual.toDual candidate.1)
    (quoteCandidates provider instrumentId signalId eventTime)

/-- The evidence of a completed candle, or a reason why there is none. -/
def markEvidence (missing : EvidenceBasis) (reason : String) : ReplayPriceEvidence :=
  match completedCandleAt eventTime (loadOptionCandles provider instrumentId) with
  | none =>
      { available := false
        basis := missing
        source := "UNAVAILABLE"
        eventTimestamp := eventTime
        evidenceTimestamp := none
        reason := some reason }
  | some candle =>
      { available := true
        basis := .completedCandleCloseMark
        source := candle.source
        eventTimestamp := eventTime
        evidenceTimestamp := some candle.endTime
        markPrice := some candle.close
        freshnessSeconds := some (secondsBetween candle.endTime eventTime) }

def completedMarkEvidence : ReplayPriceEvidence :=
  markEvidence provider instrumentId eventTime .noCompletedMark
    "HISTORICAL_COMPLETED_OPTION_MARK_UNAVAILABLE"

/-- The two-sided contract of a snapshot, which a purchase takes. -/
def snapshotContract (isBuy : Bool) (selection : Option SelectionDecision) :
    Option (SelectionDecision × SnapshotContract) :=
  if isBuy = true then
    selection.bind fun decision => decision.selectedContract.bind fun contract =>
      if decision.evidenceStatus = .pointInTimeChainSnapshot ∧ 0 < contract.bidPrice ∧
          0 < contract.askPrice then some (decision, contract)
      else none
  else none

/-- The time of the quote of a contract, or else that of the snapshot. -/
def snapshotTime (taken : SelectionDecision × SnapshotContract) : Option Int :=
  taken.2.quoteTimestamp <|> taken.1.snapshotTimestamp

def priceEvidence (isBuy : Bool) (selection : Option SelectionDecision) : ReplayPriceEvidence :=
  match snapshotContract isBuy selection with
  | some taken =>
      { available := true
        basis := .pointInTimeBidAsk
        source := if taken.1.source = "" then "UNKNOWN" else taken.1.source
        eventTimestamp := eventTime
        evidenceTimestamp := snapshotTime taken
        bid := some taken.2.bidPrice
        ask := some taken.2.askPrice
        ltp := priceOrNone taken.2.ltp
        freshnessSeconds :=
          match taken.1.snapshotTimestamp, snapshotTime taken with
          | some snapshot, some timestamp => some (secondsBetween timestamp snapshot)
          | _, _ => taken.2.quoteFreshnessSeconds }
  | none =>
      match latestQuote provider instrumentId signalId eventTime with
      | some (timestamp, quote) =>
          { available := true
            basis := .pointInTimeBidAsk
            source := if quote.source = "" then "UNKNOWN" else quote.source
            eventTimestamp := eventTime
            evidenceTimestamp := some timestamp
            bid := priceOrNone quote.bid
            ask := priceOrNone quote.ask
            ltp := priceOrNone quote.ltp
            freshnessSeconds := some (secondsBetween timestamp eventTime) }
      | none =>
          markEvidence provider instrumentId eventTime .noPriceEvidence
            "NO_POINT_IN_TIME_QUOTE_OR_COMPLETED_MARK"

/-! ### Evidence of its time -/

/-- Of its basis, evidence of a time is the latest there is by an event, and a quote is not too
old. -/
structure LatestBy (basis : EvidenceBasis) (timestamp : Int) : Prop where
  before : timestamp ≤ eventTime
  young : basis = .pointInTimeBidAsk →
    secondsBetween timestamp eventTime ≤ provider.maxQuoteAgeSeconds
  quotes : basis = .pointInTimeBidAsk →
    ∀ candidate ∈ quoteCandidates provider instrumentId signalId eventTime,
      candidate.1 ≤ timestamp
  candles : basis = .completedCandleCloseMark →
    ∀ candle ∈ loadOptionCandles provider instrumentId, candle.endTime ≤ eventTime →
      candle.endTime ≤ timestamp

/-- Evidence that is available is the latest of its basis. -/
def NotFromFuture (evidence : ReplayPriceEvidence) : Prop :=
  evidence.available = true → ∃ timestamp, evidence.evidenceTimestamp = some timestamp ∧
    LatestBy provider instrumentId signalId eventTime evidence.basis timestamp

variable {provider instrumentId signalId eventTime}

theorem latest_spec {Item : Type} {time : Item → Int} {items : List Item} {best : Item}
    (found : leastBy (fun item => OrderDual.toDual (time item)) items = some best) :
    best ∈ items ∧ ∀ other ∈ items, time other ≤ time best :=
  ⟨List.argmin_mem found, fun _ member => OrderDual.toDual_le_toDual.mp
    (List.le_of_mem_argmin (f := fun item => OrderDual.toDual (time item)) member found)⟩

theorem mem_quoteCandidates {candidate : Int × StoredQuote}
    (member : candidate ∈ quoteCandidates provider instrumentId signalId eventTime) :
    candidate.1 ≤ eventTime ∧
      secondsBetween candidate.1 eventTime ≤ provider.maxQuoteAgeSeconds := by
  obtain ⟨quote, -, chosen⟩ := List.mem_filterMap.mp member
  split at chosen
  · cases chosen
  split at chosen
  · cases chosen
  obtain ⟨timestamp, -, passes⟩ := Option.bind_eq_some_iff.mp chosen
  split_ifs at passes with future invalid old
  cases passes
  exact ⟨not_lt.mp future, not_lt.mp old⟩

theorem markEvidence_notFromFuture (missing : EvidenceBasis) (reason : String) :
    NotFromFuture provider instrumentId signalId eventTime
      (markEvidence provider instrumentId eventTime missing reason) := by
  unfold markEvidence
  cases found : completedCandleAt eventTime (loadOptionCandles provider instrumentId) with
  | none => exact nofun
  | some candle =>
    obtain ⟨isCandle, latest⟩ := latest_spec found
    have ended := of_decide_eq_true (List.mem_filter.mp isCandle).2
    refine fun _ => ⟨candle.endTime, rfl, ended, nofun, nofun, fun _ other member byThen => ?_⟩
    exact latest other (List.mem_filter.mpr ⟨member, decide_eq_true byThen⟩)

theorem latestQuote_latestBy {found : Int × StoredQuote}
    (latest : latestQuote provider instrumentId signalId eventTime = some found) :
    LatestBy provider instrumentId signalId eventTime .pointInTimeBidAsk found.1 where
  before := (mem_quoteCandidates (latest_spec latest).1).1
  young _ := (mem_quoteCandidates (latest_spec latest).1).2
  quotes _ := (latest_spec latest).2
  candles := nofun

/-- Completed marks are never from the future, and other evidence is not exactly where a purchase
that takes the contract of a snapshot takes one that was quoted in time. -/
theorem price_evidence_of_its_time (provider : Provider) (instrumentId signalId : String)
    (eventTime : Int) (isBuy : Bool) (selection : Option SelectionDecision) :
    NotFromFuture provider instrumentId signalId eventTime
        (completedMarkEvidence provider instrumentId eventTime) ∧
      (NotFromFuture provider instrumentId signalId eventTime
          (priceEvidence provider instrumentId signalId eventTime isBuy selection) ↔
        ∀ taken ∈ snapshotContract isBuy selection, ∃ timestamp ∈ snapshotTime taken,
          LatestBy provider instrumentId signalId eventTime .pointInTimeBidAsk timestamp) := by
  refine ⟨markEvidence_notFromFuture _ _, ?_⟩
  unfold priceEvidence
  cases snapshotContract isBuy selection with
  | some taken =>
    constructor
    · rintro inTime _ ⟨⟩
      exact inTime rfl
    · intro inTime _
      obtain ⟨timestamp, isTime, latest⟩ := inTime taken rfl
      exact ⟨timestamp, isTime, latest⟩
  | none =>
    refine iff_of_true ?_ fun taken member => absurd member (Option.not_mem_none taken)
    cases latest : latestQuote provider instrumentId signalId eventTime with
    | some found => exact fun _ => ⟨found.1, rfl, latestQuote_latestBy latest⟩
    | none => exact markEvidence_notFromFuture _ _

end Provider

/-! ### A quote of the future -/

/-- The contract of a snapshot that was captured three seconds after the signal. -/
def lateSelection : SelectionDecision where
  evidenceStatus := .pointInTimeChainSnapshot
  selectedContract := some ⟨99, 100, 100, some 3000000, some (-3)⟩
  snapshotTimestamp := some 0
  source := "KITE"

def emptyProvider : Provider := ⟨.mixed, [], fun _ => [], 30⟩

/-- A purchase at the time of the signal is priced by a quote of three seconds later. -/
theorem purchase_priced_from_future :
    (priceEvidence emptyProvider "INST-NIFTY-CE" "STRAT-B-1" 0 true
        (some lateSelection)).evidenceTimestamp = some 3000000 ∧
      ¬∀ (provider : Provider) (instrumentId signalId : String) (eventTime : Int) (isBuy : Bool)
        (selection : Option SelectionDecision),
        NotFromFuture provider instrumentId signalId eventTime
          (priceEvidence provider instrumentId signalId eventTime isBuy selection) := by
  refine ⟨rfl, fun always => ?_⟩
  obtain ⟨timestamp, same, inTime⟩ := always emptyProvider "INST-NIFTY-CE" "STRAT-B-1" 0 true
    (some lateSelection) rfl
  cases same
  exact absurd inTime.before (by decide)

end BreezeTrading.PriceEvidence
