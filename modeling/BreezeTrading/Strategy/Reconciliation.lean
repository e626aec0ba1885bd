/-
This file models the report that compares the stored live trades with the net
positions of the broker, and proves what a clean report says: the broker was
verified and nothing is exposed on either side. The broker reports one net
position for a contract, so the trades are compared contract by contract.
-/

import BreezeTrading.Contracts.Broker
import BreezeTrading.Lib.Distinct
import BreezeTrading.Strategy.Trades
import Mathlib.Algebra.Order.BigOperators.Group.List
import Mathlib.Data.List.Enum

namespace BreezeTrading

open Stored

/-! ### Contracts -/

/-- What the report uses of the language's texts: `str.upper` and `str.strip`. -/
structure TextFunctions where
  upper : String → String
  strip : String → String

/-- `text[:length]`. -/
def takeText (length : Nat) (text : String) : String := String.ofList (text.toList.take length)

/-- `format(number, ".<digits>f")`. -/
def formatFixed (digits : Nat) (number : ℚ) : String :=
  let scaled := (roundHalfEven (|number| * 10 ^ digits)).toNat
  let fraction := toString (scaled % 10 ^ digits)
  (if number < 0 then "-" else "") ++ toString (scaled / 10 ^ digits) ++ "." ++
    String.ofList (List.replicate (digits - fraction.length) '0') ++ fraction

def normalizedOptionRight (texts : TextFunctions) (value : Option String) : String :=
  let text := texts.upper (value.getD "")
  if text = "CALL" ∨ text = "CE" then "CALL"
  else if text = "PUT" ∨ text = "PE" then "PUT"
  else text

/-- A net position of the broker is one of the contract of a trade: by its symbol, or, at the
one provider that reports underlyings, by underlying, expiry, strike and right. -/
def brokerPositionMatchesTrade (texts : TextFunctions) (provider : String)
    (position : BrokerPositionResponse) (trade : ActiveTrade) : Bool :=
  let brokerSymbol := texts.upper position.stockCode
  if brokerSymbol = texts.upper trade.contractSymbol then true
  else if provider ≠ "breeze" then false
  else
    let underlying :=
      if "BANKNIFTY".toList.isPrefixOf (texts.upper trade.contractSymbol).toList then "BANKNIFTY"
      else "NIFTY"
    decide (brokerSymbol = underlying) &&
      decide (takeText 10 (position.expiryDate.getD "") = takeText 10 trade.expiry) &&
      (position.strikePrice.any fun strike => decide (|strike - trade.strike| < 1 / 1000000)) &&
      decide (normalizedOptionRight texts position.right = trade.optionType.value)

/-- Return the canonical local identity used for broker net-position reconciliation. -/
def liveTradeContractKey (texts : TextFunctions) (trade : ActiveTrade) : String :=
  let instrumentId := texts.upper (texts.strip trade.contractInstrumentId)
  if instrumentId ≠ "" then "INSTRUMENT:" ++ instrumentId
  else
    "CONTRACT:" ++ texts.upper trade.contractSymbol ++ "|" ++ takeText 10 trade.expiry ++ "|" ++
      formatFixed 8 trade.strike ++ "|" ++ trade.optionType.value

/-! ### Inputs -/

/-- The states in which an order may still reach the broker or be filled there. -/
def unresolvedStates : List OrderState :=
  [.created, .validating, .approved, .submitting, .submissionUnknown, .acknowledged, .open,
    .partiallyFilled]

/-- What the report is built from: the stored trades, the orders and positions it is given, and
what the order service answers about the protective stop of a trade when it is examined. The
positions of the portfolio are books of the system too, which the report does not read. -/
structure LiveBooks where
  texts : TextFunctions
  provider : String
  trades : List ActiveTrade
  orders : List BrokerOrder
  brokerPositions : List BrokerPositionResponse
  brokerVerified : Bool
  brokerError : Option String
  protectiveOrder : ActiveTrade → Option BrokerOrder
  portfolioPositions : List Position

namespace LiveBooks

variable (books : LiveBooks)

def liveTrades : List ActiveTrade :=
  (getActiveTrades books.trades).filter fun trade =>
    decide (trade.mode = .live ∧ trade.state ≠ .closed)

def unresolvedOrders : List BrokerOrder :=
  books.orders.filter fun order =>
    decide (order.tradingMode = .live ∧ order.status ∈ unresolvedStates)

/-- The contracts of the live trades, each at its first occurrence. -/
def contractKeys : List String :=
  acceptAll id [] (books.liveTrades.map (liveTradeContractKey books.texts))

def groupedTrades (contractKey : String) : List ActiveTrade :=
  books.liveTrades.filter fun trade =>
    decide (liveTradeContractKey books.texts trade = contractKey)

/-- The contracts a position of the broker may belong to. -/
def matchingKeys (position : BrokerPositionResponse) : List String :=
  books.contractKeys.filter fun contractKey =>
    (books.groupedTrades contractKey).any
      (brokerPositionMatchesTrade books.texts books.provider position)

/-- The positions allocated to a contract: those that belong to no other. -/
def positionsByContract (contractKey : String) : List BrokerPositionResponse :=
  books.brokerPositions.filter fun position =>
    decide (books.matchingKeys position = [contractKey])

def localContractQuantity (contractKey : String) : Int :=
  ((books.groupedTrades contractKey).map ActiveTrade.localLiveRemainingQuantity).sum

def brokerContractQuantity (contractKey : String) : Int :=
  ((books.positionsByContract contractKey).map BrokerPositionResponse.quantity).sum

/-! ### Issues -/

def verificationIssues : List String :=
  if books.brokerVerified then []
  else
    ["BROKER_STATE_UNVERIFIED" ++
      match orText books.brokerError none with
      | some error => ":" ++ error
      | none => ""]

/-- Do not allocate one broker net position across ambiguous local identities. -/
def ambiguityIssues : List String :=
  books.brokerPositions.flatMap fun position =>
    if 1 < (books.matchingKeys position).length then
      ["AMBIGUOUS_BROKER_POSITION_MATCH:" ++ position.stockCode ++ ":" ++
        ",".intercalate ((books.matchingKeys position).insertionSort fun first second =>
          first ≤ second)]
    else []

def mismatchIssues (contractKey : String) : List String :=
  if books.brokerVerified = true ∧
      books.brokerContractQuantity contractKey ≠ books.localContractQuantity contractKey then
    ["LIVE_POSITION_MISMATCH:" ++ contractKey ++ ":" ++
      "local=" ++ toString (books.localContractQuantity contractKey) ++ ":" ++
      "broker=" ++ toString (books.brokerContractQuantity contractKey) ++ ":" ++
      "trades=" ++ ",".intercalate ((books.groupedTrades contractKey).map ActiveTrade.tradeId)]
  else []

/-- The state of the protective stop of a trade, and what is wrong with it. -/
def protection (trade : ActiveTrade) : String × List String :=
  if 0 < trade.localLiveRemainingQuantity ∧ orText trade.exitOrderId none = none ∧
      orText trade.partialExitOrderId none = none then
    if orText trade.protectiveStopOrderId none = none then
      ("MISSING", ["LIVE_PROTECTIVE_STOP_MISSING:" ++ trade.tradeId])
    else
      match books.protectiveOrder trade with
      | none => ("OMS_ORDER_MISSING", ["LIVE_PROTECTIVE_STOP_UNKNOWN:" ++ trade.tradeId])
      | some protective =>
          (protective.status.value,
            if protective.status ∈ [.open, .acknowledged, .partiallyFilled] then []
            else
              ["LIVE_PROTECTIVE_STOP_NOT_CONFIRMED:" ++ trade.tradeId ++ ":" ++
                protective.status.value])
  else ("NOT_REQUIRED", [])

def tradeIssues (trade : ActiveTrade) : List String :=
  (books.protection trade).2 ++
    if 0 < trade.localLiveRemainingQuantity then
      ["RECOVERED_LIVE_POSITION_ACTIVE:" ++ trade.tradeId]
    else []

def contractIssues (contractKey : String) : List String :=
  books.mismatchIssues contractKey ++ (books.groupedTrades contractKey).flatMap books.tradeIssues

/-- What is wrong with a position of the broker on its own. An ambiguous one counts as seen. -/
def positionIssues (position : BrokerPositionResponse) : List String :=
  if position.quantity = 0 then []
  else
    (if books.matchingKeys position = [] then
      ["ORPHAN_BROKER_POSITION:" ++ position.stockCode ++ ":" ++ toString position.quantity]
    else []) ++
    if position.quantity < 0 then
      ["UNEXPECTED_SHORT_BROKER_POSITION:" ++ position.stockCode ++ ":" ++
        toString position.quantity]
    else []

def orderIssues : List String :=
  if books.unresolvedOrders = [] then [] else ["UNRESOLVED_LIVE_ORDERS"]

def issues : List String :=
  books.verificationIssues ++ books.ambiguityIssues ++
    books.contractKeys.flatMap books.contractIssues ++
    books.brokerPositions.flatMap books.positionIssues ++ books.orderIssues

/-! ### The report -/

structure ContractRow where
  contractKey : String
  symbol : String
  tradeIds : List String
  localRemainingQuantity : Int
  brokerQuantity : Int
  brokerPositionCount : Nat
  deriving DecidableEq, Repr

structure TradeRow where
  tradeId : String
  symbol : String
  contractKey : String
  localRemainingQuantity : Int
  brokerQuantity : Int
  brokerContractQuantity : Int
  localContractQuantity : Int
  contractTradeCount : Nat
  protectiveStopStatus : String
  exitOrderId : Option String
  partialExitOrderId : Option String
  deriving DecidableEq, Repr

structure LiveReconciliationReport where
  status : String
  checkedAt : Int
  brokerVerified : Bool
  brokerError : Option String
  issues : List String
  activeLiveTrades : List TradeRow
  livePositionContracts : List ContractRow
  openBrokerPositions : Nat
  unresolvedLiveOrders : List BrokerOrder
  deriving DecidableEq, Repr

def contractRow (contractKey : String) : ContractRow where
  contractKey := contractKey
  symbol := ((books.groupedTrades contractKey).head?.map ActiveTrade.contractSymbol).getD ""
  tradeIds := (books.groupedTrades contractKey).map ActiveTrade.tradeId
  localRemainingQuantity := books.localContractQuantity contractKey
  brokerQuantity := books.brokerContractQuantity contractKey
  brokerPositionCount := (books.positionsByContract contractKey).length

def tradeRow (contractKey : String) (trade : ActiveTrade) : TradeRow where
  tradeId := trade.tradeId
  symbol := trade.contractSymbol
  contractKey := contractKey
  localRemainingQuantity := trade.localLiveRemainingQuantity
  brokerQuantity := books.brokerContractQuantity contractKey
  brokerContractQuantity := books.brokerContractQuantity contractKey
  localContractQuantity := books.localContractQuantity contractKey
  contractTradeCount := (books.groupedTrades contractKey).length
  protectiveStopStatus := (books.protection trade).1
  exitOrderId := trade.exitOrderId
  partialExitOrderId := trade.partialExitOrderId

/-- Compare durable local live state with broker net positions by contract. -/
def buildLiveReconciliationReport (now : Int) : LiveReconciliationReport where
  status := if books.issues = [] then "CLEAN" else "BLOCKED"
  checkedAt := now
  brokerVerified := books.brokerVerified
  brokerError := books.brokerError
  issues := acceptAll id [] books.issues
  activeLiveTrades := books.contractKeys.flatMap fun contractKey =>
    (books.groupedTrades contractKey).map (books.tradeRow contractKey)
  livePositionContracts := books.contractKeys.map books.contractRow
  openBrokerPositions := (books.brokerPositions.filter fun position =>
    decide (position.quantity ≠ 0)).length
  unresolvedLiveOrders := books.unresolvedOrders

/-! ### What a clean report says -/

/-- No contract of the live trades is exposed on either side, as far as the report reads. -/
structure Flat : Prop where
  verified : books.brokerVerified = true
  resolved : ∀ order ∈ books.orders, order.tradingMode = .live → order.status ∉ unresolvedStates
  brokerFlat : ∀ position ∈ books.brokerPositions, position.quantity = 0
  tradesFlat : ∀ trade ∈ books.trades, trade.mode = .live → trade.state ≠ .closed →
    trade.localLiveRemainingQuantity = 0

/-- Every position of the broker belongs to at most one contract of the live trades. -/
def Unambiguous : Prop :=
  ∀ position ∈ books.brokerPositions, (books.matchingKeys position).length ≤ 1

variable {books}

variable {trade : ActiveTrade} {contractKey : String} {position : BrokerPositionResponse}

theorem mem_liveTrades :
    trade ∈ books.liveTrades ↔ trade ∈ books.trades ∧ trade.mode = .live ∧ trade.state ≠ .closed := by
  unfold liveTrades
  rw [List.mem_filter, mem_getActiveTrades, decide_eq_true_eq]
  exact ⟨fun ⟨⟨stored, _⟩, rest⟩ => ⟨stored, rest⟩,
    fun ⟨stored, rest⟩ => ⟨⟨stored, rest.2⟩, rest⟩⟩

theorem mem_groupedTrades : trade ∈ books.groupedTrades contractKey ↔
      trade ∈ books.liveTrades ∧ liveTradeContractKey books.texts trade = contractKey := by
  unfold groupedTrades
  rw [List.mem_filter, decide_eq_true_eq]

theorem contractKey_mem (live : trade ∈ books.liveTrades) :
    liveTradeContractKey books.texts trade ∈ books.contractKeys := by
  have accepted := key_mem_acceptAll id []
    (List.mem_map_of_mem (f := liveTradeContractKey books.texts) live)
  rwa [List.map_id] at accepted

theorem mem_positionsByContract : position ∈ books.positionsByContract contractKey ↔
      position ∈ books.brokerPositions ∧ books.matchingKeys position = [contractKey] := by
  unfold positionsByContract
  rw [List.mem_filter, decide_eq_true_eq]

theorem matchingKeys_subset (position : BrokerPositionResponse) :
    books.matchingKeys position ⊆ books.contractKeys :=
  List.filter_sublist.subset

/-! Each family of issues is empty exactly when what it looks for is absent. -/

theorem verificationIssues_eq_nil : books.verificationIssues = [] ↔ books.brokerVerified = true := by
  unfold verificationIssues
  split <;> simp_all

theorem ambiguityIssues_eq_nil : books.ambiguityIssues = [] ↔ books.Unambiguous := by
  unfold ambiguityIssues Unambiguous
  rw [List.flatMap_eq_nil_iff]
  refine forall₂_congr fun position _ => ?_
  split <;> simp_all

theorem mismatchIssues_eq_nil (verified : books.brokerVerified = true) :
    books.mismatchIssues contractKey = [] ↔
      books.brokerContractQuantity contractKey = books.localContractQuantity contractKey := by
  unfold mismatchIssues
  split <;> simp_all

theorem tradeIssues_eq_nil :
    books.tradeIssues trade = [] ↔ trade.localLiveRemainingQuantity = 0 := by
  have nonneg := trade.localLiveRemainingQuantity_nonneg
  by_cases exposed : 0 < trade.localLiveRemainingQuantity
  · simp only [tradeIssues, if_pos exposed, List.append_eq_nil_iff, List.cons_ne_self, and_false,
      false_iff]
    exact exposed.ne'
  · have flat : trade.localLiveRemainingQuantity = 0 := le_antisymm (not_lt.mp exposed) nonneg
    simp [tradeIssues, protection, flat]

theorem positionIssues_eq_nil : books.positionIssues position = [] ↔
      (position.quantity ≠ 0 → books.matchingKeys position ≠ [] ∧ 0 ≤ position.quantity) := by
  unfold positionIssues
  split
  · simp_all
  · rename_i exposed
    simp only [List.append_eq_nil_iff, ite_eq_right_iff, List.cons_ne_self, imp_false, not_lt]
    exact ⟨fun none _ => none, fun none => none exposed⟩

theorem orderIssues_eq_nil :
    books.orderIssues = [] ↔
      ∀ order ∈ books.orders, order.tradingMode = .live → order.status ∉ unresolvedStates := by
  unfold orderIssues unresolvedOrders
  split
  · rename_i none
    rw [List.filter_eq_nil_iff] at none
    simpa using none
  · rename_i some
    rw [List.filter_eq_nil_iff] at some
    simpa using some

theorem issues_eq_nil :
    books.issues = [] ↔
      books.verificationIssues = [] ∧ books.Unambiguous ∧
        (∀ contractKey ∈ books.contractKeys, books.mismatchIssues contractKey = [] ∧
          ∀ trade ∈ books.groupedTrades contractKey, trade.localLiveRemainingQuantity = 0) ∧
        (∀ position ∈ books.brokerPositions, books.positionIssues position = []) ∧
        books.orderIssues = [] := by
  simp only [issues, contractIssues, List.append_eq_nil_iff, List.flatMap_eq_nil_iff,
    ambiguityIssues_eq_nil, tradeIssues_eq_nil, and_assoc]

/-- Once no live trade is exposed and no contract mismatches, the positions of a contract sum to
zero. None of them is short, so each is zero. -/
theorem positions_flat (verified : books.brokerVerified = true) (unambiguous : books.Unambiguous)
    (contracts : ∀ contractKey ∈ books.contractKeys, books.mismatchIssues contractKey = [] ∧ ∀ trade
      ∈ books.groupedTrades contractKey, trade.localLiveRemainingQuantity = 0)
    (positions : ∀ position ∈ books.brokerPositions, books.positionIssues position = [])
    (held : position ∈ books.brokerPositions) : position.quantity = 0 := by
  by_contra exposed
  obtain ⟨matched, _⟩ := positionIssues_eq_nil.mp (positions position held) exposed
  obtain ⟨contractKey, only⟩ : ∃ contractKey, books.matchingKeys position = [contractKey] := by
    rw [← List.length_eq_one_iff]
    have positive := List.length_pos_iff.mpr matched
    have most := unambiguous position held
    omega
  have listed : contractKey ∈ books.contractKeys :=
    matchingKeys_subset position (by rw [only]; exact List.mem_singleton_self _)
  obtain ⟨same, flat⟩ := contracts contractKey listed
  have localFlat : books.localContractQuantity contractKey = 0 := by
    refine List.sum_eq_zero fun quantity inside => ?_
    obtain ⟨trade, grouped, rfl⟩ := List.mem_map.mp inside
    exact flat trade grouped
  have sumFlat : books.brokerContractQuantity contractKey = 0 := by
    rw [(mismatchIssues_eq_nil verified).mp same, localFlat]
  have noShort : ∀ quantity ∈ (books.positionsByContract contractKey).map
      BrokerPositionResponse.quantity, 0 ≤ quantity := by
    intro quantity inside
    obtain ⟨other, allocated, rfl⟩ := List.mem_map.mp inside
    have otherHeld := (mem_positionsByContract.mp allocated).1
    by_cases zero : other.quantity = 0
    · exact zero.ge
    · exact (positionIssues_eq_nil.mp (positions other otherHeld) zero).2
  have allocated := mem_positionsByContract.mpr ⟨held, only⟩
  exact exposed (List.all_zero_of_le_zero_le_of_sum_eq_zero noShort sumFlat
    (List.mem_map_of_mem allocated))

theorem issues_eq_nil_iff_flat : books.issues = [] ↔ books.Flat ∧ books.Unambiguous := by
  rw [issues_eq_nil, verificationIssues_eq_nil, orderIssues_eq_nil]
  constructor
  · rintro ⟨verified, unambiguous, contracts, positions, resolved⟩
    refine ⟨⟨verified, resolved, fun position held =>
      positions_flat verified unambiguous contracts positions held, ?_⟩, unambiguous⟩
    intro trade stored live notClosed
    have isLive := mem_liveTrades.mpr ⟨stored, live, notClosed⟩
    exact (contracts _ (contractKey_mem isLive)).2 trade (mem_groupedTrades.mpr ⟨isLive, rfl⟩)
  · rintro ⟨flat, unambiguous⟩
    have tradeFlat : ∀ contractKey, ∀ trade ∈ books.groupedTrades contractKey,
        trade.localLiveRemainingQuantity = 0 := by
      intro contractKey trade grouped
      obtain ⟨stored, live, notClosed⟩ := mem_liveTrades.mp (mem_groupedTrades.mp grouped).1
      exact flat.tradesFlat trade stored live notClosed
    refine ⟨flat.verified, unambiguous, fun contractKey _ => ⟨?_, tradeFlat contractKey⟩,
      fun position held => ?_, flat.resolved⟩
    · rw [mismatchIssues_eq_nil flat.verified]
      have brokerSum : books.brokerContractQuantity contractKey = 0 := by
        refine List.sum_eq_zero fun quantity inside => ?_
        obtain ⟨position, allocated, rfl⟩ := List.mem_map.mp inside
        exact flat.brokerFlat position (mem_positionsByContract.mp allocated).1
      have localSum : books.localContractQuantity contractKey = 0 := by
        refine List.sum_eq_zero fun quantity inside => ?_
        obtain ⟨trade, grouped, rfl⟩ := List.mem_map.mp inside
        exact tradeFlat contractKey trade grouped
      rw [brokerSum, localSum]
    · rw [positionIssues_eq_nil]
      exact fun exposed => absurd (flat.brokerFlat position held) exposed

variable (books)

/-- The report is clean exactly when the broker was verified, no live order is unresolved, every
position of the broker is zero and belongs to at most one contract, and no stored live trade that
is not closed has anything left; in every other case it is blocked. -/
theorem buildLiveReconciliationReport_clean_iff (now : Int) :
    ((books.buildLiveReconciliationReport now).status = "CLEAN" ↔
        books.Flat ∧ books.Unambiguous) ∧
      ((books.buildLiveReconciliationReport now).status = "BLOCKED" ↔
        ¬(books.Flat ∧ books.Unambiguous)) := by
  rw [← issues_eq_nil_iff_flat]
  simp only [buildLiveReconciliationReport]
  by_cases none : books.issues = []
  · simp [none]
  · simp [none]

/-- Books with one live trade, closed because its entry was never filled: nothing was bought, but
its quantity still stands in the row. The portfolio holds a live position of another contract. -/
def unfilledEntry : LiveBooks where
  texts := ⟨BreezeTrading.upper, id⟩
  provider := "breeze"
  trades :=
    [{ tradeId := "TRD-1", mode := .live, strategy := .trendPullback, direction := .bullish
       optionType := .call, contractSymbol := "NIFTY25JAN24000CE", contractInstrumentId := "I-1"
       expiry := "2025-01-30", strike := 24000, quantity := 75, entryTime := 0
       entryOptionPrice := 100, entrySpotPrice := 24000, initialRPoints := 20
       entryOrderId := some "O-1", state := .closed, exitTime := some 1
       exitReason := some "ENTRY_UNFILLED_CANCELLED" }]
  orders := []
  brokerPositions := []
  brokerVerified := true
  brokerError := none
  protectiveOrder := fun _ => none
  portfolioPositions :=
    [{ instrumentId := "I-2", symbol := "NIFTY25JAN24100CE", quantity := 75, buyQuantity := 75
       sellQuantity := 0, buyValue := 7500, sellValue := 0, averagePrice := 100
       currentPrice := 100, realizedPnl := 0, unrealizedPnl := 0, totalPnl := 0
       tradingMode := .live }]

/-- The report does not look at closed trades and at the portfolio, so it is clean over books in
which both still show a quantity. -/
theorem clean_over_remaining_quantity :
    (unfilledEntry.buildLiveReconciliationReport 0).status = "CLEAN" ∧
      (∃ trade ∈ unfilledEntry.trades, trade.mode = .live ∧ trade.localLiveRemainingQuantity ≠ 0) ∧
      ∃ position ∈ unfilledEntry.portfolioPositions,
        position.tradingMode = .live ∧ position.quantity ≠ 0 := by
  refine ⟨by decide +kernel, ⟨_, List.mem_cons_self, rfl, by decide⟩, ?_⟩
  exact ⟨_, List.mem_cons_self, rfl, by decide⟩

end LiveBooks

end BreezeTrading
