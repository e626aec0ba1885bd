/-
This file models how the strategy service manages and closes the trades that are
open: the close of a trade, the confirmation of its entry order, the evaluation of
a trade in a cycle, and the manual exit. The decisions of the position manager and
of the protective stops are answers from outside: a plan says which of the awaits
of the evaluation happen, in which order and with which values.
-/

import BreezeTrading.Strategy.Operations

namespace BreezeTrading

namespace StrategyService

/-! ### Closing -/

/-- `_close_trade`: the trade is closed in memory, stored as closed, and, unless it is live, its
final sale is recorded. -/
def closeTrade (trade : ActiveTrade) (futuresPrice price : ℚ) (reason : Option String) :
    StrategyTask ActiveTrade := do
  let (exitTime, costs) ← suspend (.closeInMemory trade futuresPrice price reason)
  let closed := trade.closeAt costs futuresPrice price reason exitTime
  let _ ← suspend .elsewhere
  let _ ← suspend (.saveTrade closed .closing)
  suspendIf (closed.strategy = .trendPullback) (.logClose closed)
  suspendIf (closed.mode ≠ .live) (.recordExecution
    { tradeId := closed.tradeId
      kind := .finalExit
      side := .sell
      executablePrice := price
      quantity := max 0 closed.quantity
      reason := closed.exitReason })
  let _ ← suspend .elsewhere
  return closed

/-! ### Management -/

def carryOutStep (trade : ActiveTrade) : ManagementStep → StrategyTask ActiveTrade
  | .track tracking => return trade.track tracking
  | .save => do
      let _ ← suspend (.saveTrade trade .managed)
      return trade
  | .elsewhere => do
      let _ ← suspend .elsewhere
      return trade
  | .sell orderType quantity price triggerPrice => do
      let _ ← suspend (.createOrderIntent
        { correlationId := trade.tradeId
          instrumentId := trade.contractInstrumentId
          symbol := trade.contractSymbol
          side := .sell
          orderType := orderType
          quantity := quantity
          price := price
          triggerPrice := triggerPrice
          reduceOnly := true })
      return trade
  | .record isPartialExit price quantity reason => do
      let _ ← suspend (.recordExecution
        { tradeId := trade.tradeId
          kind := if isPartialExit then .partialExit else .fill
          side := .sell
          executablePrice := price
          quantity := quantity
          reason := reason })
      return trade
  | .escalate => do
      match ← suspend .escalateStopFailure with
      | some object =>
          let _ ← suspend (.insertConfigRow object)
          let _ ← suspend .elsewhere
          return trade
      | none =>
          let _ ← suspend .elsewhere
          return trade

/-- The steps of the management of a trade, one after another. -/
def carryOut : List ManagementStep → ActiveTrade → StrategyTask ActiveTrade
  | [], trade => return trade
  | step :: rest, trade => do
      let tracked ← carryOutStep trade step
      carryOut rest tracked

/-- Manage a trade by a plan. Returns the trade, and whether what comes after may go on. -/
def manage (trade : ActiveTrade) : StrategyTask (ActiveTrade × Bool) := do
  let plan ← suspend (.planManagement trade.tradeId)
  let tracked ← carryOut plan.steps trade
  match plan.ending with
  | .kept mayContinue => return (tracked, mayContinue)
  | .closed futuresPrice price reason savedAgain =>
      let closed ← closeTrade tracked futuresPrice price reason
      suspendIf (savedAgain = true) (.saveTrade closed .managed)
      return (closed, false)

/-! ### The entry order -/

/-- The states in which the entry order of a trade is over. -/
def terminalStates : List OrderState :=
  [.filled, .cancelled, .rejected, .riskRejected, .expired, .failedSafe]

/-- The fills of the entry order so far, on the trade. -/
def withEntryFill (trade : ActiveTrade) (order : BrokerOrder) : ActiveTrade :=
  { trade with
    filledQuantity := order.filledQuantity
    entryOptionPrice := if 0 < order.averagePrice then order.averagePrice else trade.entryOptionPrice }

/-- The trade whose entry order is filled. -/
def openedBy (trade : ActiveTrade) (order : BrokerOrder) : ActiveTrade :=
  { withEntryFill trade order with
    quantity := order.filledQuantity
    initialQuantity := some order.filledQuantity
    state := .openInitialRisk }

/-- The entry order of a pending trade is looked up. Returns the trade once its entry is
confirmed; the trade ends closed when the order ended without a fill. -/
def confirmEntry (trade : ActiveTrade) (orderId : String) : StrategyTask (Option ActiveTrade) := do
  match ← suspend (.getOrder orderId) with
  | none => return none
  | some order =>
    let progressed := if 0 < order.filledQuantity then withEntryFill trade order else trade
    suspendIf (progressed ≠ trade) (.saveTrade progressed .managed)
    if order.status ∉ terminalStates then
      let _ ← suspend .elsewhere
      return none
    else if order.filledQuantity ≤ 0 then
      let exitTime ← suspend (.closeUnfilledInMemory progressed order.status.value)
      let _ ← suspend .elsewhere
      let _ ← suspend (.saveTrade (progressed.closeUnfilled order.status.value exitTime) .managed)
      return none
    else
      let opened := openedBy progressed order
      let _ ← suspend (.saveTrade opened .managed)
      let _ ← suspend (.recordExecution
        { tradeId := opened.tradeId
          kind := .fill
          side := .buy
          executablePrice := opened.entryOptionPrice
          quantity := opened.filledQuantity
          reason := some "LIVE_ENTRY_FILLED" })
      let _ ← suspend .elsewhere
      return some opened

/-- `_evaluate_active_trade`. A pending trade without an entry order is only reported. -/
def evaluateActiveTrade (trade : ActiveTrade) : StrategyTask Unit := do
  if trade.state = .entryPending then
    match orText trade.entryOrderId none with
    | none =>
        let _ ← suspend .elsewhere
    | some orderId =>
        match ← confirmEntry trade orderId with
        | none => return
        | some opened =>
            let _ ← manage opened
  else
    let _ ← manage trade

/-- The open trades are evaluated one after another. -/
def evaluateActiveTrades : List ActiveTrade → StrategyTask Unit
  | [] => return
  | trade :: rest => do
      evaluateActiveTrade trade
      evaluateActiveTrades rest

/-! ### The manual exit -/

/-- `_cancel_live_protective_stop_for_exit`: only a live trade with a protective stop has one to
cancel, which may find the trade closed by it. -/
def cancelProtectiveStopForExit (trade : ActiveTrade) : StrategyTask (ActiveTrade × Bool) :=
  if trade.mode ≠ .live ∨ orText trade.protectiveStopOrderId none = none then return (trade, true)
  else manage trade

/-- The exit of an open trade, as it was read. -/
def exitTrade (target : ActiveTrade) (reason : String) : StrategyTask Unit := do
  let market ← suspend .gatherFeatures
  let quote ← suspend (.resolveOptionQuote target.tradeId)
  if quote.usable then
    let memory ← suspend .readMemory
    let exitPrice := roundTo 2 (quote.bid.getD 0 - memory.config.costs.slippagePoints)
    if target.mode = .paper ∨ target.mode = .shadowOnly then
      let _ ← closeTrade target market.futuresPrice exitPrice (some reason)
    else
      let (managed, mayExit) ← cancelProtectiveStopForExit target
      if mayExit then
        let orderId ← suspend (.createOrderIntent
          { correlationId := managed.tradeId
            instrumentId := managed.contractInstrumentId
            symbol := managed.contractSymbol
            side := .sell
            orderType := .limit
            quantity := managed.quantity - managed.exitFilledQuantity
            price := exitPrice
            reduceOnly := true })
        let _ ← suspend (.saveTrade
          { managed with
            exitOrderId := some orderId
            pendingExitReason := some reason
            state := .exitPending } .managed)
      else
        let _ ← suspend (.saveTrade { managed with pendingExitReason := some reason } .managed)
  -- a record older than the capture of contracts is sold at its last price
  else if target.mode = .paper ∧ target.contractCaptured = false ∧
      orText target.signalId none = none then
    let _ ← closeTrade target market.futuresPrice target.currentOptionPrice (some reason)
  else
    let _ ← suspend (.saveTrade target .managed)

/-- Manually exit an active trade immediately: `manual_exit_trade`. -/
def manualExitTrade (tradeId reason : String) : StrategyTask Unit := do
  let active ← suspend (.getActiveTrades (.exit tradeId))
  match active.find? fun trade => decide (trade.tradeId = tradeId) with
  | none =>
      let _ ← suspend (.listTrades 50)
  | some target => finallyDo (exitTrade target reason) (.putDown [target.tradeId])

/-! ### What management awaits -/

open Async.Coroutine

/-- The operations that the management of a trade awaits: it saves the trade and no other, and
orders only to sell. -/
def IsManagement (trade : ActiveTrade) : StrategyOp → Prop
  | .saveTrade saved purpose =>
      trade.SameEntry saved ∧ (purpose = .managed ∨ purpose = .closing)
  | .recordExecution entry => entry.tradeId = trade.tradeId
  | .createOrderIntent intent => intent.side = .sell
  | .closeInMemory closing _ _ _ => trade.SameEntry closing
  | .closeUnfilledInMemory closing _ => trade.SameEntry closing
  | .getOrder _ | .elsewhere | .logClose _ | .planManagement _ | .escalateStopFailure => True
  | .insertConfigRow _ | .gatherFeatures | .resolveOptionQuote _ | .readMemory => True
  | _ => False

section Extent

variable {trade : ActiveTrade}

theorem stays_closeTrade {closing : ActiveTrade} (same : trade.SameEntry closing)
    (futuresPrice price : ℚ) (reason : Option String) :
    (closeTrade closing futuresPrice price reason).Stays (IsManagement trade) fun closed =>
      trade.SameEntry closed ∧ closed.state = .closed := by
  have closes : IsManagement trade (.closeInMemory closing futuresPrice price reason) := same
  refine Stays.perform_bind closes fun (exitTime, costs) => ?_
  have sameClosed :=
    same.trans (closing.sameEntry_closeAt costs futuresPrice price reason exitTime)
  refine Stays.perform_bind trivial fun _ => Stays.perform_bind ⟨sameClosed, Or.inr rfl⟩
    fun _ => ?_
  refine (stays_suspendIf _ trivial).bind fun _ _ => (stays_suspendIf _ sameClosed.tradeId).bind
    fun _ _ => ?_
  exact Stays.perform_bind trivial fun _ => ⟨sameClosed, rfl⟩

theorem stays_carryOutStep {tracked : ActiveTrade} (same : trade.SameEntry tracked)
    (step : ManagementStep) :
    (carryOutStep tracked step).Stays (IsManagement trade) trade.SameEntry := by
  cases step with
  | track tracking => exact same.trans (tracked.sameEntry_track tracking)
  | save => exact Stays.perform_bind ⟨same, Or.inl rfl⟩ fun _ => same
  | elsewhere => exact Stays.perform_bind trivial fun _ => same
  | sell orderType quantity price triggerPrice => exact Stays.perform_bind rfl fun _ => same
  | record isPartialExit price quantity reason =>
    exact Stays.perform_bind same.tradeId fun _ => same
  | escalate =>
    refine Stays.perform_bind trivial fun object => ?_
    cases object with
    | some object =>
      exact Stays.perform_bind trivial fun _ => Stays.perform_bind trivial fun _ => same
    | none => exact Stays.perform_bind trivial fun _ => same

theorem stays_carryOut {tracked : ActiveTrade} (same : trade.SameEntry tracked)
    (steps : List ManagementStep) :
    (carryOut steps tracked).Stays (IsManagement trade) trade.SameEntry := by
  induction steps generalizing tracked with
  | nil => exact same
  | cons step rest inductionHypothesis =>
    exact (stays_carryOutStep same step).bind fun _ sameNext => inductionHypothesis sameNext

theorem stays_manage {managed : ActiveTrade} (same : trade.SameEntry managed) :
    (manage managed).Stays (IsManagement trade) fun result => trade.SameEntry result.1 := by
  refine Stays.perform_bind trivial fun plan => (stays_carryOut same plan.steps).bind
    fun tracked sameTracked => ?_
  split
  · exact sameTracked
  · refine (stays_closeTrade sameTracked _ _ _).bind fun closed ⟨sameClosed, _⟩ => ?_
    exact (stays_suspendIf _ ⟨sameClosed, Or.inl rfl⟩).bind fun _ _ => sameClosed

theorem stays_confirmEntry (trade : ActiveTrade) (orderId : String) :
    (confirmEntry trade orderId).Stays (IsManagement trade) fun opened =>
      ∀ confirmed, opened = some confirmed → trade.SameEntry confirmed := by
  refine Stays.perform_bind trivial fun order => ?_
  cases order with
  | none => exact fun _ impossible => by cases impossible
  | some order =>
    have sameProgressed : trade.SameEntry
        (if 0 < order.filledQuantity then withEntryFill trade order else trade) := by
      split
      · exact ⟨rfl, rfl, rfl, rfl, rfl⟩
      · exact .refl trade
    refine (stays_suspendIf _ ⟨sameProgressed, Or.inl rfl⟩).bind fun _ _ => ?_
    split
    · exact Stays.perform_bind trivial fun _ _ impossible => by cases impossible
    · split
      · refine Stays.perform_bind sameProgressed fun exitTime =>
          Stays.perform_bind trivial fun _ => Stays.perform_bind ⟨?_, Or.inl rfl⟩
            fun _ _ impossible => by cases impossible
        exact sameProgressed.trans (ActiveTrade.sameEntry_closeUnfilled _ _ _)
      · have sameOpened : trade.SameEntry (openedBy
            (if 0 < order.filledQuantity then withEntryFill trade order else trade) order) :=
          sameProgressed.trans ⟨rfl, rfl, rfl, rfl, rfl⟩
        refine Stays.perform_bind ⟨sameOpened, Or.inl rfl⟩ fun _ =>
          Stays.perform_bind sameOpened.tradeId fun _ => Stays.perform_bind trivial
            fun _ confirmed same => ?_
        exact Option.some.inj same ▸ sameOpened

theorem within_evaluateActiveTrade (trade : ActiveTrade) :
    (evaluateActiveTrade trade).Within (IsManagement trade) := by
  unfold evaluateActiveTrade
  split
  · split
    · exact (within_perform trivial).bind fun _ => trivial
    · refine (Stays.bind (stays_confirmEntry trade _) fun opened same => ?_ :
        Stays (IsManagement trade) (fun _ => True) _).within
      cases opened with
      | none => trivial
      | some opened => exact (stays_manage (same opened rfl)).bind fun _ _ => trivial
  · exact (stays_manage (.refl trade)).within.bind fun _ => trivial

theorem within_evaluateActiveTrade_pending {trade : ActiveTrade}
    (pending : trade.state = .entryPending) (unordered : orText trade.entryOrderId none = none) :
    (evaluateActiveTrade trade).Within (· = .elsewhere) := by
  unfold evaluateActiveTrade
  rw [if_pos pending, unordered]
  have reports : (suspend .elsewhere).Within (· = StrategyOp.elsewhere) := within_perform rfl
  exact reports.bind fun _ => trivial

theorem within_evaluateActiveTrades {kind : StrategyOp → Prop} {trades : List ActiveTrade}
    (each : ∀ trade ∈ trades, (evaluateActiveTrade trade).Within kind) :
    (evaluateActiveTrades trades).Within kind := by
  induction trades with
  | nil => trivial
  | cons trade rest inductionHypothesis =>
    exact (each trade List.mem_cons_self).bind fun _ =>
      inductionHypothesis fun other member => each other (List.mem_cons_of_mem _ member)

theorem within_exitTrade (target : ActiveTrade) (reason : String) :
    (exitTrade target reason).Within (IsManagement target) := by
  have closes : ∀ futuresPrice price, (do
      let _ ← closeTrade target futuresPrice price (some reason) : StrategyTask Unit).Within
        (IsManagement target) := fun futuresPrice price =>
    (stays_closeTrade (.refl target) futuresPrice price (some reason)).within.bind fun _ => trivial
  refine (within_perform trivial).bind fun market => (within_perform trivial).bind fun quote => ?_
  split
  · refine (within_perform trivial).bind fun memory => ?_
    split
    · exact closes _ _
    · have cancels : (cancelProtectiveStopForExit target).Stays (IsManagement target) fun result =>
          target.SameEntry result.1 := by
        unfold cancelProtectiveStopForExit
        split
        · exact ActiveTrade.SameEntry.refl target
        · exact stays_manage (.refl target)
      refine (cancels.bind fun (managed, mayExit) same => ?_ :
        Stays (IsManagement target) (fun _ => True) _).within
      have kept : ∀ saved : ActiveTrade, managed.SameEntry saved →
          (do let _ ← suspend (.saveTrade saved .managed) : StrategyTask Unit).Stays
            (IsManagement target) fun _ => True := fun saved later =>
        Stays.perform_bind ⟨same.trans later, Or.inl rfl⟩ fun _ => trivial
      dsimp only
      split
      · exact Stays.perform_bind rfl fun orderId => kept _ ⟨rfl, rfl, rfl, rfl, rfl⟩
      · exact kept _ ⟨rfl, rfl, rfl, rfl, rfl⟩
  · split
    · exact closes _ _
    · exact (within_perform ⟨.refl target, Or.inl rfl⟩).bind fun _ => trivial

theorem within_manualExitTrade {kind : StrategyOp → Prop} {tradeId reason : String}
    (reads : kind (.getActiveTrades (.exit tradeId))) (lists : kind (.listTrades 50))
    (putsDown : ∀ tradeIds, kind (.putDown tradeIds))
    (manages : ∀ target op, IsManagement target op → kind op) :
    (manualExitTrade tradeId reason).Within kind := by
  refine (within_perform reads).bind fun active => ?_
  split
  · exact (within_perform lists).bind fun _ => trivial
  · rename_i target _
    exact (stays_finallyDo ((within_exitTrade target reason).mono (manages target)).stays
      (putsDown _)).within

end Extent

end StrategyService

end BreezeTrading
