/-
This file asks of every strategy whether a position outlives its session. At its forced exit time
an evaluation with a quote should close the trade, send its exit or decide it. It proves when it
does: always for Strategy A, and for the others as long as what they follow is there and says so.
-/

import BreezeTrading.Strategy.ExitPrecedence

namespace BreezeTrading.LiveExit

/-! ### A stop that stands -/

/-- What a trade records of the stop held at the broker. -/
structure StopRecord where
  orderId : Option String
  cancelForExit : Bool
  filledQuantity : Int
  filledProceeds : ℚ
  limitPrice : Option ℚ
  hardStopPrice : ℚ

def stopRecord (trade : ManagedTrade) : StopRecord where
  orderId := trade.protectiveStopOrderId
  cancelForExit := trade.protectiveStopCancelForExit
  filledQuantity := trade.protectiveStopFilledQuantity
  filledProceeds := trade.protectiveStopFilledProceeds
  limitPrice := trade.protectiveStopLimitPrice
  hardStopPrice := trade.optionHardStopPrice

/-- What the fills of the stop fetched. -/
def stopProceeds (record : StopRecord) (order : SellOrder) : ℚ :=
  orNumber order.averagePrice (orPrice record.limitPrice record.hardStopPrice) * order.filledQuantity

/-- The report of the stop was not accounted yet. -/
def Unreported (record : StopRecord) (order : SellOrder) : Prop :=
  record.filledQuantity ≤ order.filledQuantity ∧
    (order.filledQuantity - record.filledQuantity ≠ 0 ∨
      1 / 1000000000 < stopProceeds record order - record.filledProceeds ∨
      stopProceeds record order - record.filledProceeds < -(1 / 1000000000))

theorem applyProtectiveProgress_of_reported {trade : ManagedTrade} {order : SellOrder}
    (reported : ¬Unreported (stopRecord trade) order) :
    applyProtectiveProgress trade order = trade := by
  unfold applyProtectiveProgress
  dsimp only
  split
  · rename_i grows
    exact if_neg fun changed => reported ⟨grows, changed⟩
  · rfl

theorem stopRecord_of_unreported {trade : ManagedTrade} {order : SellOrder}
    (unreported : Unreported (stopRecord trade) order) :
    stopRecord (applyProtectiveProgress trade order) = { stopRecord trade with
        filledQuantity := order.filledQuantity
        filledProceeds := stopProceeds (stopRecord trade) order } := by
  unfold applyProtectiveProgress
  dsimp only
  split
  · split
    · rfl
    · rename_i unchanged
      exact absurd unreported.2 unchanged
  · rename_i less
    exact absurd unreported.1 less

variable (trade : ManagedTrade)

theorem reported_applyProtectiveProgress (order : SellOrder) :
    ¬Unreported (stopRecord (applyProtectiveProgress trade order)) order := by
  by_cases unreported : Unreported (stopRecord trade) order
  · have none : stopProceeds (stopRecord trade) order - stopProceeds (stopRecord trade) order = 0 :=
      sub_self _
    rw [stopRecord_of_unreported unreported]
    rintro ⟨-, moved | above | below⟩
    · exact moved (sub_self _)
    · exact absurd (above.trans_eq none) (by norm_num)
    · exact absurd (none.symm.trans_lt below) (by norm_num)
  · rw [applyProtectiveProgress_of_reported unreported]
    exact unreported

theorem applyProtectiveProgress_keeps (order : SellOrder) :
    (applyProtectiveProgress trade order).protectiveStopCancelForExit =
        trade.protectiveStopCancelForExit ∧
      (applyProtectiveProgress trade order).protectiveStopOrderId = trade.protectiveStopOrderId ∧
      (applyProtectiveProgress trade order).partialExitOrderId = trade.partialExitOrderId ∧
      (applyProtectiveProgress trade order).exitOrderId = trade.exitOrderId ∧
      (applyProtectiveProgress trade order).state = trade.state := by
  obtain ⟨exited, proceeds, filled, filledProceeds, progressed⟩ :=
    applyProtectiveProgress_form trade order
  rw [progressed]
  exact ⟨rfl, rfl, rfl, rfl, rfl⟩

/-- The stop of a live position stands, and no sale has asked for its cancellation. -/
def stopStands (desk : ExitDesk) : Bool :=
  !desk.trade.protectiveStopCancelForExit &&
    desk.trade.protectiveStopOrderId.any fun orderId =>
      (getOrder desk.orders orderId).any fun order => decide (order.status ∈ protecting)

/-- An open live position whose stop stands, with the report of the stop accounted. -/
structure Guarded (desk : ExitDesk) : Prop where
  live : desk.trade.mode = .live
  filled : 0 < desk.trade.filledQuantity
  isOpen : desk.trade.state ≠ .closed
  unasked : desk.trade.protectiveStopCancelForExit = false
  stands : ∃ orderId order, desk.trade.protectiveStopOrderId = some orderId ∧
    getOrder desk.orders orderId = some order ∧ order.status ∈ protecting ∧
      ¬Unreported (stopRecord desk.trade) order

/-- The sales of a position are the same. -/
structure SameSales (before after : ExitDesk) : Prop where
  orders : after.orders = before.orders
  partialExit : after.trade.partialExitOrderId = before.trade.partialExitOrderId
  finalExit : after.trade.exitOrderId = before.trade.exitOrderId

theorem exists_of_stopStands {desk : ExitDesk} (stands : stopStands desk = true) :
    desk.trade.protectiveStopCancelForExit = false ∧
      ∃ orderId order, desk.trade.protectiveStopOrderId = some orderId ∧
        getOrder desk.orders orderId = some order ∧ order.status ∈ protecting := by
  unfold stopStands at stands
  rw [Bool.and_eq_true, Bool.not_eq_true'] at stands
  obtain ⟨unasked, stop⟩ := stands
  obtain ⟨orderId, isStop, reported⟩ := (Option.any_eq_true _ _).mp stop
  obtain ⟨order, known, status⟩ := (Option.any_eq_true _ _).mp reported
  exact ⟨unasked, orderId, order, isStop, known, of_decide_eq_true status⟩

theorem Guarded.stopStands {desk : ExitDesk} (guarded : Guarded desk) :
    stopStands desk = true := by
  obtain ⟨orderId, order, isStop, known, status, -⟩ := guarded.stands
  unfold LiveExit.stopStands
  rw [guarded.unasked, isStop, Option.any_some, known, Option.any_some, decide_eq_true status]
  rfl

theorem protecting_active : ∀ status ∈ protecting,
    status ≠ .filled ∧ status ∉ StrategyService.terminalStates := by
  decide

section Stages

variable (input : ExitInput) {desk : ExitDesk}

theorem reconcileProtectiveStop_of_standing {protective : SellOrder}
    (status : protective.status ∈ protecting)
    (unasked : desk.trade.protectiveStopCancelForExit = false) :
    reconcileProtectiveStop desk input protective =
      if (applyProtectiveProgress desk.trade protective).quantity ≤
          (applyProtectiveProgress desk.trade protective).exitFilledQuantity then
        (closeTrade { desk with trade := applyProtectiveProgress desk.trade protective } input
          (if 0 < (applyProtectiveProgress desk.trade protective).quantity then
            (applyProtectiveProgress desk.trade protective).exitProceeds /
              (applyProtectiveProgress desk.trade protective).quantity
          else protective.averagePrice) (some optionEmergencyStop), false)
      else
        ({ desk with
            trade := { applyProtectiveProgress desk.trade protective with
              protectiveStopFailures := 0 } }, true) := by
  obtain ⟨unfilled, standing⟩ := protecting_active _ status
  have notTerminal : ¬protective.terminal = true := by
    unfold SellOrder.terminal
    rw [decide_eq_false standing]
    decide
  have keeps : (applyProtectiveProgress desk.trade protective).protectiveStopCancelForExit =
      false := (applyProtectiveProgress_keeps desk.trade protective).1.trans unasked
  unfold reconcileProtectiveStop
  simp only [unfilled, false_or, notTerminal, status, decide_true, if_true, keeps,
    Bool.not_false, Bool.and_self]
  rfl

/-- Reconciling a stop that stands closes the position, or leaves nothing open, or goes on with the
position guarded. -/
theorem guarded_syncLiveProtectiveStop (live : desk.trade.mode = .live)
    (filled : 0 < desk.trade.filledQuantity) (isOpen : desk.trade.state ≠ .closed)
    (stands : stopStands desk = true) :
    (syncLiveProtectiveStop desk input).1.trade.state = .closed ∨
      (syncLiveProtectiveStop desk input).2 = false ∧
        openQuantity (syncLiveProtectiveStop desk input).1.trade ≤ 0 ∨
      (syncLiveProtectiveStop desk input).2 = true ∧
        Guarded (syncLiveProtectiveStop desk input).1 ∧
        SameSales desk (syncLiveProtectiveStop desk input).1 := by
  have inFull : ¬(desk.trade.mode ≠ .live ∨ desk.trade.filledQuantity ≤ 0) :=
    not_or.mpr ⟨not_not.mpr live, not_le.mpr filled⟩
  obtain ⟨unasked, orderId, order, isStop, known, status⟩ := exists_of_stopStands stands
  obtain ⟨keptUnasked, keptStop, keptPartial, keptExit, keptState⟩ :=
    applyProtectiveProgress_keeps desk.trade order
  have same := (carries_applyProtectiveProgress desk.trade order).toSameTrade
  unfold syncLiveProtectiveStop
  rw [if_neg inFull, if_neg isOpen]
  split
  · rename_i sold
    split
    · exact .inl rfl
    · exact .inr (.inl ⟨rfl, sold⟩)
  rw [isStop]
  dsimp only
  rw [known]
  dsimp only
  rw [reconcileProtectiveStop_of_standing input status unasked]
  split
  · exact .inl rfl
  · refine .inr (.inr ⟨rfl, ⟨same.mode.trans live, same.filledQuantity.symm ▸ filled,
      keptState ▸ isOpen, keptUnasked.trans unasked, orderId, order, keptStop.trans isStop, known,
      status, reported_applyProtectiveProgress desk.trade order⟩, rfl, keptPartial, keptExit⟩)

theorem settleT1_keeps (trade : ManagedTrade) (order : SellOrder) (now : Int) :
    stopRecord (settleT1 trade order now) = stopRecord trade ∧
      (settleT1 trade order now).state = trade.state ∧
      (settleT1 trade order now).exitOrderId = trade.exitOrderId := by
  unfold settleT1 applyLiveT1OrderProgress
  dsimp only
  split
  · exact ⟨rfl, rfl, rfl⟩
  split
  · exact ⟨rfl, rfl, rfl⟩
  · exact ⟨rfl, rfl, rfl⟩

theorem applyExitOrderProgress_keeps (trade : ManagedTrade) (order : SellOrder) :
    stopRecord (applyExitOrderProgress trade order) = stopRecord trade ∧
      (applyExitOrderProgress trade order).state = trade.state := by
  unfold applyExitOrderProgress
  dsimp only
  split
  · exact ⟨rfl, rfl⟩
  split
  · exact ⟨rfl, rfl⟩
  · exact ⟨rfl, rfl⟩

theorem Guarded.of_record {after : ExitDesk} (guarded : Guarded desk)
    (same : SameTrade desk.trade after.trade) (orders : after.orders = desk.orders)
    (record : stopRecord after.trade = stopRecord desk.trade)
    (isOpen : after.trade.state ≠ .closed) : Guarded after := by
  obtain ⟨orderId, order, isStop, known, status, reported⟩ := guarded.stands
  have sameStop : after.trade.protectiveStopOrderId = desk.trade.protectiveStopOrderId :=
    congrArg StopRecord.orderId record
  have sameAsked : after.trade.protectiveStopCancelForExit =
      desk.trade.protectiveStopCancelForExit := congrArg StopRecord.cancelForExit record
  exact ⟨same.mode.trans guarded.live, same.filledQuantity.symm ▸ guarded.filled,
    isOpen, sameAsked.trans guarded.unasked, orderId, order,
    sameStop.trans isStop, orders.symm ▸ known, status, record.symm ▸ reported⟩

theorem guarded_syncLiveT1PartialExit (guarded : Guarded desk)
    (isOver : orderOver desk desk.trade.partialExitOrderId = true) :
    (syncLiveT1PartialExit desk input).1.trade.state = .closed ∨
      (syncLiveT1PartialExit desk input).2 = false ∧
        openQuantity (syncLiveT1PartialExit desk input).1.trade ≤ 0 ∨
      (syncLiveT1PartialExit desk input).2 = true ∧
        Guarded (syncLiveT1PartialExit desk input).1 ∧
        (syncLiveT1PartialExit desk input).1.orders = desk.orders ∧
        (syncLiveT1PartialExit desk input).1.trade.exitOrderId = desk.trade.exitOrderId := by
  cases waits : desk.trade.partialExitOrderId with
  | none =>
    unfold syncLiveT1PartialExit
    rw [waits]
    exact .inr (.inr ⟨rfl, guarded, rfl, rfl⟩)
  | some orderId =>
    rw [waits] at isOver
    obtain ⟨order, known, ended⟩ := exists_of_over isOver
    obtain ⟨record, state, finalExit⟩ := settleT1_keeps desk.trade order input.now
    have settled : Guarded { desk with trade := settleT1 desk.trade order input.now } :=
      guarded.of_record (carries_settleT1 desk.trade order input.now).toSameTrade rfl record
        (state ▸ guarded.isOpen)
    have unfinished : ¬order.terminal = false := by
      rw [ended]
      decide
    rw [syncLiveT1PartialExit_of_order input waits known, if_neg unfinished]
    split
    · rcases guarded_syncLiveProtectiveStop input settled.live settled.filled settled.isOpen
        settled.stopStands with closed | stays | ⟨ready, guards, sales⟩
      · exact .inl closed
      · exact .inr (.inl stays)
      · exact .inr (.inr ⟨ready, guards, sales.orders, sales.finalExit.trans finalExit⟩)
    · exact .inr (.inr ⟨rfl, settled, rfl, finalExit⟩)

theorem syncExitOrder_forgets (isOver : orderOver desk desk.trade.exitOrderId = true) :
    (syncExitOrder desk input).2 = false ∧ (syncExitOrder desk input).1.trade.state = .closed ∨
      (syncExitOrder desk input).2 = true ∧ (syncExitOrder desk input).1.trade.exitOrderId = none ∧
        (syncExitOrder desk input).1.orders = desk.orders ∧
        stopRecord (syncExitOrder desk input).1.trade = stopRecord desk.trade ∧
        (syncExitOrder desk input).1.trade.state = desk.trade.state := by
  cases waits : desk.trade.exitOrderId with
  | none =>
    unfold syncExitOrder
    rw [waits]
    exact .inr ⟨rfl, waits, rfl, rfl, rfl⟩
  | some orderId =>
    rw [waits] at isOver
    obtain ⟨order, known, ended⟩ := exists_of_over isOver
    obtain ⟨record, state⟩ := applyExitOrderProgress_keeps desk.trade order
    rw [syncExitOrder_of_order input waits known, if_pos ended]
    split
    · exact .inl ⟨rfl, rfl⟩
    · exact .inr ⟨rfl, rfl, rfl, record, state⟩

/-- A position that waits for its strategy: it is open, no exit of it is sent, and a live one is
guarded. -/
structure Awaits (desk : ExitDesk) : Prop where
  isOpen : desk.trade.state ≠ .closed
  unsent : desk.trade.exitOrderId = none
  guarded : desk.trade.mode = .live → Guarded desk

/-- Where no T1 order and no exit order of an open position stands, and its stop does if it is live,
reconciling closes the position, or leaves nothing open, or the strategy decides. -/
theorem reconcile_awaits (isOpen : desk.trade.state ≠ .closed)
    (protectedLive : desk.trade.mode = .live →
      0 < desk.trade.filledQuantity ∧ stopStands desk = true)
    (partialOver : orderOver desk desk.trade.partialExitOrderId = true)
    (exitOver : orderOver desk desk.trade.exitOrderId = true) :
    (reconcile desk input).2 = false ∧ Ended (reconcile desk input).1.trade ∨
      (reconcile desk input).2 = true ∧ Awaits (reconcile desk input).1 := by
  rw [reconcile_eq]
  by_cases live : desk.trade.mode = .live
  · obtain ⟨filled, stands⟩ := protectedLive live
    have first : reconcileStop desk input = syncLiveProtectiveStop desk input :=
      if_pos ⟨live, filled⟩
    rw [first]
    rcases guarded_syncLiveProtectiveStop input live filled isOpen stands with
      closed | ⟨stays, nothing⟩ | ⟨ready, guarded, sales⟩
    · rw [if_pos (.inl closed)]
      exact .inl ⟨rfl, .inl closed⟩
    · rw [if_pos (.inr stays)]
      exact .inl ⟨rfl, .inr nothing⟩
    rw [if_neg (not_or.mpr ⟨guarded.isOpen, Bool.eq_false_iff.not_left.mpr ready⟩)]
    have stopOver := over_congr sales.orders sales.partialExit partialOver
    generalize (syncLiveProtectiveStop desk input).1 = protected' at guarded sales stopOver ⊢
    have second : reconcilePartial protected' input = syncLiveT1PartialExit protected' input :=
      if_pos guarded.live
    rw [second]
    rcases guarded_syncLiveT1PartialExit input guarded stopOver with
      closed | ⟨stays, nothing⟩ | ⟨ready, guards, orders, finalExit⟩
    · rw [if_pos (.inl closed)]
      exact .inl ⟨rfl, .inl closed⟩
    · rw [if_pos (.inr stays)]
      exact .inl ⟨rfl, .inr nothing⟩
    rw [if_neg (not_or.mpr ⟨guards.isOpen, Bool.eq_false_iff.not_left.mpr ready⟩)]
    have finalOver := over_congr (orders.trans sales.orders) (finalExit.trans sales.finalExit)
      exitOver
    have same := (continues_syncExitOrder (syncLiveT1PartialExit protected' input).1 input).trade
    rcases syncExitOrder_forgets input finalOver with
      ⟨ends, closed⟩ | ⟨goesOn, unsent, sameOrders, record, state⟩
    · exact .inl ⟨ends, .inl closed⟩
    · have guardsStill := guards.of_record same.toSameTrade sameOrders record
        (state ▸ guards.isOpen)
      exact .inr ⟨goesOn, guardsStill.isOpen, unsent, fun _ => guardsStill⟩
  · have first : reconcileStop desk input = (desk, true) := if_neg fun both => live both.1
    have second : reconcilePartial desk input = (desk, true) := if_neg live
    have opens : ¬(desk.trade.state = .closed ∨ true = false) := not_or.mpr ⟨isOpen, nofun⟩
    rw [first, if_neg opens, second, if_neg opens]
    have same := (continues_syncExitOrder desk input).trade
    rcases syncExitOrder_forgets input exitOver with
      ⟨ends, closed⟩ | ⟨goesOn, unsent, -, -, state⟩
    · exact .inl ⟨ends, .inl closed⟩
    · exact .inr ⟨goesOn, state ▸ isOpen, unsent, fun isLive => absurd (same.mode.symm.trans isLive) live⟩

theorem cancel_of_guarded (guarded : Guarded desk) (isOpen : 0 < openQuantity desk.trade) :
    (cancelLiveProtectiveStopForExit desk input).1.trade.pendingExitReason =
        desk.trade.pendingExitReason ∧
      (cancelLiveProtectiveStopForExit desk input).1.trade.state = desk.trade.state ∧
      (cancelLiveProtectiveStopForExit desk input).1.trade.exitOrderId = desk.trade.exitOrderId := by
  obtain ⟨orderId, order, isStop, known, status, reported⟩ := guarded.stands
  have inFull : ¬(desk.trade.mode ≠ .live ∨ desk.trade.filledQuantity ≤ 0) :=
    not_or.mpr ⟨not_not.mpr guarded.live, not_le.mpr guarded.filled⟩
  have unsold : ¬desk.trade.quantity ≤ desk.trade.exitFilledQuantity := by
    unfold openQuantity at isOpen
    omega
  have synced : syncLiveProtectiveStop desk input =
      ({ desk with trade := { desk.trade with protectiveStopFailures := 0 } }, true) := by
    unfold syncLiveProtectiveStop
    rw [if_neg inFull, if_neg guarded.isOpen, if_neg (not_le.mpr isOpen), isStop]
    dsimp only
    rw [known]
    dsimp only
    rw [reconcileProtectiveStop_of_standing input status guarded.unasked,
      applyProtectiveProgress_of_reported reported, if_neg unsold]
  have unasked : ¬desk.trade.protectiveStopCancelForExit = true :=
    Bool.eq_false_iff.mp guarded.unasked
  have standing : ¬(desk.trade.mode ≠ .live ∨ desk.trade.protectiveStopOrderId = none) := by
    rw [isStop]
    exact not_or.mpr ⟨not_not.mpr guarded.live, nofun⟩
  unfold cancelLiveProtectiveStopForExit
  rw [if_neg standing, synced]
  dsimp only
  rw [if_neg guarded.isOpen, isStop]
  dsimp only
  rw [if_neg unasked]
  unfold cancelStanding
  rw [known]
  dsimp only
  split
  · exact ⟨rfl, rfl, rfl⟩
  split
  · exact ⟨rfl, rfl, rfl⟩
  · unfold requestCancel
    dsimp only
    split
    · exact ⟨rfl, rfl, rfl⟩
    · exact ⟨rfl, rfl, rfl⟩

end Stages

/-! ### Settled trades -/

/-- A trade is closed, or its exit order is sent, or its exit is at least decided. -/
def Settled (trade : ManagedTrade) : Prop :=
  trade.state = .closed ∨ trade.exitOrderId.isSome = true ∨ trade.pendingExitReason.isSome = true

instance (trade : ManagedTrade) : Decidable (Settled trade) :=
  inferInstanceAs (Decidable (_ ∨ _ ∨ _))

theorem settled_iff {trade : ManagedTrade} (isOpen : trade.state ≠ .closed)
    (unsent : trade.exitOrderId = none) :
    Settled trade ↔ trade.pendingExitReason.isSome = true := by
  unfold Settled
  rw [unsent]
  simp [isOpen]

theorem Tracked.settled_iff {before after : ManagedTrade} (tracked : Tracked before after)
    (isOpen : before.state ≠ .closed) (unsent : before.exitOrderId = none) :
    Settled after ↔ before.pendingExitReason.isSome = true := by
  rw [LiveExit.settled_iff (tracked.stays isOpen) (tracked.exitOrderId.trans unsent),
    tracked.reason]

theorem Carries.pending {before after : ManagedTrade} (carries : Carries before after)
    (pending : before.pendingExitReason.isSome = true) :
    after.pendingExitReason.isSome = true := by
  rcases carries.reason with same | unavailable
  · rw [same]
    exact pending
  · rw [unavailable]
    rfl

section Settling

variable {desk : ExitDesk} {input : ExitInput}

variable (reason : String)

section

variable (pending : desk.trade.pendingExitReason.isSome = true)

include pending

theorem pending_submitLiveFinalExit :
    (submitLiveFinalExit desk input reason).trade.pendingExitReason.isSome = true := by
  have cancelled := (continues_cancelLiveProtectiveStopForExit desk input).trade.pending pending
  unfold submitLiveFinalExit
  split
  · exact pending
  split
  · rfl
  dsimp only
  split
  · rfl
  split
  · exact cancelled
  · rfl

theorem settled_closeAtBid : Settled (closeAtBid desk input reason).trade := by
  unfold closeAtBid
  split
  · exact .inr (.inr pending)
  · exact .inl rfl

theorem settled_carryOutExitE : Settled (carryOutExitE desk input reason).trade := by
  unfold carryOutExitE
  split
  · exact .inr (.inr pending)
  split
  · exact .inr (.inr (pending_submitLiveFinalExit reason pending))
  · exact settled_closeAtBid reason pending

end

theorem settled_submitStrategyBExit (bid : 0 < input.quote.bid) :
    Settled (submitStrategyBExit desk input reason).trade := by
  unfold submitStrategyBExit
  split
  · exact .inr (.inr rfl)
  dsimp only
  split
  · exact .inr (.inr rfl)
  split
  · rename_i noBid
    exact absurd bid (not_lt.mpr noBid)
  · exact .inr (.inr rfl)

theorem executePartialExit_keeps (trade : ManagedTrade) (input : ExitInput) :
    (executePartialExit trade input).state = trade.state ∧
      (executePartialExit trade input).exitOrderId = trade.exitOrderId ∧
      (executePartialExit trade input).pendingExitReason = trade.pendingExitReason := by
  unfold executePartialExit
  dsimp only
  split
  · exact ⟨rfl, rfl, rfl⟩
  split
  · exact ⟨rfl, rfl, rfl⟩
  · unfold PositionManager.applyT1PartialFill
    dsimp only
    split_ifs
    · exact ⟨rfl, rfl, rfl⟩
    · exact ⟨rfl, rfl, rfl⟩
    · exact ⟨rfl, rfl, rfl⟩

theorem submitLiveT1PartialExit_keeps (input : ExitInput) (guarded : Guarded desk)
    (isOpen : 0 < openQuantity desk.trade) :
    (submitLiveT1PartialExit desk input).trade.state = desk.trade.state ∧
      (submitLiveT1PartialExit desk input).trade.exitOrderId = desk.trade.exitOrderId ∧
      (submitLiveT1PartialExit desk input).trade.pendingExitReason =
        desk.trade.pendingExitReason := by
  obtain ⟨reason, state, exitOrderId⟩ := cancel_of_guarded input guarded isOpen
  unfold submitLiveT1PartialExit
  split
  · exact ⟨rfl, rfl, rfl⟩
  dsimp only
  split
  · exact ⟨rfl, rfl, rfl⟩
  split
  · exact ⟨state, exitOrderId, reason⟩
  · exact ⟨state, exitOrderId, reason⟩

end Settling

/-! ### The strategies -/

section Strategies

variable {desk : ExitDesk} {input : ExitInput}

/-- The reasons Strategy A ends a late trade for. -/
def lateReasons : List String := ["INVALID_INITIAL_UNDERLYING_R", "SESSION_FORCE_SQUARE_OFF_1515"]

theorem lateReasons_sent : ∀ reason ∈ lateReasons, isOptionEmergencyStop (some reason) = false ∧
    reason ≠ "T1_PARTIAL_EXIT" ∧ reason ≠ "T1_REACHED_NO_PARTIAL_ONE_LOT" := by
  decide +kernel

theorem settled_evaluateStrategyA (strategy : desk.trade.strategy = .trendPullback)
    (late : PositionManager.isStrategyAForceExitTime input.manager input.features.timestamp =
      true) : Settled (evaluateStrategyA desk input).trade := by
  unfold evaluateStrategyA
  split
  · rename_i reason pending
    have isPending : desk.trade.pendingExitReason.isSome = true := by
      rw [pending]
      rfl
    unfold carryOutExitA
    split
    · exact .inr (.inr isPending)
    split
    · exact .inr (.inr (pending_submitLiveFinalExit reason isPending))
    · exact settled_closeAtBid reason isPending
  · obtain ⟨reason, isReason, event⟩ :
        ∃ reason ∈ lateReasons, (managerUpdate desk.trade input).2 = some reason := by
      unfold managerUpdate PositionManager.updatePosition
      rw [if_pos strategy]
      exact PositionManager.updateStrategyAPosition_of_late input.manager desk.trade _ _ late
    obtain ⟨sent, notPartial, notOneLot⟩ := lateReasons_sent reason isReason
    rw [event]
    unfold settleUpdateA
    dsimp only
    rw [if_neg (Bool.eq_false_iff.mp sent), if_neg notPartial, if_neg notOneLot]
    unfold decideExitA
    dsimp only
    split
    · exact .inr (.inr rfl)
    split
    · exact .inr (.inr (pending_submitLiveFinalExit reason rfl))
    · exact settled_closeAtBid reason rfl

theorem settled_evaluateStrategyB_iff (awaits : Awaits desk)
    (strategy : desk.trade.strategy = .volatilityBreakout)
    (late : PositionManager.isForceExitTime input.manager input.now
      (some input.features.timestamp) = true)
    (valid : input.quote.status = "VALID") (bid : 0 < input.quote.bid) :
    Settled (evaluateStrategyB desk input).trade ↔
      desk.trade.pendingExitReason.isSome = true ∨ 0 < optionPrice input.quote := by
  unfold evaluateStrategyB
  split
  · rename_i unpriced
    have noPrice : ¬0 < optionPrice input.quote :=
      not_lt.mpr (unpriced.resolve_left (not_not.mpr valid))
    rw [settled_iff awaits.isOpen awaits.unsent]
    exact (or_iff_left noPrice).symm
  · rename_i priced
    have price : 0 < optionPrice input.quote := not_le.mp (not_or.mp priced).2
    have notA : desk.trade.strategy ≠ .trendPullback := by
      rw [strategy]
      decide
    obtain ⟨reason, event, ends⟩ := PositionManager.updatePosition_of_late input.manager desk.trade
      input.features notA
      (if 0 < optionPrice input.quote then some (roundTo 2 (optionPrice input.quote)) else none) late
    have decided : (managerUpdate desk.trade input).2 = some reason := event
    refine iff_of_true ?_ (.inr price)
    rw [decided, if_neg (fun same => ends.ne_target.1 (Option.some.inj same)),
      if_neg (fun same => ends.ne_target.2 (Option.some.inj same))]
    split
    · rename_i undecided
      cases pending : (managerUpdate desk.trade input).1.pendingExitReason with
      | none | some =>
        rw [pending] at undecided
        cases undecided
    split
    · exact settled_submitStrategyBExit _ bid
    · exact .inl rfl

/-- What the row of Strategies C and D says ends the trade: its premium fell to the hard stop, or
the lifecycle has the reason of an exit and no first target is due. -/
def RowEnds (trade : ManagedTrade) (quote : ExitQuote) (row : LifecycleRow) : Prop :=
  optionStopHit trade quote = true ∨
    row.underlyingExitReason.isSome = true ∧ partialDue (scaleOut trade row) = false

theorem settled_decideCandidateExit (row : LifecycleRow) (reason : String) :
    Settled (decideCandidateExit desk input row reason).trade := by
  obtain ⟨decided, isDecided, same⟩ := decideCandidateExit_form desk input row reason
  have pending : decided.trade.pendingExitReason.isSome = true := by
    rw [isDecided.pending]
    rfl
  rw [same]
  split
  · exact .inr (.inr pending)
  split
  · split
    · exact .inr (.inr pending)
    · exact .inr (.inr (pending_submitLiveFinalExit reason pending))
  · exact settled_closeAtBid reason pending

theorem stopRecord_scaleOut (trade : ManagedTrade) (row : LifecycleRow) :
    stopRecord (scaleOut (trackRow trade input row) row) = stopRecord trade := by
  obtain ⟨scaled, whole, same, ofScaled, ofWhole⟩ : ∃ scaled whole,
      scaleOut (trackRow trade input row) row =
        (if ScalesOut (trackRow trade input row) row then
          if 0 < scaledLots (trackRow trade input row) then scaled else whole
        else trackRow trade input row) ∧
      stopRecord scaled = stopRecord trade ∧ stopRecord whole = stopRecord trade :=
    ⟨_, _, rfl, rfl, rfl⟩
  rw [same]
  split
  · split
    · exact ofScaled
    · exact ofWhole
  · rfl

theorem candidatePartialExit_keeps (desk : ExitDesk) (input : ExitInput) (valid : input.quote.valid = true)
    (guarded : desk.trade.mode = .live → Guarded desk) (isOpen : 0 < openQuantity desk.trade)
    (unclosed : desk.trade.state ≠ .closed) :
    (candidatePartialExit desk input).trade.state ≠ .closed ∧
      (candidatePartialExit desk input).trade.exitOrderId = desk.trade.exitOrderId ∧
      (candidatePartialExit desk input).trade.pendingExitReason =
        desk.trade.pendingExitReason := by
  unfold candidatePartialExit
  rw [if_neg (Bool.eq_false_iff.not_left.mpr valid)]
  split
  · rename_i live
    obtain ⟨state, exitOrderId, reason⟩ :=
      submitLiveT1PartialExit_keeps input (guarded live) isOpen
    exact ⟨state ▸ unclosed, exitOrderId, reason⟩
  · obtain ⟨state, exitOrderId, reason⟩ :=
      executePartialExit_keeps { desk.trade with state := .runnerMode } input
    exact ⟨state ▸ nofun, exitOrderId, reason⟩

theorem settled_settleRow_iff (awaits : Awaits desk) (isOpen : 0 < openQuantity desk.trade)
    (valid : input.quote.valid = true) (row : LifecycleRow) :
    Settled (settleRow desk input row).trade ↔
      desk.trade.pendingExitReason.isSome = true ∨ RowEnds desk.trade input.quote row := by
  have followed : Tracked desk.trade (scaleOut (trackRow desk.trade input row) row) :=
    (tracked_trackRow desk.trade input row).trans (tracked_scaleOut _ row)
  have stopHit : optionStopHit (trackRow desk.trade input row) input.quote =
      optionStopHit desk.trade input.quote := rfl
  unfold settleRow RowEnds
  dsimp only
  rw [stopHit, partialDue_scaleOut_trackRow]
  split
  · rename_i hit
    exact iff_of_true (.inl rfl) (.inr (.inl hit))
  rename_i spared
  split
  · rename_i due
    have guarded (live : (scaleOut (trackRow desk.trade input row) row).mode = .live) :
        Guarded { desk with trade := scaleOut (trackRow desk.trade input row) row } := by
      have before := awaits.guarded (followed.sameTrade.mode.symm.trans live)
      exact before.of_record followed.sameTrade rfl (stopRecord_scaleOut desk.trade row)
        (followed.stays before.isOpen)
    obtain ⟨unclosed, exitOrderId, reason⟩ := candidatePartialExit_keeps
      { desk with trade := scaleOut (trackRow desk.trade input row) row } input valid guarded
      (followed.openQuantity ▸ isOpen) (followed.stays awaits.isOpen)
    rw [settled_iff unclosed (exitOrderId.trans (followed.exitOrderId.trans awaits.unsent)), reason]
    rw [followed.reason, due]
    simp [spared]
  rename_i notDue
  cases pending : desk.trade.pendingExitReason with
  | some reason => exact iff_of_true (settled_decideCandidateExit row reason) (.inl rfl)
  | none =>
    cases ends : row.underlyingExitReason with
    | some reason =>
      exact iff_of_true (settled_decideCandidateExit row reason)
        (.inr (.inr ⟨rfl, Bool.eq_false_iff.mpr notDue⟩))
    | none =>
      have settled := followed.settled_iff awaits.isOpen awaits.unsent
      rw [pending] at settled
      refine settled.trans (iff_of_false (by decide) ?_)
      rintro (waits | hit | ⟨carries, -⟩)
      · cases waits
      · exact spared hit
      · cases carries

/-! ### Strategy E -/

/-- The premium of a simulated position of Strategy E fell to its hard stop. -/
def premiumFell (trade : ManagedTrade) (quote : ExitQuote) : Prop :=
  trade.mode ≠ .live ∧ quote.valid = true ∧ optionPrice quote ≠ 0 ∧
    optionPrice quote ≤ trade.optionHardStopPrice

/-- What Strategy E sees of its underlying ends the trade: it touches the stop or the target, or it
is from the forced exit time on, or the premium fell. -/
def ViewEnds (trade : ManagedTrade) (input : EvaluationInput) (view : UnderlyingView) : Prop :=
  viewStopped trade.direction view (entryLevels trade).stop = true ∨
    viewReached trade.direction view (entryLevels trade).target = true ∨
    input.strategyEForcedExitTime ≤ PositionManager.minutesOfDay view.time ∨
    premiumFell trade input.quote

/-- The price of the underlying is usable, and so are the levels of the trade. -/
def ViewUsable (trade : ManagedTrade) (view : UnderlyingView) : Prop :=
  0 < view.price ∧ (entryLevels trade).positive = true

theorem lifecycleExit_isSome_iff (direction : TradeDirection) (levels : EntryLevels)
    (view : UnderlyingView) (forcedExitTime : Int) :
    (lifecycleExit direction levels view forcedExitTime).isSome = true ↔
      viewStopped direction view levels.stop = true ∨
        viewReached direction view levels.target = true ∨
        forcedExitTime ≤ PositionManager.minutesOfDay view.time := by
  unfold lifecycleExit
  by_cases stopped : viewStopped direction view levels.stop = true
  · rw [if_pos stopped]
    exact iff_of_true rfl (.inl stopped)
  rw [if_neg stopped]
  by_cases reached : viewReached direction view levels.target = true
  · rw [if_pos reached]
    exact iff_of_true rfl (.inr (.inl reached))
  rw [if_neg reached]
  by_cases late : forcedExitTime ≤ PositionManager.minutesOfDay view.time
  · rw [if_pos late]
    exact iff_of_true rfl (.inr (.inr late))
  · rw [if_neg late]
    exact iff_of_false (by decide) (not_or.mpr ⟨stopped, not_or.mpr ⟨reached, late⟩⟩)

theorem exitOfView_isSome_iff (trade : ManagedTrade) (input : EvaluationInput)
    (view : UnderlyingView) :
    (exitOfView trade input view).isSome = true ↔ ViewEnds trade input view := by
  have lifecycle := lifecycleExit_isSome_iff trade.direction (entryLevels trade) view
    input.strategyEForcedExitTime
  unfold exitOfView ViewEnds
  rw [← or_assoc, ← or_assoc, or_assoc (a := viewStopped _ _ _ = true), ← lifecycle]
  cases lifecycleExit trade.direction (entryLevels trade) view input.strategyEForcedExitTime with
  | some exit => exact iff_of_true rfl (.inl rfl)
  | none =>
    split
    · rename_i fell
      exact iff_of_true rfl (.inr fell)
    · rename_i holds
      exact iff_of_false (by decide) (not_or.mpr ⟨by decide, holds⟩)

theorem settled_evaluateStrategyE_iff {input : EvaluationInput} (awaits : Awaits desk) :
    Settled (evaluateStrategyE desk input).trade ↔
      desk.trade.pendingExitReason.isSome = true ∨
        ∃ view ∈ underlyingView desk.trade input,
          ViewUsable desk.trade view ∧ ViewEnds desk.trade input view := by
  have quoted : Tracked desk.trade (trackQuoteE desk.trade input.quote) := by
    unfold trackQuoteE
    split
    · exact ⟨rfl, id⟩
    · exact .refl desk.trade
  have kept := quoted.settled_iff awaits.isOpen awaits.unsent
  unfold evaluateStrategyE
  cases pending : desk.trade.pendingExitReason with
  | some reason =>
    have isPending : (trackQuoteE desk.trade input.quote).pendingExitReason.isSome = true := by
      rw [quoted.reason, pending]
      rfl
    exact iff_of_true (settled_carryOutExitE reason isPending) (.inl rfl)
  | none =>
    rw [pending] at kept
    cases seen : underlyingView desk.trade input with
    | none => exact kept.trans (iff_of_false (by decide) (by simp))
    | some view =>
      have usable : (∃ found ∈ some view, ViewUsable desk.trade found ∧
          ViewEnds desk.trade input found) ↔
          ViewUsable desk.trade view ∧ ViewEnds desk.trade input view := by simp
      rw [usable, Option.filter_some]
      by_cases price : 0 < view.price
      · rw [if_pos (decide_eq_true price)]
        dsimp only
        split
        · rename_i invalid
          refine kept.trans (iff_of_false (by decide) ?_)
          rintro (waits | ⟨⟨-, positive⟩, -⟩)
          · cases waits
          · exact absurd positive (Bool.eq_false_iff.mp invalid)
        rename_i valid
        have viewed : Tracked desk.trade
            (trackViewE (trackQuoteE desk.trade input.quote) (entryLevels desk.trade) view) :=
          quoted.trans ⟨rfl, id⟩
        have ends := exitOfView_isSome_iff desk.trade input view
        cases exits : exitOfView desk.trade input view with
        | none =>
          rw [exits] at ends
          have spared := viewed.settled_iff awaits.isOpen awaits.unsent
          rw [pending] at spared
          refine spared.trans (iff_of_false (by decide) ?_)
          rintro (waits | ⟨-, isEnd⟩)
          · cases waits
          · cases ends.mpr isEnd
        | some exit =>
          rw [exits] at ends
          refine iff_of_true ?_ (.inr ⟨⟨price, Bool.not_eq_false _ ▸ valid⟩, ends.mp rfl⟩)
          exact settled_carryOutExitE exit.1 rfl
      · rw [if_neg (by simpa using price)]
        refine kept.trans (iff_of_false (by decide) ?_)
        rintro (waits | ⟨⟨positive, -⟩, -⟩)
        · cases waits
        · exact price positive

end Strategies

/-! ### The end of the session -/

/-- The minute from which the trades of a strategy are to be ended. The lifecycles of Strategies C
and D end at minutes of their own. -/
def forcedExitTime (input : EvaluationInput) : StrategyName → Int
  | .trendPullback => input.manager.strategyAForcedExitTime
  | .volatilityBreakout => input.manager.forceExitTime
  | .diContinuation => 915
  | .srMomentumBreakout => 920
  | .pivotVwapScalp => input.strategyEForcedExitTime

/-- An open position at its forced exit time: its orders stand no more, its stop does if it is live,
something of it is open unless its orders close it, and its option has a valid quote with a bid above
the slippage. -/
structure AtSessionEnd (desk : ExitDesk) (input : EvaluationInput) : Prop where
  isOpen : desk.trade.state ≠ .closed
  late : forcedExitTime input desk.trade.strategy ≤ PositionManager.minutesOfDay input.now
  timestamp : input.features.timestamp = input.now
  valid : input.quote.status = "VALID"
  bid : input.costs.slippagePoints < input.quote.bid
  protectedLive : desk.trade.mode = .live →
    0 < desk.trade.filledQuantity ∧ stopStands desk = true
  partialExit : orderOver desk desk.trade.partialExitOrderId = true
  finalExit : orderOver desk desk.trade.exitOrderId = true
  remains : (reconciled desk input).1.trade.state = .closed ∨
    0 < openQuantity (reconciled desk input).1.trade

/-- What ends a trade at its forced exit time once its orders are reconciled: an exit that was decided
before, or its strategy. Strategy A always does, Strategy B with a price of the option, and the
others by what they follow. -/
def EndsBy (trade : ManagedTrade) (input : EvaluationInput) : Prop :=
  trade.pendingExitReason.isSome = true ∨
    match trade.strategy with
    | .trendPullback => True
    | .volatilityBreakout => 0 < optionPrice input.quote
    | .diContinuation | .srMomentumBreakout =>
        ∃ row ∈ candidateRuntime trade input, RowEnds trade input.quote row
    | .pivotVwapScalp =>
        ∃ view ∈ underlyingView trade input, ViewUsable trade view ∧ ViewEnds trade input view

theorem settled_evaluateCandidate_iff {desk : ExitDesk} {input : EvaluationInput}
    (awaits : Awaits desk) (isOpen : 0 < openQuantity desk.trade)
    (valid : input.quote.valid = true) :
    Settled (evaluateCandidate desk input).trade ↔
      desk.trade.pendingExitReason.isSome = true ∨
        ∃ row ∈ candidateRuntime desk.trade input, RowEnds desk.trade input.quote row := by
  unfold evaluateCandidate
  cases candidateRuntime desk.trade input with
  | none =>
    refine (settled_iff awaits.isOpen awaits.unsent).trans (or_iff_left ?_).symm
    simp
  | some row =>
    refine (settled_settleRow_iff awaits isOpen valid row).trans (or_congr_right ?_)
    simp

theorem evaluateByStrategy_settled_iff {desk : ExitDesk} {input : EvaluationInput}
    (awaits : Awaits desk) (isOpen : 0 < openQuantity desk.trade)
    (late : forcedExitTime input desk.trade.strategy ≤
      PositionManager.minutesOfDay input.features.timestamp)
    (status : input.quote.status = "VALID") (bid : 0 < input.quote.bid) :
    Settled (evaluateByStrategy desk input).trade ↔ EndsBy desk.trade input := by
  have valid : input.quote.valid = true := decide_eq_true ⟨status, bid⟩
  unfold evaluateByStrategy EndsBy
  cases strategy : desk.trade.strategy with
  | trendPullback =>
    rw [strategy] at late
    exact iff_of_true (settled_evaluateStrategyA strategy (decide_eq_true late)) (.inr trivial)
  | volatilityBreakout =>
    rw [strategy] at late
    exact settled_evaluateStrategyB_iff awaits strategy (decide_eq_true late) status bid
  | diContinuation | srMomentumBreakout => exact settled_evaluateCandidate_iff awaits isOpen valid
  | pivotVwapScalp => exact settled_evaluateStrategyE_iff awaits

theorem usableFeatures_timestamp (features : MarketFeatures) :
    (usableFeatures trade features).timestamp = features.timestamp := by
  unfold usableFeatures
  split
  · rfl
  · rfl

/-- An evaluation at the end of the session settles a trade exactly where its orders close it, its
exit was decided before, or its strategy ends it. -/
theorem session_end_settles_iff (desk : ExitDesk) (input : EvaluationInput)
    (atEnd : AtSessionEnd desk input) :
    Settled (evaluateActiveTrade desk input).trade ↔
      (reconciled desk input).1.trade.state = .closed ∨
        EndsBy (reconciled desk input).1.trade (usable desk input) := by
  have same := (continues_reconciled desk input).trade.toSameTrade
  have outcome : (reconciled desk input).2 = false ∧ Ended (reconciled desk input).1.trade ∨
      (reconciled desk input).2 = true ∧ Awaits (reconciled desk input).1 :=
    reconcile_awaits (usable desk input).toExitInput atEnd.isOpen atEnd.protectedLive
      atEnd.partialExit atEnd.finalExit
  rw [evaluateActiveTrade_eq]
  rcases outcome with ⟨stays, ended⟩ | ⟨ready, awaits⟩
  · have closed : (reconciled desk input).1.trade.state = .closed := by
      rcases ended with closed | nothing
      · exact closed
      · exact atEnd.remains.resolve_right (not_lt.mpr nothing)
    rw [if_neg (Bool.eq_false_iff.mp stays)]
    exact iff_of_true (.inl closed) (.inl closed)
  · have isOpen := atEnd.remains.resolve_left awaits.isOpen
    have bid : 0 < input.quote.bid := input.costs.slippageBound.trans_lt atEnd.bid
    have late : forcedExitTime (usable desk input) (reconciled desk input).1.trade.strategy ≤
        PositionManager.minutesOfDay (usable desk input).features.timestamp := by
      have timestamp : (usable desk input).features.timestamp = input.now :=
        (usableFeatures_timestamp desk.trade input.features).trans atEnd.timestamp
      rw [timestamp, same.strategy]
      exact atEnd.late
    rw [if_pos ready, evaluateByStrategy_settled_iff awaits isOpen late atEnd.valid bid]
    exact (or_iff_right awaits.isOpen).symm

/-- An evaluation at 15:29 with a valid quote, without a row of any lifecycle. -/
def atClose : EvaluationInput where
  now := 35940000000
  features := { timestamp := 35940000000, spotPrice := 24000, futuresPrice := 24010 }
  quote := ⟨"VALID", 90, 91⟩
  manager := .defaults fun _ => ""
  costs := .standard
  protection := ⟨10, 2, 5000000, 3⟩
  orderId := "exit"
  placedStatus := .open
  brokerOrderId := some "broker-exit"
  gateway := some .success

/-- One lot that is simulated. -/
def simulatedLot (strategy : StrategyName) : ManagedTrade :=
  { ManagedTrade.entered "trade" .paper strategy .bullish 65 65 0 24000 100 23900 75 with
    signalId := some "signal" }

theorem atSessionEnd_simulatedLot {strategy : StrategyName}
    (late : forcedExitTime atClose strategy ≤ 929) :
    AtSessionEnd ⟨simulatedLot strategy, []⟩ atClose where
  isOpen := nofun
  late := late
  timestamp := rfl
  valid := rfl
  bid := by decide +kernel
  protectedLive := nofun
  partialExit := rfl
  finalExit := rfl
  remains := .inr (show (0 : Int) < 65 by decide)

theorem session_end_settles_strategyA :
    Settled (evaluateActiveTrade ⟨simulatedLot .trendPullback, []⟩ atClose).trade ↔
      (reconciled ⟨simulatedLot .trendPullback, []⟩ atClose).1.trade.state = .closed ∨
        EndsBy (reconciled ⟨simulatedLot .trendPullback, []⟩ atClose).1.trade
          (usable ⟨simulatedLot .trendPullback, []⟩ atClose) :=
  session_end_settles_iff _ _ (atSessionEnd_simulatedLot (by decide))

/-- Without a row of its lifecycle a trade of Strategy C outlives its session. -/
theorem strategyC_outlives_session :
    ¬∀ (desk : ExitDesk) (input : EvaluationInput), AtSessionEnd desk input →
      Settled (evaluateActiveTrade desk input).trade := by
  intro settles
  have settled := settles ⟨simulatedLot .diContinuation, []⟩ atClose
    (atSessionEnd_simulatedLot (by decide))
  exact absurd settled (by decide +kernel)

end BreezeTrading.LiveExit
