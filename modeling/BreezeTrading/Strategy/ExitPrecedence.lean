/-
This file follows a live position of Strategy A or D whose exit is decided, through any reports of
its orders. In a cycle in which none of its orders stands, the exit should sell all that is open,
and no cycle may sell for the first target any more. A due sale of Strategy D for its first target
is sent again whenever it expires, and the exit waits.
-/

import BreezeTrading.Strategy.ExitContinuity
import BreezeTrading.Strategy.TrailingStop

namespace BreezeTrading.LiveExit

/-! ### Orders that are over -/

/-- There is no such order, or it is over. -/
def orderOver (desk : ExitDesk) (orderId : Option String) : Bool :=
  orderId.all fun orderId => (getOrder desk.orders orderId).any SellOrder.terminal

/-- No order of a position stands. -/
@[mk_iff]
structure Quiet (desk : ExitDesk) : Prop where
  stop : orderOver desk desk.trade.protectiveStopOrderId = true
  partialExit : orderOver desk desk.trade.partialExitOrderId = true
  finalExit : orderOver desk desk.trade.exitOrderId = true

/-- A position is closed, or nothing of it is open. -/
def Ended (trade : ManagedTrade) : Prop := trade.state = .closed ∨ openQuantity trade ≤ 0

/-- The cancellation of the stop was asked for, and is reported. -/
def stopCancelled (desk : ExitDesk) : Bool :=
  desk.trade.protectiveStopCancelForExit &&
    desk.trade.protectiveStopOrderId.any fun orderId =>
      (getOrder desk.orders orderId).any fun order => decide (order.status = .cancelled)

/-- The stop is gone, and no order was sent. -/
structure StopGone (before after : ExitDesk) : Prop where
  orders : after.orders = before.orders
  stop : after.trade.protectiveStopOrderId = none
  partialExit : after.trade.partialExitOrderId = before.trade.partialExitOrderId
  finalExit : after.trade.exitOrderId = before.trade.exitOrderId

/-- No order is left of a position, and none was sent. -/
structure Free (before after : ExitDesk) : Prop where
  orders : after.orders = before.orders
  stop : after.trade.protectiveStopOrderId = none
  partialExit : after.trade.partialExitOrderId = none
  finalExit : after.trade.exitOrderId = none

theorem exists_of_over {desk : ExitDesk} {orderId : String} (isOver : orderOver desk (some orderId)) :
    ∃ order, getOrder desk.orders orderId = some order ∧ order.terminal = true := by
  simpa [orderOver, Option.any_eq_true] using isOver

section Stop

variable (input : ExitInput)

theorem applyProtectiveProgress_form (trade : ManagedTrade) (order : SellOrder) :
    ∃ exited proceeds filled filledProceeds, applyProtectiveProgress trade order = { trade with
        exitFilledQuantity := exited
        exitProceeds := proceeds
        protectiveStopFilledQuantity := filled
        protectiveStopFilledProceeds := filledProceeds } := by
  unfold applyProtectiveProgress
  dsimp only
  split
  · split
    · exact ⟨_, _, _, _, rfl⟩
    · exact ⟨_, _, _, _, rfl⟩
  · exact ⟨_, _, _, _, rfl⟩

theorem recordProtectiveStopFailure_form (trade : ManagedTrade) (protection : ProtectionConfig) :
    ∃ failures reason optionReason, (recordProtectiveStopFailure trade protection false).1 =
      { trade with
        protectiveStopFailures := failures
        pendingExitReason := reason
        optionExitReason := optionReason } := by
  unfold recordProtectiveStopFailure
  dsimp only
  split
  · exact ⟨_, _, _, rfl⟩
  · exact ⟨_, _, _, rfl⟩

variable {desk : ExitDesk}

theorem placeProtectiveStop_ready (ready : (placeProtectiveStop desk input).2 = true) :
    (placeProtectiveStop desk input).1 = desk := by
  unfold placeProtectiveStop at ready ⊢
  dsimp only at ready ⊢
  split
  · rfl
  · rename_i due
    rw [if_neg due] at ready
    cases ready

theorem placeProtectiveStop_of_decided (decided : desk.trade.pendingExitReason.isSome = true) :
    placeProtectiveStop desk input = (desk, true) := if_pos (.inl decided)

variable {protective : SellOrder}

theorem reconcileProtectiveStop_of_over {trade : ManagedTrade} (isOver : protective.terminal = true)
    (progressed : applyProtectiveProgress desk.trade protective = trade) :
    reconcileProtectiveStop desk input protective =
      if protective.status = .filled ∨ trade.quantity ≤ trade.exitFilledQuantity then
        (closeTrade { desk with trade } input
          (if 0 < trade.quantity then trade.exitProceeds / trade.quantity
            else protective.averagePrice) (some optionEmergencyStop), false)
      else if trade.protectiveStopCancelForExit ∧ protective.status = .cancelled then
        ({ desk with trade := clearProtectiveStop trade }, true)
      else if (recordProtectiveStopFailure (clearProtectiveStop trade) input.protection false).2 then
        ({ desk with
            trade := (recordProtectiveStopFailure (clearProtectiveStop trade)
              input.protection false).1 }, true)
      else
        placeProtectiveStop { desk with
            trade := (recordProtectiveStopFailure (clearProtectiveStop trade)
              input.protection false).1 } input := by
  unfold reconcileProtectiveStop
  simp only [progressed, isOver, if_true]

theorem stopGone_reconcileProtectiveStop (isOver : protective.terminal = true)
    (ready : (reconcileProtectiveStop desk input protective).2 = true) :
    StopGone desk (reconcileProtectiveStop desk input protective).1 := by
  obtain ⟨exited, proceeds, filled, filledProceeds, progressed⟩ :=
    applyProtectiveProgress_form desk.trade protective
  obtain ⟨failures, reason, optionReason, failed⟩ := recordProtectiveStopFailure_form
    (clearProtectiveStop (applyProtectiveProgress desk.trade protective)) input.protection
  have cleared : StopGone desk
      { desk with
        trade := clearProtectiveStop (applyProtectiveProgress desk.trade protective) } := by
    rw [progressed]
    exact ⟨rfl, rfl, rfl, rfl⟩
  have gone : StopGone desk
      { desk with
        trade := (recordProtectiveStopFailure
          (clearProtectiveStop (applyProtectiveProgress desk.trade protective))
          input.protection false).1 } := by
    rw [failed, progressed]
    exact ⟨rfl, rfl, rfl, rfl⟩
  rw [reconcileProtectiveStop_of_over input isOver rfl] at ready ⊢
  split
  · rename_i sold
    rw [if_pos sold] at ready
    cases ready
  rename_i unsold
  rw [if_neg unsold] at ready
  split
  · exact cleared
  rename_i unasked
  rw [if_neg unasked] at ready
  split
  · exact gone
  · rename_i more
    rw [if_neg more] at ready
    rw [placeProtectiveStop_ready input ready]
    exact gone

theorem stopGone_syncLiveProtectiveStop (live : desk.trade.mode = .live)
    (filled : 0 < desk.trade.filledQuantity)
    (isOver : orderOver desk desk.trade.protectiveStopOrderId = true)
    (ready : (syncLiveProtectiveStop desk input).2 = true) :
    StopGone desk (syncLiveProtectiveStop desk input).1 := by
  have inFull : ¬(desk.trade.mode ≠ .live ∨ desk.trade.filledQuantity ≤ 0) :=
    not_or.mpr ⟨not_not.mpr live, not_le.mpr filled⟩
  unfold syncLiveProtectiveStop at ready ⊢
  rw [if_neg inFull] at ready ⊢
  split
  · rename_i closed
    rw [if_pos closed] at ready
    cases ready
  rename_i unclosed
  rw [if_neg unclosed] at ready
  split
  · rename_i sold
    rw [if_pos sold] at ready
    split at ready
    · cases ready
    · cases ready
  rename_i isOpen
  rw [if_neg isOpen] at ready
  cases stop : desk.trade.protectiveStopOrderId with
  | none =>
    rw [stop] at ready
    rw [placeProtectiveStop_ready input ready]
    exact ⟨rfl, stop, rfl, rfl⟩
  | some orderId =>
    rw [stop] at ready isOver
    obtain ⟨protective, known, ended⟩ := exists_of_over isOver
    dsimp only at ready ⊢
    rw [known] at ready ⊢
    exact stopGone_reconcileProtectiveStop input ended ready

/-- A stop that is over does not hold up a position whose exit is decided, and neither does one
whose cancellation was asked for. -/
theorem reconcileProtectiveStop_goes_on (isOver : protective.terminal = true)
    (decided : desk.trade.pendingExitReason.isSome = true ∨ desk.trade.protectiveStopCancelForExit =
      true ∧ protective.status = .cancelled) :
    Ended (reconcileProtectiveStop desk input protective).1.trade ∨
      (reconcileProtectiveStop desk input protective).2 = true := by
  obtain ⟨exited, proceeds, filled, filledProceeds, progressed⟩ :=
    applyProtectiveProgress_form desk.trade protective
  have kept : (applyProtectiveProgress desk.trade protective).pendingExitReason =
      desk.trade.pendingExitReason ∧
      (applyProtectiveProgress desk.trade protective).protectiveStopCancelForExit =
        desk.trade.protectiveStopCancelForExit := by
    rw [progressed]
    exact ⟨rfl, rfl⟩
  have failed := carries_recordProtectiveStopFailure
    (clearProtectiveStop (applyProtectiveProgress desk.trade protective)) input.protection false
  rw [reconcileProtectiveStop_of_over input isOver rfl]
  split
  · exact .inl (.inl rfl)
  split
  · exact .inr rfl
  rename_i unasked
  rw [kept.2] at unasked
  have pending := decided.resolve_right unasked
  split
  · exact .inr rfl
  · rw [placeProtectiveStop_of_decided]
    · exact .inr rfl
    · rcases failed.reason with same | unavailable
      · rw [same]
        exact kept.1 ▸ pending
      · rw [unavailable]
        rfl

theorem syncLiveProtectiveStop_goes_on (live : desk.trade.mode = .live)
    (filled : 0 < desk.trade.filledQuantity)
    (isOver : orderOver desk desk.trade.protectiveStopOrderId = true)
    (decided : desk.trade.pendingExitReason.isSome = true ∨ stopCancelled desk = true) :
    Ended (syncLiveProtectiveStop desk input).1.trade ∨
      (syncLiveProtectiveStop desk input).2 = true := by
  have inFull : ¬(desk.trade.mode ≠ .live ∨ desk.trade.filledQuantity ≤ 0) :=
    not_or.mpr ⟨not_not.mpr live, not_le.mpr filled⟩
  unfold syncLiveProtectiveStop
  rw [if_neg inFull]
  split
  · exact .inl (.inl ‹_›)
  split
  · rename_i sold
    split
    · exact .inl (.inl rfl)
    · exact .inl (.inr sold)
  cases stop : desk.trade.protectiveStopOrderId with
  | none =>
    have pending : desk.trade.pendingExitReason.isSome = true := by
      rcases decided with pending | cancelled
      · exact pending
      · simp [stopCancelled, stop] at cancelled
    rw [placeProtectiveStop_of_decided input pending]
    exact .inr rfl
  | some orderId =>
    rw [stop] at isOver
    obtain ⟨protective, known, ended⟩ := exists_of_over isOver
    dsimp only
    rw [known]
    refine reconcileProtectiveStop_goes_on input ended (decided.imp_right fun cancelled => ?_)
    simpa [stopCancelled, stop, known] using cancelled

end Stop

/-! ### Reconciliation -/

section Reconciliation

variable (input : ExitInput) {desk : ExitDesk}

theorem settleT1_form (trade : ManagedTrade) (order : SellOrder) (now : Int) :
    (settleT1 trade order now).protectiveStopOrderId = trade.protectiveStopOrderId ∧
      (settleT1 trade order now).exitOrderId = trade.exitOrderId := by
  unfold settleT1 applyLiveT1OrderProgress
  dsimp only
  split
  · exact ⟨rfl, rfl⟩
  split
  · exact ⟨rfl, rfl⟩
  · exact ⟨rfl, rfl⟩

theorem applyExitOrderProgress_form (trade : ManagedTrade) (order : SellOrder) :
    (applyExitOrderProgress trade order).protectiveStopOrderId = trade.protectiveStopOrderId ∧
      (applyExitOrderProgress trade order).partialExitOrderId = trade.partialExitOrderId := by
  unfold applyExitOrderProgress
  dsimp only
  split
  · exact ⟨rfl, rfl⟩
  split
  · exact ⟨rfl, rfl⟩
  · exact ⟨rfl, rfl⟩

section

variable (live : desk.trade.mode = .live) (filled : 0 < desk.trade.filledQuantity)
  (stop : desk.trade.protectiveStopOrderId = none)
  (isOver : orderOver desk desk.trade.partialExitOrderId = true)

include live filled stop isOver

theorem stopGone_syncLiveT1PartialExit (ready : (syncLiveT1PartialExit desk input).2 = true) :
    (syncLiveT1PartialExit desk input).1.orders = desk.orders ∧
      (syncLiveT1PartialExit desk input).1.trade.protectiveStopOrderId = none ∧
      (syncLiveT1PartialExit desk input).1.trade.partialExitOrderId = none ∧
      (syncLiveT1PartialExit desk input).1.trade.exitOrderId = desk.trade.exitOrderId := by
  cases waits : desk.trade.partialExitOrderId with
  | none =>
    unfold syncLiveT1PartialExit
    rw [waits]
    exact ⟨rfl, stop, waits, rfl⟩
  | some orderId =>
    rw [waits] at isOver
    obtain ⟨order, known, ended⟩ := exists_of_over isOver
    have same := (carries_settleT1 desk.trade order input.now).toSameTrade
    obtain ⟨sameStop, sameExit⟩ := settleT1_form desk.trade order input.now
    have unfinished : ¬order.terminal = false := by
      rw [ended]
      decide
    rw [syncLiveT1PartialExit_of_order input waits known, if_neg unfinished] at ready ⊢
    split
    · rename_i held
      rw [if_pos held] at ready
      have noStop : orderOver { desk with trade := settleT1 desk.trade order input.now }
          (settleT1 desk.trade order input.now).protectiveStopOrderId = true := by
        rw [sameStop, stop]
        rfl
      have gone := stopGone_syncLiveProtectiveStop input (same.mode.trans live)
        (same.filledQuantity.symm ▸ filled) noStop ready
      exact ⟨gone.orders, gone.stop, gone.partialExit, gone.finalExit.trans sameExit⟩
    · exact ⟨rfl, sameStop.trans stop, rfl, sameExit⟩

theorem syncLiveT1PartialExit_goes_on
    (decided : desk.trade.pendingExitReason.isSome = true ∨ desk.trade.partialExitOrderId = none) :
    Ended (syncLiveT1PartialExit desk input).1.trade ∨
      (syncLiveT1PartialExit desk input).2 = true := by
  cases waits : desk.trade.partialExitOrderId with
  | none =>
    unfold syncLiveT1PartialExit
    rw [waits]
    exact .inr rfl
  | some orderId =>
    rw [waits] at isOver decided
    obtain ⟨order, known, ended⟩ := exists_of_over isOver
    have pending := decided.resolve_right nofun
    have carried := carries_settleT1 desk.trade order input.now
    obtain ⟨sameStop, sameExit⟩ := settleT1_form desk.trade order input.now
    have unfinished : ¬order.terminal = false := by
      rw [ended]
      decide
    rw [syncLiveT1PartialExit_of_order input waits known, if_neg unfinished]
    split
    · have noStop : orderOver { desk with trade := settleT1 desk.trade order input.now }
          (settleT1 desk.trade order input.now).protectiveStopOrderId = true := by
        rw [sameStop, stop]
        rfl
      have stillPending : (settleT1 desk.trade order input.now).pendingExitReason.isSome = true := by
        rcases carried.reason with same | unavailable
        · rw [same]
          exact pending
        · rw [unavailable]
          rfl
      exact syncLiveProtectiveStop_goes_on input (carried.mode.trans live)
        (carried.filledQuantity.symm ▸ filled) noStop (.inl stillPending)
    · exact .inr rfl

end

theorem syncExitOrder_over (isOver : orderOver desk desk.trade.exitOrderId = true) :
    (syncExitOrder desk input).1.trade.state = .closed ∧ (syncExitOrder desk input).2 = false ∨
      (syncExitOrder desk input).2 = true ∧ (syncExitOrder desk input).1.orders = desk.orders ∧
        (syncExitOrder desk input).1.trade.protectiveStopOrderId =
          desk.trade.protectiveStopOrderId ∧
        (syncExitOrder desk input).1.trade.partialExitOrderId = desk.trade.partialExitOrderId ∧
        (syncExitOrder desk input).1.trade.exitOrderId = none := by
  cases waits : desk.trade.exitOrderId with
  | none =>
    unfold syncExitOrder
    rw [waits]
    exact .inr ⟨rfl, rfl, rfl, rfl, waits⟩
  | some orderId =>
    rw [waits] at isOver
    obtain ⟨order, known, ended⟩ := exists_of_over isOver
    obtain ⟨sameStop, samePartial⟩ := applyExitOrderProgress_form desk.trade order
    rw [syncExitOrder_of_order input waits known, if_pos ended]
    split
    · exact .inl ⟨rfl, rfl⟩
    · exact .inr ⟨rfl, rfl, sameStop, samePartial, rfl⟩

/-- What does not hold up a position no order of which stands: its exit was decided before, or the
cancellation of its stop was asked for and it has no T1 order. -/
def GoesOn (desk : ExitDesk) : Prop :=
  desk.trade.pendingExitReason.isSome = true ∨
    stopCancelled desk = true ∧ desk.trade.partialExitOrderId = none

instance (desk : ExitDesk) : Decidable (Quiet desk) :=
  decidable_of_iff' _ (quiet_iff desk)

instance (desk : ExitDesk) : Decidable (GoesOn desk) := inferInstanceAs (Decidable (_ ∨ _ ∧ _))

theorem over_congr {before after : ExitDesk} {first second : Option String}
    (orders : after.orders = before.orders) (same : second = first)
    (isOver : orderOver before first = true) : orderOver after second = true := by
  unfold orderOver at isOver ⊢
  rwa [orders, same]

/-- Where no order of a live position stands, reconciling leaves none of it where management goes
on, and management goes on where nothing holds up the position. -/
theorem reconcile_quiet (live : desk.trade.mode = .live) (filled : 0 < desk.trade.filledQuantity)
    (quiet : Quiet desk) :
    ((reconcile desk input).2 = true → Free desk (reconcile desk input).1) ∧
      (GoesOn desk →
        Ended (reconcile desk input).1.trade ∨ (reconcile desk input).2 = true) := by
  have first : reconcileStop desk input = syncLiveProtectiveStop desk input :=
    if_pos ⟨live, filled⟩
  have stopOutcome := syncLiveProtectiveStop_goes_on input live filled quiet.stop
  rw [reconcile_eq, first]
  split
  · rename_i ends
    refine ⟨nofun, fun goesOn => ?_⟩
    rcases ends with closed | stays
    · exact .inl (.inl closed)
    · exact (stopOutcome (goesOn.imp_right And.left)).imp_right fun ready =>
        absurd ready (Bool.eq_false_iff.mp stays)
  rename_i proceeds
  have stopped := stopGone_syncLiveProtectiveStop input live filled quiet.stop
    (Bool.eq_true_of_not_eq_false (not_or.mp proceeds).2)
  have same := (continues_syncLiveProtectiveStop desk input).trade
  generalize (syncLiveProtectiveStop desk input).1 = protected' at stopped same ⊢
  have second : reconcilePartial protected' input = syncLiveT1PartialExit protected' input :=
    if_pos (same.mode.trans live)
  have isLive := same.mode.trans live
  have isFilled : 0 < protected'.trade.filledQuantity := same.filledQuantity.symm ▸ filled
  have partialOver := over_congr stopped.orders stopped.partialExit quiet.partialExit
  have stillDecided (goesOn : GoesOn desk) : protected'.trade.pendingExitReason.isSome = true ∨
      protected'.trade.partialExitOrderId = none := by
    rcases goesOn with pending | ⟨-, unsold⟩
    · rcases same.reason with reason | unavailable
      · exact .inl (reason ▸ pending)
      · exact .inl (unavailable ▸ rfl)
    · exact .inr (stopped.partialExit.trans unsold)
  have partialOutcome := syncLiveT1PartialExit_goes_on input isLive isFilled stopped.stop partialOver
  rw [second]
  split
  · rename_i ends
    refine ⟨nofun, fun goesOn => ?_⟩
    rcases ends with closed | stays
    · exact .inl (.inl closed)
    · exact (partialOutcome (stillDecided goesOn)).imp_right fun ready =>
        absurd ready (Bool.eq_false_iff.mp stays)
  rename_i proceeds
  obtain ⟨orders, stop, partialExit, finalExit⟩ := stopGone_syncLiveT1PartialExit input
    isLive isFilled stopped.stop partialOver
    (Bool.eq_true_of_not_eq_false (not_or.mp proceeds).2)
  have exitOver := over_congr (orders.trans stopped.orders) (finalExit.trans stopped.finalExit)
    quiet.finalExit
  rcases syncExitOrder_over input exitOver with ⟨closed, ends⟩ | ⟨ready, sameOrders, sameStop,
    samePartial, noExit⟩
  · refine ⟨fun ready => ?_, fun _ => .inl (.inl closed)⟩
    rw [ends] at ready
    cases ready
  · exact ⟨fun _ => ⟨sameOrders.trans (orders.trans stopped.orders), sameStop.trans stop,
      samePartial.trans partialExit, noExit⟩, fun _ => .inr ready⟩

end Reconciliation

/-! ### The final sale -/

/-- A final sale of all that is open was sent. -/
def SellsAll (before after : ExitDesk) : Prop :=
  ∃ order, after.orders = before.orders ++ [order] ∧ order.kind = .final ∧
    order.quantity = openQuantity after.trade ∧ after.trade.exitOrderId = some order.orderId

/-- An exit is decided that the service sends itself: the stop held at the broker owns an
emergency exit. -/
def undertaken (trade : ManagedTrade) : Bool :=
  trade.pendingExitReason.any fun reason => !isOptionEmergencyStop (some reason)

/-- The exit of a position is carried out or waits, and nothing is sold for the first target. -/
structure Undertakes (before after : ExitDesk) : Prop where
  trade : SameTrade before.trade after.trade
  decided : undertaken after.trade = true
  t1Orders : t1Orders after = t1Orders before

section FinalSale

variable {desk : ExitDesk} {input : ExitInput} {reason : String}

theorem undertaken_of_reason {trade : ManagedTrade} (pending : trade.pendingExitReason = some reason)
    (sent : isOptionEmergencyStop (some reason) = false) : undertaken trade = true := by
  unfold undertaken
  rw [pending, Option.any_some, sent]
  rfl

theorem Carries.still_undertaken {before after : ManagedTrade} (carries : Carries before after)
    (decided : undertaken before = true) : undertaken after = true := by
  rcases carries.reason with same | unavailable
  · unfold undertaken
    rw [same]
    exact decided
  · exact undertaken_of_reason unavailable (by decide +kernel)

theorem Continues.undertakes {before after : ExitDesk} (continues : Continues before after)
    (decided : undertaken before.trade = true) : Undertakes before after :=
  ⟨continues.trade.toSameTrade, continues.trade.still_undertaken decided, continues.t1Orders⟩

theorem Undertakes.refl (decided : undertaken desk.trade = true) : Undertakes desk desk :=
  ⟨.refl desk.trade, decided, rfl⟩

theorem Undertakes.trans {first second third : ExitDesk} (left : Undertakes first second)
    (right : Undertakes second third) : Undertakes first third :=
  ⟨left.trade.trans right.trade, right.decided, right.t1Orders.trans left.t1Orders⟩

theorem undertakes_sendExit (quantity : Int) (price : ℚ)
    (sent : isOptionEmergencyStop (some reason) = false) :
    Undertakes desk (sendExit desk input quantity price reason) :=
  have other : SellKind.final ≠ .t1 := by decide
  ⟨⟨rfl, rfl, rfl, rfl⟩, undertaken_of_reason rfl sent,
    t1Orders_createOrder desk input other quantity price none⟩

theorem undertakes_submitLiveFinalExit (pending : desk.trade.pendingExitReason = some reason)
    (sent : isOptionEmergencyStop (some reason) = false) :
    Undertakes desk (submitLiveFinalExit desk input reason) := by
  have decided := undertaken_of_reason pending sent
  have cancelled : Undertakes desk (cancelLiveProtectiveStopForExit desk input).1 :=
    (continues_cancelLiveProtectiveStopForExit desk input).undertakes decided
  unfold submitLiveFinalExit
  split
  · exact .refl decided
  rw [if_neg (Bool.eq_false_iff.mp sent)]
  dsimp only
  split
  · exact cancelled.trans ⟨⟨rfl, rfl, rfl, rfl⟩, undertaken_of_reason rfl sent, rfl⟩
  split
  · exact cancelled
  · exact cancelled.trans (undertakes_sendExit _ _ sent)

theorem t1Orders_submitLiveFinalExit (desk : ExitDesk) (input : ExitInput) (reason : String) :
    t1Orders (submitLiveFinalExit desk input reason) = t1Orders desk := by
  have cancelled := (continues_cancelLiveProtectiveStopForExit desk input).t1Orders
  have other : SellKind.final ≠ .t1 := by decide
  unfold submitLiveFinalExit
  split
  · rfl
  split
  · rfl
  dsimp only
  split
  · exact cancelled
  split
  · exact cancelled
  · exact (t1Orders_createOrder _ input other _ _ none).trans cancelled

theorem sellsAll_submitLiveFinalExit (unsent : desk.trade.exitOrderId = none)
    (gone : desk.trade.protectiveStopOrderId = none)
    (sent : isOptionEmergencyStop (some reason) = false) (bid : 0 < input.quote.bid)
    (isOpen : 0 < openQuantity desk.trade) :
    SellsAll desk (submitLiveFinalExit desk input reason) := by
  have free : ¬desk.trade.exitOrderId.isSome = true := by
    rw [unsent]
    decide
  have cancelled : cancelLiveProtectiveStopForExit desk input = (desk, true) :=
    if_pos (.inr gone)
  unfold submitLiveFinalExit
  rw [if_neg free, if_neg (Bool.eq_false_iff.mp sent), cancelled]
  dsimp only
  rw [if_neg (not_or.mpr ⟨nofun, not_le.mpr bid⟩), if_neg (not_le.mpr isOpen)]
  exact ⟨_, rfl, rfl, rfl, rfl⟩

theorem openQuantity_submitLiveFinalExit (input : ExitInput) (reason : String)
    (gone : desk.trade.protectiveStopOrderId = none) :
    openQuantity (submitLiveFinalExit desk input reason).trade = openQuantity desk.trade := by
  have cancelled : cancelLiveProtectiveStopForExit desk input = (desk, true) :=
    if_pos (.inr gone)
  unfold submitLiveFinalExit
  split
  · rfl
  split
  · rfl
  rw [cancelled]
  dsimp only
  split
  · rfl
  split
  · rfl
  · rfl

/-- The exit of a desk is decided, and its orders are the same. -/
structure DecidedFor (reason : String) (before after : ExitDesk) : Prop where
  trade : SameTrade before.trade after.trade
  pending : after.trade.pendingExitReason = some reason
  orders : after.orders = before.orders
  stop : after.trade.protectiveStopOrderId = before.trade.protectiveStopOrderId
  partialExit : after.trade.partialExitOrderId = before.trade.partialExitOrderId
  finalExit : after.trade.exitOrderId = before.trade.exitOrderId

/-- An exit is carried out: at the latest when no order is left of the position and the quote is
valid, all that is open of it is sold. -/
structure CarriesOut (input : ExitInput) (before after : ExitDesk) : Prop where
  undertakes : Undertakes before after
  sells : input.quote.valid = true → Free before before → ¬Ended after.trade → SellsAll before after

theorem DecidedFor.undertakes {decided : ExitDesk} (isDecided : DecidedFor reason desk decided)
    (sent : isOptionEmergencyStop (some reason) = false) : Undertakes desk decided := by
  refine ⟨isDecided.trade, undertaken_of_reason isDecided.pending sent, ?_⟩
  unfold t1Orders
  rw [isDecided.orders]

theorem CarriesOut.of_tracked {trade : ManagedTrade} {after : ExitDesk}
    (tracked : Tracked desk.trade trade) (carries : CarriesOut input { desk with trade } after) :
    CarriesOut input desk after where
  undertakes := ⟨tracked.sameTrade.trans carries.undertakes.trade, carries.undertakes.decided,
    carries.undertakes.t1Orders⟩
  sells valid free := carries.sells valid
    ⟨rfl, tracked.protectiveStopOrderId.trans free.stop,
      tracked.partialExitOrderId.trans free.partialExit, tracked.exitOrderId.trans free.finalExit⟩

theorem DecidedFor.carriesOut {decided : ExitDesk} (isDecided : DecidedFor reason desk decided)
    (sent : isOptionEmergencyStop (some reason) = false) :
    CarriesOut input desk (submitLiveFinalExit decided input reason) where
  undertakes :=
    (isDecided.undertakes sent).trans (undertakes_submitLiveFinalExit isDecided.pending sent)
  sells valid free isOpen := by
    have gone : decided.trade.protectiveStopOrderId = none := isDecided.stop.trans free.stop
    have unsold : 0 < openQuantity decided.trade := by
      rw [← openQuantity_submitLiveFinalExit input reason gone]
      exact not_le.mp (not_or.mp isOpen).2
    have sold := sellsAll_submitLiveFinalExit (isDecided.finalExit.trans free.finalExit) gone sent
      (of_decide_eq_true valid).2 unsold
    unfold SellsAll at sold ⊢
    rwa [isDecided.orders] at sold

end FinalSale

/-! ### Strategy A -/

/-- The premium the position manager is told; one that is missing is zero. -/
def toldPremium (quote : ExitQuote) : ℚ :=
  if 0 < optionPrice quote then roundTo 2 (optionPrice quote) else 0

/-- The futures price is at the stop that a trade of Strategy A has by then. -/
def underlyingStopHit (trade : ManagedTrade) (input : ExitInput) : Bool :=
  decide (0 < input.features.futuresPrice ∧ 0 < PositionManager.underlyingEntry trade ∧
      0 < PositionManager.underlyingRisk trade) &&
    hitsStop trade.direction input.features.futuresPrice
      (PositionManager.protectedUnderlying input.manager trade input.features.futuresPrice
        (toldPremium input.quote)).currentTrailingStop

/-- The premium is above the hard stop of a trade, or unknown. -/
def PremiumHolds (trade : ManagedTrade) (quote : ExitQuote) : Prop :=
  0 < toldPremium quote → trade.optionHardStopPrice < toldPremium quote

instance (trade : ManagedTrade) (quote : ExitQuote) : Decidable (PremiumHolds trade quote) :=
  inferInstanceAs (Decidable (_ → _))

/-- The reasons for which the futures end a trade of Strategy A. -/
def underlyingReasons : List String :=
  ["SESSION_FORCE_SQUARE_OFF_1515", "UNDERLYING_TRAILING_STOP", "UNDERLYING_STRUCTURAL_STOP"]

section StrategyA

variable {desk : ExitDesk} {input : ExitInput} {reason : String}

/-- Where the stop is hit and the premium holds, the futures end the trade, whatever is due of its
first target. -/
theorem managerUpdate_of_stopHit {trade : ManagedTrade} (strategy : trade.strategy = .trendPullback)
    (hit : underlyingStopHit trade input = true) (holds : PremiumHolds trade input.quote) :
    ∃ reason ∈ underlyingReasons, (managerUpdate trade input).2 = some reason := by
  obtain ⟨valid, isHit⟩ := Bool.and_eq_true _ _ ▸ hit
  obtain ⟨price, entry, risk⟩ := of_decide_eq_true valid
  have invalid : ¬(input.features.futuresPrice ≤ 0 ∨ PositionManager.underlyingEntry trade ≤ 0 ∨
      PositionManager.underlyingRisk trade ≤ 0) :=
    not_or.mpr ⟨not_le.mpr price, not_or.mpr ⟨not_le.mpr entry, not_le.mpr risk⟩⟩
  have told : (if 0 < optionPrice input.quote then some (roundTo 2 (optionPrice input.quote))
      else none).getD 0 = toldPremium input.quote := by
    unfold toldPremium
    split
    · rfl
    · rfl
  have spared : ¬(0 < toldPremium input.quote ∧
      toldPremium input.quote ≤ trade.optionHardStopPrice) :=
    fun fallen => absurd (holds fallen.1) (not_lt.mpr fallen.2)
  have direction : (PositionManager.protectedUnderlying input.manager trade
      input.features.futuresPrice (toldPremium input.quote)).direction = trade.direction :=
    (PositionManager.protectBreakeven_keeps input.manager _ _).1
  have stopped : ∃ reason ∈ underlyingReasons,
      PositionManager.underlyingStopReason input.manager
        (PositionManager.protectedUnderlying input.manager trade input.features.futuresPrice
          (toldPremium input.quote)) input.features.futuresPrice = some reason := by
    unfold PositionManager.underlyingStopReason
    rw [direction, if_pos isHit]
    split
    · exact ⟨_, by decide, rfl⟩
    · exact ⟨_, by decide, rfl⟩
  unfold managerUpdate PositionManager.updatePosition
  rw [if_pos strategy]
  unfold PositionManager.updateStrategyAPosition
  dsimp only
  rw [if_neg invalid, told, if_neg spared]
  split
  · exact ⟨_, by decide, rfl⟩
  obtain ⟨reason, isReason, isStopped⟩ := stopped
  unfold PositionManager.protectedUnderlying PositionManager.trackedUnderlying at isStopped
  rw [isStopped]
  exact ⟨reason, isReason, rfl⟩

theorem underlyingReasons_sent : ∀ reason ∈ underlyingReasons,
    isOptionEmergencyStop (some reason) = false ∧ reason ≠ "T1_PARTIAL_EXIT" ∧
      reason ≠ "T1_REACHED_NO_PARTIAL_ONE_LOT" := by
  decide +kernel

theorem evaluateStrategyA_of_stopHit (strategy : desk.trade.strategy = .trendPullback)
    (undecided : desk.trade.pendingExitReason = none)
    (hit : underlyingStopHit desk.trade input = true)
    (holds : PremiumHolds desk.trade input.quote) :
    ∃ reason, isOptionEmergencyStop (some reason) = false ∧
      evaluateStrategyA desk input =
        decideExitA { desk with trade := (managerUpdate desk.trade input).1 } input reason := by
  obtain ⟨reason, isReason, event⟩ := managerUpdate_of_stopHit strategy hit holds
  obtain ⟨sent, notPartial, notOneLot⟩ := underlyingReasons_sent reason isReason
  refine ⟨reason, sent, ?_⟩
  unfold evaluateStrategyA settleUpdateA
  rw [undecided]
  rw [event]
  dsimp only
  rw [if_neg (Bool.eq_false_iff.mp sent), if_neg notPartial, if_neg notOneLot]

section

variable (live : desk.trade.mode = .live)

include live

theorem carriesOut_decideExitA (sent : isOptionEmergencyStop (some reason) = false) :
    CarriesOut input desk (decideExitA desk input reason) := by
  obtain ⟨decided, isDecided, same⟩ : ∃ decided, DecidedFor reason desk decided ∧
      decideExitA desk input reason =
        if input.quote.valid = false then decided
        else if desk.trade.mode = .live then submitLiveFinalExit decided input reason
        else closeAtBid decided input reason := by
    refine ⟨_, ?_, rfl⟩
    exact ⟨⟨rfl, rfl, rfl, rfl⟩, rfl, rfl, rfl, rfl, rfl⟩
  rw [same, if_pos live]
  split
  · rename_i invalid
    exact ⟨isDecided.undertakes sent, fun valid => absurd valid (Bool.eq_false_iff.mp invalid)⟩
  · exact isDecided.carriesOut sent

theorem undertakes_carryOutExitA (pending : desk.trade.pendingExitReason = some reason)
    (sent : isOptionEmergencyStop (some reason) = false) :
    Undertakes desk (carryOutExitA desk input reason) := by
  unfold carryOutExitA
  split
  · exact .refl (undertaken_of_reason pending sent)
  · exact undertakes_submitLiveFinalExit pending sent

theorem carriesOut_carryOutExitA (pending : desk.trade.pendingExitReason = some reason)
    (sent : isOptionEmergencyStop (some reason) = false) (valid : input.quote.valid = true)
    (priced : 0 < slippedBid input.quote input.costs) :
    CarriesOut input desk (carryOutExitA desk input reason) := by
  have isDecided : DecidedFor reason desk desk := ⟨.refl desk.trade, pending, rfl, rfl, rfl, rfl⟩
  have usable : ¬(input.quote.valid = false ∨ slippedBid input.quote input.costs ≤ 0) :=
    not_or.mpr ⟨Bool.eq_false_iff.not_left.mpr valid, not_le.mpr priced⟩
  unfold carryOutExitA
  rw [if_neg usable, if_pos live]
  exact isDecided.carriesOut sent

end

theorem exists_reason_of_undertaken {trade : ManagedTrade} (decided : undertaken trade = true) :
    ∃ reason, trade.pendingExitReason = some reason ∧
      isOptionEmergencyStop (some reason) = false := by
  obtain ⟨reason, pending, sent⟩ := (Option.any_eq_true _ _).mp decided
  exact ⟨reason, pending, Bool.not_eq_true' _ ▸ sent⟩

/-- The exit of a trade of Strategy A waits to be sent, or its stop is hit. -/
def DecidedA (trade : ManagedTrade) (input : ExitInput) : Prop :=
  undertaken trade = true ∨
    trade.pendingExitReason = none ∧ underlyingStopHit trade input = true ∧
      PremiumHolds trade input.quote

section

variable (live : desk.trade.mode = .live) (strategy : desk.trade.strategy = .trendPullback)
  (decided : DecidedA desk.trade input)

include live strategy decided

theorem undertakes_evaluateStrategyA : Undertakes desk (evaluateStrategyA desk input) := by
  rcases decided with decided | ⟨undecided, hit, holds⟩
  · obtain ⟨reason, pending, sent⟩ := exists_reason_of_undertaken decided
    unfold evaluateStrategyA
    rw [pending]
    exact undertakes_carryOutExitA live pending sent
  · obtain ⟨reason, sent, same⟩ := evaluateStrategyA_of_stopHit strategy undecided hit holds
    have tracked := tracked_managerUpdate desk.trade input
    rw [same]
    exact (CarriesOut.of_tracked tracked
      (carriesOut_decideExitA (tracked.sameTrade.mode.trans live) sent)).undertakes

theorem carriesOut_evaluateStrategyA (valid : input.quote.valid = true)
    (priced : desk.trade.pendingExitReason.isSome = true → 0 < slippedBid input.quote input.costs) :
    CarriesOut input desk (evaluateStrategyA desk input) := by
  rcases decided with decided | ⟨undecided, hit, holds⟩
  · obtain ⟨reason, pending, sent⟩ := exists_reason_of_undertaken decided
    have price := priced (by rw [pending]; rfl)
    unfold evaluateStrategyA
    rw [pending]
    exact carriesOut_carryOutExitA live pending sent valid price
  · obtain ⟨reason, sent, same⟩ := evaluateStrategyA_of_stopHit strategy undecided hit holds
    have tracked := tracked_managerUpdate desk.trade input
    rw [same]
    exact .of_tracked tracked (carriesOut_decideExitA (tracked.sameTrade.mode.trans live) sent)

end

end StrategyA

/-! ### Strategy D -/

section StrategyD

variable {desk : ExitDesk} {input : ExitInput} {row : LifecycleRow} {reason : String}

variable (trade : ManagedTrade)

theorem tracked_trackRow (input : ExitInput) (row : LifecycleRow) :
    Tracked trade (trackRow trade input row) :=
  ⟨rfl, id⟩

/-- The lots Strategy D sells when its lifecycle scaled out. -/
def scaledLots (trade : ManagedTrade) : Int :=
  scaleOutLots
    (if 0 < trade.lotSize then
      (orQuantity trade.initialQuantity trade.quantity).fdiv trade.lotSize else 0)

/-- The lifecycle scaled out, and the trade has not followed. -/
def ScalesOut (trade : ManagedTrade) (row : LifecycleRow) : Prop :=
  trade.strategy = .srMomentumBreakout ∧ row.scaleOutTime.isSome = true ∧
    trade.t1Reached = false ∧ trade.pendingExitReason = none

instance (trade : ManagedTrade) (row : LifecycleRow) : Decidable (ScalesOut trade row) :=
  inferInstanceAs (Decidable (_ ∧ _))

theorem scaleOut_form (row : LifecycleRow) : ∃ scaled whole, scaleOut trade row =
      (if ScalesOut trade row then if 0 < scaledLots trade then scaled else whole else trade) ∧
      Tracked trade scaled ∧ Tracked trade whole ∧
      partialDue scaled =
        decide (trade.partialExitFilledQuantity < scaledLots trade * trade.lotSize) ∧
      partialDue whole = false := by
  refine ⟨_, _, rfl, ?_, ?_, rfl, rfl⟩
  · exact ⟨rfl, id⟩
  · exact ⟨rfl, id⟩

theorem tracked_scaleOut (row : LifecycleRow) : Tracked trade (scaleOut trade row) := by
  obtain ⟨scaled, whole, same, trackedScaled, trackedWhole, -⟩ := scaleOut_form trade row
  rw [same]
  split
  · split
    · exact trackedScaled
    · exact trackedWhole
  · exact .refl trade

theorem partialDue_scaleOut : partialDue (scaleOut trade row) =
      if ScalesOut trade row then
        decide (0 < scaledLots trade) &&
          decide (trade.partialExitFilledQuantity < scaledLots trade * trade.lotSize)
      else partialDue trade := by
  obtain ⟨scaled, whole, same, -, -, dueScaled, dueWhole⟩ := scaleOut_form trade row
  rw [same]
  split
  · split
    · rename_i lots
      rw [dueScaled, decide_eq_true lots, Bool.true_and]
    · rename_i noLots
      rw [dueWhole, decide_eq_false noLots, Bool.false_and]
  · rfl

theorem partialDue_scaleOut_trackRow :
    partialDue (scaleOut (trackRow trade input row) row) = partialDue (scaleOut trade row) := by
  rw [partialDue_scaleOut, partialDue_scaleOut]
  rfl

theorem decideCandidateExit_form (desk : ExitDesk) (input : ExitInput) (row : LifecycleRow)
    (reason : String) : ∃ decided, DecidedFor reason desk decided ∧
      decideCandidateExit desk input row reason =
        if input.quote.valid = false then decided
        else if desk.trade.mode = .live then
          if desk.trade.partialExitOrderId.isSome then decided
          else submitLiveFinalExit decided input reason
        else closeAtBid decided input reason := by
  refine ⟨_, ?_, rfl⟩
  exact ⟨⟨rfl, rfl, rfl, rfl⟩, rfl, rfl, rfl, rfl, rfl⟩

section

variable (live : desk.trade.mode = .live)

include live

theorem carriesOut_decideCandidateExit (sent : isOptionEmergencyStop (some reason) = false) :
    CarriesOut input desk (decideCandidateExit desk input row reason) := by
  obtain ⟨decided, isDecided, same⟩ := decideCandidateExit_form desk input row reason
  rw [same, if_pos live]
  split
  · rename_i invalid
    exact ⟨isDecided.undertakes sent, fun valid => absurd valid (Bool.eq_false_iff.mp invalid)⟩
  split
  · rename_i waits
    refine ⟨isDecided.undertakes sent, fun _ free => ?_⟩
    rw [free.partialExit] at waits
    cases waits
  · exact isDecided.carriesOut sent

theorem t1Orders_settleRow (notDue : partialDue (scaleOut desk.trade row) = false) :
    t1Orders (settleRow desk input row) = t1Orders desk := by
  have followed : Tracked desk.trade (scaleOut (trackRow desk.trade input row) row) :=
    (tracked_trackRow desk.trade input row).trans (tracked_scaleOut _ row)
  have isLive := followed.sameTrade.mode.trans live
  unfold settleRow
  dsimp only
  split
  · rfl
  rw [partialDue_scaleOut_trackRow, notDue, if_neg Bool.false_ne_true]
  split
  · rename_i reason _
    obtain ⟨decided, isDecided, same⟩ := decideCandidateExit_form
      { desk with trade := scaleOut (trackRow desk.trade input row) row } input row reason
    have orders : t1Orders decided = t1Orders desk := by
      unfold t1Orders
      rw [isDecided.orders]
    rw [same, if_pos isLive]
    split
    · exact orders
    split
    · exact orders
    · exact (t1Orders_submitLiveFinalExit decided input reason).trans orders
  · rfl

theorem carriesOut_settleRow
    (decides : (desk.trade.pendingExitReason <|> row.underlyingExitReason) = some reason)
    (sent : isOptionEmergencyStop (some reason) = false)
    (notDue : partialDue (scaleOut desk.trade row) = false) :
    CarriesOut input desk (settleRow desk input row) := by
  have followed : Tracked desk.trade (scaleOut (trackRow desk.trade input row) row) :=
    (tracked_trackRow desk.trade input row).trans (tracked_scaleOut _ row)
  have isLive := followed.sameTrade.mode.trans live
  have owned : ¬optionStopHit (trackRow desk.trade input row) input.quote = true := by
    unfold optionStopHit
    rw [(tracked_trackRow desk.trade input row).sameTrade.mode, live]
    simp
  refine .of_tracked followed ?_
  unfold settleRow
  dsimp only
  rw [if_neg owned, partialDue_scaleOut_trackRow, notDue, decides]
  exact carriesOut_decideCandidateExit isLive sent

end

end StrategyD

/-! ### What no evaluation changes -/

section Frame

variable {desk : ExitDesk} (input : ExitInput)

theorem sameTrade_submitLiveFinalExit (desk : ExitDesk) (reason : String) :
    SameTrade desk.trade (submitLiveFinalExit desk input reason).trade := by
  have cancelled := (continues_cancelLiveProtectiveStopForExit desk input).trade.toSameTrade
  unfold submitLiveFinalExit
  split
  · exact .refl desk.trade
  split
  · exact ⟨rfl, rfl, rfl, rfl⟩
  dsimp only
  split
  · exact cancelled.trans ⟨rfl, rfl, rfl, rfl⟩
  split
  · exact cancelled
  · exact cancelled.trans ⟨rfl, rfl, rfl, rfl⟩

theorem sameTrade_submitLiveT1PartialExit (desk : ExitDesk) :
    SameTrade desk.trade (submitLiveT1PartialExit desk input).trade := by
  have cancelled := (continues_cancelLiveProtectiveStopForExit desk input).trade.toSameTrade
  unfold submitLiveT1PartialExit
  split
  · exact .refl desk.trade
  dsimp only
  split
  · exact ⟨rfl, rfl, rfl, rfl⟩
  split
  · exact cancelled.trans ⟨rfl, rfl, rfl, rfl⟩
  · exact cancelled.trans ⟨rfl, rfl, rfl, rfl⟩

theorem sameTrade_settleUpdateA (desk : ExitDesk) (live : desk.trade.mode = .live)
    (event : Option String) :
    SameTrade desk.trade (settleUpdateA desk input event).trade := by
  unfold settleUpdateA
  split
  · exact .refl desk.trade
  split
  · unfold decideEmergencyA
    split
    · exact ⟨rfl, rfl, rfl, rfl⟩
    · refine SameTrade.trans ?_ (sameTrade_submitLiveFinalExit input _ _)
      exact ⟨rfl, rfl, rfl, rfl⟩
  rename_i sent
  split
  · split
    · unfold exitPartially
      rw [if_pos live]
      exact sameTrade_submitLiveT1PartialExit input desk
    · exact ⟨rfl, rfl, rfl, rfl⟩
  split
  · exact .refl desk.trade
  · exact (carriesOut_decideExitA live (Bool.eq_false_iff.mpr sent)).undertakes.trade

theorem sameTrade_evaluateStrategyA (live : desk.trade.mode = .live) :
    SameTrade desk.trade (evaluateStrategyA desk input).trade := by
  unfold evaluateStrategyA
  split
  · unfold carryOutExitA
    split
    · exact .refl desk.trade
    · exact sameTrade_submitLiveFinalExit input desk _
  · have updated := (tracked_managerUpdate desk.trade input).sameTrade
    refine updated.trans ?_
    exact sameTrade_settleUpdateA input { desk with trade := (managerUpdate desk.trade input).1 }
      (updated.mode.trans live) _

theorem sameTrade_settleRow (live : desk.trade.mode = .live) (row : LifecycleRow) :
    SameTrade desk.trade (settleRow desk input row).trade := by
  have tracked := (tracked_trackRow desk.trade input row).sameTrade
  have scaled := tracked.trans (tracked_scaleOut (trackRow desk.trade input row) row).sameTrade
  have isLive := scaled.mode.trans live
  unfold settleRow
  dsimp only
  split
  · exact tracked.trans ⟨rfl, rfl, rfl, rfl⟩
  split
  · unfold candidatePartialExit
    split
    · exact scaled
    · refine scaled.trans ?_
      exact sameTrade_submitLiveT1PartialExit input
        { desk with trade := scaleOut (trackRow desk.trade input row) row }
  split
  · rename_i reason _
    obtain ⟨decided, isDecided, same⟩ := decideCandidateExit_form
      { desk with trade := scaleOut (trackRow desk.trade input row) row } input row reason
    have carried := scaled.trans isDecided.trade
    rw [same, if_pos isLive]
    split
    · exact carried
    split
    · exact carried
    · exact carried.trans (sameTrade_submitLiveFinalExit input decided reason)
  · exact scaled

end Frame

/-! ### Runs -/

/-- What an evaluation meets; without a spot price there is no completed bar. -/
def usable (desk : ExitDesk) (input : EvaluationInput) : EvaluationInput :=
  { input with features := usableFeatures desk.trade input.features }

/-- A desk whose orders are reconciled, and whether management goes on. -/
def reconciled (desk : ExitDesk) (input : EvaluationInput) : ExitDesk × Bool :=
  reconcile desk (usable desk input).toExitInput

theorem continues_reconciled (desk : ExitDesk) (input : EvaluationInput) :
    Continues desk (reconciled desk input).1 :=
  continues_reconcile desk (usable desk input).toExitInput

theorem evaluateActiveTrade_eq (desk : ExitDesk) (input : EvaluationInput) :
    evaluateActiveTrade desk input =
      if (reconciled desk input).2 then
        evaluateByStrategy (reconciled desk input).1 (usable desk input)
      else (reconciled desk input).1 := rfl

/-- A position, and whether its exit was decided. -/
structure ExitCourse where
  desk : ExitDesk
  decided : Bool

/-- The broker reports on the orders, in any way, or the position is evaluated. -/
inductive ExitMove where
  | report (orders : List SellOrder)
  | cycle (input : EvaluationInput)

/-- The final exit is decided in a cycle: it waits to be sent, or the position manager finds the stop
of Strategy A hit, or the lifecycle of Strategy D carries the reason of an exit. -/
def decides (desk : ExitDesk) (input : EvaluationInput) : Bool :=
  undertaken desk.trade ||
    match desk.trade.strategy with
    | .trendPullback =>
        (reconciled desk input).2 && (reconciled desk input).1.trade.pendingExitReason.isNone &&
          underlyingStopHit (reconciled desk input).1.trade (usable desk input).toExitInput
    | .srMomentumBreakout =>
        (candidateRuntime desk.trade input).any fun row => row.underlyingExitReason.isSome
    | _ => false

namespace ExitCourse

/-- The final exit was decided, or is in this cycle. -/
def isDecided (course : ExitCourse) (input : EvaluationInput) : Bool :=
  course.decided || decides course.desk input

def step (course : ExitCourse) : ExitMove → ExitCourse
  | .report orders => { course with desk := { course.desk with orders } }
  | .cycle input => ⟨evaluateActiveTrade course.desk input, course.isDecided input⟩

/-- A decided exit is not starved by a cycle: nothing is sold for the first target, and all that is
open is sold when the quote is valid and no order stands. -/
def NeverStarved (course : ExitCourse) : ExitMove → Prop
  | .report _ => True
  | .cycle input => course.isDecided input = true →
      t1Orders (evaluateActiveTrade course.desk input) = t1Orders course.desk ∧
      (input.quote.valid = true → Quiet course.desk →
        ¬Ended (evaluateActiveTrade course.desk input).trade →
        SellsAll course.desk (evaluateActiveTrade course.desk input))

/-- A decided exit of Strategy A has a price when it can be sent, and the premium is above the hard
stop when it is decided. -/
def PricedA (desk : ExitDesk) (input : EvaluationInput) : Prop :=
  if (reconciled desk input).1.trade.pendingExitReason.isSome then
    Quiet desk → input.quote.valid = true → 0 < slippedBid input.quote input.costs
  else PremiumHolds (reconciled desk input).1.trade input.quote

/-- The row of Strategy D has an exit for the service to send. -/
def rowExits (trade : ManagedTrade) (row : LifecycleRow) : Bool :=
  (trade.pendingExitReason <|> row.underlyingExitReason).any fun reason =>
    !isOptionEmergencyStop (some reason)

/-- The first target of Strategy D is not due when its orders are reconciled, and when the exit can
be sent its lifecycle is known and its stop is not placed again first. -/
def FollowedD (desk : ExitDesk) (input : EvaluationInput) : Prop :=
  ((reconciled desk input).2 = true →
    (candidateRuntime desk.trade input).all (fun row =>
      !partialDue (scaleOut (reconciled desk input).1.trade row)) = true) ∧
  (Quiet desk → input.quote.valid = true →
    GoesOn desk ∧
      (candidateRuntime desk.trade input).any (rowExits (reconciled desk input).1.trade) = true)

/-- Nothing comes before a decided exit in a cycle. -/
def Unhindered (course : ExitCourse) : ExitMove → Prop
  | .report _ => True
  | .cycle input => course.isDecided input = true →
      if course.desk.trade.strategy = .trendPullback then PricedA course.desk input
      else FollowedD course.desk input

instance (desk : ExitDesk) (input : EvaluationInput) : Decidable (PricedA desk input) :=
  inferInstanceAs (Decidable
    (if (reconciled desk input).1.trade.pendingExitReason.isSome then
      Quiet desk → input.quote.valid = true → 0 < slippedBid input.quote input.costs
    else PremiumHolds (reconciled desk input).1.trade input.quote))

instance (desk : ExitDesk) (input : EvaluationInput) : Decidable (FollowedD desk input) :=
  inferInstanceAs (Decidable ((_ → _) ∧ (_ → _ → _ ∧ _)))

instance (course : ExitCourse) : ∀ move, Decidable (Unhindered course move)
  | .report _ => inferInstanceAs (Decidable True)
  | .cycle input => inferInstanceAs (Decidable (course.isDecided input = true →
      if course.desk.trade.strategy = .trendPullback then PricedA course.desk input
      else FollowedD course.desk input))

section Cycle

variable {desk : ExitDesk} {input : EvaluationInput}

theorem sellsAll_of_quiet (live : desk.trade.mode = .live) (filled : 0 < desk.trade.filledQuantity)
    (quiet : Quiet desk) (goesOn : GoesOn desk ∨ (reconciled desk input).2 = true)
    (valid : input.quote.valid = true)
    (carries : (reconciled desk input).2 = true →
      CarriesOut (usable desk input).toExitInput (reconciled desk input).1
        (evaluateByStrategy (reconciled desk input).1 (usable desk input)))
    (isOpen : ¬Ended (evaluateActiveTrade desk input).trade) :
    SellsAll desk (evaluateActiveTrade desk input) := by
  obtain ⟨frees, proceeds⟩ := reconcile_quiet (usable desk input).toExitInput live filled quiet
  rw [evaluateActiveTrade_eq] at isOpen ⊢
  split
  · rename_i ready
    rw [if_pos ready] at isOpen
    have free := frees ready
    have sold := (carries ready).sells valid ⟨rfl, free.stop, free.partialExit, free.finalExit⟩ isOpen
    unfold SellsAll at sold ⊢
    rwa [show (reconciled desk input).1.orders = desk.orders from free.orders] at sold
  · rename_i stays
    rw [if_neg stays] at isOpen
    rcases goesOn.resolve_right stays |> proceeds with ended | ready
    · exact absurd ended isOpen
    · exact absurd ready stays

theorem decidedA_reconciled (strategy : desk.trade.strategy = .trendPullback)
    (decided : decides desk input = true) (priced : PricedA desk input) :
    undertaken desk.trade = true ∨
      (reconciled desk input).2 = true ∧
        DecidedA (reconciled desk input).1.trade (usable desk input).toExitInput := by
  unfold decides at decided
  rw [strategy, Bool.or_eq_true] at decided
  refine decided.imp_right fun found => ?_
  rw [Bool.and_eq_true, Bool.and_eq_true] at found
  obtain ⟨⟨ready, undecided⟩, hit⟩ := found
  have none := Option.isNone_iff_eq_none.mp undecided
  unfold PricedA at priced
  rw [none] at priced
  exact ⟨ready, .inr ⟨none, hit, priced⟩⟩

theorem undertakes_cycleA (live : desk.trade.mode = .live)
    (strategy : desk.trade.strategy = .trendPullback) (decided : decides desk input = true)
    (priced : PricedA desk input) : Undertakes desk (evaluateActiveTrade desk input) := by
  have continues := continues_reconciled desk input
  have same := continues.trade.toSameTrade
  have follows (found : DecidedA (reconciled desk input).1.trade (usable desk input).toExitInput) :
      Undertakes desk (evaluateByStrategy (reconciled desk input).1 (usable desk input)) := by
    unfold evaluateByStrategy
    rw [same.strategy, strategy]
    have undertakes := undertakes_evaluateStrategyA (same.mode.trans live)
      (same.strategy.trans strategy) found
    exact ⟨same.trans undertakes.trade, undertakes.decided,
      undertakes.t1Orders.trans continues.t1Orders⟩
  rw [evaluateActiveTrade_eq]
  rcases decidedA_reconciled strategy decided priced with waits | ⟨ready, found⟩
  · split
    · exact follows (.inl (continues.trade.still_undertaken waits))
    · exact continues.undertakes waits
  · rw [if_pos ready]
    exact follows found

theorem sellsAll_cycleA (live : desk.trade.mode = .live) (filled : 0 < desk.trade.filledQuantity)
    (strategy : desk.trade.strategy = .trendPullback) (decided : decides desk input = true)
    (priced : PricedA desk input) (valid : input.quote.valid = true) (quiet : Quiet desk)
    (isOpen : ¬Ended (evaluateActiveTrade desk input).trade) :
    SellsAll desk (evaluateActiveTrade desk input) := by
  have carried := (continues_reconciled desk input).trade
  have found := decidedA_reconciled strategy decided priced
  have goesOn : GoesOn desk ∨ (reconciled desk input).2 = true := by
    refine found.imp (fun waits => ?_) And.left
    obtain ⟨reason, pending, -⟩ := exists_reason_of_undertaken waits
    exact .inl (by rw [pending]; rfl)
  refine sellsAll_of_quiet live filled quiet goesOn valid (fun _ => ?_) isOpen
  unfold evaluateByStrategy
  rw [carried.strategy, strategy]
  refine carriesOut_evaluateStrategyA (carried.mode.trans live) (carried.strategy.trans strategy)
    (found.elim (fun waits => .inl (carried.still_undertaken waits)) And.right) valid fun pending => ?_
  unfold PricedA at priced
  rw [if_pos pending] at priced
  exact priced quiet valid

theorem candidateRuntime_reconciled :
    candidateRuntime (reconciled desk input).1.trade (usable desk input) =
      candidateRuntime desk.trade input := by
  have same := (continues_reconciled desk input).trade.toSameTrade
  unfold candidateRuntime
  rw [same.strategy, same.signalId]
  rfl

theorem evaluateByStrategy_of_rowD (strategy : desk.trade.strategy = .srMomentumBreakout) :
    evaluateByStrategy (reconciled desk input).1 (usable desk input) =
      match candidateRuntime desk.trade input with
      | none => (reconciled desk input).1
      | some row => settleRow (reconciled desk input).1 (usable desk input).toExitInput row := by
  have same := (continues_reconciled desk input).trade.toSameTrade
  unfold evaluateByStrategy
  rw [same.strategy, strategy]
  unfold evaluateCandidate
  have read : candidateRuntime (reconciled desk input).1.trade (usable desk input) =
      candidateRuntime desk.trade input := candidateRuntime_reconciled
  cases found : candidateRuntime desk.trade input with
  | none | some => simp only [read, found]

section

variable (live : desk.trade.mode = .live)

include live

theorem t1Orders_cycleD (strategy : desk.trade.strategy = .srMomentumBreakout)
    (followed : FollowedD desk input) :
    t1Orders (evaluateActiveTrade desk input) = t1Orders desk := by
  have continues := continues_reconciled desk input
  rw [evaluateActiveTrade_eq]
  split
  · rename_i ready
    have notDue := followed.1 ready
    rw [evaluateByStrategy_of_rowD strategy]
    cases runtime : candidateRuntime desk.trade input with
    | none => exact continues.t1Orders
    | some row =>
      rw [runtime, Option.all_some, Bool.not_eq_true'] at notDue
      exact (t1Orders_settleRow (continues.trade.mode.trans live) notDue).trans continues.t1Orders
  · exact continues.t1Orders

theorem sellsAll_cycleD (filled : 0 < desk.trade.filledQuantity)
    (strategy : desk.trade.strategy = .srMomentumBreakout) (followed : FollowedD desk input)
    (valid : input.quote.valid = true) (quiet : Quiet desk)
    (isOpen : ¬Ended (evaluateActiveTrade desk input).trade) :
    SellsAll desk (evaluateActiveTrade desk input) := by
  have same := (continues_reconciled desk input).trade.toSameTrade
  obtain ⟨goesOn, exits⟩ := followed.2 quiet valid
  refine sellsAll_of_quiet live filled quiet (.inl goesOn) valid (fun ready => ?_) isOpen
  have notDue := followed.1 ready
  rw [evaluateByStrategy_of_rowD strategy]
  obtain ⟨row, runtime, rowExits⟩ := (Option.any_eq_true _ _).mp exits
  obtain ⟨reason, decides, sent⟩ := (Option.any_eq_true _ _).mp rowExits
  rw [runtime, Option.all_some, Bool.not_eq_true'] at notDue
  rw [runtime]
  exact carriesOut_settleRow (same.mode.trans live) decides (Bool.not_eq_true' _ ▸ sent) notDue

theorem sameTrade_cycle
    (strategy : desk.trade.strategy = .trendPullback ∨ desk.trade.strategy = .srMomentumBreakout) :
    SameTrade desk.trade (evaluateActiveTrade desk input).trade := by
  have same := (continues_reconciled desk input).trade.toSameTrade
  have isLive := same.mode.trans live
  rw [evaluateActiveTrade_eq]
  split
  · refine same.trans ?_
    rcases strategy with ofA | ofD
    · unfold evaluateByStrategy
      rw [same.strategy, ofA]
      exact sameTrade_evaluateStrategyA (usable desk input).toExitInput isLive
    · rw [evaluateByStrategy_of_rowD ofD]
      split
      · exact .refl _
      · exact sameTrade_settleRow (usable desk input).toExitInput isLive _
  · exact same

end

end Cycle

/-- A live position of Strategy A or D; what was decided for Strategy A waits to be sent. -/
structure Sound (course : ExitCourse) : Prop where
  live : course.desk.trade.mode = .live
  filled : 0 < course.desk.trade.filledQuantity
  strategy : course.desk.trade.strategy = .trendPullback ∨
    course.desk.trade.strategy = .srMomentumBreakout
  waits : course.decided = true → course.desk.trade.strategy = .trendPullback →
    undertaken course.desk.trade = true

variable {course : ExitCourse}

theorem Sound.decides {input : EvaluationInput} (sound : Sound course)
    (strategy : course.desk.trade.strategy = .trendPullback)
    (decided : course.isDecided input = true) : decides course.desk input = true := by
  unfold isDecided at decided
  rw [Bool.or_eq_true] at decided
  rcases decided with before | now
  · unfold LiveExit.decides
    rw [sound.waits before strategy, Bool.true_or]
  · exact now

theorem Sound.step (sound : Sound course) {move : ExitMove} (unhindered : Unhindered course move) :
    Sound (course.step move) := by
  cases move with
  | report orders => exact ⟨sound.live, sound.filled, sound.strategy, sound.waits⟩
  | cycle input =>
    have same : SameTrade course.desk.trade (course.step (.cycle input)).desk.trade :=
      sameTrade_cycle sound.live sound.strategy
    refine ⟨same.mode.trans sound.live, same.filledQuantity.symm ▸ sound.filled,
      same.strategy.symm ▸ sound.strategy, fun decided strategy => ?_⟩
    have ofA := same.strategy.symm.trans strategy
    have priced := unhindered decided
    rw [if_pos ofA] at priced
    exact (undertakes_cycleA sound.live ofA (sound.decides ofA decided) priced).decided

theorem Sound.neverStarved (sound : Sound course) {move : ExitMove}
    (unhindered : Unhindered course move) : NeverStarved course move := by
  cases move with
  | report orders => trivial
  | cycle input =>
    intro decided
    have admitted := unhindered decided
    split at admitted
    · rename_i ofA
      have decides := sound.decides ofA decided
      exact ⟨(undertakes_cycleA sound.live ofA decides admitted).t1Orders, fun valid quiet isOpen =>
        sellsAll_cycleA sound.live sound.filled ofA decides admitted valid quiet isOpen⟩
    · rename_i notA
      have ofD := sound.strategy.resolve_left notA
      exact ⟨t1Orders_cycleD sound.live ofD admitted, fun valid quiet isOpen =>
        sellsAll_cycleD sound.live sound.filled ofD admitted valid quiet isOpen⟩

/-- In every run of a live position of Strategy A or D in which nothing comes before a decided exit,
the exit is never starved. -/
theorem decided_exit_is_never_starved (desk : ExitDesk) (moves : List ExitMove)
    (live : desk.trade.mode = .live) (filled : 0 < desk.trade.filledQuantity)
    (strategy : desk.trade.strategy = .trendPullback ∨
      desk.trade.strategy = .srMomentumBreakout)
    (unhindered : Run.Along step Unhindered ⟨desk, false⟩ moves) :
    Run.Along step NeverStarved ⟨desk, false⟩ moves :=
  Run.Along.of_invariant (fun _ _ sound admitted => Sound.step sound admitted)
    (fun _ _ sound admitted => Sound.neverStarved sound admitted)
    ⟨live, filled, strategy, nofun⟩ unhindered

/-! ### A first target that keeps expiring -/

/-- Two lots that are protected by a stop; one is due at the first target. -/
def twoLots (strategy : StrategyName) : ManagedTrade :=
  { ManagedTrade.entered "trade" .live strategy .bullish 130 65 0 24000 100 23900 75 with
    signalId := some "signal"
    filledQuantity := 130
    state := .profitLocked
    t1Reached := true
    t1ExitQuantity := 65
    t1ExitPending := true
    protectiveStopOrderId := some "stop" }

def stopReported (status : OrderState) : SellOrder where
  orderId := "stop"
  kind := .protective
  quantity := 130
  price := 67
  status
  brokerOrderId := some "broker-stop"

/-- A cycle with a bid of 90 and the futures at a price; the lifecycle of Strategy D was stopped. -/
def cycleAt (orderId : String) (futuresPrice : ℚ) : EvaluationInput where
  now := 0
  features := { timestamp := 0, spotPrice := 24000, futuresPrice }
  quote := ⟨"VALID", 90, 91⟩
  manager := .defaults fun _ => ""
  costs := .standard
  protection := ⟨10, 2, 5000000, 3⟩
  orderId
  placedStatus := .open
  brokerOrderId := some orderId
  gateway := some .success
  strategyDStatus :=
    { activeExecutionTrade :=
        some { signalId := "signal", underlyingExitReason := some "STRUCTURAL_STOP" } }

/-- The stop of a position is hit, its stop is cancelled, and it is sold. -/
def stopThenSale : List ExitMove :=
  [.cycle (cycleAt "first" 23890), .report [stopReported .cancelled],
    .cycle (cycleAt "second" 24010)]

theorem stopped_trade_is_sold :
    Run.Along step NeverStarved ⟨⟨twoLots .trendPullback, [stopReported .open]⟩, false⟩
      stopThenSale :=
  decided_exit_is_never_starved ⟨twoLots .trendPullback, [stopReported .open]⟩ stopThenSale rfl
    (by decide) (.inl rfl) (by decide +kernel)

/-- While the lifecycle of Strategy D is stopped, the stop at the broker is cancelled, and one lot is
sold for the first target. -/
theorem partial_exit_starves_decided_exit :
    ¬∀ (desk : ExitDesk) (moves : List ExitMove), desk.trade.mode = .live →
      0 < desk.trade.filledQuantity →
      (desk.trade.strategy = .trendPullback ∨ desk.trade.strategy = .srMomentumBreakout) →
      Run.Along step NeverStarved ⟨desk, false⟩ moves := by
  intro starves
  have along := starves ⟨twoLots .srMomentumBreakout, [stopReported .open]⟩ stopThenSale rfl
    (by decide) (.inr rfl)
  have second := along.2.2.1
  exact absurd (second (by decide +kernel)).1 (by decide +kernel)

end ExitCourse

end BreezeTrading.LiveExit
