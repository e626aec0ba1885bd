/-
This file says what the handling of the orders of a live position leaves alone. Reconciling its
orders and cancelling its stop keep the trade the one it was, do not forget an exit that was
decided, and create no order for the first target. Neither does a final sale, after which the exit
stays decided.
-/

import BreezeTrading.Strategy.ActiveTradeEvaluation

namespace BreezeTrading.LiveExit

/-! ### What is kept -/

/-- What no evaluation changes of a trade. -/
structure SameTrade (before after : ManagedTrade) : Prop where
  mode : after.mode = before.mode
  strategy : after.strategy = before.strategy
  filledQuantity : after.filledQuantity = before.filledQuantity
  signalId : after.signalId = before.signalId

/-- The reason of an exit that the failures of the stop decide. -/
def stopUnavailable : String := "BROKER_PROTECTIVE_STOP_UNAVAILABLE"

/-- A trade goes on as the one it was, and an exit that was decided stays so. -/
structure Carries (before after : ManagedTrade) : Prop extends SameTrade before after where
  reason : after.pendingExitReason = before.pendingExitReason ∨
    after.pendingExitReason = some stopUnavailable

/-- The sales of the first target. -/
def t1Orders (desk : ExitDesk) : List SellOrder :=
  desk.orders.filter fun order => decide (order.kind = .t1)

/-- A position goes on, and nothing was sold for the first target. -/
structure Continues (before after : ExitDesk) : Prop where
  trade : Carries before.trade after.trade
  t1Orders : t1Orders after = t1Orders before

theorem SameTrade.refl (trade : ManagedTrade) : SameTrade trade trade := ⟨rfl, rfl, rfl, rfl⟩

theorem SameTrade.trans {first second third : ManagedTrade} (left : SameTrade first second)
    (right : SameTrade second third) : SameTrade first third where
  mode := right.mode.trans left.mode
  strategy := right.strategy.trans left.strategy
  filledQuantity := right.filledQuantity.trans left.filledQuantity
  signalId := right.signalId.trans left.signalId

namespace Carries

theorem of_eq {before after : ManagedTrade} (same : SameTrade before after)
    (reason : after.pendingExitReason = before.pendingExitReason) : Carries before after :=
  ⟨same, .inl reason⟩

theorem refl (trade : ManagedTrade) : Carries trade trade := of_eq (.refl trade) rfl

theorem trans {first second third : ManagedTrade} (left : Carries first second)
    (right : Carries second third) : Carries first third where
  toSameTrade := left.toSameTrade.trans right.toSameTrade
  reason := by
    rcases right.reason with same | unavailable
    · rw [same]
      exact left.reason
    · exact .inr unavailable

end Carries

namespace Continues

theorem refl (desk : ExitDesk) : Continues desk desk := ⟨.refl desk.trade, rfl⟩

theorem trans {first second third : ExitDesk} (left : Continues first second)
    (right : Continues second third) : Continues first third :=
  ⟨left.trade.trans right.trade, right.t1Orders.trans left.t1Orders⟩

theorem of_trade {desk : ExitDesk} {trade : ManagedTrade} (carries : Carries desk.trade trade) :
    Continues desk { desk with trade } := ⟨carries, rfl⟩

end Continues

section Operations

variable (desk : ExitDesk) (input : ExitInput) (trade : ManagedTrade)

theorem continues_closeTrade (price : ℚ) (reason : Option String) :
    Continues desk (closeTrade desk input price reason) :=
  .of_trade (.of_eq ⟨rfl, rfl, rfl, rfl⟩ rfl)

theorem t1Orders_createOrder {kind : SellKind} (other : kind ≠ .t1) (quantity : Int) (price : ℚ)
    (triggerPrice : Option ℚ) :
    t1Orders (createOrder desk input kind quantity price triggerPrice) = t1Orders desk := by
  simp [t1Orders, createOrder, other]

/-! ### The stop held at the broker -/

theorem carries_recordProtectiveStopFailure (protection : ProtectionConfig) (stateUnknown : Bool) :
    Carries trade (recordProtectiveStopFailure trade protection stateUnknown).1 := by
  unfold recordProtectiveStopFailure
  dsimp only
  split
  · exact ⟨⟨rfl, rfl, rfl, rfl⟩, .inr rfl⟩
  · exact .of_eq ⟨rfl, rfl, rfl, rfl⟩ rfl

theorem continues_stateUnknown : Continues desk (stateUnknown desk input) :=
  .of_trade (carries_recordProtectiveStopFailure desk.trade input.protection true)

variable (order : SellOrder)

theorem carries_applyProtectiveProgress : Carries trade (applyProtectiveProgress trade order) := by
  unfold applyProtectiveProgress
  dsimp only
  split
  · split
    · exact .of_eq ⟨rfl, rfl, rfl, rfl⟩ rfl
    · exact .refl trade
  · exact .refl trade

theorem continues_placeProtectiveStop : Continues desk (placeProtectiveStop desk input).1 := by
  unfold placeProtectiveStop
  dsimp only
  split
  · exact .refl desk
  · have other : SellKind.protective ≠ .t1 := by decide
    exact ⟨.of_eq ⟨rfl, rfl, rfl, rfl⟩ rfl, t1Orders_createOrder desk input other _ _ _⟩

theorem continues_reconcileProtectiveStop (protective : SellOrder) :
    Continues desk (reconcileProtectiveStop desk input protective).1 := by
  have progressed : Continues desk
      { desk with trade := applyProtectiveProgress desk.trade protective } :=
    .of_trade (carries_applyProtectiveProgress desk.trade protective)
  unfold reconcileProtectiveStop
  dsimp only
  split
  · exact progressed.trans (continues_closeTrade _ input _ _)
  split
  · have cleared : Carries desk.trade
        (clearProtectiveStop (applyProtectiveProgress desk.trade protective)) :=
      progressed.trade.trans (.of_eq ⟨rfl, rfl, rfl, rfl⟩ rfl)
    have failed := cleared.trans
      (carries_recordProtectiveStopFailure _ input.protection false)
    split
    · exact .of_trade cleared
    split
    · exact .of_trade failed
    · exact (Continues.of_trade failed).trans (continues_placeProtectiveStop _ input)
  · refine .of_trade (progressed.trade.trans ?_)
    split
    · exact .of_eq ⟨rfl, rfl, rfl, rfl⟩ rfl
    · exact .refl _

theorem continues_syncLiveProtectiveStop :
    Continues desk (syncLiveProtectiveStop desk input).1 := by
  unfold syncLiveProtectiveStop
  dsimp only
  split
  · exact .refl desk
  split
  · exact .refl desk
  split
  · split
    · exact continues_closeTrade desk input _ _
    · exact .refl desk
  split
  · exact continues_placeProtectiveStop desk input
  split
  · exact continues_stateUnknown desk input
  · exact continues_reconcileProtectiveStop desk input _

theorem continues_requestCancel (answer : CancelAnswer) :
    Continues desk (requestCancel desk input answer) := by
  have asked : Carries desk.trade
      { desk.trade with
        protectiveStopCancelAttempts := desk.trade.protectiveStopCancelAttempts + 1
        protectiveStopCancelRequestedAt := some input.now
        protectiveStopCancelForExit := true } := .of_eq ⟨rfl, rfl, rfl, rfl⟩ rfl
  unfold requestCancel
  dsimp only
  split
  · exact (Continues.of_trade asked).trans (continues_stateUnknown _ input)
  · exact .of_trade asked

theorem continues_cancelStanding (orderId : String) :
    Continues desk (cancelStanding desk input orderId) := by
  unfold cancelStanding
  split
  · exact continues_stateUnknown desk input
  split
  · exact .refl desk
  split
  · exact continues_stateUnknown desk input
  · exact continues_requestCancel desk input _

theorem continues_cancelLiveProtectiveStopForExit :
    Continues desk (cancelLiveProtectiveStopForExit desk input).1 := by
  have synced := continues_syncLiveProtectiveStop desk input
  unfold cancelLiveProtectiveStopForExit
  split
  · exact .refl desk
  dsimp only
  split
  · exact synced
  split
  · exact synced
  split
  · split
    · exact synced
    split
    · exact synced.trans (continues_stateUnknown _ input)
    · have again : Carries (syncLiveProtectiveStop desk input).1.trade
          { (syncLiveProtectiveStop desk input).1.trade with
            protectiveStopCancelForExit := false } := .of_eq ⟨rfl, rfl, rfl, rfl⟩ rfl
      exact synced.trans ((Continues.of_trade again).trans (continues_cancelStanding _ input _))
  · exact synced.trans (continues_cancelStanding _ input _)

/-! ### Reconciliation -/

theorem carries_applyLiveT1OrderProgress (now : Int) :
    Carries trade (applyLiveT1OrderProgress trade order now) := by
  unfold applyLiveT1OrderProgress
  dsimp only
  split
  · exact .refl trade
  split
  · exact .of_eq ⟨rfl, rfl, rfl, rfl⟩ rfl
  · exact .refl trade

/-- A trade whose T1 order is over. -/
def settleT1 (order : SellOrder) (now : Int) : ManagedTrade :=
  let progressed := applyLiveT1OrderProgress trade order now
  { resetLiveT1OrderProgress progressed with
    partialExitOrderId := none
    t1ExitPending := decide (progressed.partialExitFilledQuantity < progressed.t1ExitQuantity) }

theorem carries_settleT1 (now : Int) : Carries trade (settleT1 trade order now) :=
  (carries_applyLiveT1OrderProgress trade order now).trans (.of_eq ⟨rfl, rfl, rfl, rfl⟩ rfl)

theorem syncLiveT1PartialExit_of_order {desk : ExitDesk} {orderId : String} {order : SellOrder}
    (waits : desk.trade.partialExitOrderId = some orderId)
    (known : getOrder desk.orders orderId = some order) :
    syncLiveT1PartialExit desk input =
      if order.terminal = false then
        ({ desk with trade := applyLiveT1OrderProgress desk.trade order input.now }, false)
      else if 0 < (settleT1 desk.trade order input.now).quantity then
        syncLiveProtectiveStop { desk with trade := settleT1 desk.trade order input.now } input
      else ({ desk with trade := settleT1 desk.trade order input.now }, true) := by
  unfold syncLiveT1PartialExit
  rw [waits]
  dsimp only
  rw [known]
  rfl

theorem continues_syncLiveT1PartialExit :
    Continues desk (syncLiveT1PartialExit desk input).1 := by
  cases waits : desk.trade.partialExitOrderId with
  | none =>
    unfold syncLiveT1PartialExit
    rw [waits]
    exact .refl desk
  | some orderId =>
    cases known : getOrder desk.orders orderId with
    | none =>
      unfold syncLiveT1PartialExit
      rw [waits]
      dsimp only
      rw [known]
      exact .refl desk
    | some order =>
      have settled : Continues desk
          { desk with trade := settleT1 desk.trade order input.now } :=
        .of_trade (carries_settleT1 desk.trade order input.now)
      rw [syncLiveT1PartialExit_of_order input waits known]
      split
      · exact .of_trade (carries_applyLiveT1OrderProgress desk.trade order input.now)
      split
      · exact settled.trans (continues_syncLiveProtectiveStop _ input)
      · exact settled

theorem carries_applyExitOrderProgress : Carries trade (applyExitOrderProgress trade order) := by
  unfold applyExitOrderProgress
  dsimp only
  split
  · exact .refl trade
  split
  · exact .of_eq ⟨rfl, rfl, rfl, rfl⟩ rfl
  · exact .refl trade

theorem syncExitOrder_of_order {desk : ExitDesk} {orderId : String} {order : SellOrder}
    (waits : desk.trade.exitOrderId = some orderId)
    (known : getOrder desk.orders orderId = some order) :
    syncExitOrder desk input =
      if order.status = .filled ∨
          (applyExitOrderProgress desk.trade order).quantity ≤
            (applyExitOrderProgress desk.trade order).exitFilledQuantity then
        (closeTrade { desk with trade := applyExitOrderProgress desk.trade order } input
          ((applyExitOrderProgress desk.trade order).exitProceeds /
            (applyExitOrderProgress desk.trade order).quantity)
          (applyExitOrderProgress desk.trade order).pendingExitReason, false)
      else if order.terminal then
        ({ desk with
            trade := { resetExitOrderProgress (applyExitOrderProgress desk.trade order) with
              exitOrderId := none } }, true)
      else ({ desk with trade := applyExitOrderProgress desk.trade order }, false) := by
  unfold syncExitOrder
  rw [waits]
  dsimp only
  rw [known]

theorem continues_syncExitOrder : Continues desk (syncExitOrder desk input).1 := by
  cases waits : desk.trade.exitOrderId with
  | none =>
    unfold syncExitOrder
    rw [waits]
    exact .refl desk
  | some orderId =>
    cases known : getOrder desk.orders orderId with
    | none =>
      unfold syncExitOrder
      rw [waits]
      dsimp only
      rw [known]
      exact .refl desk
    | some order =>
      have progressed := carries_applyExitOrderProgress desk.trade order
      rw [syncExitOrder_of_order input waits known]
      split
      · exact (Continues.of_trade progressed).trans (continues_closeTrade _ input _ _)
      split
      · exact .of_trade (progressed.trans (.of_eq ⟨rfl, rfl, rfl, rfl⟩ rfl))
      · exact .of_trade progressed

/-- The stop of a position, if there is one, comes first. -/
def reconcileStop : ExitDesk × Bool :=
  if desk.trade.mode = .live ∧ 0 < desk.trade.filledQuantity then syncLiveProtectiveStop desk input
  else (desk, true)

/-- The T1 order of a position comes after its stop. -/
def reconcilePartial : ExitDesk × Bool :=
  if desk.trade.mode = .live then syncLiveT1PartialExit desk input else (desk, true)

theorem reconcile_eq : reconcile desk input =
    if (reconcileStop desk input).1.trade.state = .closed ∨
        (reconcileStop desk input).2 = false then ((reconcileStop desk input).1, false)
    else if (reconcilePartial (reconcileStop desk input).1 input).1.trade.state = .closed ∨
        (reconcilePartial (reconcileStop desk input).1 input).2 = false then
      ((reconcilePartial (reconcileStop desk input).1 input).1, false)
    else syncExitOrder (reconcilePartial (reconcileStop desk input).1 input).1 input := rfl

theorem continues_reconcile : Continues desk (reconcile desk input).1 := by
  have stopped : Continues desk (reconcileStop desk input).1 := by
    unfold reconcileStop
    split
    · exact continues_syncLiveProtectiveStop desk input
    · exact .refl desk
  have reduced : Continues (reconcileStop desk input).1
      (reconcilePartial (reconcileStop desk input).1 input).1 := by
    unfold reconcilePartial
    split
    · exact continues_syncLiveT1PartialExit _ input
    · exact .refl _
  rw [reconcile_eq]
  split
  · exact stopped
  split
  · exact stopped.trans reduced
  · exact stopped.trans (reduced.trans (continues_syncExitOrder _ input))

end Operations

/-! ### The position manager -/

/-- What an update of the position manager leaves alone of a trade. -/
structure Course where
  mode : AutoTradingMode
  strategy : StrategyName
  signalId : Option String
  filledQuantity : Int
  quantity : Int
  exitFilledQuantity : Int
  pendingExitReason : Option String
  exitOrderId : Option String
  partialExitOrderId : Option String
  protectiveStopOrderId : Option String

def course (trade : ManagedTrade) : Course where
  mode := trade.mode
  strategy := trade.strategy
  signalId := trade.signalId
  filledQuantity := trade.filledQuantity
  quantity := trade.quantity
  exitFilledQuantity := trade.exitFilledQuantity
  pendingExitReason := trade.pendingExitReason
  exitOrderId := trade.exitOrderId
  partialExitOrderId := trade.partialExitOrderId
  protectiveStopOrderId := trade.protectiveStopOrderId

/-- An update follows the prices, and an open trade stays open. -/
structure Tracked (before after : ManagedTrade) : Prop where
  course : course after = course before
  stays : before.state ≠ .closed → after.state ≠ .closed

namespace Tracked

variable {before after : ManagedTrade}

theorem refl (trade : ManagedTrade) : Tracked trade trade := ⟨rfl, id⟩

theorem trans {first second third : ManagedTrade} (left : Tracked first second)
    (right : Tracked second third) : Tracked first third :=
  ⟨right.course.trans left.course, right.stays ∘ left.stays⟩

section

variable (tracked : Tracked before after)

include tracked

theorem sameTrade : SameTrade before after where
  mode := congrArg Course.mode tracked.course
  strategy := congrArg Course.strategy tracked.course
  filledQuantity := congrArg Course.filledQuantity tracked.course
  signalId := congrArg Course.signalId tracked.course

theorem reason : after.pendingExitReason = before.pendingExitReason :=
  congrArg Course.pendingExitReason tracked.course

theorem exitOrderId : after.exitOrderId = before.exitOrderId :=
  congrArg Course.exitOrderId tracked.course

theorem partialExitOrderId : after.partialExitOrderId = before.partialExitOrderId :=
  congrArg Course.partialExitOrderId tracked.course

theorem protectiveStopOrderId : after.protectiveStopOrderId = before.protectiveStopOrderId :=
  congrArg Course.protectiveStopOrderId tracked.course

theorem openQuantity : openQuantity after = openQuantity before := by
  have quantity : after.quantity = before.quantity := congrArg Course.quantity tracked.course
  have exited : after.exitFilledQuantity = before.exitFilledQuantity :=
    congrArg Course.exitFilledQuantity tracked.course
  unfold LiveExit.openQuantity
  rw [quantity, exited]

end

end Tracked

section Manager

open PositionManager

variable (manager : PositionManager) (trade : ManagedTrade) (features : MarketFeatures)

theorem tracked_protectBreakeven (entryPrice : ℚ) :
    Tracked trade (protectBreakeven manager trade entryPrice) := by
  unfold protectBreakeven
  dsimp only
  split
  · exact ⟨rfl, fun _ => nofun⟩
  · exact ⟨rfl, id⟩

theorem tracked_reachT1 (price entryPrice initialR : ℚ) :
    Tracked trade (reachT1 trade price entryPrice initialR).1 := by
  unfold reachT1
  dsimp only
  split
  · exact ⟨rfl, fun _ => nofun⟩
  · exact ⟨rfl, fun _ => nofun⟩

theorem tracked_manageTargets (price entryPrice initialR : ℚ) :
    Tracked trade (manageTargets manager trade price entryPrice initialR).1 := by
  unfold manageTargets
  split
  · exact tracked_reachT1 trade price entryPrice initialR
  split
  · exact .refl trade
  split
  · exact ⟨rfl, fun _ => nofun⟩
  · exact .refl trade

theorem tracked_updateStrategyAPosition (price : ℚ) (optionPrice : Option ℚ) (asOf : Option Int) :
    Tracked trade (updateStrategyAPosition manager trade price optionPrice asOf).1 := by
  have priced : Tracked trade (trackUnderlying trade price (optionPrice.getD 0)
      (underlyingEntry trade) (underlyingRisk trade)) := ⟨rfl, id⟩
  have stopped := priced.trans (tracked_protectBreakeven manager _ (underlyingEntry trade))
  unfold updateStrategyAPosition
  dsimp only
  split
  · exact .refl trade
  split
  · exact priced
  split
  · exact priced
  split
  · exact stopped
  · exact stopped.trans (tracked_manageTargets manager _ _ _ _)

theorem tracked_countClose (closed : Option ℚ) :
    Tracked trade (countClose trade features closed) := by
  cases closed with
  | none => exact .refl trade
  | some price => exact ⟨rfl, id⟩

theorem tracked_falseBreakout (closed : Option ℚ) :
    Tracked trade (falseBreakout manager trade features closed).1 := by
  unfold falseBreakout
  dsimp only
  split
  · split
    · exact .refl trade
    split
    · exact .refl trade
    split
    · split
      · exact ⟨rfl, id⟩
      · exact ⟨rfl, id⟩
    · exact ⟨rfl, id⟩
  · exact .refl trade

theorem tracked_checkStops (optionPrice : ℚ) (now : Int) (asOf : Option Int) :
    Tracked trade (checkStops manager trade features optionPrice now asOf).1 := by
  have followed : Tracked trade (trackR trade features) := ⟨rfl, id⟩
  have counted := followed.trans (tracked_countClose _ features (newBar trade features))
  have boxed := counted.trans (tracked_falseBreakout manager _ features (newBar trade features))
  unfold checkStops
  dsimp only
  split
  · exact counted
  split
  · rename_i outside
    rw [outside] at boxed
    exact boxed
  · rename_i inside
    rw [inside] at boxed
    exact boxed

theorem tracked_tightenByHealth (closed : ℚ) :
    Tracked trade (tightenByHealth trade features closed) := by
  unfold tightenByHealth
  split
  · exact ⟨rfl, id⟩
  split
  · exact ⟨rfl, id⟩
  · exact .refl trade

theorem tracked_trailLadder : Tracked trade (trailLadder manager trade features) := by
  unfold trailLadder
  split
  · exact ⟨rfl, fun _ => nofun⟩
  split
  · exact ⟨rfl, fun _ => nofun⟩
  split
  · exact ⟨rfl, fun _ => nofun⟩
  · exact .refl trade

theorem tracked_manageBar (closed : ℚ) :
    Tracked trade (manageBar manager trade features closed).1 := by
  have healthy : Tracked trade (scored manager trade features) := ⟨rfl, id⟩
  unfold manageBar
  dsimp only
  split
  · exact healthy
  split
  · exact healthy
  · exact healthy.trans ((tracked_tightenByHealth _ features closed).trans
      (tracked_trailLadder manager _ features))

theorem tracked_updatePosition (currentOptionPrice : Option ℚ) (now : Int) (asOf : Option Int) :
    Tracked trade (updatePosition manager trade features currentOptionPrice now asOf).1 := by
  have priced : Tracked trade (trackSpot trade features (currentOptionPrice.getD 0)) := ⟨rfl, id⟩
  have checked := priced.trans (tracked_checkStops manager _ features (currentOptionPrice.getD 0)
    now asOf)
  unfold updatePosition
  split
  · exact tracked_updateStrategyAPosition manager trade _ _ _
  dsimp only
  split
  · exact priced
  generalize checkStops manager (trackSpot trade features (currentOptionPrice.getD 0)) features
    (currentOptionPrice.getD 0) now asOf = outcome at checked ⊢
  obtain ⟨after, decided⟩ := outcome
  cases decided with
  | some reason => exact checked
  | none =>
    cases newBar trade features with
    | none => exact checked
    | some closed => exact checked.trans (tracked_manageBar manager _ features closed)

end Manager

theorem tracked_managerUpdate (trade : ManagedTrade) (input : ExitInput) :
    Tracked trade (managerUpdate trade input).1 :=
  tracked_updatePosition input.manager trade input.features _ _ _

end BreezeTrading.LiveExit
