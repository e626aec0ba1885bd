/-
This file proves when the record of an order stays consistent. The risk decision and the
reservation keep the fill fields; the broker order event overwrites them and checks only the state
transition. So every event that is written must report no smaller fill, FILLED only with the whole
quantity, and no change of a terminal order.
-/

import BreezeTrading.Pipeline.System

namespace BreezeTrading

open Async

namespace Record

/-! ### Commands -/

/-- What may happen to an order after its creation. -/
inductive Command where
  | riskDecision (payload : RiskDecision)
  | markSubmitting (orderId : String)
  | brokerOrderEvent (payload : BrokerOrderEvent)

/-- Run a command to its end; what it raises leaves the database as it is then. -/
def Command.run (world : Pipeline) : Command → Pipeline
  | .riskDecision payload =>
      ((OmsService.handleRiskDecisionEvent payload).eval Pipeline.sequential world).2
  | .markSubmitting orderId =>
      ((OmsService.markOrderSubmitting orderId).eval Pipeline.sequential world).2
  | .brokerOrderEvent payload =>
      ((OmsService.handleBrokerOrderEvent payload).eval Pipeline.sequential world).2

/-! ### What is claimed and what is needed -/

/-- The record of an order before and after a step: the quantity is split into filled and
remaining, the fill does not decrease, FILLED leaves nothing remaining, and a terminal order
does not change. -/
structure Consistent (before after : BrokerOrder) : Prop where
  quantity : after.quantity = before.quantity
  split : after.filledQuantity + after.remainingQuantity = after.quantity
  grows : before.filledQuantity ≤ after.filledQuantity
  whole : after.status = .filled → after.remainingQuantity = 0
  final : OrderStateMachine.terminal before.status = true →
    after.status = before.status ∧ after.filledQuantity = before.filledQuantity ∧
      after.remainingQuantity = before.remainingQuantity ∧
      after.averagePrice = before.averagePrice

/-- The order keeps its record and the record stays consistent from one world to the next. -/
def Keeps (clientOrderId : String) (world next : Pipeline) : Prop :=
  ∀ before, world.oms.getOrderByClientId clientOrderId = some before →
    ∃ after, next.oms.getOrderByClientId clientOrderId = some after ∧ Consistent before after

/-- The record of the order stays consistent along the commands. -/
def Stays (clientOrderId : String) : Pipeline → List Command → Prop
  | _, [] => True
  | world, command :: rest =>
      Keeps clientOrderId world (command.run world) ∧
        Stays clientOrderId (command.run world) rest

/-- The state a broker order event moves the order to. -/
def stateAfter (order : BrokerOrder) (payload : BrokerOrderEvent) : OrderState :=
  OmsService.brokerState order.status (upper payload.status) payload.filledQuantity

/-- The handler writes the event: it changes the state or the fill fields, and a change of the
state is in the table of transitions. -/
def written (order : BrokerOrder) (payload : BrokerOrderEvent) : Bool :=
  if stateAfter order payload = order.status then OmsService.fillChanged order payload
  else OrderStateMachine.canTransition order.status (stateAfter order payload)

/-- An event that is written fits the record it is written over. -/
def Fits (order : BrokerOrder) (payload : BrokerOrderEvent) : Prop :=
  written order payload = true →
    order.filledQuantity ≤ payload.filledQuantity ∧
      (stateAfter order payload = .filled → payload.filledQuantity = order.quantity) ∧
      (OrderStateMachine.terminal order.status = true →
        payload.filledQuantity = order.filledQuantity ∧
          (payload.averagePrice = 0 ∨ payload.averagePrice = order.averagePrice))

/-- Every broker order event about the order fits the record it meets. -/
def AllFit (clientOrderId : String) : Pipeline → List Command → Prop
  | _, [] => True
  | world, command :: rest =>
      (∀ payload, command = .brokerOrderEvent payload → payload.clientOrderId = clientOrderId →
        ∀ order, world.oms.getOrderByClientId clientOrderId = some order →
          Fits order payload) ∧
        AllFit clientOrderId (command.run world) rest

/-- The broker order events about the order report a fill between zero and its quantity. -/
def InRange (clientOrderId : String) (quantity : Int) (commands : List Command) : Prop :=
  ∀ payload, .brokerOrderEvent payload ∈ commands → payload.clientOrderId = clientOrderId →
    0 ≤ payload.filledQuantity ∧ payload.filledQuantity ≤ quantity

/-! ### What the handlers write -/

variable {world next : Pipeline} {clientOrderId : String} {before order : BrokerOrder}

theorem record_savedOrder {old : BrokerOrder} {order : BrokerOrder} (toState : OrderState)
    (member : old ∈ world.oms.rows) (same : old.orderId = order.orderId) (clientOrderId : String) :
    (world.savedOrder order toState).2.oms.getOrderByClientId clientOrderId =
      (world.oms.getOrderByClientId clientOrderId).map fun row =>
        if row.orderId = order.orderId then
          OrderTable.updated row { order with status := toState }
        else row := by
  obtain ⟨table, stored⟩ :=
    OrderTable.saveBrokerOrderWithTransition_of_mem toState member same
  have saved : world.savedOrder order toState = (.ok (), { world with oms := table }) := by
    unfold Pipeline.savedOrder
    rw [stored]
  rw [saved]
  refine (OrderTable.getOrderByClientId_save stored member same clientOrderId).trans ?_
  cases found : world.oms.getOrderByClientId clientOrderId with
  | none =>
    have other : old.clientOrderId ≠ clientOrderId := Stored.ne_of_find?_none found old member
    rw [if_neg other, Option.map_none]
  | some row =>
    obtain ⟨inRows, rfl⟩ := OrderTable.mem_of_getOrderByClientId found
    rw [Option.map_some]
    by_cases one : row.orderId = order.orderId
    · obtain rfl := OrderTable.eq_of_orderId inRows member (one.trans same.symm)
      rw [if_pos rfl, if_pos one]
    · have other : old.clientOrderId ≠ row.clientOrderId := fun client =>
        one (OrderTable.eq_of_clientOrderId member inRows client ▸ same)
      rw [if_neg other, if_neg one]

theorem run_brokerOrderEvent (world : Pipeline) (payload : BrokerOrderEvent) :
    Command.run world (.brokerOrderEvent payload) =
      match world.oms.getOrderByClientId payload.clientOrderId with
      | none => world
      | some order =>
          if written order payload then
            (world.savedOrder (OmsService.reconciledOrder order payload (stateAfter order payload))
              (stateAfter order payload)).2
          else world := by
  unfold Command.run OmsService.handleBrokerOrderEvent written stateAfter
  simp only
  generalize upper payload.status = brokerStatus
  rw [Coroutine.eval_perform_bind]
  have read : Pipeline.sequential world (.getOrderByClientId payload.clientOrderId) =
      (.ok (world.oms.getOrderByClientId payload.clientOrderId), world) := rfl
  rw [read]
  cases world.oms.getOrderByClientId payload.clientOrderId with
  | none => rfl
  | some order =>
    simp only
    generalize OmsService.brokerState order.status brokerStatus payload.filledQuantity = toState
    generalize OmsService.fillChanged order payload = fillChanged
    by_cases same : toState = order.status
    · subst same
      simp only [ne_eq, not_true_eq_false, decide_false, Bool.false_or, if_true,
        Bool.false_eq_true, if_false]
      cases fillChanged
      · rfl
      · simp only [if_true, Coroutine.eval_ofExcept_bind, Coroutine.eval_perform]
        rfl
    · simp only [same, ne_eq, not_false_eq_true, decide_true, Bool.true_or, if_true, if_false,
        Coroutine.eval_ofExcept_bind, OrderStateMachine.validateTransition]
      cases OrderStateMachine.canTransition order.status toState
      · rfl
      · simp only [if_true, Coroutine.eval_perform]
        rfl

theorem record_brokerOrderEvent (world : Pipeline) (payload : BrokerOrderEvent)
    (clientOrderId : String) :
    (Command.run world (.brokerOrderEvent payload)).oms.getOrderByClientId clientOrderId =
      (world.oms.getOrderByClientId clientOrderId).map fun order =>
        if payload.clientOrderId = clientOrderId ∧ written order payload = true then
          OmsService.reconciledOrder order payload (stateAfter order payload)
        else order := by
  have target : ∀ order : BrokerOrder, order.orderId =
      (OmsService.reconciledOrder order payload (stateAfter order payload)).orderId :=
    fun _ => rfl
  rw [run_brokerOrderEvent]
  cases named : world.oms.getOrderByClientId clientOrderId with
  | none =>
    cases found : world.oms.getOrderByClientId payload.clientOrderId with
    | none => exact named
    | some order =>
      have member := (OrderTable.mem_of_getOrderByClientId found).1
      simp only
      split
      · rw [record_savedOrder _ member (target order), named]
        rfl
      · exact named
  | some row =>
    obtain ⟨inRows, rfl⟩ := OrderTable.mem_of_getOrderByClientId named
    rw [Option.map_some]
    cases found : world.oms.getOrderByClientId payload.clientOrderId with
    | none =>
      have other : payload.clientOrderId ≠ row.clientOrderId := fun same => by
        rw [same, named] at found
        cases found
      rw [if_neg fun both => other both.1]
      exact named
    | some order =>
      obtain ⟨member, client⟩ := OrderTable.mem_of_getOrderByClientId found
      by_cases same : payload.clientOrderId = row.clientOrderId
      · obtain rfl := OrderTable.eq_of_clientOrderId member inRows (client.trans same)
        simp only [same, true_and]
        split
        · rw [record_savedOrder _ member (target order), named, Option.map_some,
            if_pos (target order)]
          rfl
        · exact named
      · rw [if_neg fun both => same both.1]
        simp only
        split
        · have other : row.orderId ≠ (OmsService.reconciledOrder order payload
              (stateAfter order payload)).orderId := fun one => same
            (client.symm.trans (congrArg _ (OrderTable.eq_of_orderId member inRows one.symm)))
          rw [record_savedOrder _ member (target order), named, Option.map_some, if_neg other]
        · exact named

/-- A step that leaves the fill fields and does not report the order filled. -/
structure Moved (before after : BrokerOrder) : Prop where
  quantity : after.quantity = before.quantity
  filled : after.filledQuantity = before.filledQuantity
  remaining : after.remainingQuantity = before.remainingQuantity
  average : after.averagePrice = before.averagePrice
  status : after.status = before.status ∨
    (OrderStateMachine.terminal before.status = false ∧ after.status ≠ .filled)

theorem moved_refl (order : BrokerOrder) : Moved order order :=
  ⟨rfl, rfl, rfl, rfl, Or.inl rfl⟩

theorem moved_savedOrder {old : BrokerOrder} {order : BrokerOrder} {toState : OrderState}
    (member : old ∈ world.oms.rows) (same : old.orderId = order.orderId)
    (moved : Moved old (OrderTable.updated old { order with status := toState }))
    (found : world.oms.getOrderByClientId clientOrderId = some before) :
    ∃ after, (world.savedOrder order toState).2.oms.getOrderByClientId clientOrderId =
      some after ∧ Moved before after := by
  rw [record_savedOrder toState member same, found, Option.map_some]
  split
  · rename_i one
    obtain rfl := OrderTable.eq_of_orderId (OrderTable.mem_of_getOrderByClientId found).1 member
      (one.trans same.symm)
    exact ⟨_, rfl, moved⟩
  · exact ⟨before, rfl, moved_refl before⟩

theorem oms_save_bind {Result : Type} {fromState : Option OrderState} {toState : OrderState}
    {reason : Option String} (next : Unit → Task Result)
    (keeps : ∀ after, ((next ()).eval Pipeline.sequential after).2.oms = after.oms) :
    ((perform (.saveBrokerOrderWithTransition order fromState toState reason) >>= next).eval
      Pipeline.sequential world).2.oms = (world.savedOrder order toState).2.oms := by
  rw [Coroutine.eval_perform_bind]
  have commits : Pipeline.sequential world
      (.saveBrokerOrderWithTransition order fromState toState reason) =
        world.savedOrder order toState := rfl
  rw [commits]
  rcases world.savedOrder order toState with ⟨error | value, after⟩
  · rfl
  · exact keeps after

theorem moved_markSubmitting (orderId : String)
    (found : world.oms.getOrderByClientId clientOrderId = some before) :
    ∃ after, (Command.run world (.markSubmitting orderId)).oms.getOrderByClientId
      clientOrderId = some after ∧ Moved before after := by
  simp only [Command.run, OmsService.markOrderSubmitting]
  rw [Coroutine.eval_perform_bind]
  have read : Pipeline.sequential world (.getOrderById orderId) =
      (.ok (world.oms.getOrderById orderId), world) := rfl
  rw [read]
  cases named : world.oms.getOrderById orderId with
  | none => exact ⟨before, found, moved_refl before⟩
  | some order =>
    have member := (OrderTable.mem_of_getOrderById named).1
    simp only
    split
    · exact ⟨before, found, moved_refl before⟩
    · split
      · exact ⟨before, found, moved_refl before⟩
      · rename_i approved
        rw [not_not] at approved
        rw [approved]
        have validated : OrderStateMachine.validateTransition .approved .submitting
            "Execution reserved" = .ok () := rfl
        rw [validated, Coroutine.eval_ofExcept_bind]
        rw [oms_save_bind _ fun _ => rfl]
        have target : order.orderId = ({ order with status := .submitting } : BrokerOrder).orderId :=
          rfl
        refine moved_savedOrder member target ⟨rfl, rfl, rfl, rfl, Or.inr ?_⟩ found
        rw [approved]
        exact ⟨rfl, (by decide : OrderState.submitting ≠ .filled)⟩

theorem moved_riskDecision (payload : RiskDecision)
    (found : world.oms.getOrderByClientId clientOrderId = some before) :
    ∃ after, (Command.run world (.riskDecision payload)).oms.getOrderByClientId
      clientOrderId = some after ∧ Moved before after := by
  simp only [Command.run, OmsService.handleRiskDecisionEvent]
  rw [Coroutine.eval_perform_bind]
  have read : Pipeline.sequential world (.listOrders 50) =
      (.ok (world.oms.listOrders 50), world) := rfl
  rw [read]
  simp only
  split
  · exact ⟨before, found, moved_refl before⟩
  · rename_i order rest matching
    have member : order ∈ world.oms.rows := OrderTable.mem_of_mem_listOrders
      (List.mem_of_mem_filter (matching ▸ List.mem_cons_self :
        order ∈ (world.oms.listOrders 50).filter _))
    split
    · exact ⟨before, found, moved_refl before⟩
    · rename_i validating
      rw [not_not] at validating
      rw [Coroutine.eval_ofExcept_bind]
      split
      · rw [oms_save_bind _ fun after => by split <;> rfl]
        have target : order.orderId = ({ order with
            status := if payload.approved then OrderState.approved else .riskRejected
            statusMessage := payload.reason } : BrokerOrder).orderId := rfl
        refine moved_savedOrder member target ⟨rfl, rfl, rfl, rfl, Or.inr ?_⟩ found
        rw [validating]
        refine ⟨rfl, ?_⟩
        show (if payload.approved then OrderState.approved else .riskRejected) ≠ .filled
        split <;> decide
      · exact ⟨before, found, moved_refl before⟩

/-! ### One step -/

/-- A record in which the quantity is split and FILLED leaves nothing remaining. -/
structure Proper (order : BrokerOrder) : Prop where
  split : order.filledQuantity + order.remainingQuantity = order.quantity
  whole : order.status = .filled → order.remainingQuantity = 0

theorem Consistent.proper {after : BrokerOrder} (consistent : Consistent before after) :
    Proper after :=
  ⟨consistent.split, consistent.whole⟩

theorem consistent_of_moved {after : BrokerOrder} (proper : Proper before)
    (moved : Moved before after) : Consistent before after where
  quantity := moved.quantity
  split := by rw [moved.filled, moved.remaining, moved.quantity, proper.split]
  grows := le_of_eq moved.filled.symm
  whole filled := by
    rw [moved.remaining]
    rcases moved.status with same | ⟨-, other⟩
    · exact proper.whole (same ▸ filled)
    · exact absurd filled other
  final terminal := by
    rcases moved.status with same | ⟨running, -⟩
    · exact ⟨same, moved.filled, moved.remaining, moved.average⟩
    · rw [running] at terminal
      cases terminal

theorem stateAfter_of_terminal {payload : BrokerOrderEvent}
    (isWritten : written order payload = true)
    (terminal : OrderStateMachine.terminal order.status = true) :
    stateAfter order payload = order.status := by
  unfold written at isWritten
  split at isWritten
  · assumption
  · have member := of_decide_eq_true isWritten
    rw [List.isEmpty_iff.mp terminal] at member
    cases member

theorem orNumber_eq_right_iff (number other : ℚ) :
    orNumber number other = other ↔ number = 0 ∨ number = other := by
  unfold orNumber
  split
  · rename_i zero
    exact ⟨fun _ => Or.inl zero, fun _ => rfl⟩
  · rename_i nonzero
    exact ⟨Or.inr, fun either => either.resolve_left nonzero⟩

theorem consistent_reconciled_iff {payload : BrokerOrderEvent}
    (range : 0 ≤ payload.filledQuantity ∧ payload.filledQuantity ≤ order.quantity)
    (proper : Proper order) (isWritten : written order payload = true) :
    Consistent order (OmsService.reconciledOrder order payload (stateAfter order payload)) ↔
      Fits order payload := by
  have remaining : max 0 (order.quantity - payload.filledQuantity) =
      order.quantity - payload.filledQuantity := by omega
  have status : (OmsService.reconciledOrder order payload (stateAfter order payload)).status =
      stateAfter order payload := rfl
  constructor
  · intro consistent _
    refine ⟨consistent.grows, fun filled => ?_, fun terminal => ?_⟩
    · have nothing : max 0 (order.quantity - payload.filledQuantity) = 0 :=
        consistent.whole (status.trans filled)
      omega
    · obtain ⟨-, filled, -, average⟩ := consistent.final terminal
      exact ⟨filled, (orNumber_eq_right_iff _ _).mp average⟩
  · intro fits
    obtain ⟨grows, whole, final⟩ := fits isWritten
    have split := proper.split
    refine ⟨rfl, ?_, grows, fun filled => ?_, fun terminal => ?_⟩
    · show payload.filledQuantity + max 0 (order.quantity - payload.filledQuantity) =
        order.quantity
      omega
    · show max 0 (order.quantity - payload.filledQuantity) = 0
      have complete := whole (status.symm.trans filled)
      omega
    · obtain ⟨filled, average⟩ := final terminal
      refine ⟨status.trans (stateAfter_of_terminal isWritten terminal), filled, ?_,
        (orNumber_eq_right_iff _ _).mpr average⟩
      show max 0 (order.quantity - payload.filledQuantity) = order.remainingQuantity
      omega

section

variable (found : world.oms.getOrderByClientId clientOrderId = some order) (proper : Proper order)

include found proper

theorem keeps_iff {command : Command} (range : InRange clientOrderId order.quantity [command]) :
    Keeps clientOrderId world (command.run world) ↔
      ∀ payload, command = .brokerOrderEvent payload → payload.clientOrderId = clientOrderId →
        ∀ before, world.oms.getOrderByClientId clientOrderId = some before →
          Fits before payload := by
  have kept : (∃ after, (command.run world).oms.getOrderByClientId clientOrderId = some after ∧
      Moved order after) → Keeps clientOrderId world (command.run world) := by
    rintro ⟨after, foundAfter, moved⟩ before foundBefore
    obtain rfl := Option.some.inj (found.symm.trans foundBefore)
    exact ⟨after, foundAfter, consistent_of_moved proper moved⟩
  cases command with
  | riskDecision payload =>
    exact iff_of_true (kept (moved_riskDecision payload found)) (by nofun)
  | markSubmitting orderId =>
    exact iff_of_true (kept (moved_markSubmitting orderId found)) (by nofun)
  | brokerOrderEvent payload =>
    have record := record_brokerOrderEvent world payload clientOrderId
    rw [found, Option.map_some] at record
    by_cases both : payload.clientOrderId = clientOrderId ∧ written order payload = true
    · rw [if_pos both] at record
      obtain ⟨same, isWritten⟩ := both
      have fits := consistent_reconciled_iff (range payload List.mem_cons_self same) proper
        isWritten
      constructor
      · intro keeps other equal _ before foundBefore
        obtain rfl := Command.brokerOrderEvent.inj equal
        obtain rfl := Option.some.inj (found.symm.trans foundBefore)
        obtain ⟨after, foundAfter, consistent⟩ := keeps order found
        obtain rfl := Option.some.inj (record.symm.trans foundAfter)
        exact fits.mp consistent
      · intro fitting before foundBefore
        obtain rfl := Option.some.inj (found.symm.trans foundBefore)
        exact ⟨_, record, fits.mpr (fitting payload rfl same order found)⟩
    · rw [if_neg both] at record
      refine iff_of_true (kept ⟨order, record, moved_refl order⟩) ?_
      intro other equal same before foundBefore isWritten
      obtain rfl := Command.brokerOrderEvent.inj equal
      obtain rfl := Option.some.inj (found.symm.trans foundBefore)
      exact absurd ⟨same, isWritten⟩ both

/-! ### Runs -/

theorem stays_iff_allFit {commands : List Command}
    (range : InRange clientOrderId order.quantity commands) :
    Stays clientOrderId world commands ↔ AllFit clientOrderId world commands := by
  induction commands generalizing world order with
  | nil => exact Iff.rfl
  | cons command rest inductionHypothesis =>
    have first := keeps_iff found proper fun payload member =>
      range payload (List.mem_singleton.mp member ▸ List.mem_cons_self)
    have tail : Keeps clientOrderId world (command.run world) →
        (Stays clientOrderId (command.run world) rest ↔
          AllFit clientOrderId (command.run world) rest) := by
      intro keeps
      obtain ⟨after, foundAfter, consistent⟩ := keeps order found
      refine inductionHypothesis foundAfter consistent.proper fun payload member same => ?_
      rw [consistent.quantity]
      exact range payload (List.mem_cons_of_mem _ member) same
    constructor
    · rintro ⟨keeps, stays⟩
      exact ⟨first.mp keeps, (tail keeps).mp stays⟩
    · rintro ⟨fits, allFit⟩
      have keeps := first.mpr fits
      exact ⟨keeps, (tail keeps).mpr allFit⟩

end

/-! ### Whatever the broker reports -/

/-- What no command changes: the quantity, a terminal status, and that nothing negative remains. -/
structure Lasting (before after : BrokerOrder) : Prop where
  quantity : after.quantity = before.quantity
  final : OrderStateMachine.terminal before.status = true → after.status = before.status
  remaining : 0 ≤ before.remainingQuantity → 0 ≤ after.remainingQuantity

theorem Lasting.trans {first second third : BrokerOrder} (left : Lasting first second)
    (right : Lasting second third) : Lasting first third where
  quantity := right.quantity.trans left.quantity
  final terminal := by
    have same := left.final terminal
    exact (right.final (same ▸ terminal)).trans same
  remaining nonneg := right.remaining (left.remaining nonneg)

/-- The order stays on record, and its record is lasting. -/
def Lasts (clientOrderId : String) (world next : Pipeline) : Prop :=
  ∀ before, world.oms.getOrderByClientId clientOrderId = some before →
    ∃ after, next.oms.getOrderByClientId clientOrderId = some after ∧ Lasting before after

theorem Moved.lasting {after : BrokerOrder} (moved : Moved before after) :
    Lasting before after where
  quantity := moved.quantity
  final terminal := moved.status.resolve_right fun running =>
    Bool.noConfusion (running.1.symm.trans terminal)
  remaining nonneg := moved.remaining ▸ nonneg

theorem lasts_run (command : Command) : Lasts clientOrderId world (command.run world) := by
  intro before found
  cases command with
  | riskDecision payload =>
    obtain ⟨after, foundAfter, moved⟩ := moved_riskDecision payload found
    exact ⟨after, foundAfter, moved.lasting⟩
  | markSubmitting orderId =>
    obtain ⟨after, foundAfter, moved⟩ := moved_markSubmitting orderId found
    exact ⟨after, foundAfter, moved.lasting⟩
  | brokerOrderEvent payload =>
    refine ⟨_, by rw [record_brokerOrderEvent, found]; rfl, ?_⟩
    dsimp only
    split_ifs with both
    · exact ⟨rfl, stateAfter_of_terminal both.2, fun _ => le_max_left _ _⟩
    · exact (moved_refl before).lasting

theorem oms_savedIntent {intent : OrderIntent} (saved : world.savedIntent intent = (.ok (), next)) :
    next.oms = world.oms := by
  unfold Pipeline.savedIntent at saved
  split at saved
  · cases saved
  · obtain ⟨-, rfl⟩ := Prod.mk.inj saved
    rfl

theorem mem_savedOrder {toState : OrderState} (fresh : world.oms.getOrderById order.orderId = none)
    (saved : world.savedOrder order toState = (.ok (), next)) :
    { order with status := toState } ∈ next.oms.rows := by
  unfold Pipeline.savedOrder at saved
  split at saved
  · rename_i table stored
    obtain ⟨-, rfl⟩ := Prod.mk.inj saved
    exact OrderTable.getOrderByClientId_insert stored fresh
  · cases saved

theorem record_createOrderIntent {intent : OrderIntent} {orderId : String} {now : Int}
    (fresh : world.oms.getOrderById orderId = none) (created : (OmsService.createOrderIntent intent
      orderId clientOrderId now).eval Pipeline.sequential world = (.ok order, next)) :
    next.oms.getOrderByClientId clientOrderId =
      some { OmsService.newOrder intent orderId clientOrderId now with status := .validating } := by
  unfold OmsService.createOrderIntent at created
  rw [Coroutine.eval_perform_bind] at created
  have savesIntent : Pipeline.sequential world (.saveOrderIntent intent) =
      world.savedIntent intent := rfl
  rw [savesIntent] at created
  rcases saved : world.savedIntent intent with ⟨error | value, first⟩ <;> rw [saved] at created
  · cases created
  simp only at created
  rw [Coroutine.eval_perform_bind] at created
  have inserts : ∀ order reason, Pipeline.sequential first
      (.saveBrokerOrderWithTransition order none .created reason) =
        first.savedOrder order .created := fun _ _ => rfl
  rw [inserts] at created
  rcases inserted : first.savedOrder (OmsService.newOrder intent orderId clientOrderId now)
    .created with ⟨error | value, second⟩ <;> rw [inserted] at created
  · cases created
  simp only at created
  have validated : OrderStateMachine.validateTransition .created .validating "" = .ok () := rfl
  rw [validated, Coroutine.eval_ofExcept_bind] at created
  have member : OmsService.newOrder intent orderId clientOrderId now ∈ second.oms.rows := by
    refine mem_savedOrder ?_ inserted
    rw [oms_savedIntent saved]
    exact fresh
  have written := congrArg (fun pair => pair.2.oms) created
  rw [oms_save_bind _ fun _ => rfl] at written
  rw [← written]
  have target : (OmsService.newOrder intent orderId clientOrderId now).orderId =
      ({ OmsService.newOrder intent orderId clientOrderId now with
        status := .validating } : BrokerOrder).orderId := rfl
  rw [record_savedOrder .validating member target,
    show second.oms.getOrderByClientId clientOrderId = some
      (OmsService.newOrder intent orderId clientOrderId now) from
        OrderTable.getOrderByClientId_of_mem member, Option.map_some, if_pos target]
  rfl

end Record

open Record in
/-- For every order that `create_order_intent` creates, and every sequence of risk decisions,
reservations and broker order events with fills between zero and the order's quantity: the
record stays consistent exactly when every event about the order fits the record it meets. -/
theorem record_stays_consistent_iff (world next : Pipeline) (intent : OrderIntent)
    (orderId clientOrderId : String) (now : Int) (order : BrokerOrder)
    (fresh : world.oms.getOrderById orderId = none)
    (created : (OmsService.createOrderIntent intent orderId clientOrderId now).eval
      Pipeline.sequential world = (.ok order, next))
    (commands : List Command) (range : InRange clientOrderId intent.quantity commands) :
    Stays clientOrderId next commands ↔ AllFit clientOrderId next commands :=
  stays_iff_allFit (record_createOrderIntent fresh created)
    ⟨zero_add _, fun filled => nomatch filled⟩ range

namespace Record

/-! ### Runs of one order -/

def entryIntent : OrderIntent where
  intentId := "intent-1"
  correlationId := "correlation-1"
  strategyInstanceId := none
  instrumentId := "INST-NIFTY-2026-01-29-25000-CE"
  symbol := "NIFTY"
  side := .buy
  orderType := .limit
  quantity := 75
  price := 100
  triggerPrice := none
  tradingMode := .live
  reduceOnly := false
  createdAt := 0

/-- A broker report about the order. -/
def report (status : String) (filledQuantity : Int) : Command :=
  .brokerOrderEvent ⟨"CL-1", some "broker-1", status, filledQuantity, 100, none⟩

/-- The order is approved, reserved and reported partially filled. -/
def partialFill : List Command :=
  [.riskDecision ⟨"intent-1", true, none⟩, .markSubmitting "order-1",
    report "PARTIALLY_FILLED" 50]

/-- The world after the creation of the order. -/
def createdWorld : Pipeline :=
  ((OmsService.createOrderIntent entryIntent "order-1" "CL-1" 0).eval Pipeline.sequential
    .initial).2

theorem created_createdWorld :
    (OmsService.createOrderIntent entryIntent "order-1" "CL-1" 0).eval Pipeline.sequential
      .initial = (.ok { OmsService.newOrder entryIntent "order-1" "CL-1" 0 with
        status := .validating }, createdWorld) := rfl

theorem inRange_partialFill_append (status : String) {filledQuantity : Int}
    (range : 0 ≤ filledQuantity ∧ filledQuantity ≤ 75) :
    InRange "CL-1" 75 (partialFill ++ [report status filledQuantity]) := by
  intro payload member _
  simp only [partialFill, report, List.cons_append, List.nil_append, List.mem_cons,
    List.not_mem_nil, reduceCtorEq, Command.brokerOrderEvent.injEq, or_false, false_or] at member
  rcases member with rfl | rfl
  · exact ⟨by decide, by decide⟩
  · exact range

end Record

open Record in
/-- A late report with a smaller fill is written over the record. -/
theorem record_fill_decreases :
    ¬ ∀ (world next : Pipeline) (intent : OrderIntent) (orderId clientOrderId : String)
      (now : Int) (order : BrokerOrder), world.oms.getOrderById orderId = none →
      (OmsService.createOrderIntent intent orderId clientOrderId now).eval
        Pipeline.sequential world = (.ok order, next) →
      ∀ commands : List Command, InRange clientOrderId intent.quantity commands →
        Stays clientOrderId next commands := by
  intro always
  obtain ⟨-, -, -, keeps, -⟩ := always .initial createdWorld entryIntent "order-1" "CL-1" 0 _ rfl
    created_createdWorld (partialFill ++ [report "PARTIALLY_FILLED" 20])
    (inRange_partialFill_append "PARTIALLY_FILLED" (by decide))
  have fifty : ((partialFill.foldl Command.run createdWorld).oms.getOrderByClientId "CL-1").map
      BrokerOrder.filledQuantity = some 50 := by decide +kernel
  have twenty : (((partialFill ++ [report "PARTIALLY_FILLED" 20]).foldl Command.run
      createdWorld).oms.getOrderByClientId "CL-1").map BrokerOrder.filledQuantity = some 20 := by
    decide +kernel
  obtain ⟨before, found, filled⟩ := Option.map_eq_some_iff.mp fifty
  obtain ⟨after, foundAfter, consistent⟩ := keeps before found
  obtain ⟨after', foundAfter', filled'⟩ := Option.map_eq_some_iff.mp twenty
  obtain rfl := Option.some.inj (foundAfter.symm.trans foundAfter')
  have grows := consistent.grows
  omega

open Record in
/-- The order is reported partially filled and then filled. -/
theorem record_stays_consistent_filled :
    Stays "CL-1" createdWorld (partialFill ++ [report "FILLED" 75]) ↔
      AllFit "CL-1" createdWorld (partialFill ++ [report "FILLED" 75]) :=
  record_stays_consistent_iff .initial createdWorld entryIntent "order-1" "CL-1" 0 _ rfl
    created_createdWorld _ (inRange_partialFill_append "FILLED" (by decide))

open Record in
/-- Whatever is decided, submitted and reported, in any order and with any figures: an order on
record stays there with its quantity, keeps a terminal status, and nothing negative remains. -/
theorem commands_keep_terminal_orders (clientOrderId : String) (world : Pipeline)
    (commands : List Command) :
    Lasts clientOrderId world (commands.foldl Command.run world) := by
  induction commands generalizing world with
  | nil => exact fun before found => ⟨before, found, (moved_refl before).lasting⟩
  | cons command rest inductionHypothesis =>
    intro before found
    obtain ⟨middle, foundMiddle, first⟩ := lasts_run command before found
    obtain ⟨after, foundAfter, second⟩ := inductionHypothesis _ middle foundMiddle
    exact ⟨after, foundAfter, first.trans second⟩

end BreezeTrading
