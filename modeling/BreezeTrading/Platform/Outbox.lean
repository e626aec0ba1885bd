/-
This file proves when a restart loses no order. Every order is on its way until it has left
VALIDATING, as long as the handlers do not fail and find the order of a decision among the fifty
they list. A restart finds every intent with its order and a row to publish exactly when the crash
meets no creation before its order and no event whose rows are published.
-/

import BreezeTrading.Platform.KillSwitch
import BreezeTrading.Platform.OutboxInvariant

namespace BreezeTrading

open Async

namespace Outbox

open Platform

section

variable {world next seen : Platform} {credit : Credit}

/-! ### One operation -/

abbrev AnswersTracked := Answers pipelinePart (pipelineCondition delivers) discipline

/-- A task of the pipeline's services, under the invariant. -/
abbrev Keeps {Result : Type} (task : Task Result) (credit : Credit) (seen : Platform)
    (post : Except Raised Result → Credit → Platform → Prop) : Prop :=
  Owns pipelinePart (pipelineCondition delivers) discipline task credit seen post

abbrev noOrder : String → Prop := fun _ => False

theorem answers_plain {clients : String → Prop} {op : PipelineOp} (plain : Plain clients op)
    (past : ∀ clientOrderId, clients clientOrderId → Past seen clientOrderId) :
    AnswersTracked op credit seen (leaving credit) := by
  intro world rest choice reply next late tracked _ answered
  obtain ⟨_, -, answered⟩ := pipelinePart_answer answered
  obtain ⟨later, held⟩ := Tracked.kept tracked (frame_beside (beside_of_plain plain answered)
    fun clientOrderId named => (past clientOrderId named).later late)
  exact ⟨credit, later, held, rfl⟩

theorem keeps_plain {Result : Type} {task : Task Result} {clients : String → Prop}
    (within : task.Within (Plain clients))
    (past : ∀ clientOrderId, clients clientOrderId → Past seen clientOrderId) :
    Keeps task credit seen (leaving credit) :=
  Owns.of_within seen (fun _ _ late plain => answers_plain plain
    (fun clientOrderId named => (past clientOrderId named).later late)) within

theorem keeps_silent {Result : Type} {task : Task Result} (within : task.Within (Plain noOrder))
    : Keeps task credit seen (leaving credit) :=
  keeps_plain within (fun _ => False.elim)

theorem keeps_report {payload : BrokerOrderEvent} (past : Past seen payload.clientOrderId) :
    Keeps (perform (.publish (.brokerOrderEvent payload))) credit seen (leaving credit) := by
  have plain : Plain (· = payload.clientOrderId) (.publish (.brokerOrderEvent payload)) :=
    rfl
  exact keeps_plain (Coroutine.within_perform plain) (fun _ named => named ▸ past)

variable {fromState : Option OrderState} {reason : Option String} {order : BrokerOrder}
  {service : ExecutionService}

theorem answers_write {old : BrokerOrder} (order : BrokerOrder) (toState : OrderState)
    (member : old ∈ seen.pipeline.oms.rows) (dispatched : 1 ≤ rank old.status)
    (orderId : order.orderId = old.orderId) (gone : rank toState = 2) :
    AnswersTracked (.saveBrokerOrderWithTransition order fromState toState reason) credit seen
      fun reply left next => left = credit ∧ (reply = .ok () →
        ∃ row ∈ next.pipeline.oms.rows, Advanced old row ∧ rank row.status = 2) := by
  intro world rest choice reply next late tracked _ answered
  obtain ⟨_, -, answered⟩ := pipelinePart_answer answered
  rcases answerPipeline_saveBrokerOrder answered with
    ⟨rfl, error, rfl⟩ | ⟨table, stored, -, rfl⟩
  · exact ⟨credit, Later.refl _, tracked, rfl, fun same => nomatch same⟩
  · obtain ⟨row, inside, advanced⟩ := late.rows old member
    have above : rank row.status ≤ 2 := by cases row.status <;> decide
    have moves := moves_of_save stored inside (advanced.orderId.trans orderId.symm)
      (above.trans gone.symm.le)
    obtain ⟨later, held⟩ := Tracked.write tracked moves (dispatched.trans advanced.rank) gone
    exact ⟨credit, later, held, rfl, fun _ => ⟨_, (moves.member _).mpr (.inl rfl),
      advanced.trans moves.advanced, gone⟩⟩

/-! ### The execution service -/

theorem past_of_rank (member : order ∈ seen.pipeline.oms.rows) (gone : rank order.status = 2) :
    Past seen order.clientOrderId :=
  ⟨order, member, rfl, gone⟩

theorem keeps_markOrderSubmitting {orderId : String} :
    Keeps (OmsService.markOrderSubmitting orderId) credit seen fun result left next =>
      left = credit ∧ ∀ order, result = .ok (some order) → order.status = .submitting →
        Past next order.clientOrderId := by
  refine Owns.await (answers_reading (.getOrderById orderId) (·.getOrderById orderId)) ?_
  rintro reply left next _ ⟨rfl, found⟩
  match reply with
  | .error error => exact ⟨rfl, fun _ same => nomatch same⟩
  | .ok none => exact ⟨rfl, fun _ same => nomatch same⟩
  | .ok (some order) =>
    obtain ⟨member, -⟩ := OrderTable.mem_of_getOrderById (found _ rfl).1.symm
    have here : ∀ other, (.ok (some order) : Except Raised _) = .ok (some other) →
        other.status = .submitting → Past next other.clientOrderId := by
      intro other same submitting
      obtain rfl := Option.some.inj (Except.ok.inj same)
      exact past_of_rank member (by rw [submitting]; rfl)
    simp only
    split
    · exact ⟨rfl, here⟩
    · split
      · exact ⟨rfl, here⟩
      · rename_i status
        have approved : order.status = .approved := not_not.mp status
        refine Owns.ofExcept (fun _ _ => ?_) fun _ _ => ⟨rfl, fun _ same => nomatch same⟩
        refine Owns.await (answers_write { order with status := .submitting } .submitting
          member (by rw [approved]; decide) rfl rfl) ?_
        rintro reply last next' _ ⟨rfl, written⟩
        cases reply with
        | error error => exact ⟨rfl, fun _ same => nomatch same⟩
        | ok _ =>
          refine ⟨rfl, fun other same _ => ?_⟩
          obtain rfl := Option.some.inj (Except.ok.inj same)
          obtain ⟨row, inside, advanced, gone⟩ := written rfl
          exact ⟨row, inside, advanced.clientOrderId, gone⟩

theorem keeps_submitOrder {request : BrokerOrderRequest} (past : Past seen order.clientOrderId)
    : Keeps (ExecutionService.submitOrder order request) credit seen
      (leaving credit) := by
  have placed : AnswersTracked
      (.placeOrder request order.tradingMode) credit seen (leaving credit) := by
    intro world rest choice reply next _ tracked _ answered
    obtain ⟨_, -, answered⟩ := pipelinePart_answer answered
    obtain rfl := answerPipeline_placeOrder answered
    have frame : Frame world (world.called request) := frame_of_eq rfl rfl rfl rfl rfl rfl
    exact ⟨credit, frame.later, Tracked.frame tracked frame, rfl⟩
  refine Owns.await placed ?_
  rintro reply left first late rfl
  cases reply with
  | error error => rfl
  | ok response =>
    simp only
    generalize ExecutionService.normalizeBrokerStatus response.status = normalizedStatus
    refine Owns.call (keeps_report (past.later late)) ?_
    rintro result last second _ rfl
    cases result with
    | error error => rfl
    | ok _ =>
      simp only
      split
      · exact keeps_silent (within_publishTradeFill _ _ _ _)
      · rfl

theorem keeps_submitReserved (past : Past seen order.clientOrderId) :
    Keeps (service.submitReserved order) credit seen (leaving credit) := by
  unfold ExecutionService.submitReserved
  split
  · exact keeps_report past
  · refine Owns.catching ((keeps_submitOrder past).weaken ?_)
    rintro result left last late rfl
    cases result with
    | ok _ => rfl
    | error error => exact keeps_report (past.later late)

theorem keeps_executeOrder (orderId other : String) :
    Keeps (service.executeOrder orderId other) credit seen (leaving credit) := by
  refine Owns.await (answers_reading (.getOrder orderId) (·.getOrderById orderId)) ?_
  rintro reply left first _ ⟨rfl, found⟩
  match reply with
  | .error error => rfl
  | .ok none => rfl
  | .ok (some order) =>
    obtain ⟨member, -⟩ := OrderTable.mem_of_getOrderById (found _ rfl).1.symm
    simp only
    split
    · rfl
    · rename_i status
      have approved : order.status = .approved := not_not.mp status
      have past : Past first order.clientOrderId := past_of_rank member (by rw [approved]; rfl)
      refine Owns.call (keeps_silent (within_boundaryMessage order)) ?_
      rintro result left second late rfl
      match result with
      | .error error => rfl
      | .ok (some message) => exact keeps_report (past.later late)
      | .ok none =>
        refine Owns.call keeps_markOrderSubmitting ?_
        rintro result left third _ ⟨rfl, reserves⟩
        match result with
        | .error error => rfl
        | .ok none => rfl
        | .ok (some reserved) =>
          simp only
          split
          · rfl
          · rename_i status
            exact keeps_submitReserved (reserves reserved rfl (not_not.mp status))

theorem keeps_recoverApprovedOrders :
    Keeps service.recoverApprovedOrders credit seen (leaving credit) :=
  ExecutionService.owns_recoverApprovedOrders
    (answers_plain (show Plain noOrder (.listOrders 500) from True.intro) (fun _ => False.elim))
    fun orderId client _ _ same => same ▸ keeps_executeOrder orderId client

theorem keeps_handleExecutionCommand {payload : ExecutionCommand} :
    Keeps (service.handleExecutionCommand payload) credit seen (leaving credit) :=
  ExecutionService.owns_handleExecutionCommand
    (answers_plain (show Plain noOrder (.addProcessedExecution payload.clientOrderId) from True.intro)
      (fun _ => False.elim))
    fun _ _ same => same ▸ keeps_executeOrder _ _

theorem rank_of_reconcilable (pending : ExecutionService.reconcilable order = true) :
    rank order.status = 2 := by
  have states := (of_decide_eq_true pending).2
  rcases states with listed | filled
  · cases status : order.status with
    | created | validating => rw [status] at listed; exact absurd listed (by decide)
    | _ => rfl
  · rw [filled]
    rfl

theorem keeps_reconciliationRound :
    Keeps service.reconciliationRound credit seen (leaving credit) := by
  have pass : Keeps service.reconcileLiveOrders credit seen (leaving credit) := by
    refine Owns.await (answers_reading (.listOrders 500) (·.listOrders 500)) ?_
    rintro reply left next _ ⟨rfl, found⟩
    cases reply with
    | error error => rfl
    | ok orders =>
      have past : ∀ clientOrderId, (∃ order ∈ orders.filter ExecutionService.reconcilable,
          order.clientOrderId = clientOrderId) → Past next clientOrderId := by
        rintro clientOrderId ⟨order, member, rfl⟩
        obtain ⟨inside, pending⟩ := List.mem_filter.mp member
        rw [(found orders rfl).1] at inside
        exact past_of_rank (OrderTable.mem_of_mem_listOrders inside) (rank_of_reconcilable pending)
      exact keeps_plain (within_reconcileOrders _ (fun order member => ⟨order, member, rfl⟩) none)
        past
  have sleeps (seen : Platform) : Keeps (perform .sleep) credit seen (leaving credit) :=
    keeps_silent (Coroutine.within_perform (by trivial))
  refine Owns.bind (Owns.catching (pass.weaken ?_))
  rintro result left next _ rfl
  cases result with
  | ok | error => exact sleeps next

/-! ### The handlers of the OMS -/

theorem rank_brokerState {current : OrderState} (gone : rank current = 2) (brokerStatus : String)
    (filledQuantity : Int) :
    rank (OmsService.brokerState current brokerStatus filledQuantity) = 2 := by
  unfold OmsService.brokerState
  split_ifs <;> first | rfl | exact gone

theorem keeps_handleBrokerOrderEvent {payload : BrokerOrderEvent}
    (past : Past seen payload.clientOrderId) :
    Keeps (OmsService.handleBrokerOrderEvent payload) credit seen (leaving credit) := by
  unfold OmsService.handleBrokerOrderEvent
  generalize upper payload.status = brokerStatus
  refine Owns.await (answers_reading (.getOrderByClientId payload.clientOrderId)
    (·.getOrderByClientId payload.clientOrderId)) ?_
  rintro reply left next late ⟨rfl, found⟩
  match reply with
  | .error error => rfl
  | .ok none => rfl
  | .ok (some order) =>
    obtain ⟨member, client⟩ := OrderTable.mem_of_getOrderByClientId (found _ rfl).1.symm
    have gone : rank order.status = 2 := by
      obtain ⟨row, inside, named, gone⟩ := past.later late
      rw [OrderTable.eq_of_clientOrderId member inside (client.trans named.symm)]
      exact gone
    simp only
    split
    · refine Owns.ofExcept (fun _ _ => ?_) fun _ _ => rfl
      refine Owns.perform_last ((answers_write (OmsService.reconciledOrder order payload
        (OmsService.brokerState order.status brokerStatus payload.filledQuantity)) _ member
        (by rw [gone]; decide) rfl (rank_brokerState gone _ _)).weaken fun _ _ _ _ post => post.1)
    · rfl

/-- The decision in hand, once the orders are listed: its order is in VALIDATING and listed, or
the decision may be forgotten. -/
def Listed (payload : RiskDecision) (orders : List BrokerOrder) (left : Credit)
    (world : Platform) : Prop :=
  (left = handling (.riskDecision payload) true ∧ ∀ row ∈ world.pipeline.oms.rows,
      row.intentId = payload.intentId → row.status ≠ .validating) ∨
    (left = handling (.riskDecision payload) false ∧ ∃ row ∈ orders,
      row.intentId = payload.intentId ∧ row.status = .validating ∧
        ∀ other ∈ world.pipeline.oms.rows, other.intentId = payload.intentId → other = row)

theorem answers_listDecision {payload : RiskDecision} :
    AnswersTracked (.listOrders 50)
      (handling (.riskDecision payload) false) seen fun reply left next =>
        ∃ orders, reply = .ok orders ∧ (∀ order ∈ orders, order ∈ next.pipeline.oms.rows) ∧
          Listed payload orders left next := by
  intro world rest choice reply next _ tracked met answered
  obtain ⟨chosen, rfl, answeredThere⟩ := pipelinePart_answer answered
  obtain ⟨-, moved, there, rfl⟩ := answerPipeline_eq_some answeredThere
  cases chosen with
  | raises text =>
    have other : decide (50 ≠ 50) = true := met
    exact absurd other (by decide)
  | ok =>
    cases there
    have held := (Tracked.inHand tracked).1
    by_cases waits : ∃ row ∈ world.pipeline.oms.rows,
        row.intentId = payload.intentId ∧ row.status = .validating
    · obtain ⟨row, member, named, validating⟩ := waits
      have isListed : listed world 50 = true := met
      unfold listed at isListed
      rw [held] at isListed
      refine ⟨_, Later.refl _, tracked, _, rfl,
        fun order inside => OrderTable.mem_of_mem_listOrders inside, .inr ⟨rfl, row,
          of_decide_eq_true isListed row member named validating, named, validating,
          fun other inside same => ?_⟩⟩
      exact Stored.eq_of_mem tracked.single inside member (same.trans named.symm)
    · have none : ∀ row ∈ world.pipeline.oms.rows, row.intentId = payload.intentId →
          row.status ≠ .validating := fun row member named validating =>
        waits ⟨row, member, named, validating⟩
      have settled : Settled world rest.1 (.riskDecision payload) := by
        intro intentId about known
        cases about
        rcases tracked.inserted _ known with phase | ⟨row, member, named⟩
        · rw [handling_fst] at phase
          exact .inr (.inl ⟨0, by decide, phase⟩)
        · exact .inr (.inr ⟨row, member, named, none row member named⟩)
      exact ⟨_, Later.refl _, Tracked.settle tracked settled, _, rfl,
        fun order inside => OrderTable.mem_of_mem_listOrders inside, .inl ⟨rfl, none⟩⟩
  | _ => cases there

theorem answers_decide {payload : RiskDecision} {row : BrokerOrder}
    {toState : OrderState} (member : row ∈ seen.pipeline.oms.rows)
    (named : row.intentId = payload.intentId) (validating : row.status = .validating)
    (orderId : order.orderId = row.orderId)
    (decides : toState ∈ [OrderState.approved, .riskRejected]) :
    AnswersTracked (.saveBrokerOrderWithTransition order fromState toState reason)
      (handling (.riskDecision payload) false) seen fun reply left _ =>
        reply = .ok () ∧ left = handling (.riskDecision payload) true := by
  intro world rest choice reply next late tracked met answered
  have gone : rank toState = 2 := by
    rcases List.mem_cons.mp decides with rfl | rejected
    · rfl
    · rw [List.mem_singleton.mp rejected]
      rfl
  obtain ⟨chosen, rfl, answeredThere⟩ := pipelinePart_answer answered
  obtain ⟨current, inside, advanced⟩ := late.rows row member
  have same : current.orderId = order.orderId := advanced.orderId.trans orderId.symm
  obtain ⟨table, stored⟩ := OrderTable.saveBrokerOrderWithTransition_of_mem toState inside same
  have answeredOk : reply = .ok () ∧ next = withTable world table := by
    obtain ⟨-, moved, there, rfl⟩ := answerPipeline_eq_some answeredThere
    cases chosen with
    | raises text => exact absurd decides (of_decide_eq_true met)
    | ok =>
      have pair := Option.some.inj there
      unfold Pipeline.savedOrder at pair
      rw [stored] at pair
      cases pair
      exact ⟨rfl, rfl⟩
    | _ => cases there
  obtain ⟨rfl, rfl⟩ := answeredOk
  have above : rank current.status ≤ 2 := by cases current.status <;> decide
  have dispatched : 1 ≤ rank current.status := by
    have before := advanced.rank
    rw [validating] at before
    exact before
  have moves := moves_of_save stored inside same (above.trans gone.symm.le)
  obtain ⟨later, written⟩ := Tracked.write tracked moves dispatched gone
  have settled : Settled (withTable world table) rest.1 (.riskDecision payload) := by
    intro intentId about _
    cases about
    refine .inr (.inr ⟨_, (moves.member _).mpr (.inl rfl), advanced.intentId.trans named, ?_⟩)
    intro stays
    have beyond : rank OrderState.validating = 2 := stays ▸ gone
    exact absurd beyond (by decide)
  exact ⟨_, later, written.settle settled, rfl, rfl⟩

theorem keeps_handleRiskDecisionEvent {payload : RiskDecision} :
    Keeps (OmsService.handleRiskDecisionEvent payload) (handling (.riskDecision payload) false)
      seen fun _ left _ => left = handling (.riskDecision payload) true := by
  refine Owns.await answers_listDecision ?_
  rintro reply left next _ ⟨orders, rfl, inRows, isListed⟩
  simp only
  split
  · rename_i none
    rcases isListed with ⟨rfl, -⟩ | ⟨-, row, inside, named, -⟩
    · rfl
    · have found : row ∈ orders.filter fun order => decide (order.intentId = payload.intentId) :=
        List.mem_filter.mpr ⟨inside, decide_eq_true named⟩
      rw [none] at found
      exact absurd found List.not_mem_nil
  · rename_i order others matching
    obtain ⟨inside, about⟩ := List.mem_filter.mp
      (matching ▸ List.mem_cons_self : order ∈ orders.filter _)
    have named : order.intentId = payload.intentId := of_decide_eq_true about
    rcases isListed with ⟨rfl, gone⟩ | ⟨rfl, row, inOrders, rowNamed, validating, only⟩
    · rw [if_pos (gone order (inRows order inside) named)]
      rfl
    · obtain rfl := only order (inRows order inside) named
      rw [if_neg (not_not.mpr validating)]
      have decides : (if payload.approved then OrderState.approved else .riskRejected) ∈
          [OrderState.approved, .riskRejected] := by
        by_cases approves : payload.approved = true
        · rw [if_pos approves]
          decide
        · rw [if_neg approves]
          decide
      have permitted : OrderStateMachine.canTransition order.status
          (if payload.approved then OrderState.approved else .riskRejected) = true := by
        rw [validating]
        by_cases approves : payload.approved = true
        · rw [if_pos approves]
          rfl
        · rw [if_neg approves]
          rfl
      refine Owns.ofExcept (fun _ _ => ?_) fun failure fails => ?_
      · refine Owns.await (answers_decide (inRows order inside) named validating rfl
          decides) ?_
        rintro reply left after _ ⟨rfl, rfl⟩
        simp only
        split
        · exact keeps_silent (Coroutine.within_perform (by trivial))
        · rfl
      · unfold OrderStateMachine.validateTransition at fails
        rw [if_pos permitted] at fails
        exact nomatch fails

/-! ### The creation of an order -/

variable (intent : OrderIntent)

theorem answers_saveOrderIntent : AnswersTracked (.saveOrderIntent intent) 0 seen
      fun reply left _ => reply = .ok () → left = making intent.intentId 0 := by
  intro world rest choice reply next _ tracked _ answered
  obtain ⟨_, -, answered⟩ := pipelinePart_answer answered
  rcases answerPipeline_saveOrderIntent answered with
    ⟨rfl, error, rfl⟩ | ⟨unseen, rfl, rfl⟩
  · exact ⟨0, Later.refl _, tracked, fun same => nomatch same⟩
  · obtain ⟨late, held⟩ := Tracked.saveOrderIntent tracked unseen
    rw [zero_add] at held
    exact ⟨_, late, held, fun _ => rfl⟩

theorem answers_insert {intentId : String} (named : order.intentId = intentId) :
    AnswersTracked
      (.saveBrokerOrderWithTransition order none .created reason) (making intentId 0) seen
      fun reply left next => reply = .ok () → left = making intentId 1 ∧
        ∃ row ∈ next.pipeline.oms.rows, row.orderId = order.orderId ∧ row.intentId = intentId := by
  intro world rest choice reply next _ tracked _ answered
  obtain ⟨_, -, answered⟩ := pipelinePart_answer answered
  obtain ⟨isFresh, -⟩ := answerPipeline_eq_some answered
  rcases answerPipeline_saveBrokerOrder answered with
    ⟨rfl, error, rfl⟩ | ⟨table, stored, -, rfl⟩
  · exact ⟨_, Later.refl _, tracked, fun same => nomatch same⟩
  · have unseen : ∀ row ∈ world.pipeline.oms.rows, row.orderId ≠ order.orderId :=
      fun row member => (of_decide_eq_true isFresh row member).1
    obtain ⟨late, held⟩ := Tracked.insert tracked stored unseen named
    exact ⟨_, late, held, fun _ => ⟨rfl, _,
      (OrderTable.mem_save_of_fresh stored unseen _).mpr (.inl rfl), rfl, named⟩⟩

theorem answers_dispatch {intentId : String} {row : BrokerOrder}
    (member : row ∈ seen.pipeline.oms.rows) (named : row.intentId = intentId)
    (orderId : order.orderId = row.orderId) :
    AnswersTracked
      (.saveBrokerOrderWithTransition order fromState .validating reason) (making intentId 1) seen
      fun reply left _ => reply = .ok () → left = making intentId 2 := by
  intro world rest choice reply next late tracked _ answered
  obtain ⟨_, -, answered⟩ := pipelinePart_answer answered
  rcases answerPipeline_saveBrokerOrder answered with
    ⟨rfl, error, rfl⟩ | ⟨table, stored, -, rfl⟩
  · exact ⟨_, Later.refl _, tracked, fun same => nomatch same⟩
  · obtain ⟨current, inside, advanced⟩ := late.rows row member
    have about : current.intentId = intentId := advanced.intentId.trans named
    have created : current.status = .created :=
      tracked.opened intentId (mem_making.mpr (.inl rfl)) current inside about
    have moves := moves_of_save stored inside (advanced.orderId.trans orderId.symm)
      (by rw [created]; decide)
    obtain ⟨later, held⟩ := Tracked.dispatch tracked moves about
    exact ⟨_, later, held, fun _ => rfl⟩

theorem answers_publishIntent : AnswersTracked (.publish (.orderIntent intent))
      (making intent.intentId 2) seen (leaving (making intent.intentId 3)) := by
  intro world rest choice reply next _ tracked _ answered
  obtain ⟨_, -, answered⟩ := pipelinePart_answer answered
  obtain ⟨rfl, rfl⟩ := answerPipeline_publish answered
  have frame : Frame world (world.enqueue (.orderIntent intent)) :=
    frame_enqueue (Option.some_ne_none _)
  have queued : Envelope.orderIntent intent ∈
      (world.enqueue (.orderIntent intent)).pipeline.queue :=
    List.mem_concat_self
  exact ⟨_, frame.later, (Tracked.frame tracked frame).publish queued rfl, rfl⟩

theorem keeps_createOrderIntent (orderId clientOrderId : String) {now : Int} :
    Keeps (OmsService.createOrderIntent intent orderId clientOrderId now) 0 seen
      fun result left _ => ∀ order, result = .ok order → left = making intent.intentId 3 := by
  unfold OmsService.createOrderIntent
  generalize made : OmsService.newOrder intent orderId clientOrderId now = order
  have named : order.intentId = intent.intentId := by
    rw [← made]
    rfl
  refine Owns.await (answers_saveOrderIntent intent) fun reply left first _ post => ?_
  cases reply with
  | error error => exact fun _ same => nomatch same
  | ok _ =>
    obtain rfl := post rfl
    refine Owns.await (answers_insert named) fun reply left second _ post => ?_
    cases reply with
    | error error => exact fun _ same => nomatch same
    | ok _ =>
      obtain ⟨rfl, row, member, rowId, rowNamed⟩ := post rfl
      refine Owns.ofExcept (fun _ _ => ?_) fun _ _ _ same => nomatch same
      refine Owns.await (answers_dispatch member rowNamed
        rowId.symm) fun reply left third _ post => ?_
      cases reply with
      | error error => exact fun _ same => nomatch same
      | ok _ =>
        obtain rfl := post rfl
        refine Owns.await (answers_publishIntent intent) ?_
        rintro reply left last _ rfl
        cases reply with
        | error error => exact fun _ same => nomatch same
        | ok _ => exact fun _ _ => rfl

/-! ### The evaluation of an intent -/

/-- A task of the risk service, under the invariant. -/
abbrev RiskKeeps {Result : Type} (task : RiskTask Result) (credit : Credit) (seen : Platform)
    (post : Except RiskError Result → Credit → Platform → Prop) : Prop :=
  Owns riskPart (riskCondition delivers) discipline task credit seen post

theorem handles_of_error {op : RiskOp} {choice : PlatformAnswer} {error : RiskError}
    (met : (riskCondition delivers).answer world op choice = true)
    (answered : riskPart.answer world op choice = some (.error error, next)) : Handles op := by
  obtain ⟨raw, answeredThere, values⟩ := riskPart_answer answered
  cases raw with
  | ok value => exact nomatch (values value).mpr rfl
  | error failure =>
    obtain ⟨text, rfl⟩ := answerRisk_error answeredThere
    exact met

theorem answers_asks {op : RiskOp} (asks : Asks op) :
    Answers riskPart (riskCondition delivers) discipline op credit seen
      fun reply left _ => left = credit ∧ ∀ error, reply = .error error → Handles op := by
  intro world rest choice reply next _ tracked met answered
  obtain ⟨raw, answeredThere, -⟩ := riskPart_answer answered
  obtain rfl := answerRisk_asks asks answeredThere
  exact ⟨credit, Later.refl _, tracked, rfl, fun error same => by
    subst same
    exact handles_of_error met answered⟩

theorem answers_publishDecision {intent : OrderIntent} {decision : Decision}
    (named : decision.intentId = intent.intentId) :
    Answers riskPart (riskCondition delivers) discipline (.publish decision)
      (handling (.orderIntent intent) false) seen
      fun _ left _ => left = handling (.orderIntent intent) true := by
  intro world rest choice reply next _ tracked met answered
  obtain ⟨raw, answeredThere, -⟩ := riskPart_answer answered
  rcases answerRisk_publish answeredThere with ⟨rfl, failure, rfl⟩ | ⟨rfl, rfl⟩
  · obtain ⟨text, rfl⟩ := answerRisk_error answeredThere
    exact absurd (show handles (.publish decision) = true from met) Bool.false_ne_true
  · have frame : Frame world (world.enqueue (.riskDecision decision.payload)) :=
      frame_enqueue (Option.some_ne_none _)
    refine ⟨_, frame.later, (Tracked.frame tracked frame).settle fun intentId about _ => ?_, rfl⟩
    cases about
    exact .inl ⟨_, List.mem_concat_self, congrArg some named⟩

theorem answers_saveDecision {decision : Decision} :
    Answers riskPart (riskCondition delivers) discipline (.saveDecision intent decision) credit seen
      fun reply left _ => left = credit ∧ reply = .ok () := by
  intro world rest choice reply next _ tracked met answered
  obtain ⟨raw, answeredThere, values⟩ := riskPart_answer answered
  rcases answerRisk_saveDecision answeredThere with ⟨rfl, failure, rfl⟩ | ⟨rfl, rfl⟩
  · obtain ⟨text, rfl⟩ := answerRisk_error answeredThere
    exact absurd (show handles (.saveDecision intent decision) = true from met) Bool.false_ne_true
  · obtain ⟨late, held⟩ := Tracked.recordDecision tracked decision
    exact ⟨credit, late, held, rfl, (values ()).mpr rfl⟩

theorem keeps_evaluateIntent {service : RiskService} :
    RiskKeeps (service.evaluateIntent intent) (handling (.orderIntent intent) false) seen
      fun _ left _ => left = handling (.orderIntent intent) true := by
  refine Owns.await (answers_asks (by trivial)) ?_
  rintro reply left first _ ⟨rfl, raises⟩
  cases reply with
  | error error => exact absurd (raises error rfl) (by decide)
  | ok systemMode =>
    refine Owns.call (Owns.of_within_steady (fun _ seen asks => answers_asks asks)
      (sure_checks systemMode).1 (sure_checks systemMode).2 first) ?_
    rintro result left second _ ⟨rfl, refusal, rfl⟩
    have named : (RiskService.decisionOf intent systemMode refusal).intentId = intent.intentId := by
      cases refusal <;> rfl
    refine Owns.await (answers_saveDecision intent) ?_
    rintro reply left third _ ⟨rfl, rfl⟩
    refine Owns.await (answers_publishDecision named) fun reply left last _ settled => ?_
    cases reply <;> exact settled

theorem keeps_handleOrderIntentEvent {service : RiskService} :
    RiskKeeps (service.handleOrderIntentEvent intent) (handling (.orderIntent intent) false) seen
      fun _ left _ => left = handling (.orderIntent intent) true := by
  have read : Answers riskPart (riskCondition delivers) discipline
      (.getDecisionByIntent intent.intentId) (handling (.orderIntent intent) false) seen
      fun reply left _ => left = handling (.orderIntent intent) false ∧
        (∀ error, reply ≠ .error error) ∧
        ∀ decision, reply = .ok (some decision) → decision.intentId = intent.intentId := by
    intro world rest choice reply next _ tracked met answered
    obtain ⟨raw, answeredThere, values⟩ := riskPart_answer answered
    obtain ⟨rfl, recorded⟩ := answerRisk_getDecision answeredThere
    refine ⟨_, Later.refl _, tracked, rfl, fun error same => ?_, fun decision same =>
      (recorded decision ((values _).mp same)).2⟩
    subst same
    exact absurd (handles_of_error met answered) Bool.false_ne_true
  refine Owns.await read ?_
  rintro reply left next _ ⟨rfl, sure, recorded⟩
  match reply with
  | .error error => exact absurd rfl (sure error)
  | .ok (some decision) =>
    exact Owns.perform_last (answers_publishDecision (recorded decision rfl))
  | .ok none =>
    refine Owns.call (keeps_evaluateIntent intent) fun result left last _ kept => ?_
    cases result <;> exact kept

/-! ### The tasks of the platform -/

/-- A task of the platform, under the invariant. -/
abbrev Runs {Result : Type} (services : Services) (task : PlatformTask Result) (credit : Credit)
    (seen : Platform) (post : Except Raised Result → Credit → Platform → Prop) : Prop :=
  Owns (system services) delivers discipline task credit seen post

section Tasks

variable {services : Services}

variable {epoch : Nat} {envelope : Envelope}

theorem runs_finish {job : Job} (other : creationOf (job, epoch) = none) :
    Runs services (act (.finish job epoch)) credit seen (leaving credit) := by
  refine Owns.perform_last fun world rest choice reply next _ tracked _ answered => ?_
  cases answered
  have frame : Frame world { world with running := world.running.erase (job, epoch) } :=
    frame_finish other
  exact ⟨credit, frame.later, Tracked.frame tracked frame, rfl⟩

theorem runs_work {job : Job} {task : PlatformTask Unit} (other : creationOf (job, epoch) = none)
    (runs : Runs services task credit seen fun _ _ _ => True) :
    Runs services (Services.work job epoch task) credit seen fun _ _ _ => True := by
  refine Owns.bind (Owns.catching (runs.weaken fun result left last _ _ => ?_))
  cases result with
  | ok _ => exact (runs_finish other).weaken fun _ _ _ _ _ => True.intro
  | error error => exact (runs_finish other).weaken fun _ _ _ _ _ => True.intro

section

variable (past : ∀ payload, envelope = .brokerOrderEvent payload → Past seen payload.clientOrderId)

include past

theorem runs_handle :
    Runs services (services.handle envelope) (handling envelope (carried envelope).isNone) seen
      fun _ left _ => left = handling envelope true := by
  cases envelope with
  | orderIntent intent => exact owns_onRisk (keeps_handleOrderIntentEvent intent)
  | riskDecision payload => exact owns_onPipeline keeps_handleRiskDecisionEvent
  | executionCommand payload =>
    exact owns_onPipeline keeps_handleExecutionCommand
  | brokerOrderEvent payload =>
    exact owns_onPipeline (keeps_handleBrokerOrderEvent (past payload rfl))
  | brokerTradeEvent payload =>
    exact owns_onPipeline (keeps_silent (within_handleTradeEvent payload))
  | portfolioPosition position => rfl
  | portfolioPnl snapshot => rfl

theorem runs_dispatch :
    Runs services (services.dispatch envelope epoch) (handling envelope (carried envelope).isNone)
      seen fun _ _ _ => True := by
  have done (seen : Platform) : Runs services (onPipeline (perform .taskDone))
      (handling envelope true) seen fun _ _ _ => True := by
    refine owns_onPipeline (Owns.perform_last fun world rest choice reply next _ tracked _
      answered => ?_)
    obtain ⟨_, -, answered⟩ := pipelinePart_answer answered
    obtain ⟨rfl, rfl⟩ := answerPipeline_taskDone answered
    obtain ⟨late, held⟩ := Tracked.taskDone tracked
    exact ⟨0, late, (zero_add rest).symm ▸ held, True.intro⟩
  refine runs_work rfl (Owns.bind (Owns.catching ((runs_handle past).weaken ?_)))
  rintro result left last _ rfl
  cases result with
  | ok | error => exact done last

end

theorem runs_create {intent : OrderIntent} (orderId clientOrderId : String) {now : Int} :
    Runs services (Services.create intent orderId clientOrderId now) 0 seen
      fun _ _ _ => True := by
  refine Owns.call (owns_onPipeline (keeps_createOrderIntent intent orderId clientOrderId)) fun result left last _ created => ?_
  cases result with
  | error error => exact True.intro
  | ok order =>
    obtain rfl := created order rfl
    refine Owns.perform_last fun world rest choice reply next _ tracked _ answered => ?_
    cases answered
    obtain ⟨late, held⟩ := Tracked.finish tracked
    exact ⟨0, late, (zero_add rest).symm ▸ held, True.intro⟩

theorem answers_publishRow (about : carried envelope ≠ none) :
    Answers (system services) delivers discipline (.pipeline (.publish envelope)) 0 seen
      fun _ left next => left = 0 ∧ ∀ intentId, carried envelope = some intentId →
        Underway next intentId := by
  intro world rest choice reply next _ tracked _ answered
  obtain ⟨_, -, answered⟩ := pipelinePart_answer answered
  obtain ⟨rfl, rfl⟩ := answerPipeline_publish answered
  have frame : Frame world (world.enqueue envelope) := frame_enqueue about
  exact ⟨0, frame.later, Tracked.frame tracked frame, rfl, fun intentId named _ =>
    .inl ⟨envelope, List.mem_append_right _ List.mem_concat_self, named⟩⟩

theorem answers_markPublished {store : Store} {index : Nat} {row : OutboxRow}
    (found : (seen.outbox store)[index]? = some row)
    (underway : ∀ intentId, carried row.envelope = some intentId → Underway seen intentId) :
    Answers (system services) delivers discipline (.markOutboxPublished store index) 0 seen
      (leaving 0) := by
  intro world rest choice reply next late tracked _ answered
  cases choice with
  | ok =>
    cases answered
    obtain ⟨current, there, same⟩ := late.outbox store index row found
    obtain ⟨later, held⟩ := Tracked.markPublished tracked there fun intentId about =>
      late.underway intentId (underway intentId (same ▸ about))
    exact ⟨0, later, held, rfl⟩
  | raises text =>
    cases answered
    exact ⟨0, Later.refl _, tracked, rfl⟩
  | _ => cases answered

theorem runs_publishOutbox {store : Store} {events : List (Nat × Envelope)}
    (rows : ∀ entry ∈ events, ∃ row, (seen.outbox store)[entry.1]? = some row ∧
      row.envelope = entry.2 ∧ carried entry.2 ≠ none) :
    Runs services (Services.publishOutbox store events) 0 seen fun _ _ _ => True := by
  induction events generalizing seen with
  | nil => exact True.intro
  | cons entry rest inductionHypothesis =>
    obtain ⟨index, envelope⟩ := entry
    obtain ⟨row, found, rfl, about⟩ := rows _ List.mem_cons_self
    refine Owns.await (answers_publishRow about) ?_
    rintro reply left first late ⟨rfl, underway⟩
    cases reply with
    | error error => exact True.intro
    | ok _ =>
      obtain ⟨current, there, same⟩ := Later.outbox late store index row found
      refine Owns.await (answers_markPublished there fun intentId named =>
        underway intentId (same ▸ named)) ?_
      rintro reply left second latter rfl
      cases reply with
      | error error => exact True.intro
      | ok _ =>
        refine inductionHypothesis fun other member => ?_
        obtain ⟨old, oldFound, oldSame, oldAbout⟩ := rows other (List.mem_cons_of_mem _ member)
        obtain ⟨last, lastFound, lastSame⟩ :=
          Later.outbox (late.trans latter) store other.1 old oldFound
        exact ⟨last, lastFound, lastSame.trans oldSame, oldAbout⟩

theorem runs_outboxRound {store : Store} :
    Runs services (Services.outboxRound store) 0 seen fun _ _ _ => True := by
  have list : Answers (system services) delivers discipline
      (.getOutboxEventsToPublish store) 0 seen fun reply left next => left = 0 ∧
        ∀ events, reply = .ok events → ∀ entry ∈ events,
          ∃ row, (next.outbox store)[entry.1]? = some row ∧ row.envelope = entry.2 ∧
            carried entry.2 ≠ none := by
    intro world rest choice reply next _ tracked _ answered
    cases choice with
    | ok =>
      cases answered
      refine ⟨0, Later.refl _, tracked, rfl, fun events same entry member => ?_⟩
      cases same
      obtain ⟨row, found, envelope⟩ := row_of_pending member
      exact ⟨row, found, envelope, envelope ▸ tracked.rows store row (List.mem_of_getElem? found)⟩
    | raises text =>
      cases answered
      exact ⟨0, Later.refl _, tracked, rfl, fun _ same => nomatch same⟩
    | _ => cases answered
  refine Owns.catching (Owns.await list ?_)
  rintro reply left next _ ⟨rfl, rows⟩
  cases reply with
  | error error => exact True.intro
  | ok events =>
    refine (runs_publishOutbox (rows events rfl)).weaken fun result _ _ _ _ => ?_
    cases result <;> exact True.intro

theorem answers_apart {op : PlatformOp} (apart : ∀ (world : Platform) choice reply next,
      world.answer op choice = some (reply, next) → Frame world next) :
    Answers (system services) delivers discipline op 0 seen (leaving 0) := by
  intro world rest choice reply next _ tracked _ answered
  have frame := apart world choice reply next answered
  exact ⟨0, frame.later, Tracked.frame tracked frame, rfl⟩

/-- The operations of the kill switch. -/
def Switches : PlatformOp → Prop
  | .setSystemMode _ => True
  | .recordKillSwitch _ => True
  | .publishAudit => True
  | _ => False

theorem frame_switches {op : PlatformOp} (switches : Switches op) (world : Platform)
    (choice : PlatformAnswer) (reply : Except Raised (PlatformReply op)) (next : Platform)
    (answered : world.answer op choice = some (reply, next)) : Frame world next := by
  have same : Frame world world := frame_of_eq rfl rfl rfl rfl rfl rfl
  cases op with
  | setSystemMode mode =>
    cases choice with
    | ok =>
      cases answered
      exact frame_of_eq rfl rfl rfl rfl rfl rfl
    | raises text =>
      cases answered
      exact same
    | _ => cases answered
  | recordKillSwitch action | publishAudit =>
    cases choice with
    | ok | raises =>
      cases answered
      exact same
    | _ => cases answered
  | _ => exact switches.elim

theorem runs_switches {task : PlatformTask Unit} (within : task.Within Switches)
    : Runs services task 0 seen fun _ _ _ => True :=
  (Owns.of_within seen (fun _ _ _ switches => answers_apart (frame_switches switches))
    within).weaken fun _ _ _ _ _ => True.intro

theorem within_triggerKillSwitch (action : String) :
    (Services.triggerKillSwitch action).Within Switches := by
  have rest : (do
      act (.recordKillSwitch action)
      act .publishAudit : PlatformTask Unit).Within Switches :=
    (Coroutine.within_perform (by trivial)).bind fun _ => Coroutine.within_perform (by trivial)
  unfold Services.triggerKillSwitch
  cases Services.killSwitchMode action with
  | none => exact rest
  | some mode => exact (Coroutine.within_perform (by trivial)).bind fun _ => rest

theorem within_setSystemMode (mode : SystemMode) :
    (Services.setSystemMode mode).Within Switches :=
  (Coroutine.within_perform (by trivial)).bind fun _ => Coroutine.within_perform (by trivial)

end Tasks

theorem sound (services : Services) : Sound (system services) delivers discipline where
  start world total kind task next tracked _ started := by
    cases kind with
    | create intent orderId clientOrderId now =>
      cases started
      exact ⟨Later.refl _, 0, (zero_add total).symm ▸ tracked, runs_create _ _⟩
    | dispatch =>
      simp only [Platform.system, Platform.start] at started
      split at started
      · rename_i envelope rest idle queued
        cases started
        obtain ⟨late, held⟩ := Tracked.take tracked idle queued
        have begins : Frame { world with
            pipeline := { world.pipeline with queue := rest, inHand := some envelope } }
            ({ world with pipeline := { world.pipeline with
              queue := rest, inHand := some envelope } }.beginWork (.handling envelope)) :=
          frame_beginWork rfl
        refine ⟨late.trans begins.later, _, held.frame begins, runs_dispatch fun payload same => ?_⟩
        have pending : .brokerOrderEvent payload ∈ world.pipeline.pending := by
          rw [Pipeline.pending, idle, queued, ← same]
          exact List.mem_cons_self
        exact (tracked.reports payload pending).later (late.trans begins.later)
      · cases started
    | outbox store =>
      cases started
      exact ⟨Later.refl _, 0, (zero_add total).symm ▸ tracked, runs_outboxRound⟩
    | recover =>
      cases started
      have begins : Frame world (world.beginWork .recovery) := frame_beginWork rfl
      obtain ⟨late, held⟩ := Tracked.kept tracked begins
      exact ⟨late, 0, (zero_add total).symm ▸ held, runs_work rfl
        ((owns_onPipeline (keeps_recoverApprovedOrders)).weaken fun _ _ _ _ _ => True.intro)⟩
    | execute orderId clientOrderId =>
      cases started
      have begins : Frame world (world.beginWork (.execution orderId)) := frame_beginWork rfl
      obtain ⟨late, held⟩ := Tracked.kept tracked begins
      exact ⟨late, 0, (zero_add total).symm ▸ held, runs_work rfl
        ((owns_onPipeline (keeps_executeOrder orderId clientOrderId)).weaken
          fun _ _ _ _ _ => True.intro)⟩
    | reconcile =>
      simp only [Platform.system, Platform.start] at started
      split at started
      · cases started
      · cases started
        have frame : Frame world { world with
            pipeline := { world.pipeline with reconciling := true } } :=
          frame_of_eq rfl rfl rfl rfl rfl rfl
        exact ⟨frame.later, 0, (zero_add total).symm ▸ tracked.frame frame,
          (owns_onPipeline (keeps_reconciliationRound)).weaken fun _ _ _ _ _ => True.intro⟩
    | triggerKillSwitch action =>
      cases started
      exact ⟨Later.refl _, 0, (zero_add total).symm ▸ tracked,
        runs_switches (within_triggerKillSwitch action)⟩
    | setSystemMode mode =>
      cases started
      exact ⟨Later.refl _, 0, (zero_add total).symm ▸ tracked,
        runs_switches (within_setSystemMode mode)⟩
  disturb world total cause next tracked _ disturbed := by
    obtain ⟨broker, rfl⟩ := eq_of_disturb disturbed
    exact Tracked.kept tracked (frame_of_eq rfl rfl rfl rfl rfl rfl)
  restart _ _ tracked survived := Tracked.restart tracked survived

end

end Outbox

open Outbox in
/-- In every run in which the handlers of intents and decisions do not fail and list the order of
a decision, and in which no crash meets a creation before its order or an order in VALIDATING that
depends on the bus alone: a restart finds every intent with its order and every order in VALIDATING
with a row to publish, exactly when the crash meets neither; and where the loops have nothing left
to do, no order is in VALIDATING. -/
theorem createOrderIntent_durable (services : Services)
    (config : Config PlatformOp PlatformReply Raised Platform)
    (reaches : (Platform.system services).Reaches delivers ⟨.initial, []⟩ config) :
    (Durable config.world.restart ↔ survives config.world = true) ∧
      (Drained config.world →
        ∀ row ∈ config.world.pipeline.oms.rows, row.status ≠ .validating) := by
  have start : Owned (Platform.system services) delivers discipline ⟨.initial, []⟩ :=
    owned_idle tracked_initial
  obtain ⟨credits, tracked, -⟩ := start.reaches (sound services) reaches
  exact ⟨Tracked.durable_iff tracked, Tracked.left tracked⟩

namespace Outbox

/-! ### Crashes -/

open KillSwitch (Step entry commits created)

/-- A crash after the intent is saved, before its order is inserted. -/
def intentAlone : List Step := .start (.create entry "order-1" "CL-1" 0) :: commits 0 1

/-- An intent is created; its row is published and marked, and its event is still queued. -/
def markedAndQueued : List Step :=
  created 0 entry ++
    [.start (.outbox .oms), .resume 1 .ok, .resume 1 (.pipeline .ok), .resume 1 .ok]

/-- Whether every intent has its order. -/
def hasOrders (world : Platform) : Bool :=
  decide (∀ intent ∈ world.pipeline.intents,
    (world.pipeline.oms.rows.filter fun row => decide (row.intentId = intent.intentId)).length = 1)

/-- Whether every order in VALIDATING has a row to publish. -/
def hasRows (world : Platform) : Bool :=
  decide (∀ row ∈ world.pipeline.oms.rows, row.status = .validating →
    Stored world .oms row.intentId ∨ Stored world .risk row.intentId)

end Outbox

open Outbox in
/-- A crash between the first two transactions leaves an intent without an order, and a crash after
an outbox row is marked, before its event is handled, an order in VALIDATING without a row. -/
theorem createOrderIntent_loses :
    (¬ ∀ (services : Services) (config : Config PlatformOp PlatformReply Raised Platform),
      (Platform.system services).Reaches anyPlatform ⟨.initial, []⟩ config →
      ∀ intent ∈ config.world.restart.pipeline.intents,
        (config.world.restart.pipeline.oms.rows.filter fun row =>
          decide (row.intentId = intent.intentId)).length = 1) ∧
    ¬ ∀ (services : Services) (config : Config PlatformOp PlatformReply Raised Platform),
      (Platform.system services).Reaches anyPlatform ⟨.initial, []⟩ config →
      ∀ row ∈ config.world.restart.pipeline.oms.rows, row.status = .validating →
        Stored config.world.restart .oms row.intentId ∨
          Stored config.world.restart .risk row.intentId := by
  constructor
  · intro one
    have runs : ((Platform.system KillSwitch.services).run anyPlatform ⟨.initial, []⟩
        intentAlone).map (fun config => hasOrders config.world.restart) = some false := by
      decide +kernel
    obtain ⟨config, reaches, lost⟩ := System.reaches_of_map runs
    exact of_decide_eq_false lost (one _ config
      reaches)
  · intro covered
    have runs : ((Platform.system KillSwitch.services).run anyPlatform ⟨.initial, []⟩
        markedAndQueued).map (fun config => hasRows config.world.restart) = some false := by
      decide +kernel
    obtain ⟨config, reaches, lost⟩ := System.reaches_of_map runs
    exact of_decide_eq_false lost (covered _ config
      reaches)

open Outbox in
/-- A crash right after the creation of an order finds it in VALIDATING, with its row. -/
theorem createOrderIntent_durable_one :
    ∃ config, (Platform.system KillSwitch.services).Reaches delivers ⟨.initial, []⟩ config ∧
      config.world.pipeline.oms.rows.map BrokerOrder.status = [.validating] ∧
      Durable config.world.restart := by
  have runs : ((Platform.system KillSwitch.services).run delivers ⟨.initial, []⟩
      (KillSwitch.created 0 KillSwitch.entry)).map (fun config =>
        (config.world.pipeline.oms.rows.map BrokerOrder.status, survives config.world)) =
      some ([.validating], true) := by decide +kernel
  obtain ⟨config, reaches, pair⟩ := System.reaches_of_map runs
  obtain ⟨statuses, survived⟩ := Prod.mk.inj pair
  exact ⟨config, reaches, statuses,
    (createOrderIntent_durable KillSwitch.services config reaches).1.mpr survived⟩

end BreezeTrading
