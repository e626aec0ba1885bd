/-
This file proves when every fill of an order is counted exactly once. In a run in which every
trade event published for it is known already, or starts where its fills end, its executions never
exceed what the broker filled, and reach the final quantity. A pass that runs while an earlier
increment waits on the bus breaks this.
-/

import BreezeTrading.Execution.FillInvariant
import BreezeTrading.Execution.Parts

namespace BreezeTrading

open Async Cumulative

namespace Fills

section

variable {orderId : String} {service : ExecutionService} {world next : Pipeline}

/-! ### Submission -/

variable {seen : Pipeline} {order : BrokerOrder} {portfolioFilled : Int} {turns : Multiset Envelope}
  {trades : Option (List BrokerTradeResponse)} {credit : Credit}

theorem settles_publish {envelope : Envelope} (postable : Postable seen envelope)
    : Settles service orderId (perform (.publish envelope)) credit seen
      fun result left next => left = credit ∧ result = .ok () ∧
        ∀ event, envelope = .brokerTradeEvent event → event.orderId = orderId →
          event.cumulativeFilledQuantity ≤ total (fills next orderId) :=
  Owns.perform_last (replies_publish postable)

theorem postable_tradeFill {quantity filledQuantity : Int} (price : ℚ) (held : Held order seen)
    (positive : 0 < quantity) (reached : 0 < filledQuantity)
    (filled : filledQuantity ≤ seen.broker.filled order.clientOrderId) :
    Postable seen (.brokerTradeEvent
      (ExecutionService.tradeFill order quantity filledQuantity price)) where
  order := by nofun
  trade event equal := by
    obtain rfl := Envelope.brokerTradeEvent.inj equal
    exact ⟨⟨positive, reached, rfl⟩, held.knows, filled⟩

theorem postable_order {event : BrokerOrderEvent}
    (evidence : Evidence seen.broker event.clientOrderId event.filledQuantity event.brokerOrderId) :
    Postable seen (.brokerOrderEvent event) where
  order other equal := by
    obtain rfl := Envelope.brokerOrderEvent.inj equal
    exact evidence
  trade := by nofun

theorem postable_boundary (held : Held order seen) (status message : String) :
    Postable seen (ExecutionService.boundaryEvent order status message) :=
  postable_order ⟨held.evidence.filled, Or.inl rfl⟩

theorem settles_boundaryMessage {order : BrokerOrder} :
    Settles service orderId (service.boundaryMessage order) credit seen (leaving credit) :=
  Owns.of_within seen (fun op next _ asked => by
    cases op with
    | getSessionStatus | getExecutionFeedHealth | validateLiveOrder =>
      exact replies_asking fun _ _ => rfl
    | _ => exact asked.elim) (ExecutionService.asks_boundaryMessage order)

theorem replies_getOrder {other : String} :
    Replies service orderId (.getOrder other) credit seen fun reply left next =>
      left = credit ∧ ∀ order, reply = .ok (some order) → Held order next := by
  refine (replies_reading (fun world => world.oms.getOrderById other)
    fun _ _ => rfl).weaken fun reply left next _ post => ⟨post.1, fun order equal => ?_⟩
  obtain ⟨same, turns, settled⟩ := post.2 _ equal
  exact settled.held (OrderTable.mem_of_getOrderById same.symm).1

theorem replies_getOrderById {other : String} :
    Replies service orderId (.getOrderById other) credit seen fun reply left next =>
      left = credit ∧ ∀ order, reply = .ok (some order) → Held order next := by
  refine (replies_reading (fun world => world.oms.getOrderById other)
    fun _ _ => rfl).weaken fun reply left next _ post =>
    ⟨post.1, fun order equal => ?_⟩
  obtain ⟨same, turns, settled⟩ := post.2 _ equal
  exact settled.held (OrderTable.mem_of_getOrderById same.symm).1

theorem replies_getOrderByClientId {client : String} :
    Replies service orderId (.getOrderByClientId client) credit seen fun reply left next =>
      left = credit ∧ ∀ order, reply = .ok (some order) →
        Held order next ∧ order.clientOrderId = client := by
  refine (replies_reading
    (fun world => world.oms.getOrderByClientId client) fun _ _ => rfl).weaken
    fun reply left next _ post => ⟨post.1, fun order equal => ?_⟩
  obtain ⟨same, turns, settled⟩ := post.2 _ equal
  obtain ⟨member, named⟩ := OrderTable.mem_of_getOrderByClientId same.symm
  exact ⟨settled.held member, named⟩

theorem settles_markOrderSubmitting {other : String} :
    Settles service orderId (OmsService.markOrderSubmitting other) credit seen
      fun result left next => left = credit ∧ ∀ order, result = .ok (some order) →
        Held order next := by
  refine Owns.await replies_getOrderById ?_
  rintro reply left next _ ⟨rfl, read⟩
  match reply, read with
  | .error error, _ => exact ⟨rfl, fun _ equal => nomatch equal⟩
  | .ok none, _ => exact ⟨rfl, fun _ equal => nomatch equal⟩
  | .ok (some order), read =>
    have held : Held order next := read order rfl
    have same : ∀ result : BrokerOrder, (.ok (some order) : Except Raised (Option BrokerOrder)) =
        .ok (some result) → Held result next := fun result equal =>
      Option.some.inj (Except.ok.inj equal) ▸ held
    simp only
    split
    · exact ⟨rfl, same⟩
    · split
      · exact ⟨rfl, same⟩
      · refine Owns.ofExcept (fun _ _ => ?_) fun _ _ =>
          ⟨rfl, fun _ equal => nomatch equal⟩
        have heldReserved : Held { order with status := .submitting } next :=
          held.same rfl rfl rfl rfl rfl
        refine Owns.await (replies_save heldReserved) ?_
        rintro reply left' next' late rfl
        cases reply with
        | error error => exact ⟨rfl, fun _ equal => nomatch equal⟩
        | ok _ =>
          refine ⟨rfl, fun result equal => ?_⟩
          obtain rfl := Option.some.inj (Except.ok.inj equal)
          exact heldReserved.later late

theorem replies_placeOrder {request : BrokerOrderRequest} {mode : TradingMode} :
    Replies service orderId (.placeOrder request mode) credit seen fun reply left next =>
      left = credit ∧ ∀ response : BrokerOrderResponse, reply = .ok response →
        Evidence next.broker request.clientOrderId response.filledQuantity
          response.brokerOrderId := by
  refine replies_same _ fun world turns choice reply next _ met answered => ?_
  rcases Pipeline.asking_eq_some answered with ⟨rfl, error, rfl⟩ | ⟨response, chosen, rfl, rfl⟩
  · exact ⟨⟨rfl, rfl, rfl, rfl, rfl⟩, ⟨rfl, rfl, rfl, rfl, rfl⟩, by nofun⟩
  · refine ⟨⟨rfl, rfl, rfl, rfl, rfl⟩, ⟨rfl, rfl, rfl, rfl, rfl⟩, fun other equal => ?_⟩
    cases equal
    have evidence := (met_condition met).1
    cases choice with
    | response answer =>
      cases chosen
      exact of_decide_eq_true evidence
    | _ => cases chosen

theorem settles_submitOrder {request : BrokerOrderRequest}
    (client : request.clientOrderId = order.clientOrderId) (held : Held order seen) :
    Settles service orderId (ExecutionService.submitOrder order request) credit seen
      (leaving credit) := by
  refine Owns.await replies_placeOrder ?_
  rintro reply left next late ⟨rfl, agrees⟩
  cases reply with
  | error error => rfl
  | ok response =>
    have evidence := agrees response rfl
    rw [client] at evidence
    simp only
    generalize ExecutionService.normalizeBrokerStatus response.status = normalizedStatus
    refine Owns.await (replies_publish (postable_order evidence)) ?_
    rintro reply left' next' late' ⟨rfl, rfl, -⟩
    simp only
    split
    · rename_i fill
      refine (settles_publish ?_).weaken fun _ _ _ _ post => post.1
      exact postable_tradeFill _ ((held.later late).later late') fill.2 fill.2
        (evidence.later late').filled
    · rfl

theorem settles_submitReserved (held : Held order seen) :
    Settles service orderId (service.submitReserved order) credit seen (leaving credit) := by
  unfold ExecutionService.submitReserved
  split
  · exact (settles_publish (postable_boundary held _ _)).weaken
      fun _ _ _ _ post => post.1
  · rename_i request built
    refine Owns.catching ((settles_submitOrder
      (ExecutionService.buildBrokerRequest_clientOrderId built) held).weaken
      ?_)
    rintro result left next late rfl
    cases result with
    | ok _ => rfl
    | error error =>
      exact (settles_publish (postable_boundary (held.later late) _ _)).weaken
        fun _ _ _ _ post => post.1

theorem settles_executeOrder (other client : String) :
    Settles service orderId (service.executeOrder other client) credit seen (leaving credit) := by
  refine Owns.await replies_getOrder ?_
  rintro reply left next _ ⟨rfl, read⟩
  match reply, read with
  | .error error, _ => rfl
  | .ok none, _ => rfl
  | .ok (some order), read =>
    have held : Held order next := read order rfl
    simp only
    split
    · rfl
    · refine Owns.call settles_boundaryMessage ?_
      rintro result left' next' late rfl
      match result with
      | .error error => rfl
      | .ok (some message) =>
        exact (settles_publish (postable_boundary (held.later late) _ _)).weaken
          fun _ _ _ _ post => post.1
      | .ok none =>
        refine Owns.call settles_markOrderSubmitting ?_
        rintro result last next'' _ ⟨rfl, snapshot⟩
        match result, snapshot with
        | .error error, _ => rfl
        | .ok none, _ => rfl
        | .ok (some reserved), snapshot =>
          simp only
          split
          · rfl
          · exact settles_submitReserved (snapshot reserved rfl)

theorem replies_listOrders {limit : Nat} :
    Replies service orderId (.listOrders limit) credit seen fun reply left next =>
      left = credit ∧ ∀ orders : List BrokerOrder, reply = .ok orders →
        0 ≤ total (fills next orderId) ∧ ∀ order ∈ orders, Held order next := by
  refine (replies_reading (fun world => world.oms.listOrders limit)
    fun _ _ => rfl).weaken fun reply left next _ post =>
    ⟨post.1, fun orders equal => ?_⟩
  obtain ⟨rfl, turns, settled⟩ := post.2 orders equal
  exact ⟨settled.chained.total_nonneg, fun order member =>
    settled.held (OrderTable.mem_of_mem_listOrders member)⟩

theorem settles_recoverApprovedOrders :
    Settles service orderId service.recoverApprovedOrders credit seen (leaving credit) :=
  ExecutionService.owns_recoverApprovedOrders
    ((replies_listOrders).weaken fun _ _ _ _ post => post.1)
    fun other client _ _ same => same ▸ settles_executeOrder other client

theorem settles_handleExecutionCommand {payload : ExecutionCommand} :
    Settles service orderId (service.handleExecutionCommand payload) credit seen
      (leaving credit) := by
  refine ExecutionService.owns_handleExecutionCommand ((replies_same (fun _ _ => True)
    fun world turns choice reply next _ _ answered => ?_).weaken fun _ _ _ _ post => post.1)
    fun left next same => same ▸ settles_executeOrder _ _
  obtain ⟨rfl, rfl⟩ := Pipeline.always_eq_some answered
  exact ⟨⟨rfl, rfl, rfl, rfl, rfl⟩, ⟨rfl, rfl, rfl, rfl, rfl⟩, trivial⟩

/-! ### Reconciliation -/

/-- What a pass read of the fills of an order: never negative, and among what will be held. -/
def Read (orderId : String) (order : BrokerOrder) (portfolioFilled : Int) (world : Pipeline) :
    Prop :=
  0 ≤ portfolioFilled ∧ (order.orderId = orderId → portfolioFilled ≤ total (fills world orderId))

theorem Read.later (read : Read orderId order portfolioFilled world)
    (late : Later orderId world next) : Read orderId order portfolioFilled next :=
  ⟨read.1, fun own => (read.2 own).trans late.fills⟩

section

variable (held : Held order seen) (read : Read orderId order portfolioFilled seen)

include held read

theorem settles_publishProgress {response : BrokerOrderResponse} (evidence : Evidence seen.broker
      order.clientOrderId response.filledQuantity response.brokerOrderId) :
    Settles service orderId (ExecutionService.publishProgress order portfolioFilled response)
      credit seen fun result left next => result = .ok () ∧ left = credit ∧
        Covered orderId next (reportOf order.clientOrderId response) := by
  have reported : Evidence seen.broker order.clientOrderId response.filledQuantity
      (orText response.brokerOrderId order.brokerOrderId) :=
    ⟨evidence.filled, evidence.named.orText held.evidence.named⟩
  refine Owns.await (replies_publish (postable_order reported)) ?_
  rintro reply left next late ⟨rfl, rfl, -⟩
  have heldNow := held.later late
  have readNow := read.later late
  simp only
  split
  · rename_i positive
    have reached : 0 < response.filledQuantity := by
      have := read.1
      omega
    refine (settles_publish (postable_tradeFill _ heldNow positive reached
      (evidence.later late).filled)).weaken ?_
    rintro result last final latest ⟨rfl, done, counted⟩
    exact ⟨done, rfl, order.orderId, (heldNow.later latest).knows, fun own => counted _ rfl own⟩
  · refine ⟨rfl, rfl, order.orderId, heldNow.knows, fun own => ?_⟩
    have := readNow.2 own
    show response.filledQuantity ≤ total (fills next orderId)
    omega

theorem settles_publishMissing :
    Settles service orderId (ExecutionService.publishMissing order portfolioFilled) credit seen
      fun result left _ => result = .ok () ∧ left = credit := by
  unfold ExecutionService.publishMissing
  simp only
  split
  · rename_i positive
    have reached : 0 < order.filledQuantity := by
      have := read.1
      omega
    exact (settles_publish (postable_tradeFill _ held positive reached
      held.evidence.filled)).weaken fun _ _ _ _ post => ⟨post.2.1, post.1⟩
  · exact ⟨rfl, rfl⟩

end

/-- After the broker's evidence the pass owes what it says, and otherwise nothing new. -/
def Informed (orderId : String) (turns : Multiset Envelope)
    (trades : Option (List BrokerTradeResponse)) (order : BrokerOrder) :
    Except Raised (Option BrokerOrderResponse × Option (List BrokerTradeResponse)) → Credit →
      Pipeline → Prop
  | .error _, credit, world => Paid orderId turns trades credit world
  | .ok (none, read), credit, world => Paid orderId turns read credit world
  | .ok (some response, read), credit, world =>
      Owing orderId turns read order (some response) credit world

theorem Owing.informed {read : Option (List BrokerTradeResponse)}
    {response : Option BrokerOrderResponse}
    (owing : Owing orderId turns read order response credit world) :
    Informed orderId turns trades order (.ok (response, read)) credit world := by
  cases response with
  | none => exact owing.paid
  | some response => exact owing

theorem settles_brokerEvidence (held : Held order seen)
    (paid : Paid orderId turns trades credit seen) :
    Settles service orderId (ExecutionService.brokerEvidence order trades) credit seen
      (Informed orderId turns trades order) := by
  have awaiting : Settles service orderId (ExecutionService.brokerEvidence.awaiting order trades)
      credit seen (Informed orderId turns trades order) := by
    unfold ExecutionService.brokerEvidence.awaiting
    split
    · refine Owns.await (replies_findOrderByClientId held paid) fun reply left next late post => ?_
      match reply, trades, post with
      | .error error, _, post => exact post
      | .ok (some response), _, post => exact post.1.informed
      | .ok none, some trades, post => exact post.1.informed
      | .ok none, none, post =>
        refine Owns.await (replies_getTrades (held.later late) (post.2 rfl rfl))
          fun reply left' next' _ post => ?_
        cases reply with
        | error error => exact post
        | ok trades => exact post.informed
    · exact paid
  unfold ExecutionService.brokerEvidence
  split
  · rename_i brokerOrderId asked
    split
    · exact awaiting
    · rename_i present
      have named := held.evidence.named.clientOf asked present
      refine Owns.await (replies_getOrderStatus named paid) fun reply left next _ post => ?_
      cases reply with
      | error error => exact post
      | ok response => exact post.informed
  · exact awaiting

theorem settles_reconcilePending (held : Held order seen)
    (read : Read orderId order portfolioFilled seen) (paid : Paid orderId turns trades credit seen)
    : Settles service orderId (ExecutionService.reconcilePending order portfolioFilled trades)
      credit seen fun result left next => ∃ trades, result = .ok trades ∧
        Paid orderId turns trades left next := by
  refine Owns.catching (Owns.call (settles_brokerEvidence held paid)
    fun result left next late post => ?_)
  match result, post with
  | .error error, post => exact ⟨_, rfl, post⟩
  | .ok (none, known), post => exact ⟨_, rfl, post⟩
  | .ok (some response, known), post =>
    have owing : Owing orderId turns known order (some response) left next := post
    refine Owns.catching (Owns.call (settles_publishProgress (held.later late)
      (read.later late) (owing.evidence response rfl))
      ?_)
    rintro result left' next' late' ⟨rfl, rfl, covered⟩
    obtain ⟨asked, owned⟩ := owing.token
    refine ⟨known, rfl, ⟨asked, _, owned, fun report same => ?_⟩, owing.agree.later late'⟩
    cases same
    exact covered

theorem settles_reconcileOrders {orders : List BrokerOrder}
    (held : ∀ order ∈ orders, Held order seen) (nonneg : 0 ≤ total (fills seen orderId))
    (paid : Paid orderId turns trades credit seen) :
    Settles service orderId (service.reconcileOrders orders trades) credit seen
      fun _ left next => ∃ trades, Paid orderId turns trades left next := by
  induction orders generalizing trades credit seen with
  | nil => exact ⟨trades, paid⟩
  | cons order rest inductionHypothesis =>
    have progress : Settles service orderId (service.portfolioFilled order) credit seen
        fun result left next => left = credit ∧ ∀ filled, result = .ok filled →
          Read orderId order filled next := by
      unfold ExecutionService.portfolioFilled
      by_cases present : service.portfolioService = true
      · rw [if_pos present]
        exact Owns.perform_last replies_executed
      · rw [if_neg present]
        refine ⟨rfl, fun filled equal => ?_⟩
        cases equal
        exact ⟨le_rfl, fun _ => nonneg⟩
    refine Owns.call progress ?_
    rintro result left next late ⟨rfl, read⟩
    cases result with
    | error error => exact ⟨trades, paid.later late⟩
    | ok portfolioFilled =>
      have readNow := read portfolioFilled rfl
      have heldNow := (held order List.mem_cons_self).later late
      simp only
      split
      · refine Owns.call (settles_publishMissing heldNow readNow) ?_
        rintro result left' next' late' ⟨rfl, rfl⟩
        exact inductionHypothesis (fun other member =>
          ((held other (List.mem_cons_of_mem _ member)).later late).later late')
          ((nonneg.trans late.fills).trans late'.fills) ((paid.later late).later late')
      · refine Owns.call (settles_reconcilePending heldNow readNow (paid.later late)) ?_
        rintro result left' next' late' ⟨trades', rfl, paid'⟩
        exact inductionHypothesis (fun other member =>
          ((held other (List.mem_cons_of_mem _ member)).later late).later late')
          ((nonneg.trans late.fills).trans late'.fills) paid'

theorem settles_reconciliationRound (paid : Paid orderId turns none credit seen) :
    Settles service orderId service.reconciliationRound credit seen fun _ _ _ => True := by
  have pass : Settles service orderId service.reconcileLiveOrders credit seen
      fun _ left next => ∃ trades, Paid orderId turns trades left next := by
    refine Owns.await replies_listOrders ?_
    rintro reply left next late ⟨rfl, listed⟩
    cases reply with
    | error error => exact ⟨none, paid.later late⟩
    | ok orders =>
      obtain ⟨nonneg, held⟩ := listed orders rfl
      exact settles_reconcileOrders
        (fun order member => held order (List.mem_of_mem_filter member)) nonneg (paid.later late)
  refine Owns.bind (Owns.catching (pass.weaken ?_))
  rintro result left next _ ⟨trades, paid'⟩
  cases result with
  | error | ok => exact Owns.perform_last (replies_sleep paid')

/-! ### The dispatcher -/

theorem settles_handleBrokerOrderEvent {payload : BrokerOrderEvent} (evidence :
      Evidence seen.broker payload.clientOrderId payload.filledQuantity payload.brokerOrderId) :
    Settles service orderId (OmsService.handleBrokerOrderEvent payload) credit seen
      (leaving credit) := by
  unfold OmsService.handleBrokerOrderEvent
  generalize upper payload.status = brokerStatus
  refine Owns.await replies_getOrderByClientId ?_
  rintro reply left next late ⟨rfl, read⟩
  match reply, read with
  | .error error, _ => rfl
  | .ok none, _ => rfl
  | .ok (some order), read =>
    obtain ⟨held, client⟩ := read order rfl
    simp only
    split
    · refine Owns.ofExcept (fun _ _ => ?_) fun _ _ => rfl
      have reported := evidence.later late
      rw [← client] at reported
      have heldReported : Held (OmsService.reconciledOrder order payload
          (OmsService.brokerState order.status brokerStatus payload.filledQuantity)) next :=
        ⟨held.row, reported.filled, reported.named.orText held.evidence.named⟩
      exact Owns.perform_last (replies_save heldReported)
    · rfl

theorem settles_handleRiskDecisionEvent {payload : RiskDecision} :
    Settles service orderId (OmsService.handleRiskDecisionEvent payload) credit seen
      (leaving credit) := by
  refine Owns.await replies_listOrders ?_
  rintro reply left next _ ⟨rfl, listed⟩
  match reply, listed with
  | .error error, _ => rfl
  | .ok orders, listed =>
    simp only
    split
    · rfl
    · rename_i order rest matching
      have member : order ∈ orders :=
        List.mem_of_mem_filter (matching ▸ List.mem_cons_self : order ∈ orders.filter _)
      have held := (listed orders rfl).2 order member
      split
      · rfl
      · refine Owns.ofExcept (fun _ _ => ?_) fun _ _ => rfl
        have heldDecided : Held { order with
            status := if payload.approved then OrderState.approved else .riskRejected
            statusMessage := payload.reason } next := held.same rfl rfl rfl rfl rfl
        refine Owns.await (replies_save heldDecided) ?_
        rintro reply left' next' _ rfl
        cases reply with
        | error error => rfl
        | ok _ =>
          simp only
          split
          · exact (settles_publish (postable_of_silent rfl)).weaken
              fun _ _ _ _ post => post.1
          · rfl

theorem replies_quote {instrumentId : String} :
    Replies service orderId (.getLatestQuote instrumentId) credit seen fun reply left _ =>
      left = credit ∧ ∃ quote, reply = .ok quote := by
  refine replies_same (fun reply _ => ∃ quote, reply = .ok quote)
    fun world turns choice reply next _ met answered => ?_
  cases choice with
  | raises text => exact nomatch (met_condition met).1
  | quote price =>
    cases answered
    exact ⟨frame_refl _, samePass_refl _, price, rfl⟩
  | _ => cases answered

theorem settles_handleTradeEvent {payload : BrokerTradeEvent}
    (turn : credit.1 = {.brokerTradeEvent payload}) (posted : Posted payload) :
    Settles service orderId (PortfolioService.handleTradeEvent payload) credit seen
      fun _ left next => left = credit ∧ (payload.orderId = orderId →
        (deltaOf payload).key ∈ keys (recorded next orderId)) := by
  have snapshot : ∀ next, Settles service orderId PortfolioService.publishPnlSnapshot credit next
      fun _ final _ => final = credit := by
    intro next
    refine Owns.await (replies_reading
      (fun world => world.portfolio.positions) fun _ _ => rfl) ?_
    rintro reply left' next' _ ⟨rfl, -⟩
    cases reply with
    | error error => rfl
    | ok positions =>
      refine Owns.await (replies_reading (fun _ => ())
        fun _ _ => rfl) ?_
      rintro reply last next'' _ ⟨rfl, -⟩
      cases reply with
      | error error => rfl
      | ok _ =>
        exact (settles_publish (postable_of_silent rfl)).weaken
          fun _ _ _ _ post => post.1
  unfold PortfolioService.handleTradeEvent
  rw [executionId_of_posted posted]
  refine Owns.await replies_quote ?_
  rintro reply left next _ ⟨rfl, quote, rfl⟩
  refine Owns.await (replies_apply turn posted posted.named) ?_
  rintro reply left' next' _ ⟨rfl, booked⟩
  match reply with
  | .error error => exact ⟨rfl, booked⟩
  | .ok (position, applied) =>
    simp only
    split
    · refine Owns.await (replies_publish (postable_of_silent rfl)) ?_
      rintro reply final world late ⟨rfl, rfl, -⟩
      exact (snapshot world).weaken fun _ last after latest same =>
        ⟨same, fun own => latest.recorded (late.recorded (booked own))⟩
    · exact ⟨rfl, booked⟩

theorem settles_dispatch {envelope : Envelope} (turn : credit.1 = {envelope}) (order : ∀ event,
      envelope = .brokerOrderEvent event → Evidence seen.broker event.clientOrderId
      event.filledQuantity event.brokerOrderId)
    (trade : ∀ event, envelope = .brokerTradeEvent event → Posted event) :
    Settles service orderId (dispatch service envelope) credit seen fun _ _ _ => True := by
  have handled : Settles service orderId (handle service envelope) credit seen
      fun _ left next => left = credit ∧ ∀ event, envelope = .brokerTradeEvent event →
        event.orderId = orderId → (deltaOf event).key ∈ keys (recorded next orderId) := by
    cases envelope with
    | riskDecision payload =>
      exact (settles_handleRiskDecisionEvent).weaken
        fun _ _ _ _ same => ⟨same, fun _ equal => Envelope.noConfusion equal⟩
    | executionCommand payload =>
      exact (settles_handleExecutionCommand).weaken
        fun _ _ _ _ same => ⟨same, fun _ equal => Envelope.noConfusion equal⟩
    | brokerOrderEvent payload =>
      exact (settles_handleBrokerOrderEvent (order payload rfl)).weaken
        fun _ _ _ _ same => ⟨same, fun _ equal => Envelope.noConfusion equal⟩
    | brokerTradeEvent payload =>
      refine (settles_handleTradeEvent turn (trade payload rfl)).weaken
        fun _ _ _ _ post => ⟨post.1, fun event equal => ?_⟩
      obtain rfl := Envelope.brokerTradeEvent.inj equal
      exact post.2
    | orderIntent | portfolioPosition | portfolioPnl =>
      exact ⟨rfl, fun _ equal => Envelope.noConfusion equal⟩
  refine Owns.bind (Owns.catching (handled.weaken ?_))
  rintro result left next _ ⟨rfl, done⟩
  cases result with
  | error | ok => exact Owns.perform_last (replies_taskDone turn done)

/-! ### The environment -/

section

variable (settled : Settled orderId world turns)

include settled

theorem Settled.broker {book : BrokerBook}
    (filled : ∀ client, world.broker.filled client ≤ book.filled client) (clientOf : ∀ text client,
      world.broker.clientOf text = some client → book.clientOf text = some client) :
    Later orderId world { world with broker := book } ∧
      Settled orderId { world with broker := book } turns := by
  have late : Later orderId world { world with broker := book } :=
    ⟨fun row member => ⟨row, member, rfl, rfl, rfl⟩, filled, clientOf, le_rfl, List.Subset.refl _⟩
  refine ⟨late, settled.chained, settled.known, ?_, ?_, ?_, ?_, settled.tradeEvents,
    settled.executions, settled.turn⟩
  · exact fun client known => (settled.bounded client known).trans (filled client)
  · exact fun client => (settled.nonneg client).trans (filled client)
  · exact fun row member => (settled.rows row member).later late
  · exact fun event member => (settled.orderEvents event member).later late

theorem Settled.opened {table : OrderTable} {toState : OrderState}
    (stored : world.oms.saveBrokerOrderWithTransition order toState = .ok table)
    (fresh : world.oms.getOrderById order.orderId = none) (unfilled : order.filledQuantity = 0)
    (unnamed : order.brokerOrderId = none) : Later orderId world { world with oms := table } ∧
      Settled orderId { world with oms := table } turns := by
  have rowsOf := OrderTable.mem_saveBrokerOrderWithTransition stored
  have row : world.oms.written order toState = { order with status := toState } := by
    unfold OrderTable.written Stored.merged
    rw [show world.oms.rows.find? (fun old => decide (old.orderId = order.orderId)) = none
      from fresh]
  have other : ∀ member ∈ world.oms.rows, member.orderId ≠ order.orderId :=
    fun member inRows => Stored.ne_of_find?_none fresh member inRows
  have empty : order.orderId = orderId → fills world orderId = [] := by
    intro own
    by_contra filled
    obtain ⟨client, member, inRows, same, -⟩ := settled.known filled
    exact other member inRows (same.trans own.symm)
  refine ⟨⟨fun member inRows => ⟨member, (rowsOf member).mpr (Or.inr ⟨inRows,
      other member inRows⟩), rfl, rfl, rfl⟩, fun _ => le_rfl, fun _ _ named => named, le_rfl,
      List.Subset.refl _⟩, settled.chained, fun filled => ?_, fun client known => ?_,
    settled.nonneg, fun member inTable => ?_, settled.orderEvents, settled.tradeEvents,
    settled.executions, settled.turn⟩
  · obtain ⟨client, known⟩ := settled.known filled
    exact ⟨client, known.save stored⟩
  · obtain ⟨member, inTable, own, named⟩ := known
    rcases (rowsOf member).mp inTable with rfl | ⟨inRows, -⟩
    · rw [row] at own
      have sameFills : fills { world with oms := table } orderId = fills world orderId := rfl
      rw [sameFills, empty own]
      exact settled.nonneg client
    · exact settled.bounded client ⟨member, inRows, own, named⟩
  · rcases (rowsOf member).mp inTable with rfl | ⟨inRows, -⟩
    · rw [row]
      exact ⟨unfilled ▸ settled.nonneg _, Or.inl unnamed⟩
    · exact settled.rows member inRows

theorem Settled.restart : Settled orderId world.restart 0 := by
  have part : fills world.restart orderId <+: fills world orderId :=
    recorded_prefix_fills world orderId
  refine ⟨settled.chained.of_prefix part, fun filled => settled.known fun empty => filled ?_,
    fun client known => (settled.chained.total_le part).trans (settled.bounded client known),
    settled.nonneg, settled.rows, fun _ member => absurd member List.not_mem_nil,
    fun _ member => absurd member List.not_mem_nil, settled.executions, rfl⟩
  rw [empty] at part
  exact List.prefix_nil.mp part

end

theorem zero_add_credit {total : Credit}
    (held : Settled orderId world total.1 ∧ Passing orderId world total.2) :
    Settled orderId world ((0 : Credit) + total).1 ∧
      Passing orderId world ((0 : Credit) + total).2 := by
  rw [zero_add]
  exact held

theorem sound (service : ExecutionService) (orderId : String) :
    Sound (Pipeline.system service) (condition orderId) (discipline orderId) where
  start world total kind task next held _ started := by
    obtain ⟨settled, passing⟩ := held
    cases kind with
    | dispatch =>
      simp only [Pipeline.system, Pipeline.start] at started
      split at started
      · rename_i envelope rest idle queued
        cases started
        have sameFills := fills_dispatch idle queued orderId
        have pending : ({ world with queue := rest, inHand := some envelope } :
            Pipeline).pending = world.pending := by
          unfold Pipeline.pending
          rw [idle, queued]
          rfl
        have inside : envelope ∈ world.pending := by
          unfold Pipeline.pending
          rw [queued]
          exact List.mem_append_right _ List.mem_cons_self
        have late : Later orderId world { world with queue := rest, inHand := some envelope } :=
          ⟨fun row member => ⟨row, member, rfl, rfl, rfl⟩, fun _ => le_rfl,
            fun _ _ named => named, (congrArg Cumulative.total sameFills).ge,
            List.Subset.refl _⟩
        have turn := settled.turn
        rw [idle, unique_none] at turn
        refine ⟨late, ({envelope}, 0), ⟨⟨?_, ?_, ?_, settled.nonneg, settled.rows, ?_, ?_,
          settled.executions, ?_⟩, ?_⟩, settles_dispatch rfl ?_ ?_⟩
        · rw [sameFills]
          exact settled.chained
        · rw [sameFills]
          exact settled.known
        · rw [sameFills]
          exact settled.bounded
        · rw [pending]
          exact settled.orderEvents
        · rw [pending]
          exact settled.tradeEvents
        · rw [Prod.fst_add, turn]
          rfl
        · rw [Prod.snd_add, zero_add]
          exact passing.later late ⟨rfl, rfl, rfl, rfl, rfl⟩
        · exact fun event equal => settled.orderEvents event (equal ▸ inside)
        · exact fun event equal => settled.tradeEvents event (equal ▸ inside)
      · cases started
    | recover =>
      cases started
      exact ⟨Later.refl _ _, 0, zero_add_credit ⟨settled, passing⟩,
        (settles_recoverApprovedOrders).weaken fun _ _ _ _ _ => trivial⟩
    | execute other client =>
      cases started
      exact ⟨Later.refl _ _, 0, zero_add_credit ⟨settled, passing⟩,
        (settles_executeOrder other client).weaken fun _ _ _ _ _ => trivial⟩
    | reconcile =>
      simp only [Pipeline.system, Pipeline.start] at started
      split at started
      · cases started
      · rename_i idle
        cases started
        have resting : world.reconciling = false := Bool.eq_false_iff.mpr idle
        obtain ⟨unread, untold⟩ := passing.resting resting
        have frame : Frame world { world with reconciling := true } := ⟨rfl, rfl, rfl, rfl, rfl⟩
        obtain ⟨debt, tokens, -⟩ := passing.token
        unfold passToken at tokens
        rw [if_neg idle, unique_none] at tokens
        refine ⟨frame.later, (0, {⟨none, world.passAsked, none⟩}), ⟨?_, ⟨none, ?_, ?_⟩,
          by nofun, fun report member => (passing.completed report member).later frame.later⟩,
          settles_reconciliationRound ⟨⟨_, none, rfl, by nofun⟩, by nofun⟩⟩
        · rw [Prod.fst_add, zero_add]
          exact settled.frame frame
        · rw [Prod.snd_add, tokens, add_zero]
          unfold passToken
          rw [if_pos rfl, unread]
          rfl
        · rw [untold]
          exact fun _ member => absurd member List.not_mem_nil
  disturb world total cause next held _ disturbed := by
    obtain ⟨settled, passing⟩ := held
    have keep : ∀ next : Pipeline, SamePass world next →
        Later orderId world next ∧ Settled orderId next total.1 →
        Later orderId world next ∧ Settled orderId next total.1 ∧
          Passing orderId next total.2 :=
      fun next same kept => ⟨kept.1, kept.2, passing.later kept.1 same⟩
    cases cause with
    | riskDecision payload =>
      cases disturbed
      exact keep _ ⟨rfl, rfl, rfl, rfl, rfl⟩
        (settled.publish_other (postable_of_silent rfl) rfl)
    | orderCreated intent other client now =>
      simp only [Pipeline.system, Pipeline.disturb] at disturbed
      split at disturbed
      · cases disturbed
      · rename_i new
        split at disturbed
        · rename_i table stored
          cases disturbed
          refine keep _ ⟨rfl, rfl, rfl, rfl, rfl⟩ (settled.opened stored ?_ rfl rfl)
          refine List.find?_eq_none.mpr fun row member same => new (Or.inl ⟨row, member, ?_⟩)
          exact of_decide_eq_true same
        · cases disturbed
    | orderDispatched other =>
      simp only [Pipeline.system, Pipeline.disturb] at disturbed
      split at disturbed
      · cases disturbed
      · rename_i order read
        split at disturbed
        · split at disturbed
          · rename_i table stored
            cases disturbed
            have member := (OrderTable.mem_of_getOrderById read).1
            exact keep _ ⟨rfl, rfl, rfl, rfl, rfl⟩ (settled.saved (settled.held member) stored)
          · cases disturbed
        · cases disturbed
    | brokerAccepts text client =>
      simp only [Pipeline.system, Pipeline.disturb] at disturbed
      split at disturbed
      · rename_i unnamed
        cases disturbed
        refine keep _ ⟨rfl, rfl, rfl, rfl, rfl⟩ (settled.broker (fun _ => le_rfl) ?_)
        intro other known named
        show (if other = text then some client else world.broker.clientOf other) = some known
        rw [if_neg, named]
        rintro rfl
        rw [unnamed] at named
        cases named
      · cases disturbed
    | brokerFills client filled average =>
      simp only [Pipeline.system, Pipeline.disturb] at disturbed
      split at disturbed
      · rename_i more
        cases disturbed
        refine keep _ ⟨rfl, rfl, rfl, rfl, rfl⟩ (settled.broker ?_ fun _ _ named => named)
        intro other
        show world.broker.filled other ≤ if other = client then filled else world.broker.filled other
        split
        · rename_i same
          rw [same]
          exact more
        · exact le_rfl
      · cases disturbed
  restart world total held _ :=
    ⟨held.1.restart, ⟨none, rfl, fun _ member => absurd member List.not_mem_nil⟩,
      fun _ => ⟨rfl, rfl⟩, fun _ member => absurd member List.not_mem_nil⟩

theorem settled_initial (orderId : String) : Settled orderId .initial 0 where
  chained := .nil
  known filled := absurd rfl filled
  bounded _ _ := le_rfl
  nonneg _ := le_rfl
  rows _ member := absurd member List.not_mem_nil
  orderEvents _ member := absurd member List.not_mem_nil
  tradeEvents _ member := absurd member List.not_mem_nil
  executions _ member := absurd member List.not_mem_nil
  turn := rfl

theorem passing_initial (orderId : String) : Passing orderId .initial 0 where
  token := ⟨none, rfl, fun _ member => absurd member List.not_mem_nil⟩
  resting _ := ⟨rfl, rfl⟩
  completed _ member := absurd member List.not_mem_nil

end

/-- Every fill of the order is counted once: its executions never exceed what the broker
filled, and once the bus is drained after a pass that saw the final quantity they are that
quantity. -/
def CountedOnce (orderId : String) (world : Pipeline) : Prop :=
  (∀ clientOrderId, world.oms.Knows orderId clientOrderId →
    world.portfolio.getExecutedQuantityForOrder orderId ≤ world.broker.filled clientOrderId) ∧
  ∀ report ∈ world.completed, world.oms.Knows orderId report.clientOrderId →
    report.filledQuantity = world.broker.filled report.clientOrderId → world.pending = [] →
    world.portfolio.getExecutedQuantityForOrder orderId = report.filledQuantity

theorem countedOnce_of_settled {orderId : String} {world : Pipeline} {turns : Multiset Envelope}
    {tokens : Multiset PassToken} (settled : Settled orderId world turns)
    (passing : Passing orderId world tokens) : CountedOnce orderId world := by
  have executed : world.portfolio.getExecutedQuantityForOrder orderId ≤
      total (fills world orderId) := by
    rw [← total_recorded]
    exact settled.chained.total_le (recorded_prefix_fills world orderId)
  refine ⟨fun client known => executed.trans (settled.bounded client known), ?_⟩
  intro report member known final drained
  have whole : fills world orderId = recorded world orderId := by
    unfold fills
    rw [drained]
    rfl
  obtain ⟨other, knownOther, covered⟩ := passing.completed report member
  have reached := covered (knownOther.orderId_eq known)
  have bounded := settled.bounded _ known
  rw [whole, total_recorded] at reached bounded
  omega

end Fills

open Fills in
/-- In every run in which the broker's answers agree with what it knows and every fill
published for the order fits, over any interleaving of passes, submissions, the dispatcher,
broker fills, cancellations and restarts, every fill of the order is counted once. -/
theorem reconcileLiveOrders_counts_fills_once (service : ExecutionService) (orderId : String)
    (config : Config PipelineOp PipelineReply Raised Pipeline)
    (reaches : (Pipeline.system service).Reaches (condition orderId) (Pipeline.idle .initial)
      config) : CountedOnce orderId config.world := by
  have start : Owned (Pipeline.system service) (condition orderId) (discipline orderId)
      (Pipeline.idle .initial) := owned_idle ⟨settled_initial orderId, passing_initial orderId⟩
  obtain ⟨credits, ⟨settled, passing⟩, -⟩ := start.reaches (sound service orderId) reaches
  exact countedOnce_of_settled settled passing

namespace Fills

/-! ### Runs of one order -/

def entryIntent : OrderIntent where
  intentId := "intent-1"
  correlationId := "correlation-1"
  strategyInstanceId := none
  instrumentId := "INST-NIFTY-2026-01-29-25000-CE"
  symbol := "NIFTY"
  side := .buy
  orderType := .limit
  quantity := 75
  price := 100
  triggerPrice := none
  tradingMode := .live
  reduceOnly := true
  createdAt := 0

def liveService : ExecutionService := ⟨"breeze", true, true, true⟩

/-- The broker's answer with a cumulative fill. -/
def answered (status : String) (filledQuantity : Int) : BrokerOrderResponse where
  success := true
  brokerOrderId := some "broker-1"
  clientOrderId := "CL-1"
  status := status
  message := none
  filledQuantity := filledQuantity
  averagePrice := 100

/-- An order is created, approved, reserved and placed; its report is handled. -/
def placedOrder : List (Event PipelineAnswer PipelineStart PipelineDisturbance) :=
  [.disturb (.orderCreated entryIntent "order-1" "CL-1" 0), .disturb (.orderDispatched "order-1"),
    .disturb (.riskDecision ⟨"intent-1", true, none⟩),
    .start .dispatch, .resume 0 .ok, .resume 0 .ok, .resume 0 .ok, .resume 0 .ok,
    .disturb (.brokerAccepts "broker-1" "CL-1"),
    .start .dispatch, .resume 1 .ok, .resume 1 .ok, .resume 1 .ok, .resume 1 .ok,
    .resume 1 (.response (answered "OPEN" 0)), .resume 1 .ok, .resume 1 .ok,
    .start .dispatch, .resume 2 .ok, .resume 2 .ok, .resume 2 .ok]

/-- A pass reads the fill progress, is told the cumulative quantity, and publishes it. -/
def pass (task : Nat) (status : String) (filledQuantity : Int) :
    List (Event PipelineAnswer PipelineStart PipelineDisturbance) :=
  [.disturb (.brokerFills "CL-1" filledQuantity 100), .start .reconcile, .resume task .ok,
    .resume task .ok, .resume task (.orderStatus (some (answered status filledQuantity))),
    .resume task .ok, .resume task .ok, .resume task .ok]

/-- The dispatcher handles a report and the fill published with it. -/
def drained (task : Nat) : List (Event PipelineAnswer PipelineStart PipelineDisturbance) :=
  [.start .dispatch, .resume task .ok, .resume task .ok, .resume task .ok, .start .dispatch,
    .resume (task + 1) (.quote none)] ++ List.replicate 6 (.resume (task + 1) .ok)

/-- The dispatcher handles the position and the snapshot that a fill publishes. -/
def announced (task : Nat) : List (Event PipelineAnswer PipelineStart PipelineDisturbance) :=
  [.start .dispatch, .resume task .ok, .start .dispatch, .resume (task + 1) .ok]

/-- Two passes, the bus drained after each. -/
def drainedBetween : List (Event PipelineAnswer PipelineStart PipelineDisturbance) :=
  placedOrder ++ pass 3 "OPEN" 50 ++ drained 4 ++ announced 6 ++ pass 8 "FILLED" 75 ++
    drained 9 ++ announced 11

/-- Two passes while the first increment waits on the bus. -/
def waitingBetween : List (Event PipelineAnswer PipelineStart PipelineDisturbance) :=
  placedOrder ++ pass 3 "OPEN" 50 ++ pass 4 "FILLED" 75 ++ drained 5 ++ drained 7

end Fills

open Fills in
/-- Without the condition a fill is counted twice: the second pass sends the whole cumulative
quantity while the first increment still waits on the bus. -/
theorem reconcileLiveOrders_counts_fill_twice :
    ¬ ∀ (service : ExecutionService) (orderId : String)
      (config : Config PipelineOp PipelineReply Raised Pipeline),
      (Pipeline.system service).Reaches claimed (Pipeline.idle .initial) config →
      CountedOnce orderId config.world := by
  intro counted
  have twice : ((Pipeline.system liveService).run claimed (Pipeline.idle .initial)
      waitingBetween).map (fun config => (config.world.oms.rows.map fun row =>
        (row.orderId, row.clientOrderId), config.world.broker.filled "CL-1",
        config.world.portfolio.getExecutedQuantityForOrder "order-1")) =
      some ([("order-1", "CL-1")], 75, 125) := by decide +kernel
  obtain ⟨config, reaches, facts⟩ := System.reaches_of_map twice
  have rows := congrArg Prod.fst facts
  have filled := congrArg (fun triple => triple.2.1) facts
  have executed := congrArg (fun triple => triple.2.2) facts
  simp only at rows filled executed
  have known : config.world.oms.Knows "order-1" "CL-1" := by
    have member : ("order-1", "CL-1") ∈ config.world.oms.rows.map fun row =>
        (row.orderId, row.clientOrderId) := by
      rw [rows]
      exact List.mem_cons_self
    obtain ⟨row, inRows, ids⟩ := List.mem_map.mp member
    exact ⟨row, inRows, congrArg Prod.fst ids, congrArg Prod.snd ids⟩
  have bound := (counted liveService "order-1" config
    reaches).1 "CL-1" known
  omega

open Fills in
/-- A run that meets the condition and counts both increments. -/
theorem reconcileLiveOrders_counts_two_fills :
    ∃ config, (Pipeline.system liveService).Reaches (condition "order-1")
        (Pipeline.idle .initial) config ∧
      config.world.portfolio.getExecutedQuantityForOrder "order-1" = 75 ∧
      CountedOnce "order-1" config.world := by
  have twice : ((Pipeline.system liveService).run (condition "order-1") (Pipeline.idle .initial)
      drainedBetween).map (fun config =>
        config.world.portfolio.getExecutedQuantityForOrder "order-1") =
      some 75 := by decide +kernel
  obtain ⟨config, reaches, executed⟩ := System.reaches_of_map twice
  exact ⟨config, reaches, executed,
    reconcileLiveOrders_counts_fills_once liveService "order-1" config reaches⟩

end BreezeTrading
