/-
This file reads a reconciliation pass as a function. With all answers decided beforehand a pass
only publishes: for every order it lists, the report of the broker's evidence and the increment it
adds to the executions booked, or the increment a FILLED order misses.
-/

import BreezeTrading.Pipeline.System

namespace BreezeTrading

open Async

/-- What the environment answers during one pass; the statements commit. -/
structure Environment where
  orderStatus : String → Except Raised (Option BrokerOrderResponse)
  recovery : String → Except Raised (Option BrokerOrderResponse)
  trades : Except Raised (List BrokerTradeResponse)
  quote : String → Option ℚ

namespace Environment

/-- The answer to a question to the outside. -/
def orRaises {Value : Type} (answer : Value → PipelineAnswer) :
    Except Raised Value → PipelineAnswer
  | .ok value => answer value
  | .error error => .raises error.text

/-- What the environment decides about an operation. -/
def decide (environment : Environment) : PipelineOp → PipelineAnswer
  | .getOrderStatus brokerOrderId => orRaises .orderStatus (environment.orderStatus brokerOrderId)
  | .findOrderByClientId clientOrderId =>
      orRaises .orderStatus (environment.recovery clientOrderId)
  | .getTrades => orRaises .trades environment.trades
  | .getLatestQuote instrumentId => .quote (environment.quote instrumentId)
  | _ => .ok

/-- The answer to an operation, in a world where nothing else runs. -/
def answer (environment : Environment) (world : Pipeline) (op : PipelineOp) :
    Except Raised (PipelineReply op) × Pipeline :=
  (world.answer op (environment.decide op)).getD (.error ⟨"not answered"⟩, world)

end Environment

namespace ExecutionService

/-! ### What a pass publishes -/

/-- The evidence of an order without a broker id. -/
def awaitedEvidence (environment : Environment) (order : BrokerOrder) :
    Option BrokerOrderResponse :=
  if order.status = .submitting ∨ order.status = .submissionUnknown then
    match environment.recovery order.clientOrderId, environment.trades with
    | .ok (some response), _ => some response
    | .ok none, .ok trades => responseOfTrades order trades
    | _, _ => none
  else none

/-- The evidence a pass finds about an order, if any. -/
def evidence (environment : Environment) (order : BrokerOrder) : Option BrokerOrderResponse :=
  match orText order.brokerOrderId none with
  | some brokerOrderId =>
    if brokerOrderId = "" then awaitedEvidence environment order
    else (environment.orderStatus brokerOrderId).toOption.join
  | none => awaitedEvidence environment order

/-- The price an increment is published at. -/
def fillPrice (order : BrokerOrder) (averagePrice : ℚ) : ℚ :=
  orNumber averagePrice (orNumber order.averagePrice order.price)

/-- The increment to a cumulative quantity, when there is one. -/
def increment (order : BrokerOrder) (filledQuantity portfolioFilled : Int) (price : ℚ) :
    List Envelope :=
  if 0 < max 0 (filledQuantity - portfolioFilled) then
    [.brokerTradeEvent (tradeFill order (max 0 (filledQuantity - portfolioFilled))
      filledQuantity price)]
  else []

/-- What a pass reports about an order. -/
def progressReport (order : BrokerOrder) (response : BrokerOrderResponse) : BrokerOrderEvent where
  clientOrderId := order.clientOrderId
  brokerOrderId := orText response.brokerOrderId order.brokerOrderId
  status := normalizeBrokerStatus response.status
  filledQuantity := response.filledQuantity
  averagePrice := response.averagePrice
  message := some ((orText response.message none).getD "Broker reconciliation")

def progressEvents (order : BrokerOrder) (portfolioFilled : Int)
    (response : BrokerOrderResponse) : List Envelope :=
  .brokerOrderEvent (progressReport order response) ::
    increment order response.filledQuantity portfolioFilled
      (fillPrice order response.averagePrice)

/-- What a pass publishes about one order. -/
def orderEvents (environment : Environment) (portfolio : PortfolioTables) (order : BrokerOrder) :
    List Envelope :=
  let portfolioFilled := portfolio.getExecutedQuantityForOrder order.orderId
  if order.status = .filled then
    increment order order.filledQuantity portfolioFilled (orNumber order.averagePrice order.price)
  else
    match evidence environment order with
    | none => []
    | some response => progressEvents order portfolioFilled response

theorem orderEvents_filled (environment : Environment) (portfolio : PortfolioTables)
    {order : BrokerOrder} (filled : order.status = .filled) :
    orderEvents environment portfolio order = increment order order.filledQuantity
      (portfolio.getExecutedQuantityForOrder order.orderId)
      (orNumber order.averagePrice order.price) :=
  if_pos filled

theorem orderEvents_pending (environment : Environment) (portfolio : PortfolioTables)
    {order : BrokerOrder} (pending : order.status ≠ .filled) :
    orderEvents environment portfolio order = (evidence environment order).elim []
      (progressEvents order (portfolio.getExecutedQuantityForOrder order.orderId)) := by
  unfold orderEvents
  rw [if_neg pending]
  cases evidence environment order <;> rfl

/-! ### The pass as a coroutine -/

/-- A pass adds to the queue, and leaves the tables and the dispatcher's hand alone. -/
structure Publishes (world next : Pipeline) (added : List Envelope) : Prop where
  oms : next.oms = world.oms
  portfolio : next.portfolio = world.portfolio
  inHand : next.inHand = world.inHand
  queue : next.queue = world.queue ++ added

theorem Publishes.refl (world : Pipeline) : Publishes world world [] :=
  ⟨rfl, rfl, rfl, (List.append_nil _).symm⟩

theorem Publishes.trans {first second third : Pipeline} {early late : List Envelope}
    (before : Publishes first second early) (after : Publishes second third late) :
    Publishes first third (early ++ late) := by
  refine ⟨after.oms.trans before.oms, after.portfolio.trans before.portfolio,
    after.inHand.trans before.inHand, ?_⟩
  rw [after.queue, before.queue, List.append_assoc]

theorem Publishes.of_told {world next : Pipeline} (told : Pipeline.Told world next) :
    Publishes world next [] :=
  ⟨told.oms, told.portfolio, told.inHand, told.queue.trans (List.append_nil _).symm⟩

theorem publishes_publish (world : Pipeline) (envelope : Envelope) :
    Publishes world { world with queue := world.queue ++ [envelope] } [envelope] :=
  ⟨rfl, rfl, rfl, rfl⟩

section

variable (environment : Environment) {service : ExecutionService}

theorem eval_publish (envelope : Envelope) (world : Pipeline) :
    (perform (.publish envelope)).eval environment.answer world =
      (.ok (), { world with queue := world.queue ++ [envelope] }) := rfl

theorem eval_increment (order : BrokerOrder) (filledQuantity portfolioFilled : Int) (price : ℚ)
    (world : Pipeline) :
    ∃ next, (if 0 < max 0 (filledQuantity - portfolioFilled) then
        publishTradeFill order (max 0 (filledQuantity - portfolioFilled)) filledQuantity price
      else return : Task Unit).eval environment.answer world = (.ok (), next) ∧
      Publishes world next (increment order filledQuantity portfolioFilled price) := by
  unfold increment
  split
  · exact ⟨_, eval_publish environment _ world, publishes_publish world _⟩
  · exact ⟨world, rfl, Publishes.refl world⟩

theorem eval_publishProgress (order : BrokerOrder) (portfolioFilled : Int)
    (response : BrokerOrderResponse) (world : Pipeline) :
    ∃ next, (publishProgress order portfolioFilled response).eval environment.answer world =
        (.ok (), next) ∧
      Publishes world next (progressEvents order portfolioFilled response) := by
  obtain ⟨next, evaluated, publishes⟩ := eval_increment environment order
    response.filledQuantity portfolioFilled (fillPrice order response.averagePrice)
    { world with queue := world.queue ++ [.brokerOrderEvent (progressReport order response)] }
  exact ⟨next, evaluated, (publishes_publish world _).trans publishes⟩

/-- The trades of a pass are unread, or what the environment answers. -/
def TradesRead (environment : Environment) (trades : Option (List BrokerTradeResponse)) : Prop :=
  ∀ read, trades = some read → environment.trades = .ok read

theorem tradesRead_some {environment : Environment} {read : List BrokerTradeResponse}
    (same : environment.trades = .ok read) : TradesRead environment (some read) :=
  fun _ equal => Option.some.inj equal ▸ same

theorem asking_orRaises {Value : Type} (world : Pipeline) {select : PipelineAnswer → Option Value}
    {learn : Value → Pipeline} {answer : Value → PipelineAnswer}
    (selects : ∀ value, Pipeline.asking world select learn (answer value) =
      some (.ok value, learn value))
    (told : ∀ value, Pipeline.Told world (learn value)) (decided : Except Raised Value)
    (other : Except Raised Value × Pipeline) :
    ∃ next, (Pipeline.asking world select learn (Environment.orRaises answer decided)).getD
        other = (decided, next) ∧ Publishes world next [] := by
  cases decided with
  | error error => exact ⟨world, rfl, Publishes.refl world⟩
  | ok value =>
    refine ⟨learn value, ?_, Publishes.of_told (told value)⟩
    show (Pipeline.asking world select learn (answer value)).getD other = _
    rw [selects]
    rfl

theorem answer_getOrderStatus (brokerOrderId : String) (world : Pipeline) :
    ∃ next, environment.answer world (.getOrderStatus brokerOrderId) =
        (environment.orderStatus brokerOrderId, next) ∧ Publishes world next [] :=
  asking_orRaises world (fun _ => rfl) (Pipeline.told_learnStatus world brokerOrderId) _ _

theorem answer_findOrderByClientId (clientOrderId : String) (world : Pipeline) :
    ∃ next, environment.answer world (.findOrderByClientId clientOrderId) =
        (environment.recovery clientOrderId, next) ∧ Publishes world next [] :=
  asking_orRaises world (fun _ => rfl) (Pipeline.told_learnRecovery world clientOrderId) _ _

theorem answer_getTrades (world : Pipeline) :
    ∃ next, environment.answer world .getTrades = (environment.trades, next) ∧
      Publishes world next [] :=
  asking_orRaises world (fun _ => rfl) (Pipeline.told_learnTrades world) _ _

/-- The evidence a coroutine returns, and none where it fails. -/
def evidenceOf {Trades : Type} :
    Except Raised (Option BrokerOrderResponse × Trades) → Option BrokerOrderResponse
  | .ok (response, _) => response
  | .error _ => none

/-- The trades a coroutine has read, and those it was given where it fails. -/
def tradesOf (given : Option (List BrokerTradeResponse)) :
    Except Raised (Option BrokerOrderResponse × Option (List BrokerTradeResponse)) →
      Option (List BrokerTradeResponse)
  | .ok (_, trades) => trades
  | .error _ => given

variable {trades : Option (List BrokerTradeResponse)}

theorem eval_awaiting {order : BrokerOrder} (read : TradesRead environment trades)
    (world : Pipeline) :
    ∃ result next, (brokerEvidence.awaiting order trades).eval environment.answer world =
        (result, next) ∧ evidenceOf result = awaitedEvidence environment order ∧
      TradesRead environment (tradesOf trades result) ∧ Publishes world next [] := by
  unfold brokerEvidence.awaiting awaitedEvidence
  split
  · obtain ⟨next, answered, publishes⟩ :=
      answer_findOrderByClientId environment order.clientOrderId world
    rw [Coroutine.eval_perform_bind, answered]
    cases environment.recovery order.clientOrderId with
    | error error => exact ⟨_, next, rfl, rfl, read, publishes⟩
    | ok response =>
      cases response with
      | some response => exact ⟨_, next, rfl, rfl, read, publishes⟩
      | none =>
        cases trades with
        | some trades =>
          rw [read trades rfl]
          exact ⟨_, next, rfl, rfl, read, publishes⟩
        | none =>
          obtain ⟨last, asked, quiet⟩ := answer_getTrades environment next
          simp only
          rw [Coroutine.eval_perform_bind, asked]
          cases found : environment.trades with
          | error error => exact ⟨_, last, rfl, rfl, read, publishes.trans quiet⟩
          | ok trades =>
            exact ⟨_, last, rfl, rfl, tradesRead_some found, publishes.trans quiet⟩
  · exact ⟨_, world, rfl, rfl, read, Publishes.refl world⟩

theorem eval_brokerEvidence (order : BrokerOrder) (read : TradesRead environment trades)
    (world : Pipeline) :
    ∃ result next, (brokerEvidence order trades).eval environment.answer world =
        (result, next) ∧ evidenceOf result = evidence environment order ∧
      TradesRead environment (tradesOf trades result) ∧ Publishes world next [] := by
  unfold brokerEvidence evidence
  cases orText order.brokerOrderId none with
  | none => exact eval_awaiting environment read world
  | some brokerOrderId =>
    simp only
    split
    · exact eval_awaiting environment read world
    · obtain ⟨next, answered, publishes⟩ :=
        answer_getOrderStatus environment brokerOrderId world
      rw [Coroutine.eval_perform_bind, answered]
      cases environment.orderStatus brokerOrderId with
      | error | ok => exact ⟨_, next, rfl, rfl, read, publishes⟩

theorem eval_reconcilePending {order : BrokerOrder} (portfolioFilled : Int)
    (read : TradesRead environment trades) (world : Pipeline) :
    ∃ known next, (reconcilePending order portfolioFilled trades).eval environment.answer world =
        (.ok known, next) ∧ TradesRead environment known ∧
      Publishes world next ((evidence environment order).elim []
        (progressEvents order portfolioFilled)) := by
  obtain ⟨result, next, evaluated, found, readNow, publishes⟩ :=
    eval_brokerEvidence environment order read world
  unfold reconcilePending
  rw [Coroutine.eval_catching, Coroutine.eval_bind, evaluated, ← found]
  match result with
  | .error error => exact ⟨_, next, rfl, readNow, publishes⟩
  | .ok (none, known) => exact ⟨_, next, rfl, readNow, publishes⟩
  | .ok (some response, known) =>
    obtain ⟨last, published, adds⟩ :=
      eval_publishProgress environment order portfolioFilled response next
    simp only
    rw [Coroutine.eval_catching, Coroutine.eval_bind, published]
    exact ⟨known, last, rfl, readNow, publishes.trans adds⟩

theorem eval_reconcileOrders (present : service.portfolioService = true) (orders : List BrokerOrder)
    (read : TradesRead environment trades) (world : Pipeline) :
    ∃ next, (service.reconcileOrders orders trades).eval environment.answer world = (.ok (), next) ∧
      Publishes world next (orders.flatMap (orderEvents environment world.portfolio)) := by
  induction orders generalizing trades world with
  | nil => exact ⟨world, rfl, Publishes.refl world⟩
  | cons order rest inductionHypothesis =>
    have progress : (service.portfolioFilled order).eval environment.answer world =
        (.ok (world.portfolio.getExecutedQuantityForOrder order.orderId), world) := by
      unfold portfolioFilled
      rw [if_pos present]
      rfl
    unfold reconcileOrders
    rw [Coroutine.eval_bind, progress, List.flatMap_cons]
    simp only
    split
    · rename_i filled
      rw [orderEvents_filled environment world.portfolio filled]
      obtain ⟨next, published, adds⟩ := eval_increment environment order order.filledQuantity
        (world.portfolio.getExecutedQuantityForOrder order.orderId)
        (orNumber order.averagePrice order.price) world
      obtain ⟨last, evaluated, others⟩ := inductionHypothesis read next
      rw [Coroutine.eval_bind]
      unfold publishMissing
      rw [published]
      rw [adds.portfolio] at others
      exact ⟨last, evaluated, adds.trans others⟩
    · rename_i pending
      rw [orderEvents_pending environment world.portfolio pending]
      obtain ⟨known, next, published, readNow, adds⟩ := eval_reconcilePending environment
        (world.portfolio.getExecutedQuantityForOrder order.orderId) read world
      obtain ⟨last, evaluated, others⟩ := inductionHypothesis readNow next
      rw [Coroutine.eval_bind, published]
      rw [adds.portfolio] at others
      exact ⟨last, evaluated, adds.trans others⟩

/-- The orders a pass looks at. -/
def listed (world : Pipeline) : List BrokerOrder :=
  (world.oms.listOrders 500).filter reconcilable

theorem eval_reconciliationRound (present : service.portfolioService = true) (world : Pipeline) :
    Publishes world (service.reconciliationRound.eval environment.answer world).2
      ((listed world).flatMap (orderEvents environment world.portfolio)) := by
  obtain ⟨next, evaluated, publishes⟩ := eval_reconcileOrders environment present (listed world)
    (by nofun : TradesRead environment none) world
  have pass : service.reconcileLiveOrders.eval environment.answer world = (.ok (), next) :=
    evaluated
  unfold reconciliationRound
  rw [Coroutine.eval_bind, Coroutine.eval_catching, pass]
  exact ⟨publishes.oms, publishes.portfolio, publishes.inHand, publishes.queue⟩

end

end ExecutionService

end BreezeTrading
