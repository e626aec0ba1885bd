/-
This file proves when the value of the fills of an order is the broker's. Where a pass runs alone
and all it publishes is consumed before the next one, each increment is booked once, at the
average price of its report: what later reports change of that price is missing.
-/

import BreezeTrading.Execution.Pass
import BreezeTrading.Execution.FillLedger
import Mathlib.Algebra.Order.BigOperators.Group.List

namespace BreezeTrading

open Async Cumulative Fills

namespace ExecutionService

/-! ### Passes and their consumption -/

/-- The dispatcher handles the next envelope. -/
def consumed (service : ExecutionService) (environment : Environment) (world : Pipeline)
    (envelope : Envelope) (rest : List Envelope) : Pipeline :=
  ((dispatch service envelope).eval environment.answer
    { world with queue := rest, inHand := some envelope }).2

/-- The dispatcher handles envelopes until none waits, for a number of rounds at most. -/
def consume (service : ExecutionService) (environment : Environment) : Nat → Pipeline → Pipeline
  | 0, world => world
  | rounds + 1, world =>
    match world.queue with
    | [] => world
    | envelope :: rest =>
      consume service environment rounds (service.consumed environment world envelope rest)

/-- The rounds an envelope takes: a fill publishes a position and a snapshot. -/
def rounds : Envelope → Nat
  | .brokerTradeEvent _ => 3
  | _ => 1

/-- One pass, with everything it publishes consumed. -/
def passConsumed (service : ExecutionService) (environment : Environment) (world : Pipeline) :
    Pipeline :=
  let passed := (service.reconciliationRound.eval environment.answer world).2
  service.consume environment (passed.queue.map rounds).sum passed

/-- A sequence of passes, each consumed before the next one starts. -/
def passesConsumed (service : ExecutionService) : List Environment → Pipeline → Pipeline
  | [], world => world
  | environment :: rest, world =>
      passesConsumed service rest (service.passConsumed environment world)

/-- What the broker reports about an order, and the price on record to fall back on. -/
structure FillReport where
  filledQuantity : Int
  averagePrice : ℚ
  fallback : ℚ

/-- What a pass is told about an order. -/
def reportIn (environment : Environment) (world : Pipeline) (orderId : String) :
    Option FillReport :=
  match (listed world).find? fun order => decide (order.orderId = orderId) with
  | none => none
  | some order =>
    if order.status = .filled then none
    else
      (evidence environment order).map fun response =>
        ⟨response.filledQuantity, response.averagePrice, orNumber order.averagePrice order.price⟩

/-- What a sequence of passes is told about an order. -/
def reports (service : ExecutionService) (orderId : String) :
    List Environment → Pipeline → List FillReport
  | [], _ => []
  | environment :: rest, world =>
      (reportIn environment world orderId).toList ++
        reports service orderId rest (service.passConsumed environment world)

end ExecutionService

namespace FillValue

open ExecutionService

/-! ### Values -/

/-- The value the broker traded, by its last report: quantity times average price. -/
def tradedValue : Int → ℚ → List FillReport → ℚ
  | filled, average, [] => filled * average
  | _, _, report :: rest => tradedValue report.filledQuantity report.averagePrice rest

/-- The value booked increment by increment, each at the price of its report. -/
def bookedValue : Int → List FillReport → ℚ
  | _, [] => 0
  | filled, report :: rest =>
      (report.filledQuantity - filled : Int) * orNumber report.averagePrice report.fallback +
        bookedValue report.filledQuantity rest

/-- What later reports change of the price of the quantity reported before. -/
def repriced : Int → ℚ → List FillReport → ℚ
  | _, _, [] => 0
  | filled, average, report :: rest =>
      filled * (report.averagePrice - average) +
        repriced report.filledQuantity report.averagePrice rest

/-- The value of the increments reported without a price, at the price on record. -/
def unpriced : Int → List FillReport → ℚ
  | _, [] => 0
  | filled, report :: rest =>
      (if report.averagePrice = 0 then (report.filledQuantity - filled : Int) * report.fallback
        else 0) + unpriced report.filledQuantity rest

/-- The booked value misses the traded one by the repricing, and exceeds it by the increments
without a price. -/
theorem bookedValue_eq (filled : Int) (average : ℚ) (reports : List FillReport) :
    filled * average + bookedValue filled reports =
      tradedValue filled average reports - repriced filled average reports +
        unpriced filled reports := by
  induction reports generalizing filled average with
  | nil =>
    unfold bookedValue tradedValue repriced unpriced
    ring
  | cons report rest inductionHypothesis =>
    have later := inductionHypothesis report.filledQuantity report.averagePrice
    unfold bookedValue tradedValue repriced unpriced
    by_cases missing : report.averagePrice = 0
    · rw [missing] at later
      rw [missing, orNumber_zero, if_pos rfl]
      linarith
    · rw [orNumber_eq_left _ missing, if_neg missing]
      push_cast
      linarith

/-- Nothing booked before the first report: the booked value is the traded one exactly when
the repricing and the increments without a price balance. -/
theorem bookedValue_eq_tradedValue_iff (reports : List FillReport) :
    bookedValue 0 reports = tradedValue 0 0 reports ↔
      repriced 0 0 reports = unpriced 0 reports := by
  have whole := bookedValue_eq 0 0 reports
  rw [mul_zero, zero_add] at whole
  constructor
  · intro same
    linarith
  · intro same
    linarith

/-! ### Handling what a pass publishes -/

/-- What a pass and its consumption put on the bus. -/
def Reported : Envelope → Prop
  | .brokerOrderEvent _ | .portfolioPosition _ | .portfolioPnl _ => True
  | .brokerTradeEvent event => Posted event
  | _ => False

def bookedAs (event : BrokerTradeEvent) : Execution :=
  PortfolioService.executionOf event (event.executionId.getD "")

/-- The trade events of an order among envelopes. -/
def tradesOf (orderId : String) (envelopes : List Envelope) : List BrokerTradeEvent :=
  envelopes.filterMap (tradeOf orderId)

/-- The rows of an order say no more than a bound. -/
def RowsWithin (world : Pipeline) (orderId : String) (bound : Int) : Prop :=
  ∀ row ∈ world.oms.rows, row.orderId = orderId → row.filledQuantity ≤ bound ∧
    ∀ event, .brokerOrderEvent event ∈ world.queue → event.clientOrderId = row.clientOrderId →
      event.filledQuantity ≤ bound

section

variable {environment : Environment} {service : ExecutionService} {world : Pipeline}
  {orderId : String}

theorem eval_handleBrokerOrderEvent (payload : BrokerOrderEvent) (world : Pipeline) :
    ∃ table, ((OmsService.handleBrokerOrderEvent payload).eval environment.answer world).2 =
        { world with oms := table } ∧
      ∀ row ∈ table.rows, row ∈ world.oms.rows ∨
        ∃ old ∈ world.oms.rows, old.orderId = row.orderId ∧
          old.clientOrderId = row.clientOrderId ∧
          payload.clientOrderId = row.clientOrderId ∧
          row.filledQuantity = payload.filledQuantity := by
  have unchanged : ∀ row ∈ world.oms.rows, row ∈ world.oms.rows ∨
      ∃ old ∈ world.oms.rows, old.orderId = row.orderId ∧
        old.clientOrderId = row.clientOrderId ∧ payload.clientOrderId = row.clientOrderId ∧
        row.filledQuantity = payload.filledQuantity := fun row member => Or.inl member
  unfold OmsService.handleBrokerOrderEvent
  generalize upper payload.status = brokerStatus
  rw [Coroutine.eval_perform_bind]
  have read : environment.answer world (.getOrderByClientId payload.clientOrderId) =
      (.ok (world.oms.getOrderByClientId payload.clientOrderId), world) := rfl
  rw [read]
  cases found : world.oms.getOrderByClientId payload.clientOrderId with
  | none => exact ⟨world.oms, rfl, unchanged⟩
  | some order =>
    obtain ⟨member, client⟩ := OrderTable.mem_of_getOrderByClientId found
    simp only
    generalize OmsService.brokerState order.status brokerStatus payload.filledQuantity = toState
    split
    · rw [Coroutine.eval_ofExcept_bind]
      split
      · obtain ⟨table, stored⟩ : ∃ table, world.oms.saveBrokerOrderWithTransition
            (OmsService.reconciledOrder order payload toState) toState = .ok table :=
          OrderTable.saveBrokerOrderWithTransition_of_mem toState member rfl
        have written : environment.answer world (.saveBrokerOrderWithTransition
            (OmsService.reconciledOrder order payload toState) (some order.status) toState
            (some ("Broker reconciliation: " ++ brokerStatus))) =
            (.ok (), { world with oms := table }) := by
          show world.savedOrder (OmsService.reconciledOrder order payload toState) toState = _
          unfold Pipeline.savedOrder
          rw [stored]
        have row : world.oms.written (OmsService.reconciledOrder order payload toState) toState =
            OrderTable.updated order
              { OmsService.reconciledOrder order payload toState with status := toState } :=
          OrderTable.written_of_mem toState member rfl
        rw [Coroutine.eval_perform, written]
        refine ⟨table, rfl, fun row inTable => ?_⟩
        rcases (OrderTable.mem_saveBrokerOrderWithTransition stored row).mp inTable with
          rfl | ⟨old, -⟩
        · rw [row]
          exact Or.inr ⟨order, member, rfl, rfl, client.symm, rfl⟩
        · exact Or.inl old
      · exact ⟨world.oms, rfl, unchanged⟩
    · exact ⟨world.oms, rfl, unchanged⟩

theorem eval_handleTradeEvent {payload : BrokerTradeEvent} (posted : Posted payload)
    (world : Pipeline) :
    ∃ tradingMode currentPrice extra,
      ((PortfolioService.handleTradeEvent payload).eval environment.answer world).2 =
        { (world.appliedExecution (bookedAs payload) tradingMode currentPrice).2 with
          queue := world.queue ++ extra } ∧
      (extra = [] ∨ ∃ position snapshot, extra = [.portfolioPosition position,
        .portfolioPnl snapshot]) := by
  have booked : bookedAs payload = PortfolioService.executionOf payload
      (fillExecutionId payload.orderId payload.cumulativeFilledQuantity) := by
    unfold bookedAs
    rw [posted.named]
    rfl
  unfold PortfolioService.handleTradeEvent
  rw [executionId_of_posted posted, booked]
  simp only [pure_bind]
  rw [Coroutine.eval_perform_bind]
  have quoted : environment.answer world (.getLatestQuote payload.instrumentId) =
      (.ok (environment.quote payload.instrumentId), world) := rfl
  rw [quoted]
  simp only
  rw [Coroutine.eval_perform_bind]
  generalize (environment.quote payload.instrumentId).getD payload.price = currentPrice
  have applied : environment.answer world (.applyExecutionAtomic (PortfolioService.executionOf
      payload (fillExecutionId payload.orderId payload.cumulativeFilledQuantity))
      payload.tradingMode currentPrice) = world.appliedExecution (PortfolioService.executionOf
      payload (fillExecutionId payload.orderId payload.cumulativeFilledQuantity))
      payload.tradingMode currentPrice := rfl
  rw [applied]
  refine ⟨payload.tradingMode, currentPrice, ?_⟩
  generalize outcome : world.appliedExecution (PortfolioService.executionOf payload
    (fillExecutionId payload.orderId payload.cumulativeFilledQuantity)) payload.tradingMode
    currentPrice = result
  have queue : result.2.queue = world.queue := by
    rw [← outcome]
    rfl
  obtain ⟨reply, next⟩ := result
  rw [← queue]
  match reply with
  | .error error => exact ⟨[], by rw [List.append_nil], Or.inl rfl⟩
  | .ok (position, false) => exact ⟨[], by rw [List.append_nil]; rfl, Or.inl rfl⟩
  | .ok (position, true) =>
    refine ⟨[.portfolioPosition position,
      .portfolioPnl (PortfolioService.pnlSnapshot next.portfolio.positions)], ?_,
      Or.inr ⟨position, _, rfl⟩⟩
    show ({ next with queue := (next.queue ++ [.portfolioPosition position]) ++
      [.portfolioPnl (PortfolioService.pnlSnapshot next.portfolio.positions)] } : Pipeline) = _
    rw [List.append_assoc]
    rfl

theorem consumed_eq (envelope : Envelope) (rest : List Envelope) :
    service.consumed environment world envelope rest =
      { ((handle service envelope).eval environment.answer
          { world with queue := rest, inHand := some envelope }).2 with inHand := none } := by
  unfold consumed dispatch
  rw [Coroutine.eval_bind, Coroutine.eval_catching]
  rcases (handle service envelope).eval environment.answer
    { world with queue := rest, inHand := some envelope } with ⟨result | result, next⟩ <;> rfl

end

/-! ### Consuming the bus -/

/-- While the bus is consumed, the executions of an order and the fills that wait for it are
what it will hold, each of them once. -/
structure Draining (orderId : String) (held : List Execution) (bound : Int)
    (world : Pipeline) : Prop where
  reported : ∀ envelope ∈ world.queue, Reported envelope
  executions : ∀ execution ∈ world.portfolio.executions, Booked execution
  holds : world.portfolio.executionsOf orderId ++ (tradesOf orderId world.queue).map bookedAs =
    held
  distinct : (held.map Execution.executionId).Nodup
  rows : RowsWithin world orderId bound

section

variable {environment : Environment} {service : ExecutionService} {world : Pipeline}
  {orderId : String} {held : List Execution} {bound : Int}

theorem tradesOf_append (first second : List Envelope) :
    tradesOf orderId (first ++ second) = tradesOf orderId first ++ tradesOf orderId second :=
  List.filterMap_append

theorem tradesOf_cons_none {envelope : Envelope} (other : tradeOf orderId envelope = none)
    (rest : List Envelope) : tradesOf orderId (envelope :: rest) = tradesOf orderId rest :=
  List.filterMap_cons_none other

theorem tradesOf_cons_some {event : BrokerTradeEvent} (own : event.orderId = orderId)
    (rest : List Envelope) :
    tradesOf orderId (.brokerTradeEvent event :: rest) = event :: tradesOf orderId rest :=
  List.filterMap_cons_some (if_pos own)

variable {rest : List Envelope}

section

variable (draining : Draining orderId held bound world)

include draining

theorem Draining.order {payload : BrokerOrderEvent} {table : OrderTable}
    (queued : world.queue = .brokerOrderEvent payload :: rest) (written : ∀ row ∈ table.rows, row ∈
      world.oms.rows ∨ ∃ old ∈ world.oms.rows, old.orderId = row.orderId ∧ old.clientOrderId =
      row.clientOrderId ∧ payload.clientOrderId = row.clientOrderId ∧ row.filledQuantity =
      payload.filledQuantity) : Draining orderId held bound
      { world with queue := rest, inHand := none, oms := table } where
  reported envelope member :=
    draining.reported envelope (queued ▸ List.mem_cons_of_mem _ member)
  executions := draining.executions
  holds := by
    have holds := draining.holds
    rw [queued, tradesOf_cons_none rfl] at holds
    exact holds
  distinct := draining.distinct
  rows row member own := by
    have later : ∀ event, .brokerOrderEvent event ∈ rest → .brokerOrderEvent event ∈ world.queue :=
      fun event inRest => queued ▸ List.mem_cons_of_mem _ inRest
    rcases written row member with old | ⟨old, inRows, orderSame, clientSame, client, filled⟩
    · obtain ⟨within, events⟩ := draining.rows row old own
      exact ⟨within, fun event inRest => events event (later event inRest)⟩
    · obtain ⟨-, events⟩ := draining.rows old inRows (orderSame.trans own)
      rw [filled]
      refine ⟨events payload (queued ▸ List.mem_cons_self) (client.trans clientSame.symm), ?_⟩
      exact fun event inRest same => events event (later event inRest) (same.trans clientSame.symm)

theorem Draining.trade {event : BrokerTradeEvent} {extra : List Envelope}
    {tradingMode : TradingMode} {currentPrice : ℚ} {booked : Pipeline}
    (queued : world.queue = .brokerTradeEvent event :: rest) (portfolio : booked.portfolio =
      (world.portfolio.applyExecutionAtomic (bookedAs event) tradingMode currentPrice).2)
    (oms : booked.oms = world.oms) (queue : booked.queue = rest ++ extra) (quiet : extra = [] ∨ ∃
      position snapshot, extra = [.portfolioPosition position, .portfolioPnl snapshot]) :
    Draining orderId held bound booked := by
  have posted : Posted event := draining.reported (.brokerTradeEvent event)
    (queued ▸ List.mem_cons_self)
  have named := orderId_of_booked draining.executions posted posted.named
  have idOf : (bookedAs event).executionId =
      fillExecutionId event.orderId event.cumulativeFilledQuantity := by
    unfold bookedAs
    rw [posted.named]
    rfl
  have extraReported : ∀ envelope ∈ extra, Reported envelope ∧ tradeOf orderId envelope = none ∧
      ∀ report, envelope ≠ .brokerOrderEvent report := by
    rcases quiet with rfl | ⟨position, snapshot, rfl⟩
    · exact fun envelope member => absurd member List.not_mem_nil
    · intro envelope member
      rcases List.mem_pair.mp member with rfl | rfl
      · exact ⟨trivial, rfl, by nofun⟩
      · exact ⟨trivial, rfl, by nofun⟩
  have extraTrades : tradesOf orderId extra = [] :=
    List.filterMap_eq_nil_iff.mpr fun envelope member => (extraReported envelope member).2.1
  refine ⟨fun envelope member => ?_, ?_, ?_, draining.distinct, fun row member own => ?_⟩
  · rw [queue] at member
    rcases List.mem_append.mp member with old | new
    · exact draining.reported envelope (queued ▸ List.mem_cons_of_mem _ old)
    · exact (extraReported envelope new).1
  · rw [portfolio, world.portfolio.executions_applyExecutionAtomic (bookedAs event) tradingMode
      currentPrice]
    intro execution member
    split at member
    · exact draining.executions execution member
    · rcases Stored.mem_concat.mp member with old | rfl
      · exact draining.executions execution old
      · exact ⟨posted.positive, _, posted.reached, idOf⟩
  · have holds := draining.holds
    have executionsOf := executionsOf_applied world (bookedAs event) tradingMode currentPrice
      orderId
    have order : (bookedAs event).orderId = event.orderId := rfl
    change (world.portfolio.applyExecutionAtomic (bookedAs event) tradingMode
      currentPrice).2.executionsOf orderId = _ at executionsOf
    rw [← portfolio, order] at executionsOf
    rw [queue, tradesOf_append, extraTrades, List.append_nil, executionsOf]
    by_cases own : event.orderId = orderId
    · rw [queued, tradesOf_cons_some own, List.map_cons] at holds
      have fresh : (bookedAs event).executionId ∉
          world.portfolio.executions.map Execution.executionId := by
        intro known
        obtain ⟨other, inside, same⟩ := List.mem_map.mp known
        have ofOrder : other ∈ world.portfolio.executionsOf orderId :=
          List.mem_filter.mpr ⟨inside, decide_eq_true
            ((named other inside (same.trans idOf)).trans own)⟩
        have distinct := draining.distinct
        rw [← holds, List.map_append, List.map_cons] at distinct
        exact (List.nodup_append.mp distinct).2.2 other.executionId
          (List.mem_map_of_mem ofOrder) _ List.mem_cons_self same
      rw [if_neg fresh, if_pos own, List.append_assoc]
      exact holds
    · have other : tradeOf orderId (.brokerTradeEvent event) = none := if_neg own
      rw [queued, tradesOf_cons_none other] at holds
      rw [if_neg own, List.append_nil, ite_self]
      exact holds
  · rw [oms] at member
    obtain ⟨within, events⟩ := draining.rows row member own
    refine ⟨within, fun report inQueue => ?_⟩
    rw [queue] at inQueue
    rcases List.mem_append.mp inQueue with old | new
    · exact events report (queued ▸ List.mem_cons_of_mem _ old)
    · exact absurd rfl ((extraReported _ new).2.2 report)

theorem Draining.consumed {envelope : Envelope} (queued : world.queue = envelope :: rest) :
    Draining orderId held bound (service.consumed environment world envelope rest) ∧
      (service.consumed environment world envelope rest).inHand = none ∧
      ((service.consumed environment world envelope rest).queue.map rounds).sum + 1 ≤
        (world.queue.map rounds).sum := by
  have isReported := draining.reported envelope (queued ▸ List.mem_cons_self)
  have whole : (world.queue.map rounds).sum = rounds envelope + (rest.map rounds).sum := by
    rw [queued, List.map_cons, List.sum_cons]
  have dropped : tradeOf orderId envelope = none →
      Draining orderId held bound { world with queue := rest, inHand := none } := by
    intro other
    refine ⟨fun _ member => draining.reported _ (queued ▸ List.mem_cons_of_mem _ member),
      draining.executions, ?_, draining.distinct, fun row member own => ?_⟩
    · have holds := draining.holds
      rw [queued, tradesOf_cons_none other] at holds
      exact holds
    · obtain ⟨within, events⟩ := draining.rows row member own
      exact ⟨within, fun event inRest => events event (queued ▸ List.mem_cons_of_mem _ inRest)⟩
  rw [consumed_eq, whole]
  cases envelope with
  | brokerOrderEvent payload =>
    obtain ⟨table, handled, written⟩ := eval_handleBrokerOrderEvent 
      payload { world with queue := rest, inHand := some (.brokerOrderEvent payload) }
    unfold handle
    rw [handled]
    exact ⟨draining.order queued written, rfl, by simp only [rounds]; omega⟩
  | brokerTradeEvent event =>
    obtain ⟨tradingMode, currentPrice, extra, handled, quiet⟩ :=
      eval_handleTradeEvent isReported
        { world with queue := rest, inHand := some (.brokerTradeEvent event) }
    unfold handle
    rw [handled]
    refine ⟨draining.trade queued rfl rfl rfl quiet, rfl, ?_⟩
    have few : (extra.map rounds).sum ≤ 2 := by
      rcases quiet with rfl | ⟨position, snapshot, rfl⟩
      · exact Nat.zero_le 2
      · exact le_rfl
    simp only [rounds, List.map_append, List.sum_append]
    omega
  | portfolioPosition | portfolioPnl =>
    exact ⟨dropped rfl, rfl, by simp only [rounds, handle]; exact (Nat.add_comm _ _).le⟩
  | orderIntent | riskDecision | executionCommand => exact isReported.elim

theorem Draining.consume {fuel : Nat} (idle : world.inHand = none)
    (enough : (world.queue.map rounds).sum ≤ fuel) :
    Draining orderId held bound (service.consume environment fuel world) ∧
      (service.consume environment fuel world).inHand = none ∧
      (service.consume environment fuel world).queue = [] := by
  induction fuel generalizing world with
  | zero =>
    unfold ExecutionService.consume
    refine ⟨draining, idle, ?_⟩
    cases queued : world.queue with
    | nil => rfl
    | cons envelope rest =>
      rw [queued, List.map_cons, List.sum_cons] at enough
      have positive : 0 < rounds envelope := by
        unfold rounds
        split <;> decide
      omega
  | succ fuel inductionHypothesis =>
    unfold ExecutionService.consume
    split
    · rename_i empty
      exact ⟨draining, idle, empty⟩
    · rename_i envelope rest queued
      obtain ⟨later, idleNext, fewer⟩ := draining.consumed queued
      exact inductionHypothesis later idleNext (by omega)

end

end

/-! ### One pass -/

/-- Between two passes: nothing waits, and the executions of the order are a chain. -/
structure Ready (orderId : String) (filled : Int) (world : Pipeline) : Prop where
  queue : world.queue = []
  inHand : world.inHand = none
  executions : ∀ execution ∈ world.portfolio.executions, Booked execution
  chained : Chained (fillExecutionId orderId) (recorded world orderId)
  booked : world.portfolio.getExecutedQuantityForOrder orderId = filled
  rows : ∀ row ∈ world.oms.rows, row.orderId = orderId → row.filledQuantity ≤ filled

section

variable {environment : Environment} {service : ExecutionService} {world : Pipeline}
  {orderId : String} {filled : Int}

variable {order : BrokerOrder}

theorem mem_rows_of_listed (member : order ∈ listed world) : order ∈ world.oms.rows :=
  OrderTable.mem_of_mem_listOrders (List.mem_of_mem_filter member)

theorem nodup_listed (world : Pipeline) : ((listed world).map BrokerOrder.orderId).Nodup := by
  have sorted := (List.perm_insertionSort (fun first second : BrokerOrder =>
    second.createdAt ≤ first.createdAt) world.oms.rows).map BrokerOrder.orderId
  have whole := sorted.nodup_iff.mpr world.oms.byOrderId
  exact whole.sublist ((List.filter_sublist.trans (List.take_sublist _ _)).map _)

theorem tradesOf_increment (order : BrokerOrder) (filledQuantity portfolioFilled : Int)
    (price : ℚ) :
    tradesOf orderId (increment order filledQuantity portfolioFilled price) =
      if order.orderId = orderId ∧ portfolioFilled < filledQuantity then
        [tradeFill order (filledQuantity - portfolioFilled) filledQuantity price]
      else [] := by
  unfold increment
  by_cases more : portfolioFilled < filledQuantity
  · have size : max 0 (filledQuantity - portfolioFilled) = filledQuantity - portfolioFilled := by
      omega
    rw [size, if_pos (by omega)]
    by_cases own : order.orderId = orderId
    · rw [if_pos ⟨own, more⟩]
      exact tradesOf_cons_some own []
    · rw [if_neg fun both => own both.1]
      have other : tradeOf orderId (.brokerTradeEvent (tradeFill order
          (filledQuantity - portfolioFilled) filledQuantity price)) = none := if_neg own
      exact tradesOf_cons_none other []
  · rw [if_neg (by omega), if_neg fun both => more both.2]
    rfl

theorem tradesOf_flatMap {orders : List BrokerOrder} {events : BrokerOrder → List Envelope}
    (distinct : (orders.map BrokerOrder.orderId).Nodup)
    (own : ∀ order, order.orderId ≠ orderId → tradesOf orderId (events order) = []) :
    tradesOf orderId (orders.flatMap events) =
      tradesOf orderId ((orders.find? fun order => decide (order.orderId = orderId)).elim []
        events) := by
  induction orders with
  | nil => rfl
  | cons order rest inductionHypothesis =>
    rw [List.map_cons, List.nodup_cons] at distinct
    rw [List.flatMap_cons, tradesOf_append, inductionHypothesis distinct.2]
    by_cases same : order.orderId = orderId
    · have none_ : rest.find? (fun order => decide (order.orderId = orderId)) = none := by
        refine List.find?_eq_none.mpr fun other member => ?_
        rw [decide_eq_true_eq]
        intro sameOther
        exact distinct.1 (List.mem_map.mpr ⟨other, member, sameOther.trans same.symm⟩)
      have head : (order :: rest).find? (fun order => decide (order.orderId = orderId)) =
          some order := List.find?_cons_of_pos (by simpa using same)
      rw [none_, head]
      exact List.append_nil _
    · have tail : (order :: rest).find? (fun order => decide (order.orderId = orderId)) =
          rest.find? fun order => decide (order.orderId = orderId) :=
        List.find?_cons_of_neg (by simpa using same)
      rw [own order same, List.nil_append, tail]

theorem reported_orderEvents {portfolio : PortfolioTables}
    (booked : ∀ execution ∈ portfolio.executions, Booked execution) {order : BrokerOrder} :
    ∀ envelope ∈ orderEvents environment portfolio order, Reported envelope := by
  have nonneg : 0 ≤ portfolio.getExecutedQuantityForOrder order.orderId := by
    refine List.sum_nonneg fun quantity member => ?_
    obtain ⟨execution, inside, rfl⟩ := List.mem_map.mp member
    exact (booked execution (List.mem_of_mem_filter inside)).1.le
  have posted : ∀ (filledQuantity : Int) (price : ℚ), ∀ envelope ∈ increment order filledQuantity
      (portfolio.getExecutedQuantityForOrder order.orderId) price, Reported envelope := by
    intro filledQuantity price envelope member
    unfold increment at member
    split at member
    · rename_i positive
      obtain rfl := List.mem_singleton.mp member
      have reached : 0 < filledQuantity := by omega
      exact ⟨positive, reached, rfl⟩
    · exact absurd member List.not_mem_nil
  intro envelope member
  by_cases done : order.status = .filled
  · rw [orderEvents_filled environment portfolio done] at member
    exact posted _ _ envelope member
  · rw [orderEvents_pending environment portfolio done] at member
    cases found : evidence environment order with
    | none =>
      rw [found] at member
      exact absurd member List.not_mem_nil
    | some response =>
      rw [found] at member
      rcases List.mem_cons.mp member with rfl | rest
      · trivial
      · exact posted _ _ envelope rest

theorem evidence_of_mem_orderEvents {portfolio : PortfolioTables} {event : BrokerOrderEvent}
    (member : .brokerOrderEvent event ∈ orderEvents environment portfolio order) :
    order.status ≠ .filled ∧ ∃ response, evidence environment order = some response ∧
      event = progressReport order response := by
  have quiet : ∀ (filledQuantity portfolioFilled : Int) (price : ℚ), .brokerOrderEvent event ∉
      increment order filledQuantity portfolioFilled price := by
    intro filledQuantity portfolioFilled price inside
    unfold increment at inside
    split at inside
    · exact nomatch List.mem_singleton.mp inside
    · exact absurd inside List.not_mem_nil
  by_cases done : order.status = .filled
  · rw [orderEvents_filled environment portfolio done] at member
    exact absurd member (quiet _ _ _)
  · rw [orderEvents_pending environment portfolio done] at member
    refine ⟨done, ?_⟩
    cases found : evidence environment order with
    | none =>
      rw [found] at member
      exact absurd member List.not_mem_nil
    | some response =>
      rw [found] at member
      rcases List.mem_cons.mp member with same | rest
      · exact ⟨response, rfl, Envelope.brokerOrderEvent.inj same⟩
      · exact absurd rest (quiet _ _ _)

theorem tradesOf_pass (ready : Ready orderId filled world) :
    reportIn environment world orderId = none ∧
        tradesOf orderId ((listed world).flatMap (orderEvents environment world.portfolio)) = [] ∨
      ∃ order report, reportIn environment world orderId = some report ∧
        order.orderId = orderId ∧
        tradesOf orderId ((listed world).flatMap (orderEvents environment world.portfolio)) =
          if filled < report.filledQuantity then
            [tradeFill order (report.filledQuantity - filled) report.filledQuantity
              (orNumber report.averagePrice report.fallback)]
          else [] := by
  have own : ∀ order : BrokerOrder, order.orderId ≠ orderId →
      tradesOf orderId (orderEvents environment world.portfolio order) = [] := by
    intro order other
    by_cases done : order.status = .filled
    · rw [orderEvents_filled environment world.portfolio done, tradesOf_increment,
        if_neg fun both => other both.1]
    · rw [orderEvents_pending environment world.portfolio done]
      cases evidence environment order with
      | none => rfl
      | some response =>
        show tradesOf orderId (progressEvents order _ response) = []
        unfold progressEvents
        rw [tradesOf_cons_none rfl, tradesOf_increment, if_neg fun both => other both.1]
  rw [tradesOf_flatMap (nodup_listed world) own]
  unfold reportIn
  cases found : (listed world).find? fun order => decide (order.orderId = orderId) with
  | none => exact Or.inl ⟨rfl, rfl⟩
  | some order =>
    obtain ⟨member, same⟩ := Stored.mem_of_find? found
    have executed : world.portfolio.getExecutedQuantityForOrder order.orderId = filled := by
      rw [same]
      exact ready.booked
    simp only [Option.elim_some]
    by_cases done : order.status = .filled
    · have within := ready.rows order (mem_rows_of_listed member) same
      rw [orderEvents_filled environment world.portfolio done, tradesOf_increment, if_pos done,
        executed, if_neg fun both => absurd both.2 (by omega)]
      exact Or.inl ⟨rfl, rfl⟩
    · rw [orderEvents_pending environment world.portfolio done, if_neg done]
      cases evidence environment order with
      | none => exact Or.inl ⟨rfl, rfl⟩
      | some response =>
        refine Or.inr ⟨order, _, rfl, same, ?_⟩
        show tradesOf orderId (progressEvents order _ response) = _
        unfold progressEvents
        rw [tradesOf_cons_none rfl, tradesOf_increment, executed]
        simp only [same, true_and, fillPrice]

theorem Ready.consumed {bound : Int} (present : service.portfolioService = true)
    (ready : Ready orderId filled world) (within : filled ≤ bound)
    (reported : ∀ report, reportIn environment world orderId = some report →
      report.filledQuantity ≤ bound)
    (distinct : ((world.portfolio.executionsOf orderId ++ (tradesOf orderId ((listed world).flatMap
      (orderEvents environment world.portfolio))).map bookedAs).map
      Execution.executionId).Nodup) :
    Draining orderId (world.portfolio.executionsOf orderId ++ (tradesOf orderId
        ((listed world).flatMap (orderEvents environment world.portfolio))).map bookedAs) bound
        (service.passConsumed environment world) ∧
      (service.passConsumed environment world).inHand = none ∧
      (service.passConsumed environment world).queue = [] := by
  have publishes := eval_reconciliationRound environment present world
  unfold passConsumed
  generalize (service.reconciliationRound.eval environment.answer world).2 = passed at publishes
  have queue : passed.queue =
      (listed world).flatMap (orderEvents environment world.portfolio) := by
    rw [publishes.queue, ready.queue, List.nil_append]
  have draining : Draining orderId (world.portfolio.executionsOf orderId ++ (tradesOf orderId
      ((listed world).flatMap (orderEvents environment world.portfolio))).map bookedAs) bound
      passed := by
    refine ⟨?_, ?_, ?_, distinct, ?_⟩
    · rw [queue]
      intro envelope member
      obtain ⟨order, -, inside⟩ := List.mem_flatMap.mp member
      exact reported_orderEvents ready.executions envelope inside
    · rw [publishes.portfolio]
      exact ready.executions
    · rw [publishes.portfolio, queue]
    · intro row member own
      rw [publishes.oms] at member
      refine ⟨(ready.rows row member own).trans within, ?_⟩
      rw [queue]
      intro event inside client
      obtain ⟨order, inListed, published⟩ := List.mem_flatMap.mp inside
      obtain ⟨pending, response, found, rfl⟩ := evidence_of_mem_orderEvents published
      obtain rfl := OrderTable.eq_of_clientOrderId (mem_rows_of_listed inListed) member client
      have first := Stored.find?_eq_some_of_mem (nodup_listed world) inListed own
      refine reported ⟨response.filledQuantity, response.averagePrice,
        orNumber order.averagePrice order.price⟩ ?_
      unfold reportIn
      rw [first]
      simp only
      rw [if_neg pending, found]
      rfl
  exact draining.consume (publishes.inHand.trans ready.inHand) le_rfl

theorem value_bookedAs_tradeFill (order : BrokerOrder) (quantity filledQuantity : Int)
    (price : ℚ) : (bookedAs (tradeFill order quantity filledQuantity price)).value =
      quantity * price := rfl

theorem Ready.nodup_concat (ready : Ready orderId filled world)
    (unique : ((world.portfolio.executionsOf orderId).map Execution.executionId).Nodup)
    {filledQuantity : Int} (own : order.orderId = orderId) (grown : filled < filledQuantity)
    (price : ℚ) : ((world.portfolio.executionsOf orderId ++
      [bookedAs (tradeFill order (filledQuantity - filled) filledQuantity price)]).map
      Execution.executionId).Nodup := by
  have known : (world.portfolio.executionsOf orderId).map Execution.executionId =
      keys (recorded world orderId) := by
    unfold keys recorded
    rw [List.map_map]
    rfl
  have reached : total (recorded world orderId) = filled := by
    rw [total_recorded]
    exact ready.booked
  rw [List.map_append, List.map_singleton]
  refine List.Nodup.append unique (List.nodup_singleton _) (List.disjoint_singleton.mpr ?_)
  rw [known]
  intro member
  obtain ⟨counter, named, positive, bound⟩ := ready.chained.name_of_mem member
  have id : (bookedAs (tradeFill order (filledQuantity - filled) filledQuantity
      price)).executionId = fillExecutionId orderId filledQuantity := by
    rw [← own]
    rfl
  obtain ⟨-, same⟩ := fillExecutionId_inj (by omega) positive (id.symm.trans named)
  omega

theorem Ready.passConsumed (environment : Environment) (present : service.portfolioService = true)
    (ready : Ready orderId filled world)
    (grows : ∀ report, reportIn environment world orderId = some report →
      filled ≤ report.filledQuantity) :
    Ready orderId ((reportIn environment world orderId).elim filled FillReport.filledQuantity)
        (service.passConsumed environment world) ∧
      (service.passConsumed environment world).portfolio.executedValueForOrder orderId =
        world.portfolio.executedValueForOrder orderId +
          (reportIn environment world orderId).elim 0 fun report =>
            (report.filledQuantity - filled : Int) *
              orNumber report.averagePrice report.fallback := by
  have unique : ((world.portfolio.executionsOf orderId).map Execution.executionId).Nodup :=
    world.portfolio.byExecutionId.sublist (List.filter_sublist.map _)
  have recordedTotal : total (recorded world orderId) = filled := by
    rw [total_recorded]
    exact ready.booked
  -- without a fill the executions stay as they are
  have quiet : ∀ bound, filled = bound →
      (∀ report, reportIn environment world orderId = some report →
        report.filledQuantity ≤ bound) →
      tradesOf orderId ((listed world).flatMap (orderEvents environment world.portfolio)) = [] →
      Ready orderId bound (service.passConsumed environment world) ∧
        (service.passConsumed environment world).portfolio.executedValueForOrder orderId =
          world.portfolio.executedValueForOrder orderId := by
    rintro bound rfl reported none_
    have distinct := unique
    rw [← List.append_nil (world.portfolio.executionsOf orderId), ← List.map_nil (f := bookedAs),
      ← none_] at distinct
    obtain ⟨draining, inHand, queue⟩ := ready.consumed present le_rfl reported distinct
    have same := draining.holds
    rw [queue, none_] at same
    have executionsSame : (service.passConsumed environment world).portfolio.executionsOf
        orderId = world.portfolio.executionsOf orderId := by
      simpa [tradesOf] using same
    refine ⟨⟨queue, inHand, draining.executions, ?_, ?_, fun row member own =>
      (draining.rows row member own).1⟩, ?_⟩
    · unfold recorded
      rw [executionsSame]
      exact ready.chained
    · unfold PortfolioTables.getExecutedQuantityForOrder
      rw [executionsSame]
      exact ready.booked
    · unfold PortfolioTables.executedValueForOrder
      rw [executionsSame]
  rcases tradesOf_pass ready with ⟨untold, none_⟩ | ⟨order, report, told, own, trades⟩
  · obtain ⟨next, value⟩ := quiet filled rfl (fun report told => nomatch untold.symm.trans told)
      none_
    rw [untold, value]
    exact ⟨next, (add_zero _).symm⟩
  · have more := grows report told
    have only : ∀ other, reportIn environment world orderId = some other →
        other.filledQuantity ≤ report.filledQuantity := fun other same =>
      (Option.some.inj (told.symm.trans same)) ▸ le_rfl
    rw [told]
    simp only [Option.elim_some]
    by_cases grown : filled < report.filledQuantity
    · rw [if_pos grown] at trades
      have distinct := ready.nodup_concat unique own grown
        (orNumber report.averagePrice report.fallback)
      rw [← List.map_singleton (f := bookedAs), ← trades] at distinct
      obtain ⟨draining, inHand, queue⟩ := ready.consumed present more only distinct
      have holds := draining.holds
      rw [queue, trades, List.map_singleton] at holds
      have executionsNext : (service.passConsumed environment world).portfolio.executionsOf
          orderId = world.portfolio.executionsOf orderId ++ [bookedAs (tradeFill order
            (report.filledQuantity - filled) report.filledQuantity
            (orNumber report.averagePrice report.fallback))] := by
        simpa [tradesOf] using holds
      refine ⟨⟨queue, inHand, draining.executions, ?_, ?_, fun row member own =>
        (draining.rows row member own).1⟩, ?_⟩
      · have extended := Chained.concat report.filledQuantity ready.chained
          (recordedTotal.trans_lt grown)
        rw [recordedTotal] at extended
        unfold recorded
        rw [executionsNext, List.map_append, List.map_singleton]
        have delta : deltaOfExecution (bookedAs (tradeFill order (report.filledQuantity - filled)
            report.filledQuantity (orNumber report.averagePrice report.fallback))) =
            ⟨fillExecutionId orderId report.filledQuantity, report.filledQuantity - filled⟩ := by
          rw [← own]
          rfl
        rw [delta]
        exact extended
      · have before := ready.booked
        unfold PortfolioTables.getExecutedQuantityForOrder at before ⊢
        rw [executionsNext, List.map_append, List.sum_append, before]
        show filled + (report.filledQuantity - filled + 0) = report.filledQuantity
        omega
      · unfold PortfolioTables.executedValueForOrder
        rw [executionsNext, List.map_append, List.sum_append, List.map_singleton,
          List.sum_singleton, value_bookedAs_tradeFill]
    · have same : filled = report.filledQuantity := by omega
      rw [if_neg grown] at trades
      obtain ⟨next, value⟩ := quiet _ same only trades
      refine ⟨next, value.trans ?_⟩
      rw [← same, sub_self]
      simp

/-- An order before its first fill, with nothing on the bus. -/
structure Unfilled (orderId : String) (world : Pipeline) : Prop where
  queue : world.queue = []
  inHand : world.inHand = none
  executions : ∀ execution ∈ world.portfolio.executions, Booked execution
  unbooked : world.portfolio.executionsOf orderId = []
  rows : ∀ row ∈ world.oms.rows, row.orderId = orderId → row.filledQuantity ≤ 0

theorem Unfilled.ready (unfilled : Unfilled orderId world) : Ready orderId 0 world where
  queue := unfilled.queue
  inHand := unfilled.inHand
  executions := unfilled.executions
  chained := by
    unfold recorded
    rw [unfilled.unbooked]
    exact .nil
  booked := by
    unfold PortfolioTables.getExecutedQuantityForOrder
    rw [unfilled.unbooked]
    rfl
  rows := unfilled.rows

theorem Ready.passesConsumed (present : service.portfolioService = true)
    (environments : List Environment) (ready : Ready orderId filled world)
    (grows : (filled :: (reports service orderId environments world).map
      FillReport.filledQuantity).Pairwise (· ≤ ·)) :
    (service.passesConsumed environments world).portfolio.executedValueForOrder orderId =
      world.portfolio.executedValueForOrder orderId +
        bookedValue filled (reports service orderId environments world) := by
  induction environments generalizing world filled with
  | nil => exact (add_zero _).symm
  | cons environment rest inductionHypothesis =>
    unfold ExecutionService.passesConsumed
    unfold reports at grows ⊢
    cases told : reportIn environment world orderId with
    | none =>
      rw [told] at grows
      obtain ⟨next, value⟩ := ready.passConsumed environment present
        fun report same => nomatch told.symm.trans same
      rw [told] at next value
      rw [inductionHypothesis next grows, value]
      show _ + 0 + bookedValue filled (reports service orderId rest _) = _
      rw [add_zero]
      rfl
    | some report =>
      rw [told] at grows
      obtain ⟨first, later⟩ := List.pairwise_cons.mp grows
      obtain ⟨next, value⟩ := ready.passConsumed environment present
        fun other same => by
          obtain rfl := Option.some.inj (told.symm.trans same)
          exact first _ List.mem_cons_self
      rw [told] at next value
      rw [inductionHypothesis next later, value, add_assoc]
      rfl

end

end FillValue

open FillValue ExecutionService in
/-- For every order without a fill and every sequence of passes, each consumed before the next,
in which the broker's cumulative quantity does not decrease: the booked value is the broker's
exactly when what the reports change of the price of earlier quantities balances the increments
reported without a price. -/
theorem reconcileLiveOrders_conserves_value_iff (service : ExecutionService)
    (present : service.portfolioService = true) (environments : List Environment)
    (world : Pipeline) (orderId : String) (unfilled : Unfilled orderId world)
    (grows : (0 :: (reports service orderId environments world).map
      FillReport.filledQuantity).Pairwise (· ≤ ·)) :
    (service.passesConsumed environments world).portfolio.executedValueForOrder orderId =
        tradedValue 0 0 (reports service orderId environments world) ↔
      repriced 0 0 (reports service orderId environments world) =
        unpriced 0 (reports service orderId environments world) := by
  have nothing : world.portfolio.executedValueForOrder orderId = 0 := by
    unfold PortfolioTables.executedValueForOrder
    rw [unfilled.unbooked]
    rfl
  rw [unfilled.ready.passesConsumed present environments grows, nothing, zero_add]
  exact bookedValue_eq_tradedValue_iff _

namespace FillValue

/-! ### Two partial fills -/

def openOrder : BrokerOrder where
  orderId := "order-1"
  intentId := "intent-1"
  clientOrderId := "CL-1"
  brokerOrderId := some "broker-1"
  instrumentId := "INST-NIFTY-2026-01-29-25000-CE"
  symbol := "NIFTY"
  side := .buy
  orderType := .limit
  quantity := 100
  filledQuantity := 0
  remainingQuantity := 100
  price := 120
  triggerPrice := none
  averagePrice := 0
  status := .open
  statusMessage := none
  tradingMode := .live
  reduceOnly := false
  createdAt := 0

def openWorld : Pipeline :=
  { Pipeline.initial with
    oms := ⟨[openOrder], List.nodup_singleton _, List.nodup_singleton _⟩ }

/-- A pass in which the broker reports a cumulative quantity and its average price. -/
def reporting (status : String) (filledQuantity : Int) (averagePrice : ℚ) : Environment where
  orderStatus _ := .ok (some
    { success := true
      brokerOrderId := some "broker-1"
      clientOrderId := "CL-1"
      status := status
      message := none
      filledQuantity := filledQuantity
      averagePrice := averagePrice })
  recovery _ := .ok none
  trades := .ok []
  quote _ := none

def wiredService : ExecutionService := ⟨"breeze", true, true, true⟩

theorem unfilled_openWorld : Unfilled "order-1" openWorld where
  queue := rfl
  inHand := rfl
  executions _ member := absurd member List.not_mem_nil
  unbooked := rfl
  rows row member _ := by
    obtain rfl := List.mem_singleton.mp member
    exact le_rfl

end FillValue

open FillValue ExecutionService in
/-- Fifty at 100 and then a hundred at 110 on average: the broker traded 11000, and the second
fifty are booked at 110. -/
theorem reconcileLiveOrders_loses_value :
    ¬ ∀ (service : ExecutionService) (_ : service.portfolioService = true)
      (environments : List Environment) (world : Pipeline) (orderId : String)
      (_ : Unfilled orderId world)
      (_ : (0 :: (reports service orderId environments world).map
        FillReport.filledQuantity).Pairwise (· ≤ ·)),
      (service.passesConsumed environments world).portfolio.executedValueForOrder orderId =
        tradedValue 0 0 (reports service orderId environments world) := by
  intro conserves
  have same := conserves wiredService rfl [reporting "OPEN" 50 100, reporting "FILLED" 100 110]
    openWorld "order-1" unfilled_openWorld (by decide +kernel)
  revert same
  decide +kernel

open FillValue ExecutionService in
/-- Fifty at 100 and then a hundred at 100 on average are booked at their value. -/
theorem reconcileLiveOrders_conserves_value_steady :
    tradedValue 0 0 (reports wiredService "order-1"
      [reporting "OPEN" 50 100, reporting "FILLED" 100 100] openWorld) = 10000 ∧
    (wiredService.passesConsumed [reporting "OPEN" 50 100, reporting "FILLED" 100 100]
      openWorld).portfolio.executedValueForOrder "order-1" =
    tradedValue 0 0 (reports wiredService "order-1"
      [reporting "OPEN" 50 100, reporting "FILLED" 100 100] openWorld) :=
  ⟨by decide +kernel, (reconcileLiveOrders_conserves_value_iff wiredService rfl
    [reporting "OPEN" 50 100, reporting "FILLED" 100 100] openWorld "order-1" unfilled_openWorld
    (by decide +kernel)).mpr (by decide +kernel)⟩

end BreezeTrading
