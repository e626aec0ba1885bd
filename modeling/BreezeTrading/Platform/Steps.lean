/-
This file says once what each operation of the platform does, and which parts of
the services do nothing but read, ask the outside and publish reports. Results
about runs of the platform are proved over these two.
-/

import BreezeTrading.Execution.Parts
import BreezeTrading.Platform.System
import BreezeTrading.Risk.Exposure

namespace BreezeTrading

open Async

namespace Platform

/-! ### What an operation of the pipeline does -/

/-- The events that start no work on an order: neither an intent nor a decision, and no news of
the broker but about some orders. -/
def Light (clients : String → Prop) : Envelope → Prop
  | .orderIntent _ => False
  | .riskDecision _ => False
  | .brokerOrderEvent payload => clients payload.clientOrderId
  | _ => True

abbrev anyOrder : String → Prop := fun _ => True

/-- The platform but for the portfolio, the broker, the memory of the services, and reports on
the bus. -/
structure Beside (clients : String → Prop) (world next : Platform) : Prop where
  oms : next.pipeline.oms = world.pipeline.oms
  intents : next.pipeline.intents = world.pipeline.intents
  inHand : next.pipeline.inHand = world.pipeline.inHand
  queue : ∃ more, next.pipeline.queue = world.pipeline.queue ++ more ∧
    ∀ envelope ∈ more, Light clients envelope
  mode : next.mode = world.mode
  decisions : next.decisions = world.decisions
  outbox : next.outbox = world.outbox
  running : next.running = world.running
  epoch : next.epoch = world.epoch
  placements : next.placements = world.placements

section Beside

variable {clients : String → Prop}

theorem forall_mem_nil : ∀ envelope ∈ ([] : List Envelope), Light clients envelope :=
  fun _ member => absurd member List.not_mem_nil

theorem beside_refl (world : Platform) : Beside clients world world := by
  constructor <;> first | rfl | exact ⟨[], (List.append_nil _).symm, forall_mem_nil⟩

/-- Operations that leave everything but reports as it is. -/
def Plain (clients : String → Prop) : PipelineOp → Prop
  | .saveOrderIntent _ => False
  | .saveBrokerOrderWithTransition _ _ _ _ => False
  | .placeOrder _ _ => False
  | .publish envelope => Light clients envelope
  | .taskDone => False
  | _ => True

variable {world next : Platform} {choice : PipelineAnswer} {moved : Pipeline}

theorem answerPipeline_eq_some {op : PipelineOp} {reply : Except Raised (PipelineReply op)}
    (answered : world.answerPipeline op choice = some (reply, next)) :
    world.fresh op = true ∧ ∃ moved, world.pipeline.answer op choice = some (reply, moved) ∧
      next = world.after op (succeeded reply) moved := by
  unfold answerPipeline at answered
  split at answered
  · rename_i isFresh
    obtain ⟨⟨reply', moved⟩, answeredThere, pair⟩ := Option.map_eq_some_iff.mp answered
    cases pair
    exact ⟨isFresh, moved, answeredThere, rfl⟩
  · cases answered

theorem beside_of_eq (oms : moved.oms = world.pipeline.oms)
    (intents : moved.intents = world.pipeline.intents)
    (inHand : moved.inHand = world.pipeline.inHand) (queue : moved.queue = world.pipeline.queue) :
    Beside clients world { world with pipeline := moved } where
  oms := oms
  intents := intents
  inHand := inHand
  queue := ⟨[], by rw [List.append_nil]; exact queue, forall_mem_nil⟩
  mode := rfl
  decisions := rfl
  outbox := rfl
  running := rfl
  epoch := rfl
  placements := rfl

theorem beside_told (told : Pipeline.Told world.pipeline moved) :
    Beside clients world { world with pipeline := moved } :=
  beside_of_eq told.oms told.intents told.inHand told.queue

theorem row_of_pending {store : Store} {limit : Nat} {entry : Nat × Envelope}
    (member : entry ∈ world.pendingOutboxEvents store limit) :
    ∃ row, (world.outbox store)[entry.1]? = some row ∧ row.envelope = entry.2 := by
  obtain ⟨⟨row, index⟩, inSorted, rfl⟩ := List.mem_map.mp member
  have inPending := (List.mem_insertionSort _).mp (List.mem_of_mem_take inSorted)
  have inZip := (List.mem_filter.mp inPending).1
  exact ⟨row, List.mk_mem_zipIdx_iff_getElem?.mp inZip, rfl⟩

theorem eq_of_disturb {cause : PlatformDisturbance}
    (disturbed : Platform.disturb world cause = some next) :
    ∃ broker, next = { world with pipeline := { world.pipeline with broker } } := by
  cases cause with
  | brokerAccepts | brokerFills =>
    obtain ⟨moved, there, rfl⟩ := Option.map_eq_some_iff.mp disturbed
    simp only [Pipeline.disturb] at there
    split at there
    · cases there
      exact ⟨_, rfl⟩
    · cases there

theorem beside_of_asking {Value : Type} {select : PipelineAnswer → Option Value}
    {learn : Value → Pipeline} {reply : Except Raised Value}
    (told : ∀ value, Pipeline.Told world.pipeline (learn value))
    (answered : Pipeline.asking world.pipeline select learn choice = some (reply, moved)) :
    Beside clients world { world with pipeline := moved } := by
  rcases Pipeline.asking_eq_some answered with ⟨rfl, -⟩ | ⟨value, -, -, rfl⟩
  · exact beside_told (Pipeline.told_refl _)
  · exact beside_told (told value)

theorem beside_of_reading {Value : Type} {value : Value} {reply : Except Raised Value}
    (answered : Pipeline.reading world.pipeline value choice = some (reply, moved)) :
    Beside clients world { world with pipeline := moved } := by
  rw [(Pipeline.reading_eq_some answered).1]
  exact beside_told (Pipeline.told_refl _)

theorem beside_of_plain {op : PipelineOp} {reply : Except Raised (PipelineReply op)}
    (plain : Plain clients op) (answered : world.answerPipeline op choice = some (reply, next)) :
    Beside clients world next := by
  obtain ⟨-, moved, answeredThere, rfl⟩ := answerPipeline_eq_some answered
  have same (value : PipelineReply op) : Pipeline.Told world.pipeline world.pipeline :=
    Pipeline.told_refl _
  cases op with
  | saveOrderIntent | saveBrokerOrderWithTransition | placeOrder | taskDone => exact absurd plain id
  | getOrder | getOrderById | getOrderByClientId | listOrders | getExecutedQuantityForOrder
  | listPositions | savePnlSnapshot =>
    exact beside_of_reading answeredThere
  | applyExecutionAtomic execution tradingMode currentPrice =>
    rcases Pipeline.committing_eq_some answeredThere with pair | ⟨rfl, -⟩
    · obtain ⟨-, rfl⟩ := Prod.mk.inj pair
      exact beside_of_eq rfl rfl rfl rfl
    · exact beside_refl world
  | publish envelope =>
    obtain ⟨rfl, -⟩ := Pipeline.always_eq_some answeredThere
    refine ⟨rfl, rfl, rfl, ⟨[envelope], rfl, fun other member => ?_⟩, rfl, rfl, rfl, rfl, rfl, rfl⟩
    rw [List.mem_singleton.mp member]
    exact plain
  | getSessionStatus | getExecutionFeedHealth | validateLiveOrder | getLatestQuote | generateId =>
    exact beside_of_asking same answeredThere
  | getOrderStatus brokerOrderId =>
    exact beside_of_asking (fun value => Pipeline.told_learnStatus _ _ value) answeredThere
  | findOrderByClientId clientOrderId =>
    exact beside_of_asking (fun value => Pipeline.told_learnRecovery _ _ value) answeredThere
  | getTrades =>
    exact beside_of_asking (fun value => Pipeline.told_learnTrades _ value) answeredThere
  | addProcessedExecution | sleep =>
    obtain ⟨rfl, -⟩ := Pipeline.always_eq_some answeredThere
    exact beside_of_eq rfl rfl rfl rfl

end Beside

variable {world next : Platform} {reply : Except Raised Unit} {op : RiskOp}
  {choice : PlatformAnswer}

theorem answerPipeline_reading {op : PipelineOp} {choice : PipelineAnswer}
    {reply : Except Raised (PipelineReply op)} {value : PipelineReply op} (reads : ∀ choice,
      world.pipeline.answer op choice = Pipeline.reading world.pipeline value choice)
    (leaves : ∀ succeeded moved, world.after op succeeded moved = { world with pipeline := moved })
    (answered : world.answerPipeline op choice = some (reply, next)) :
    next = world ∧ (reply = .ok value ∨ ∃ error, reply = .error error) := by
  obtain ⟨-, moved, answeredThere, rfl⟩ := answerPipeline_eq_some answered
  rw [reads] at answeredThere
  obtain ⟨rfl, replied⟩ := Pipeline.reading_eq_some answeredThere
  exact ⟨leaves _ _, replied⟩

/-- The intent is committed, with its event in the outbox. -/
abbrev saved (world : Platform) (intent : OrderIntent) : Platform :=
  world.after (.saveOrderIntent intent) true
    { world.pipeline with intents := world.pipeline.intents ++ [intent] }

theorem answerPipeline_saveOrderIntent {intent : OrderIntent} {choice : PipelineAnswer}
    (answered : world.answerPipeline (.saveOrderIntent intent) choice = some (reply, next)) :
    (next = world ∧ ∃ error, reply = .error error) ∨
      (intent.intentId ∉ world.pipeline.intents.map OrderIntent.intentId ∧ reply = .ok () ∧
        next = world.saved intent) := by
  obtain ⟨-, moved, answeredThere, rfl⟩ := answerPipeline_eq_some answered
  rcases Pipeline.committing_eq_some answeredThere with pair | ⟨rfl, error, rfl⟩
  · unfold Pipeline.savedIntent at pair
    split at pair
    · cases pair
      exact .inl ⟨rfl, _, rfl⟩
    · rename_i unseen
      cases pair
      exact .inr ⟨unseen, rfl, rfl⟩
  · exact .inl ⟨rfl, error, rfl⟩

theorem answerPipeline_saveBrokerOrder {order : BrokerOrder} {fromState : Option OrderState}
    {toState : OrderState} {reason : Option String} {choice : PipelineAnswer} (answered :
      world.answerPipeline (.saveBrokerOrderWithTransition order fromState toState reason) choice =
      some (reply, next)) : (next = world ∧ ∃ error, reply = .error error) ∨
      ∃ table, world.pipeline.oms.saveBrokerOrderWithTransition order toState = .ok table ∧
        reply = .ok () ∧
        next = { world with pipeline := { world.pipeline with oms := table } } := by
  obtain ⟨-, moved, answeredThere, rfl⟩ := answerPipeline_eq_some answered
  rcases Pipeline.committing_eq_some answeredThere with pair | ⟨rfl, error, rfl⟩
  · unfold Pipeline.savedOrder at pair
    split at pair
    · rename_i table stored
      cases pair
      exact .inr ⟨table, stored, rfl, rfl⟩
    · cases pair
      exact .inl ⟨rfl, _, rfl⟩
  · exact .inl ⟨rfl, error, rfl⟩

/-- The broker is called, under the mode of the moment. -/
abbrev called (world : Platform) (request : BrokerOrderRequest) : Platform :=
  { world with
    pipeline := { world.pipeline with placed := world.pipeline.placed ++ [request] }
    placements := world.placements ++ [(request, world.mode)] }

theorem answerPipeline_placeOrder {request : BrokerOrderRequest} {tradingMode : TradingMode}
    {choice : PipelineAnswer} {reply : Except Raised BrokerOrderResponse}
    (answered : world.answerPipeline (.placeOrder request tradingMode) choice = some (reply, next))
    : next = world.called request := by
  obtain ⟨-, moved, answeredThere, rfl⟩ := answerPipeline_eq_some answered
  rcases Pipeline.asking_eq_some answeredThere with ⟨rfl, -⟩ | ⟨value, -, -, rfl⟩
  · rfl
  · rfl

theorem answerPipeline_publish {envelope : Envelope} {choice : PipelineAnswer}
    (answered : world.answerPipeline (.publish envelope) choice = some (reply, next)) :
    next = world.enqueue envelope ∧ reply = .ok () := by
  obtain ⟨-, moved, answeredThere, rfl⟩ := answerPipeline_eq_some answered
  obtain ⟨rfl, rfl⟩ := Pipeline.always_eq_some answeredThere
  exact ⟨rfl, rfl⟩

theorem answerPipeline_taskDone {choice : PipelineAnswer}
    (answered : world.answerPipeline .taskDone choice = some (reply, next)) :
    next = { world with pipeline := { world.pipeline with inHand := none } } ∧ reply = .ok () := by
  obtain ⟨-, moved, answeredThere, rfl⟩ := answerPipeline_eq_some answered
  obtain ⟨rfl, rfl⟩ := Pipeline.always_eq_some answeredThere
  exact ⟨rfl, rfl⟩

/-! ### What an operation of the risk service does -/

/-- Operations of the risk service that only read. -/
def Asks : RiskOp → Prop
  | .saveDecision _ _ => False
  | .publish _ => False
  | _ => True

theorem answerRisk_asks {reply : Except Raised (RiskReply op)} (asks : Asks op)
    (answered : world.answerRisk op choice = some (reply, next)) : next = world := by
  cases op with
  | saveDecision | publish => exact absurd asks id
  | _ =>
    cases choice <;> first
      | exact (congrArg Prod.snd (Option.some.inj answered)).symm
      | exact nomatch answered

theorem answerRisk_getSystemMode {reply : Except Raised SystemMode}
    (answered : world.answerRisk .getSystemMode choice = some (reply, next)) :
    next = world ∧ (reply = .ok world.mode ∨ ∃ error, reply = .error error) := by
  cases choice with
  | ok =>
    cases answered
    exact ⟨rfl, .inl rfl⟩
  | raises text =>
    cases answered
    exact ⟨rfl, .inr ⟨_, rfl⟩⟩
  | _ => cases answered

theorem answerRisk_error {error : Raised}
    (answered : world.answerRisk op choice = some (.error error, next)) :
    ∃ text, choice = .raises text := by
  cases choice with
  | raises text => exact ⟨text, rfl⟩
  | _ =>
    cases op <;> first
      | exact nomatch congrArg Prod.fst (Option.some.inj answered)
      | exact nomatch answered

theorem answerRisk_getDecision {intentId : String} {reply : Except Raised (Option Decision)}
    (answered : world.answerRisk (.getDecisionByIntent intentId) choice = some (reply, next)) :
    next = world ∧ ∀ decision, reply = .ok (some decision) →
      decision ∈ world.decisions ∧ decision.intentId = intentId := by
  cases choice with
  | ok =>
    cases answered
    refine ⟨rfl, fun decision found => ?_⟩
    have same := Except.ok.inj found
    have named := List.find?_some same
    exact ⟨List.mem_reverse.mp (List.mem_of_find?_eq_some same), of_decide_eq_true named⟩
  | raises text =>
    cases answered
    exact ⟨rfl, fun _ found => nomatch found⟩
  | _ => cases answered

theorem answerRisk_saveDecision {intent : OrderIntent} {decision : Decision}
    (answered : world.answerRisk (.saveDecision intent decision) choice = some (reply, next)) :
    (next = world ∧ ∃ error, reply = .error error) ∨
      (next = world.recordDecision decision ∧ reply = .ok ()) := by
  cases choice with
  | ok =>
    cases answered
    exact .inr ⟨rfl, rfl⟩
  | raises text =>
    cases answered
    exact .inl ⟨rfl, _, rfl⟩
  | _ => cases answered

theorem answerRisk_publish {decision : Decision}
    (answered : world.answerRisk (.publish decision) choice = some (reply, next)) :
    (next = world ∧ ∃ error, reply = .error error) ∨
      (next = world.enqueue (.riskDecision decision.payload) ∧ reply = .ok ()) := by
  cases choice with
  | ok =>
    cases answered
    exact .inr ⟨rfl, rfl⟩
  | raises text =>
    cases answered
    exact .inl ⟨rfl, _, rfl⟩
  | _ => cases answered

/-! ### The services within the platform -/

/-- The platform as the pipeline's services see it. -/
def pipelinePart : System PipelineOp PipelineReply Raised Platform PlatformAnswer PlatformStart
    PlatformDisturbance where
  answer world op choice := world.answer (.pipeline op) choice
  start _ _ := none
  disturb _ _ := none
  restart world := world

/-- The platform as the risk service sees it. -/
def riskPart : System RiskOp RiskReply RiskError Platform PlatformAnswer PlatformStart
    PlatformDisturbance where
  answer world op choice := (world.answerRisk op choice).map fun (reply, next) =>
    (match reply with
    | .ok reply => .ok reply
    | .error error => .error ⟨error.text⟩, next)
  start _ _ := none
  disturb _ _ := none
  restart world := world

/-- The condition on a run, on the operations of the pipeline's services. -/
def pipelineCondition (condition : PlatformCondition) :
    Condition PipelineOp Platform PlatformAnswer PlatformStart PlatformDisturbance where
  answer world op choice := condition.answer world (.pipeline op) choice

/-- The condition on a run, on the operations of the risk service. -/
def riskCondition (condition : PlatformCondition) :
    Condition RiskOp Platform PlatformAnswer PlatformStart PlatformDisturbance where
  answer world op choice := condition.answer world (.risk op) choice

theorem pipelinePart_answer {op : PipelineOp} {reply : Except Raised (PipelineReply op)}
    (answered : pipelinePart.answer world op choice = some (reply, next)) :
    ∃ chosen, choice = .pipeline chosen ∧
      world.answerPipeline op chosen = some (reply, next) := by
  cases choice with
  | pipeline chosen => exact ⟨chosen, rfl, answered⟩
  | _ => cases answered

theorem riskPart_answer {reply : Except RiskError (RiskReply op)}
    (answered : riskPart.answer world op choice = some (reply, next)) :
    ∃ raw, world.answerRisk op choice = some (raw, next) ∧
      ∀ value, reply = .ok value ↔ raw = .ok value := by
  obtain ⟨⟨raw, moved⟩, answeredThere, pair⟩ := Option.map_eq_some_iff.mp answered
  cases pair
  refine ⟨raw, answeredThere, fun value => ?_⟩
  cases raw with
  | error error => exact ⟨nofun, nofun⟩
  | ok value' => exact ⟨fun same => congrArg _ (Except.ok.inj same),
      fun same => congrArg _ (Except.ok.inj same)⟩

section Rules

variable {Credit Result : Type} [AddCommMonoid Credit] {condition : PlatformCondition}
  {discipline : Discipline Platform Credit} {services : Services} {credit : Credit}
  {seen : Platform}

theorem answers_reading (op : PipelineOp) (value : OrderTable → PipelineReply op)
    {credit : Credit} {seen : Platform}
    (reads : ∀ (pipeline : Pipeline) choice, pipeline.answer op choice =
      Pipeline.reading pipeline (value pipeline.oms) choice := by intros; rfl)
    (leaves : ∀ (world : Platform) succeeded moved, world.after op succeeded moved =
      { world with pipeline := moved } := by intros; rfl) :
    Answers pipelinePart (pipelineCondition condition) discipline op credit seen
      fun reply left next => left = credit ∧ ∀ result, reply = .ok result →
        result = value next.pipeline.oms ∧ ∃ rest, discipline.holds next (credit + rest) := by
  intro world rest choice reply next _ held _ answered
  obtain ⟨_, -, answered⟩ := pipelinePart_answer answered
  obtain ⟨rfl, replied⟩ := answerPipeline_reading (fun choice => reads world.pipeline choice)
    (leaves world) answered
  refine ⟨credit, discipline.refl _, held, rfl, fun result same => ⟨?_, rest, held⟩⟩
  rcases replied with rfl | ⟨error, rfl⟩
  · exact (Except.ok.inj same).symm
  · exact nomatch same

theorem owns_onPipeline {task : Task Result} {post : Except Raised Result → Credit → Platform → Prop}
    (owns : Owns pipelinePart (pipelineCondition condition) discipline task credit seen post) :
    Owns (system services) condition discipline (onPipeline task) credit seen post := by
  show Owns (system services) condition discipline
    (task.embed PlatformOp.pipeline (fun _ reply => reply) id id) credit seen post
  have conditions : ∀ (world : Platform) (op : PipelineOp) (choice : PlatformAnswer),
      condition.answer world (.pipeline op) choice = true →
      (pipelineCondition condition).answer world op choice = true :=
    fun world op choice met => met
  refine Owns.embed ?_ conditions (owns.weaken ?_)
  · intro world op choice reply next answered
    rw [show pipelinePart.answer world op choice = some (reply, next) from answered]
    cases reply <;> rfl
  · intro result left next _ final
    cases result <;> exact final

theorem owns_onRisk {task : RiskTask Result} {kept : Credit → Platform → Prop}
    (owns : Owns riskPart (riskCondition condition) discipline task credit seen
      fun _ left world => kept left world) :
    Owns (system services) condition discipline (onRisk task) credit seen
      fun _ left world => kept left world := by
  show Owns (system services) condition discipline
    (task.embed PlatformOp.risk (fun _ reply => reply) (fun error => ⟨error.name⟩)
      (fun error => ⟨error.text⟩)) credit seen fun _ left world => kept left world
  have conditions : ∀ (world : Platform) (op : RiskOp) (choice : PlatformAnswer),
      condition.answer world (.risk op) choice = true →
      (riskCondition condition).answer world op choice = true :=
    fun world op choice met => met
  refine Owns.embed ?_ conditions (owns.weaken ?_)
  · intro world op choice reply next answered
    have there : world.answerRisk op choice = some (reply, next) := answered
    show (world.answerRisk op choice).map _ = _
    rw [there]
    cases reply <;> rfl
  · intro result left next _ final
    cases result <;> exact final

end Rules

/-! ### The parts that only read, ask and report -/

section Within

open ExecutionService

variable {service : ExecutionService} {clients : String → Prop}

theorem plain_of_polled (op : PipelineOp) (polled : Polled clients op) : Plain clients op := by
  cases op with
  | publish envelope => cases envelope <;> first | exact polled | exact True.intro
  | _ => first | exact polled.elim | exact True.intro

theorem within_boundaryMessage (order : BrokerOrder) :
    (boundaryMessage service order).Within (Plain clients) :=
  (asks_boundaryMessage order).mono fun op asked => by
    cases op <;> first | exact asked.elim | exact True.intro

theorem within_publishTradeFill (order : BrokerOrder) (quantity filled : Int) (price : ℚ) :
    (publishTradeFill order quantity filled price).Within (Plain clients) :=
  Coroutine.within_perform trivial

theorem within_reconcileOrders (orders : List BrokerOrder)
    (named : ∀ order ∈ orders, clients order.clientOrderId)
    (trades : Option (List BrokerTradeResponse)) :
    (service.reconcileOrders orders trades).Within (Plain clients) := by
  induction orders generalizing trades with
  | nil => exact True.intro
  | cons order rest inductionHypothesis =>
    have others : ∀ other ∈ rest, clients other.clientOrderId := fun other member =>
      named other (List.mem_cons_of_mem _ member)
    have progress : (service.portfolioFilled order).Within (Plain clients) := by
      unfold portfolioFilled
      split
      · exact Coroutine.within_perform trivial
      · exact True.intro
    refine progress.bind fun filled => ?_
    split
    · exact ((polls_publishMissing order filled).mono plain_of_polled).bind
        fun _ => inductionHypothesis others trades
    · exact ((polls_reconcilePending (named order List.mem_cons_self) filled trades).mono
        plain_of_polled).bind fun trades => inductionHypothesis others trades

theorem within_reconciliationRound : service.reconciliationRound.Within (Plain anyOrder) := by
  have pass : service.reconcileLiveOrders.Within (Plain anyOrder) :=
    (Coroutine.within_perform trivial).bind fun orders =>
      within_reconcileOrders _ (fun _ _ => True.intro) none
  have caught : (service.reconcileLiveOrders.catching fun _ => return).Within (Plain anyOrder) :=
    pass.catching fun _ => True.intro
  exact caught.bind fun _ => Coroutine.within_perform trivial

theorem within_handleTradeEvent (payload : BrokerTradeEvent) :
    (PortfolioService.handleTradeEvent payload).Within (Plain clients) := by
  have perform {op : PipelineOp} (plain : Plain clients op) : (BreezeTrading.perform op).Within (Plain clients) :=
    Coroutine.within_perform plain
  have named : (PortfolioService.executionId payload).Within (Plain clients) := by
    unfold PortfolioService.executionId
    split
    · split
      · exact perform (by trivial)
      · exact True.intro
    · exact perform (by trivial)
  refine named.bind fun executionId => (perform (by trivial)).bind fun quote => ?_
  refine (perform (by trivial)).bind ?_
  rintro  ⟨position, applied⟩
  simp only
  split
  · refine (perform (by trivial)).bind fun _ => (perform (by trivial)).bind fun positions => ?_
    exact (perform (by trivial)).bind fun _ => perform (by trivial)
  · exact True.intro

end Within

/-! ### The checks of the risk service -/

section Checks

open RiskService Exposure

variable {service : RiskService} {intent : OrderIntent}

/-- The reads of the broker, whose errors an evaluation handles. -/
def handles : RiskOp → Bool
  | .getBrokerPositions | .getFunds => true
  | _ => false

abbrev Handles (op : RiskOp) : Prop := handles op = true

/-- A task that asks only, and whose errors are those of what it asks and does not handle. -/
def Sure {Result : Type} (task : RiskTask Result) : Prop :=
  task.Within Asks ∧ task.Steady Handles

theorem Sure.bind {First Second : Type} {task : RiskTask First} {next : First → RiskTask Second}
    (first : Sure task) (rest : ∀ result, Sure (next result)) : Sure (task >>= next) :=
  ⟨first.1.bind fun result => (rest result).1, first.2.bind fun result => (rest result).2⟩

theorem sure_ite {condition : Prop} [Decidable condition] {first second : Check}
    (holds : Sure first) (fails : Sure second) : Sure (if condition then first else second) := by
  split
  · exact holds
  · exact fails

theorem sure_firstRefusal {list : List Check} (sure : ∀ check ∈ list, Sure check) :
    Sure (firstRefusal list) := by
  induction list with
  | nil => exact ⟨True.intro, True.intro⟩
  | cons first rest inductionHypothesis =>
    refine (sure first List.mem_cons_self).bind fun refusal => ?_
    cases refusal with
    | some refusal => exact ⟨True.intro, True.intro⟩
    | none =>
      exact inductionHypothesis fun check member => sure check (List.mem_cons_of_mem _ member)

theorem sure_checks (systemMode : SystemMode) :
    Sure (firstRefusal (service.checks intent systemMode)) := by
  have asked {op : RiskOp} (asks : Asks op) (sure : handles op = false) : Sure (inquire op) :=
    ⟨Coroutine.within_perform asks, Coroutine.steady_perform (Bool.eq_false_iff.mp sure)⟩
  have refuses (rule reason : String) : Sure (refuse rule reason) := ⟨True.intro, True.intro⟩
  have passes : Sure pass := ⟨True.intro, True.intro⟩
  have positions : Sure brokerPositions :=
    ⟨Coroutine.Within.catching ((Coroutine.within_perform (by trivial)).bind fun _ => True.intro)
      fun _ => True.intro, fun _ => True.intro, fun _ _ => True.intro⟩
  have funds : Sure brokerFunds :=
    ⟨Coroutine.Within.catching ((Coroutine.within_perform (by trivial)).bind fun _ => True.intro)
      fun _ => True.intro, fun _ => True.intro, fun _ _ => True.intro⟩
  have held (heldQuantity : Int) : Sure (checkHeld intent heldQuantity) :=
    sure_ite (refuses _ _) passes
  have reduceOnlyPosition : Sure (checkReduceOnlyPosition service intent) := by
    refine sure_ite passes (sure_ite ?_ ?_)
    · refine sure_ite (refuses _ _) (positions.bind fun reported => ?_)
      cases reported with
      | error error => exact refuses _ _
      | ok positions =>
        simp only
        cases service.brokerHeldQuantity intent positions with
        | none => exact refuses _ _
        | some heldQuantity => exact held heldQuantity
    · exact sure_ite (refuses _ _) ((asked (by trivial) rfl).bind fun position => held _)
  have session : Sure (checkSession service intent) :=
    sure_ite passes (sure_ite (refuses _ _)
      ((asked (by trivial) rfl).bind fun session => sure_ite passes (refuses _ _)))
  have feed : Sure (checkFeed service intent) :=
    sure_ite passes (sure_ite (refuses _ _)
      ((asked (by trivial) rfl).bind fun health => sure_ite passes (refuses _ _)))
  have gate : Sure (checkGate service intent) :=
    sure_ite passes ((asked (by trivial) rfl).bind fun verdict => sure_ite passes (refuses _ _))
  have mode : Sure (checkMode systemMode intent) := by
    unfold checkMode
    cases blockingRule systemMode with
    | none => exact passes
    | some rule => exact sure_ite passes (refuses _ _)
  have stopLimit : Sure (checkStopLimit intent) :=
    sure_ite (sure_ite (refuses _ _) (sure_ite (refuses _ _) passes)) passes
  have openPositions : Sure (checkOpenPositions service) := by
    refine positions.bind fun reported => ?_
    cases reported with
    | error error => exact refuses _ _
    | ok positions => exact sure_ite (refuses _ _) passes
  have availableFunds : Sure (checkFunds service intent) := by
    refine funds.bind fun reported => ?_
    cases reported with
    | error error => exact refuses _ _
    | ok funds => exact sure_ite (refuses _ _) passes
  have exposure : Sure (checkExposure service intent) := by
    refine sure_ite (sure_ite (refuses _ _) (sure_ite (refuses _ _) (sure_firstRefusal ?_))) passes
    simp only [List.forall_mem_cons, List.not_mem_nil, false_implies, implies_true, and_true]
    exact ⟨openPositions, availableFunds⟩
  have duplicate : Sure (checkDuplicate service intent) :=
    (asked (by trivial) rfl).bind fun seen => sure_ite (refuses _ _) passes
  refine sure_firstRefusal ?_
  simp only [checks, List.forall_mem_cons, List.not_mem_nil, false_implies, implies_true, and_true]
  exact ⟨sure_ite (refuses _ _) passes, sure_ite (refuses _ _) passes, reduceOnlyPosition,
    session, feed, gate, mode, sure_ite (refuses _ _) passes, sure_ite (refuses _ _) passes,
    stopLimit, sure_ite (refuses _ _) passes, exposure, duplicate⟩

theorem yields_firstRefusal {fact : Prop} {list : List Check} {check : Check}
    (member : check ∈ list) (yields : check.Yields fun refusal => refusal = none → fact) :
    (firstRefusal list).Yields fun refusal => refusal = none → fact := by
  induction list with
  | nil => cases member
  | cons first rest inductionHypothesis =>
    rcases List.mem_cons.mp member with rfl | later
    · refine yields.bind fun refusal established => ?_
      cases refusal with
      | some refusal => exact nofun
      | none => exact Coroutine.yields_of_all fun _ _ => established rfl
    · have any : first.Yields fun _ => True := Coroutine.yields_of_all fun _ => True.intro
      refine any.bind fun refusal _ => ?_
      cases refusal with
      | some refusal => exact nofun
      | none => exact inductionHypothesis later

theorem yields_checks (systemMode : SystemMode) :
    (firstRefusal (service.checks intent systemMode)).Yields fun refusal =>
      refusal = none → systemMode = .normal ∨ intent.reduceOnly = true := by
  have member : checkMode systemMode intent ∈ service.checks intent systemMode := by
    simp [checks]
  refine yields_firstRefusal member ?_
  unfold checkMode
  cases systemMode with
  | normal => exact fun _ => .inl rfl
  | entryBlocked | exitOnly | halted =>
    simp only [blockingRule]
    by_cases exits : isReduceOnlyExit intent = true
    · rw [if_pos exits]
      exact fun _ => .inr (Bool.and_eq_true_iff.mp exits).1
    · rw [if_neg exits]
      exact nofun

end Checks

end Platform

end BreezeTrading
