/-
This file defines the invariant of the fills of one order, and proves it operation by operation.
An increment that still waits on the bus is sent again as a part of the next one. As long as every
trade event is known already, or starts where the executions and the waiting events end, these
form a chain within what the broker filled.
-/

import BreezeTrading.Execution.FillLedger
import BreezeTrading.Lib.Ownership
import Mathlib.Algebra.Group.Prod
import Mathlib.Algebra.Order.BigOperators.Group.List

namespace BreezeTrading

open Async Cumulative

namespace Fills

/-! ### What the broker's answers agree with -/

/-- A broker order id that is missing, or the broker's id of the order. -/
def Named (broker : BrokerBook) (clientOrderId : String) (brokerOrderId : Option String) : Prop :=
  brokerOrderId = none ∨ brokerOrderId = some "" ∨
    brokerOrderId.bind broker.clientOf = some clientOrderId

/-- A report about an order: the broker has filled as much, under the order's id. -/
@[mk_iff]
structure Evidence (broker : BrokerBook) (clientOrderId : String) (filledQuantity : Int)
    (brokerOrderId : Option String) : Prop where
  filled : filledQuantity ≤ broker.filled clientOrderId
  named : Named broker clientOrderId brokerOrderId

instance (broker : BrokerBook) (clientOrderId : String) (brokerOrderId : Option String) :
    Decidable (Named broker clientOrderId brokerOrderId) :=
  inferInstanceAs (Decidable (_ ∨ _ ∨ _))

instance (broker : BrokerBook) (clientOrderId : String) (filledQuantity : Int)
    (brokerOrderId : Option String) :
    Decidable (Evidence broker clientOrderId filledQuantity brokerOrderId) :=
  decidable_of_iff' _ (evidence_iff broker clientOrderId filledQuantity brokerOrderId)

def tradedQuantity (trades : List BrokerTradeResponse) (clientOrderId : String) : Int :=
  ((trades.filter fun trade => decide (trade.clientOrderId = some clientOrderId)).map
    fun trade => max 0 trade.quantity).sum

/-- A trade of an order: the trades of the order sum to no more than the broker filled. -/
def TradeEvidence (broker : BrokerBook) (trades : List BrokerTradeResponse)
    (trade : BrokerTradeResponse) : Bool :=
  match trade.clientOrderId with
  | none => true
  | some clientOrderId =>
    decide (Evidence broker clientOrderId (tradedQuantity trades clientOrderId)
      (some trade.brokerOrderId))

/-- What the broker answers to an operation agrees with what it knows; the portfolio's
transaction and its quote do not fail. -/
def agreeing (world : Pipeline) (op : PipelineOp) (choice : PipelineAnswer) : Bool :=
  match op, choice with
  | .placeOrder request _, .response response =>
      decide (Evidence world.broker request.clientOrderId response.filledQuantity
        response.brokerOrderId)
  | .findOrderByClientId clientOrderId, .orderStatus (some response) =>
      decide (Evidence world.broker clientOrderId response.filledQuantity response.brokerOrderId)
  | .getOrderStatus brokerOrderId, .orderStatus (some response) =>
      match world.broker.clientOf brokerOrderId with
      | none => true
      | some clientOrderId =>
        decide (Evidence world.broker clientOrderId response.filledQuantity
          response.brokerOrderId)
  | .getTrades, .trades trades =>
      trades.all fun trade => TradeEvidence world.broker trades trade
  | .applyExecutionAtomic _ _ _, .raises _ => false
  | .getLatestQuote _, .raises _ => false
  | _, _ => true

/-- A fill that is known already, or starts where the fills of its order end. -/
def Fits (world : Pipeline) (event : BrokerTradeEvent) : Prop :=
  (deltaOf event).key ∈ keys (fills world event.orderId) ∨
    event.cumulativeFilledQuantity - event.quantity = total (fills world event.orderId)

instance (world : Pipeline) (event : BrokerTradeEvent) : Decidable (Fits world event) :=
  inferInstanceAs (Decidable (_ ∨ _))

/-- Every fill published for the order fits. -/
def fitting (orderId : String) (world : Pipeline) : PipelineOp → Bool
  | .publish (.brokerTradeEvent event) =>
      decide (event.orderId = orderId → Fits world event)
  | _ => true

/-- The runs of reconciliation: the broker's answers agree with what it knows. -/
def claimed : Condition PipelineOp Pipeline PipelineAnswer PipelineStart PipelineDisturbance where
  answer := agreeing

/-- The runs of reconciliation in which every fill published for the order fits. -/
def condition (orderId : String) :
    Condition PipelineOp Pipeline PipelineAnswer PipelineStart PipelineDisturbance where
  answer world op choice := agreeing world op choice && fitting orderId world op

theorem met_condition {orderId : String} {world : Pipeline} {op : PipelineOp}
    {choice : PipelineAnswer} (met : (condition orderId).answer world op choice = true) :
    agreeing world op choice = true ∧ fitting orderId world op = true :=
  Bool.and_eq_true_iff.mp met

/-! ### The invariant -/

/-- The fills of the order are a chain within what the broker filled, every report about an
order is one the broker has reached, and the dispatcher's turns are the envelope in its hand. -/
structure Settled (orderId : String) (world : Pipeline) (turns : Multiset Envelope) : Prop where
  chained : Chained (ExecutionService.fillExecutionId orderId) (fills world orderId)
  known : fills world orderId ≠ [] → ∃ clientOrderId, world.oms.Knows orderId clientOrderId
  bounded : ∀ clientOrderId, world.oms.Knows orderId clientOrderId →
    total (fills world orderId) ≤ world.broker.filled clientOrderId
  nonneg : ∀ clientOrderId, 0 ≤ world.broker.filled clientOrderId
  rows : ∀ row ∈ world.oms.rows,
    Evidence world.broker row.clientOrderId row.filledQuantity row.brokerOrderId
  orderEvents : ∀ event, .brokerOrderEvent event ∈ world.pending →
    Evidence world.broker event.clientOrderId event.filledQuantity event.brokerOrderId
  tradeEvents : ∀ event, .brokerTradeEvent event ∈ world.pending → Posted event
  executions : ∀ execution ∈ world.portfolio.executions, Booked execution
  turn : turns = unique world.inHand

/-- What a pass was told about an order is among the fills of the order, if the order is the
one the invariant is about. -/
def Covered (orderId : String) (world : Pipeline) (report : PassReport) : Prop :=
  ∃ other, world.oms.Knows other report.clientOrderId ∧
    (other = orderId → report.filledQuantity ≤ total (fills world orderId))

/-- What the pass in progress knows: the trades it read, the order it asked for, and what it
was told and has not sent. -/
structure PassToken where
  trades : Option (List BrokerTradeResponse)
  asked : Option String
  debt : Option PassReport

/-- The token the world names, with a debt. -/
def passToken (world : Pipeline) (debt : Option PassReport) : Option PassToken :=
  if world.reconciling then some ⟨world.passTrades, world.passAsked, debt⟩ else none

/-- What passes were told is covered, up to the debt of the pass in progress. -/
structure Passing (orderId : String) (world : Pipeline) (tokens : Multiset PassToken) : Prop where
  token : ∃ debt, tokens = unique (passToken world debt) ∧
    ∀ report ∈ world.passReports, Covered orderId world report ∨ debt = some report
  resting : world.reconciling = false → world.passTrades = none ∧ world.passReports = []
  completed : ∀ report ∈ world.completed, Covered orderId world report

/-- The credit of a task: the dispatcher's turn and the token of the pass. -/
abbrev Credit := Multiset Envelope × Multiset PassToken

/-- What no step undoes: orders stay under their ids, the broker's fills and names stay, and
so do the fills of the order. -/
structure Later (orderId : String) (world next : Pipeline) : Prop where
  rows : ∀ row ∈ world.oms.rows, ∃ kept ∈ next.oms.rows, kept.orderId = row.orderId ∧
    kept.clientOrderId = row.clientOrderId ∧ kept.quantity = row.quantity
  filled : ∀ clientOrderId, world.broker.filled clientOrderId ≤ next.broker.filled clientOrderId
  clientOf : ∀ brokerOrderId clientOrderId,
    world.broker.clientOf brokerOrderId = some clientOrderId →
    next.broker.clientOf brokerOrderId = some clientOrderId
  fills : total (fills world orderId) ≤ total (fills next orderId)
  recorded : keys (recorded world orderId) ⊆ keys (recorded next orderId)

theorem Later.refl (orderId : String) (world : Pipeline) : Later orderId world world where
  rows row member := ⟨row, member, rfl, rfl, rfl⟩
  filled _ := le_rfl
  clientOf _ _ named := named
  fills := le_rfl
  recorded := List.Subset.refl _

theorem Later.trans {orderId : String} {first second third : Pipeline}
    (early : Later orderId first second) (late : Later orderId second third) :
    Later orderId first third where
  rows row member := by
    obtain ⟨kept, inSecond, orderSame, clientSame, quantitySame⟩ := early.rows row member
    obtain ⟨last, inThird, orderSame', clientSame', quantitySame'⟩ := late.rows kept inSecond
    exact ⟨last, inThird, orderSame'.trans orderSame, clientSame'.trans clientSame,
      quantitySame'.trans quantitySame⟩
  filled client := (early.filled client).trans (late.filled client)
  clientOf text client named := late.clientOf text client (early.clientOf text client named)
  fills := early.fills.trans late.fills
  recorded := List.Subset.trans early.recorded late.recorded

def discipline (orderId : String) : Discipline Pipeline Credit where
  later := Later orderId
  refl := Later.refl orderId
  trans := Later.trans
  holds world credit := Settled orderId world credit.1 ∧ Passing orderId world credit.2

/-! ### Facts that stay -/

section

variable {orderId : String} {service : ExecutionService} {world next : Pipeline}

variable {clientOrderId : String} {brokerOrderId : Option String} {broker : BrokerBook}
  {order : BrokerOrder} {turns : Multiset Envelope} {credit : Credit} {seen : Pipeline}
  {envelope : Envelope} {trades : Option (List BrokerTradeResponse)}

theorem Named.later (named : Named world.broker clientOrderId brokerOrderId)
    (late : Later orderId world next) : Named next.broker clientOrderId brokerOrderId := by
  rcases named with missing | empty | found
  · exact Or.inl missing
  · exact Or.inr (Or.inl empty)
  · obtain ⟨text, same, named⟩ := Option.bind_eq_some_iff.mp found
    exact Or.inr (Or.inr (Option.bind_eq_some_iff.mpr ⟨text, same, late.clientOf _ _ named⟩))

theorem Named.orText {first second : Option String} (left : Named broker clientOrderId first)
    (right : Named broker clientOrderId second) :
    Named broker clientOrderId (orText first second) := by
  unfold BreezeTrading.orText
  split
  · split
    · exact right
    · exact left
  · exact right

theorem Named.clientOf {text : String} (named : Named broker clientOrderId brokerOrderId)
    (asked : BreezeTrading.orText brokerOrderId none = some text) (present : text ≠ "") :
    broker.clientOf text = some clientOrderId := by
  have same : brokerOrderId = some text := by
    unfold BreezeTrading.orText at asked
    split at asked
    · split at asked
      · cases asked
      · exact asked
    · cases asked
  rcases named with missing | empty | found
  · rw [same] at missing
    cases missing
  · rw [same] at empty
    exact absurd (Option.some.inj empty) present
  · rw [same] at found
    exact found

theorem Evidence.later {filledQuantity : Int}
    (evidence : Evidence world.broker clientOrderId filledQuantity brokerOrderId)
    (late : Later orderId world next) :
    Evidence next.broker clientOrderId filledQuantity brokerOrderId :=
  ⟨evidence.filled.trans (late.filled clientOrderId), evidence.named.later late⟩

theorem Later.knows (late : Later orderId world next) {other : String}
    (known : world.oms.Knows other clientOrderId) : next.oms.Knows other clientOrderId := by
  obtain ⟨row, member, rfl, rfl⟩ := known
  obtain ⟨kept, inNext, orderSame, clientSame, -⟩ := late.rows row member
  exact ⟨kept, inNext, orderSame, clientSame⟩

theorem Covered.later {report : PassReport} (covered : Covered orderId world report)
    (late : Later orderId world next) : Covered orderId next report := by
  obtain ⟨other, known, reached⟩ := covered
  exact ⟨other, late.knows known, fun same => (reached same).trans late.fills⟩

/-- A snapshot of an order: a row has its ids and its quantity, and the broker has reached
what it says. -/
structure Held (order : BrokerOrder) (world : Pipeline) : Prop where
  row : ∃ row ∈ world.oms.rows, row.orderId = order.orderId ∧
    row.clientOrderId = order.clientOrderId ∧ row.quantity = order.quantity
  evidence : Evidence world.broker order.clientOrderId order.filledQuantity order.brokerOrderId

theorem Held.later (held : Held order world) (late : Later orderId world next) :
    Held order next := by
  obtain ⟨row, member, orderSame, clientSame, quantitySame⟩ := held.row
  obtain ⟨kept, inNext, orderSame', clientSame', quantitySame'⟩ := late.rows row member
  exact ⟨⟨kept, inNext, orderSame'.trans orderSame, clientSame'.trans clientSame,
    quantitySame'.trans quantitySame⟩, held.evidence.later late⟩

theorem Held.knows (held : Held order world) :
    world.oms.Knows order.orderId order.clientOrderId := by
  obtain ⟨row, member, orderSame, clientSame, -⟩ := held.row
  exact ⟨row, member, orderSame, clientSame⟩

theorem Settled.held (settled : Settled orderId world turns) (member : order ∈ world.oms.rows) :
    Held order world :=
  ⟨⟨order, member, rfl, rfl, rfl⟩, settled.rows order member⟩

theorem Held.same {other : BrokerOrder} (held : Held order world)
    (orderSame : other.orderId = order.orderId) (client : other.clientOrderId = order.clientOrderId)
    (quantity : other.quantity = order.quantity)
    (filled : other.filledQuantity = order.filledQuantity)
    (broker : other.brokerOrderId = order.brokerOrderId) : Held other world := by
  refine ⟨?_, ?_⟩
  · rw [orderSame, client, quantity]
    exact held.row
  · rw [client, filled, broker]
    exact held.evidence

/-! ### Frames -/

/-- The invariant reads the orders, the portfolio, the bus and the broker. -/
structure Frame (world next : Pipeline) : Prop where
  oms : next.oms = world.oms
  portfolio : next.portfolio = world.portfolio
  queue : next.queue = world.queue
  inHand : next.inHand = world.inHand
  broker : next.broker = world.broker

/-- And it reads what passes were told. -/
structure SamePass (world next : Pipeline) : Prop where
  reconciling : next.reconciling = world.reconciling
  passAsked : next.passAsked = world.passAsked
  passTrades : next.passTrades = world.passTrades
  passReports : next.passReports = world.passReports
  completed : next.completed = world.completed

theorem Frame.of_told (told : Pipeline.Told world next) : Frame world next :=
  ⟨told.oms, told.portfolio, told.queue, told.inHand, told.broker⟩

theorem Frame.recorded (frame : Frame world next) (other : String) :
    recorded next other = recorded world other := by
  unfold Fills.recorded
  rw [frame.portfolio]

theorem Frame.fills (frame : Frame world next) (other : String) :
    fills next other = fills world other := by
  unfold Fills.fills Pipeline.pending
  rw [frame.recorded, frame.queue, frame.inHand]

theorem Frame.later (frame : Frame world next) : Later orderId world next := by
  refine ⟨?_, ?_, ?_, (congrArg total (frame.fills orderId)).ge, ?_⟩
  · rw [frame.oms]
    exact fun row member => ⟨row, member, rfl, rfl, rfl⟩
  · rw [frame.broker]
    exact fun _ => le_rfl
  · rw [frame.broker]
    exact fun _ _ named => named
  · rw [frame.recorded]
    exact List.Subset.refl _

theorem Settled.frame (settled : Settled orderId world turns) (frame : Frame world next) :
    Settled orderId next turns := by
  have pending : next.pending = world.pending := by
    unfold Pipeline.pending
    rw [frame.queue, frame.inHand]
  refine ⟨?_, ?_, ?_, ?_, ?_, ?_, ?_, ?_, ?_⟩
  · rw [frame.fills]
    exact settled.chained
  · rw [frame.fills, frame.oms]
    exact settled.known
  · rw [frame.fills, frame.oms, frame.broker]
    exact settled.bounded
  · rw [frame.broker]
    exact settled.nonneg
  · rw [frame.oms, frame.broker]
    exact settled.rows
  · rw [pending, frame.broker]
    exact settled.orderEvents
  · rw [pending]
    exact settled.tradeEvents
  · rw [frame.portfolio]
    exact settled.executions
  · rw [frame.inHand]
    exact settled.turn

theorem Passing.later {tokens : Multiset PassToken} (passing : Passing orderId world tokens)
    (late : Later orderId world next) (same : SamePass world next) :
    Passing orderId next tokens := by
  obtain ⟨debt, owned, covered⟩ := passing.token
  refine ⟨⟨debt, ?_, ?_⟩, ?_, ?_⟩
  · unfold passToken
    rw [same.reconciling, same.passTrades, same.passAsked]
    exact owned
  · rw [same.passReports]
    exact fun report member => (covered report member).imp_left (·.later late)
  · rw [same.reconciling, same.passTrades, same.passReports]
    exact passing.resting
  · rw [same.completed]
    exact fun report member => (passing.completed report member).later late

/-! ### Operations -/

/-- A task that owns its credit, in this discipline. -/
abbrev Settles (service : ExecutionService) (orderId : String) {Result : Type}
    (task : Task Result) (credit : Credit) (seen : Pipeline)
    (post : Except Raised Result → Credit → Pipeline → Prop) : Prop :=
  Owns (Pipeline.system service) (condition orderId) (discipline orderId) task credit seen post

/-- An operation that keeps the invariant, in this discipline. -/
abbrev Replies (service : ExecutionService) (orderId : String) (op : PipelineOp)
    (credit : Credit) (seen : Pipeline)
    (post : Except Raised (PipelineReply op) → Credit → Pipeline → Prop) : Prop :=
  Answers (Pipeline.system service) (condition orderId) (discipline orderId) op credit seen post

/-- An operation that changes nothing of the pass leaves the credit when it keeps the fills
settled. -/
theorem replies_apart {op : PipelineOp} (post : Except Raised (PipelineReply op) → Pipeline → Prop)
    (apart : ∀ world turns choice reply next, Later orderId seen world → Settled orderId world
      (credit.1 + turns) → (condition orderId).answer world op choice = true → Pipeline.answer world
      op choice = some (reply, next) → Later orderId world next ∧ SamePass world next ∧ Settled
      orderId next (credit.1 + turns) ∧ post reply next) :
    Replies service orderId op credit seen fun reply left next => left = credit ∧ post reply next := by
  intro world rest choice reply next late held met answered
  obtain ⟨settled, passing⟩ := held
  obtain ⟨latter, same, settledNext, final⟩ :=
    apart world rest.1 choice reply next late settled met answered
  exact ⟨credit, latter, ⟨settledNext, passing.later latter same⟩, rfl, final⟩

theorem replies_same {op : PipelineOp} (known : Except Raised (PipelineReply op) → Pipeline → Prop)
    (same : ∀ world turns choice reply next, Settled orderId world turns →
      (condition orderId).answer world op choice = true →
      Pipeline.answer world op choice = some (reply, next) →
      Frame world next ∧ SamePass world next ∧ known reply next) :
    Replies service orderId op credit seen fun reply left next =>
      left = credit ∧ known reply next := by
  refine replies_apart known fun world turns choice reply next late settled met answered => ?_
  obtain ⟨frame, samePass, fact⟩ := same world _ choice reply next settled met answered
  exact ⟨frame.later, samePass, settled.frame frame, fact⟩

theorem frame_refl (world : Pipeline) : Frame world world := by constructor <;> rfl

theorem samePass_refl (world : Pipeline) : SamePass world world := by constructor <;> rfl

theorem replies_reading {op : PipelineOp} (value : Pipeline → PipelineReply op)
    (reads : ∀ world choice, Pipeline.answer world op choice =
      Pipeline.reading world (value world) choice) :
    Replies service orderId op credit seen fun reply left next =>
      left = credit ∧ ∀ result, reply = .ok result → result = value next ∧
        ∃ turns, Settled orderId next turns := by
  refine replies_same _ fun world turns choice reply next settled _ answered => ?_
  rw [reads] at answered
  obtain ⟨rfl, rfl | ⟨error, rfl⟩⟩ := Pipeline.reading_eq_some answered
  · exact ⟨frame_refl _, samePass_refl _,
      fun result equal => ⟨(Except.ok.inj equal).symm, turns, settled⟩⟩
  · exact ⟨frame_refl _, samePass_refl _, fun result equal => nomatch equal⟩

theorem replies_asking {op : PipelineOp} {select : PipelineAnswer → Option (PipelineReply op)}
    (asks : ∀ world choice, Pipeline.answer world op choice =
      Pipeline.asking world select (fun _ => world) choice) :
    Replies service orderId op credit seen (leaving credit) := by
  refine (replies_same (fun _ _ => True)
    fun world turns choice reply next _ _ answered => ?_).weaken fun _ _ _ _ post => post.1
  rw [asks] at answered
  rcases Pipeline.asking_eq_some answered with ⟨rfl, -⟩ | ⟨value, -, -, rfl⟩
  · exact ⟨frame_refl _, samePass_refl _, trivial⟩
  · exact ⟨frame_refl _, samePass_refl _, trivial⟩

/-- What may be published: reports the broker has reached. -/
structure Postable (world : Pipeline) (envelope : Envelope) : Prop where
  order : ∀ event, envelope = .brokerOrderEvent event →
    Evidence world.broker event.clientOrderId event.filledQuantity event.brokerOrderId
  trade : ∀ event, envelope = .brokerTradeEvent event → Posted event ∧
    world.oms.Knows event.orderId event.clientOrderId ∧
    event.cumulativeFilledQuantity ≤ world.broker.filled event.clientOrderId

theorem Postable.later (postable : Postable world envelope) (late : Later orderId world next) :
    Postable next envelope where
  order event equal := (postable.order event equal).later late
  trade event equal := by
    obtain ⟨posted, known, reached⟩ := postable.trade event equal
    exact ⟨posted, late.knows known, reached.trans (late.filled _)⟩

/-- The envelope reports nothing of the broker. -/
def silent : Envelope → Bool
  | .brokerOrderEvent _ | .brokerTradeEvent _ => false
  | _ => true

theorem postable_of_silent (isSilent : silent envelope = true) : Postable world envelope where
  order event equal := by
    subst equal
    cases isSilent
  trade event equal := by
    subst equal
    cases isSilent

theorem mem_pending_publish {other : Envelope} :
    other ∈ ({ world with queue := world.queue ++ [envelope] } : Pipeline).pending ↔
      other ∈ world.pending ∨ other = envelope := by
  unfold Pipeline.pending
  rw [← List.append_assoc, List.mem_append, List.mem_singleton]

section

variable (settled : Settled orderId world turns)

include settled

theorem Settled.record {event : BrokerTradeEvent} (own : event.orderId = orderId)
    (postable : Postable world (.brokerTradeEvent event)) (fits : Fits world event) :
    Chained (ExecutionService.fillExecutionId orderId)
        (record (fills world orderId) (deltaOf event)) ∧
      event.cumulativeFilledQuantity ≤ total (record (fills world orderId) (deltaOf event)) ∧
      (∀ clientOrderId, world.oms.Knows orderId clientOrderId →
        total (record (fills world orderId) (deltaOf event)) ≤
          world.broker.filled clientOrderId) := by
  obtain ⟨posted, known, reached⟩ := postable.trade event rfl
  have delta : deltaOf event = ⟨ExecutionService.fillExecutionId orderId
      event.cumulativeFilledQuantity, event.quantity⟩ := by
    unfold deltaOf
    rw [posted.named, own]
    rfl
  unfold Fits at fits
  rw [own, delta] at fits
  rw [delta]
  refine ⟨settled.chained.record posted.positive fits, ?_, fun clientOrderId knows => ?_⟩
  · refine settled.chained.counter_le_total_record posted.positive ?_ posted.reached fits
    exact fun first second positive positive' same =>
      (fillExecutionId_inj positive positive' same).2
  · rw [own] at known
    rw [known.clientOrderId_eq knows] at reached
    exact total_record_le fits (settled.bounded clientOrderId knows) reached

theorem Settled.reports (postable : Postable world envelope) :
    (∀ event, .brokerOrderEvent event ∈ ({ world with
        queue := world.queue ++ [envelope] } : Pipeline).pending →
      Evidence world.broker event.clientOrderId event.filledQuantity event.brokerOrderId) ∧
    ∀ event, .brokerTradeEvent event ∈ ({ world with
      queue := world.queue ++ [envelope] } : Pipeline).pending → Posted event := by
  refine ⟨fun event member => ?_, fun event member => ?_⟩
  · rcases mem_pending_publish.mp member with old | new
    · exact settled.orderEvents event old
    · exact postable.order event new.symm
  · rcases mem_pending_publish.mp member with old | new
    · exact settled.tradeEvents event old
    · exact (postable.trade event new.symm).1

theorem Settled.publish_other (postable : Postable world envelope)
    (other : tradeOf orderId envelope = none) :
    Later orderId world { world with queue := world.queue ++ [envelope] } ∧
      Settled orderId { world with queue := world.queue ++ [envelope] } turns := by
  have sameFills : fills { world with queue := world.queue ++ [envelope] } orderId =
      fills world orderId := fills_publish_other other
  obtain ⟨orderEvents, tradeEvents⟩ := settled.reports postable
  refine ⟨⟨fun row member => ⟨row, member, rfl, rfl, rfl⟩, fun _ => le_rfl,
    fun _ _ named => named, (congrArg total sameFills).ge, List.Subset.refl _⟩, ?_, ?_, ?_,
    settled.nonneg, settled.rows, orderEvents, tradeEvents, settled.executions, settled.turn⟩
  · rw [sameFills]
    exact settled.chained
  · rw [sameFills]
    exact settled.known
  · rw [sameFills]
    exact settled.bounded

theorem Settled.publish_trade {event : BrokerTradeEvent} (own : event.orderId = orderId)
    (postable : Postable world (.brokerTradeEvent event)) (fits : Fits world event) :
    Later orderId world { world with queue := world.queue ++ [.brokerTradeEvent event] } ∧
      Settled orderId { world with queue := world.queue ++ [.brokerTradeEvent event] } turns ∧
      event.cumulativeFilledQuantity ≤
        total (fills { world with queue := world.queue ++ [.brokerTradeEvent event] } orderId) := by
  have published : fills { world with queue := world.queue ++ [.brokerTradeEvent event] } orderId =
      Cumulative.record (fills world orderId) (deltaOf event) :=
    own ▸ fills_publish_trade world event
  obtain ⟨chained, counted, bounded⟩ := settled.record own postable fits
  have known : world.oms.Knows orderId event.clientOrderId :=
    own ▸ (postable.trade event rfl).2.1
  obtain ⟨orderEvents, tradeEvents⟩ := settled.reports postable
  refine ⟨⟨fun row member => ⟨row, member, rfl, rfl, rfl⟩, fun _ => le_rfl,
    fun _ _ named => named, ?_, List.Subset.refl _⟩, ⟨?_, fun _ => ⟨_, known⟩, ?_,
    settled.nonneg, settled.rows, orderEvents, tradeEvents, settled.executions, settled.turn⟩, ?_⟩
  · rw [published]
    exact chained.total_le (prefix_record _ _)
  · rw [published]
    exact chained
  · rw [published]
    exact bounded
  · rw [published]
    exact counted

end

/-- Publishing what may be published leaves the credit; a fill of the order is counted from
then on. -/
theorem replies_publish (postable : Postable seen envelope) :
    Replies service orderId (.publish envelope) credit seen fun reply left next =>
      left = credit ∧ reply = .ok () ∧ ∀ event, envelope = .brokerTradeEvent event →
        event.orderId = orderId → event.cumulativeFilledQuantity ≤ total (fills next orderId) := by
  refine replies_apart _ fun world turns choice reply next late settled met answered => ?_
  obtain ⟨rfl, rfl⟩ := Pipeline.always_eq_some answered
  have may := postable.later late
  by_cases trade : ∃ event, envelope = .brokerTradeEvent event ∧ event.orderId = orderId
  · obtain ⟨event, rfl, own⟩ := trade
    have fits : Fits world event := of_decide_eq_true (met_condition met).2 own
    obtain ⟨latter, settledNext, counted⟩ := settled.publish_trade own may fits
    refine ⟨latter, ⟨rfl, rfl, rfl, rfl, rfl⟩, settledNext, rfl, fun other equal _ => ?_⟩
    obtain rfl := Envelope.brokerTradeEvent.inj equal
    exact counted
  · obtain ⟨latter, settledNext⟩ := settled.publish_other may
      (tradeOf_eq_none fun event equal own => trade ⟨event, equal, own⟩)
    exact ⟨latter, ⟨rfl, rfl, rfl, rfl, rfl⟩, settledNext, rfl,
      fun event equal own => absurd ⟨event, equal, own⟩ trade⟩

theorem Settled.saved {table : OrderTable} {toState : OrderState}
    (settled : Settled orderId world turns) (held : Held order world)
    (stored : world.oms.saveBrokerOrderWithTransition order toState = .ok table) :
    Later orderId world { world with oms := table } ∧
      Settled orderId { world with oms := table } turns := by
  obtain ⟨old, inRows, orderSame, clientSame, quantitySame⟩ := held.row
  have row := OrderTable.written_of_mem toState inRows orderSame
  have rowsOf := OrderTable.mem_saveBrokerOrderWithTransition stored
  have backwards : ∀ other client, table.Knows other client → world.oms.Knows other client := by
    rintro other client ⟨member, inTable, rfl, rfl⟩
    rcases (rowsOf member).mp inTable with rfl | ⟨inOld, -⟩
    · rw [row]
      exact ⟨old, inRows, rfl, rfl⟩
    · exact ⟨member, inOld, rfl, rfl⟩
  refine ⟨⟨fun member inOld => ?_, fun _ => le_rfl, fun _ _ named => named, le_rfl,
    List.Subset.refl _⟩, settled.chained, fun filled => ?_, fun client known => ?_,
    settled.nonneg, fun member inTable => ?_, settled.orderEvents, settled.tradeEvents,
    settled.executions, settled.turn⟩
  · by_cases same : member.orderId = order.orderId
    · obtain rfl := OrderTable.eq_of_orderId inRows inOld (orderSame.trans same.symm)
      exact ⟨_, (rowsOf _).mpr (Or.inl row.symm), rfl, rfl, rfl⟩
    · exact ⟨member, (rowsOf member).mpr (Or.inr ⟨inOld, same⟩), rfl, rfl, rfl⟩
  · obtain ⟨client, known⟩ := settled.known filled
    exact ⟨client, known.save stored⟩
  · exact settled.bounded client (backwards _ _ known)
  · rcases (rowsOf member).mp inTable with rfl | ⟨inOld, -⟩
    · rw [row]
      have evidence := held.evidence
      rw [← clientSame] at evidence
      exact evidence
    · exact settled.rows member inOld

theorem replies_save {fromState : Option OrderState} {toState : OrderState} {reason : Option String}
    (held : Held order seen) :
    Replies service orderId (.saveBrokerOrderWithTransition order fromState toState reason)
      credit seen (leaving credit) := by
  refine (replies_apart (fun _ _ => True)
    fun world turns choice reply next late settled _ answered => ?_).weaken
    fun _ _ _ _ post => post.1
  have unchanged : Later orderId world world ∧ SamePass world world ∧
      Settled orderId world (credit.1 + turns) ∧ True :=
    ⟨Later.refl orderId world, samePass_refl world, settled, trivial⟩
  rcases Pipeline.committing_eq_some answered with outcome | ⟨rfl, -⟩
  · unfold Pipeline.savedOrder at outcome
    split at outcome
    · rename_i table stored
      cases outcome
      obtain ⟨latter, settledNext⟩ := settled.saved (held.later late) stored
      exact ⟨latter, ⟨rfl, rfl, rfl, rfl, rfl⟩, settledNext, trivial⟩
    · cases outcome
      exact unchanged
  · exact unchanged

/-! ### The dispatcher's operations -/

theorem Settled.inHand {rest : Multiset Envelope}
    (settled : Settled orderId world ({envelope} + rest)) :
    world.inHand = some envelope ∧ rest = 0 :=
  eq_of_unique settled.turn

theorem replies_apply {payload : BrokerTradeEvent} {executionId : String}
    {tradingMode : TradingMode} {currentPrice : ℚ}
    (turn : credit.1 = {.brokerTradeEvent payload}) (posted : Posted payload)
    (idOf : payload.executionId = some executionId) : Replies service orderId
      (.applyExecutionAtomic (PortfolioService.executionOf payload executionId) tradingMode
        currentPrice) credit seen fun _ left next => left = credit ∧
      (payload.orderId = orderId → (deltaOf payload).key ∈ keys (recorded next orderId)) := by
  refine replies_apart (fun _ next => payload.orderId = orderId →
    (deltaOf payload).key ∈ keys (recorded next orderId))
    fun world turns choice reply next late settled met answered => ?_
  have applied : (reply, next) = world.appliedExecution
      (PortfolioService.executionOf payload executionId) tradingMode currentPrice := by
    cases choice with
    | raises text => exact nomatch (met_condition met).1
    | ok => exact (Option.some.inj answered).symm
    | _ => cases answered
  have nextIs : next = (world.appliedExecution
      (PortfolioService.executionOf payload executionId) tradingMode currentPrice).2 :=
    congrArg Prod.snd applied
  subst nextIs
  have held := settled
  rw [turn] at held
  have named := orderId_of_booked settled.executions posted idOf
  have sameFills := fills_applied tradingMode currentPrice held.inHand.1 idOf named
  have recordedNext := recorded_applied (PortfolioService.executionOf payload executionId)
    tradingMode currentPrice named orderId
  have delta : deltaOfExecution (PortfolioService.executionOf payload executionId) =
      deltaOf payload := by
    unfold deltaOfExecution deltaOf
    rw [idOf]
    rfl
  have order : (PortfolioService.executionOf payload executionId).orderId = payload.orderId := rfl
  rw [delta, order] at recordedNext
  refine ⟨⟨fun row member => ⟨row, member, rfl, rfl, rfl⟩, fun _ => le_rfl,
    fun _ _ known => known, (congrArg total (sameFills orderId)).ge, ?_⟩,
    ⟨rfl, rfl, rfl, rfl, rfl⟩, ⟨?_, ?_, ?_, settled.nonneg, settled.rows, settled.orderEvents,
    settled.tradeEvents, ?_, settled.turn⟩, ?_⟩
  · rw [recordedNext]
    split
    · exact keys_subset_of_prefix (prefix_record _ _)
    · exact List.Subset.refl _
  · rw [sameFills]
    exact settled.chained
  · rw [sameFills]
    exact settled.known
  · rw [sameFills]
    exact settled.bounded
  · intro execution member
    have executions := world.portfolio.executions_applyExecutionAtomic
      (PortfolioService.executionOf payload executionId) tradingMode currentPrice
    have inNext : execution ∈ (world.portfolio.applyExecutionAtomic
      (PortfolioService.executionOf payload executionId) tradingMode currentPrice).2.executions :=
      member
    rw [executions] at inNext
    split at inNext
    · exact settled.executions execution inNext
    · rcases Stored.mem_concat.mp inNext with old | rfl
      · exact settled.executions execution old
      · have id := posted.named
        rw [idOf] at id
        exact ⟨posted.positive, _, posted.reached, Option.some.inj id⟩
  · intro own
    rw [recordedNext, if_pos own]
    exact key_mem_record _ _

theorem replies_taskDone (turn : credit.1 = {envelope}) (done : ∀ event, envelope =
      .brokerTradeEvent event → event.orderId = orderId → (deltaOf event).key ∈ keys (recorded seen
      orderId)) : Replies service orderId .taskDone credit seen fun _ _ _ => True := by
  intro world rest choice reply next late held met answered
  obtain ⟨settled, passing⟩ := held
  obtain ⟨rfl, rfl⟩ := Pipeline.always_eq_some answered
  have owned := settled
  rw [Prod.fst_add, turn] at owned
  obtain ⟨inHand, restEmpty⟩ := owned.inHand
  have sameFills : fills { world with inHand := none } orderId = fills world orderId :=
    fills_taskDone inHand fun event equal own => late.recorded (done event equal own)
  have fewer : ∀ other, other ∈ ({ world with inHand := none } : Pipeline).pending →
      other ∈ world.pending := fun other member =>
    List.mem_append_right _ ((List.mem_append.mp member).resolve_left List.not_mem_nil)
  have latter : Later orderId world { world with inHand := none } :=
    ⟨fun row member => ⟨row, member, rfl, rfl, rfl⟩, fun _ => le_rfl, fun _ _ known => known,
      (congrArg total sameFills).ge, List.Subset.refl _⟩
  refine ⟨(0, credit.2), latter, ⟨⟨?_, ?_, ?_, settled.nonneg, settled.rows,
    fun event member => settled.orderEvents event (fewer _ member),
    fun event member => settled.tradeEvents event (fewer _ member), settled.executions, ?_⟩,
    passing.later latter ⟨rfl, rfl, rfl, rfl, rfl⟩⟩, trivial⟩
  · rw [sameFills]
    exact settled.chained
  · rw [sameFills]
    exact settled.known
  · rw [sameFills]
    exact settled.bounded
  · rw [Prod.fst_add, restEmpty]
    rfl

/-! ### The operations of a pass -/

theorem replies_executed {other : String} :
    Replies service orderId (.getExecutedQuantityForOrder other) credit seen
      fun reply left next => left = credit ∧ ∀ filled : Int, reply = .ok filled → 0 ≤ filled ∧
        (other = orderId → filled ≤ total (fills next orderId)) := by
  refine (replies_reading
    (fun world => world.portfolio.getExecutedQuantityForOrder other)
    fun _ _ => rfl).weaken fun reply left next _ post => ⟨post.1, fun filled equal => ?_⟩
  obtain ⟨rfl, turns, settled⟩ := post.2 filled equal
  refine ⟨List.sum_nonneg fun quantity member => ?_, fun same => ?_⟩
  · obtain ⟨execution, inside, rfl⟩ := List.mem_map.mp member
    exact (settled.executions execution (List.mem_of_mem_filter inside)).1.le
  · rw [same, ← total_recorded]
    exact settled.chained.total_le (recorded_prefix_fills next orderId)

theorem Passing.owned {token : PassToken} {rest : Multiset PassToken}
    (passing : Passing orderId world ({token} + rest)) :
    rest = 0 ∧ world.reconciling = true ∧ world.passTrades = token.trades ∧
      world.passAsked = token.asked ∧
      ∀ report ∈ world.passReports, Covered orderId world report ∨ token.debt = some report := by
  obtain ⟨debt, tokens, covered⟩ := passing.token
  obtain ⟨named, empty⟩ := eq_of_unique tokens
  unfold passToken at named
  split at named
  · rename_i reconciling
    cases named
    exact ⟨empty, reconciling, rfl, rfl, covered⟩
  · cases named

theorem Passing.told {token : PassToken} {rest : Multiset PassToken} (debt : Option PassReport)
    (passing : Passing orderId world ({token} + rest)) (told : Pipeline.Told world next)
    (paid : ∀ report, token.debt = some report → Covered orderId world report)
    (reports : ∀ report ∈ next.passReports, report ∈ world.passReports ∨ debt = some report) :
    Passing orderId next ({⟨next.passTrades, next.passAsked, debt⟩} + rest) := by
  obtain ⟨rfl, reconciling, -, -, covered⟩ := passing.owned
  have late : Later orderId world next := (Frame.of_told told).later
  have still : next.reconciling = true := told.reconciling.trans reconciling
  refine ⟨⟨debt, ?_, fun report member => ?_⟩, fun idle => ?_, ?_⟩
  · unfold passToken
    rw [if_pos still, add_zero]
    rfl
  · refine (reports report member).imp_left fun old => ?_
    exact ((covered report old).elim id (paid report)).later late
  · rw [still] at idle
    cases idle
  · rw [told.completed]
    exact fun report member => (passing.completed report member).later late

/-- What a response about an order is kept as. -/
def reportOf (clientOrderId : String) (response : BrokerOrderResponse) : PassReport :=
  ⟨clientOrderId, response.filledQuantity, response.averagePrice⟩

/-- The trades a pass has read sum to no more than the broker filled. -/
def TradesAgree (broker : BrokerBook) (trades : Option (List BrokerTradeResponse)) : Prop :=
  ∀ read, trades = some read → ∀ trade ∈ read, TradeEvidence broker read trade = true

theorem TradesAgree.later (agree : TradesAgree world.broker trades)
    (late : Later orderId world next) : TradesAgree next.broker trades := by
  intro read same trade member
  have evidence := agree read same trade member
  unfold TradeEvidence at evidence ⊢
  split
  · rfl
  · rename_i clientOrderId named
    rw [named] at evidence
    exact decide_eq_true ((of_decide_eq_true evidence).later late)

/-- The pass owns its token and owes nothing that is not covered. -/
structure Paid (orderId : String) (turns : Multiset Envelope)
    (trades : Option (List BrokerTradeResponse)) (credit : Credit) (world : Pipeline) : Prop where
  token : ∃ asked debt, credit = (turns, {⟨trades, asked, debt⟩}) ∧
    ∀ report, debt = some report → Covered orderId world report
  agree : TradesAgree world.broker trades

theorem Paid.later (paid : Paid orderId turns trades credit world) (late : Later orderId world next)
    : Paid orderId turns trades credit next := by
  obtain ⟨asked, debt, owned, covered⟩ := paid.token
  exact ⟨⟨asked, debt, owned, fun report same => (covered report same).later late⟩,
    paid.agree.later late⟩

/-- The pass owes what the broker's response says about an order, if it says anything. -/
structure Owing (orderId : String) (turns : Multiset Envelope)
    (trades : Option (List BrokerTradeResponse)) (order : BrokerOrder)
    (response : Option BrokerOrderResponse) (credit : Credit) (world : Pipeline) : Prop where
  token : ∃ asked,
    credit = (turns, {⟨trades, asked, response.map (reportOf order.clientOrderId)⟩})
  agree : TradesAgree world.broker trades
  evidence : ∀ found, response = some found → Evidence world.broker order.clientOrderId
    found.filledQuantity found.brokerOrderId

theorem Owing.paid (owing : Owing orderId turns trades order none credit world) :
    Paid orderId turns trades credit world := by
  obtain ⟨asked, owned⟩ := owing.token
  exact ⟨⟨asked, none, owned, by nofun⟩, owing.agree⟩

theorem responseOfTrades_congr {first second : BrokerOrder}
    (client : first.clientOrderId = second.clientOrderId)
    (quantity : first.quantity = second.quantity) (trades : List BrokerTradeResponse) :
    ExecutionService.responseOfTrades first trades =
      ExecutionService.responseOfTrades second trades := by
  unfold ExecutionService.responseOfTrades
  rw [client, quantity]

theorem evidence_responseOfTrades {trades : List BrokerTradeResponse}
    {response : BrokerOrderResponse} (agree : TradesAgree broker (some trades))
    (found : ExecutionService.responseOfTrades order trades = some response) :
    Evidence broker order.clientOrderId response.filledQuantity response.brokerOrderId := by
  unfold ExecutionService.responseOfTrades at found
  split at found
  · cases found
  · rename_i first rest matching
    cases found
    have member : first ∈ trades.filter fun trade =>
        decide (trade.clientOrderId = some order.clientOrderId) :=
      matching ▸ List.mem_cons_self
    obtain ⟨inside, own⟩ := List.mem_filter.mp member
    have evidence := agree trades rfl first inside
    unfold TradeEvidence at evidence
    rw [of_decide_eq_true own] at evidence
    obtain ⟨filled, named⟩ := of_decide_eq_true evidence
    unfold tradedQuantity at filled
    rw [matching] at filled
    exact ⟨(min_le_left _ _).trans filled, named⟩

theorem replies_getOrderStatus {brokerOrderId : String}
    (named : seen.broker.clientOf brokerOrderId = some order.clientOrderId)
    (paid : Paid orderId turns trades credit seen) :
    Replies service orderId (.getOrderStatus brokerOrderId) credit seen fun reply left next =>
      match reply with
      | .error _ => Paid orderId turns trades left next
      | .ok response => Owing orderId turns trades order response left next := by
  intro world rest choice reply next late held met answered
  obtain ⟨asked, debt, rfl, covered⟩ := (paid.later late).token
  obtain ⟨settled, passing⟩ := held
  have owned := passing.owned
  have client := late.clientOf _ _ named
  rcases Pipeline.asking_eq_some answered with ⟨rfl, error, rfl⟩ | ⟨response, chosen, rfl, rfl⟩
  · exact ⟨_, Later.refl _ _, ⟨settled, passing⟩, paid.later late⟩
  have told := Pipeline.told_learnStatus world brokerOrderId response
  have latter : Later orderId world (world.learnStatus brokerOrderId response) :=
    (Frame.of_told told).later
  have trade : (world.learnStatus brokerOrderId response).passTrades = trades ∧
      (world.learnStatus brokerOrderId response).passAsked = asked := by
    unfold Pipeline.learnStatus
    split
    · exact ⟨owned.2.2.1, owned.2.2.2.1⟩
    · exact ⟨owned.2.2.1, owned.2.2.2.1⟩
  refine ⟨(turns, {⟨trades, asked, response.map (reportOf order.clientOrderId)⟩}), latter,
    ⟨settled.frame (Frame.of_told told), ?_⟩, ⟨asked, rfl⟩, (paid.later late).agree.later latter,
    fun found same => ?_⟩
  · have renewed := passing.told (response.map (reportOf order.clientOrderId)) told covered
      fun report member => ?_
    · rw [trade.1, trade.2] at renewed
      exact renewed
    · cases response with
      | none => exact Or.inl member
      | some response =>
        unfold Pipeline.learnStatus at member
        rw [client] at member
        exact (List.mem_append.mp member).imp_right fun new =>
          congrArg some (List.mem_singleton.mp new).symm
  · subst same
    have evidence := (met_condition met).1
    cases choice with
    | orderStatus answer =>
      cases chosen
      unfold agreeing at evidence
      simp only [client] at evidence
      exact (of_decide_eq_true evidence).later latter
    | _ => cases chosen

theorem reportedTrades_eq (held : Held order world) (trades : List BrokerTradeResponse) :
    world.reportedTrades order.clientOrderId trades =
      match ExecutionService.responseOfTrades order trades with
      | none => world
      | some response => world.reported order.clientOrderId response := by
  obtain ⟨row, member, -, client, quantity⟩ := held.row
  have found := OrderTable.getOrderByClientId_of_mem member
  rw [client] at found
  unfold Pipeline.reportedTrades
  rw [found]
  have same := responseOfTrades_congr client quantity trades
  cases told : ExecutionService.responseOfTrades order trades <;> simp only [same, told]

theorem told_reportedTrades_pass (held : Held order world) (trades : List BrokerTradeResponse) :
    (world.reportedTrades order.clientOrderId trades).passTrades = world.passTrades ∧
      (world.reportedTrades order.clientOrderId trades).passAsked = world.passAsked ∧
      ∀ report ∈ (world.reportedTrades order.clientOrderId trades).passReports,
        report ∈ world.passReports ∨
        (ExecutionService.responseOfTrades order trades).map
          (reportOf order.clientOrderId) = some report := by
  rw [reportedTrades_eq held]
  cases ExecutionService.responseOfTrades order trades with
  | none => exact ⟨rfl, rfl, fun report member => Or.inl member⟩
  | some response =>
    refine ⟨rfl, rfl, fun report member => ?_⟩
    exact (List.mem_append.mp member).imp_right fun new =>
      congrArg some (List.mem_singleton.mp new).symm

/-- What a pass owes after a recovery query: what the broker says, and failing that what the
trades say, once they are read. -/
def recoveredResponse (order : BrokerOrder) (trades : Option (List BrokerTradeResponse))
    (response : Option BrokerOrderResponse) : Option BrokerOrderResponse :=
  response.or (trades.bind (ExecutionService.responseOfTrades order))

theorem replies_findOrderByClientId (held : Held order seen)
    (paid : Paid orderId turns trades credit seen) :
    Replies service orderId (.findOrderByClientId order.clientOrderId) credit seen
      fun reply left next =>
        match reply with
        | .error _ => Paid orderId turns trades left next
        | .ok response =>
          Owing orderId turns trades order (recoveredResponse order trades response) left next ∧
            (response = none → trades = none →
              left = (turns, {⟨none, some order.clientOrderId, none⟩})) := by
  intro world rest choice reply next late both met answered
  obtain ⟨asked, debt, rfl, covered⟩ := (paid.later late).token
  obtain ⟨settled, passing⟩ := both
  obtain ⟨-, -, tradesIs, askedIs, -⟩ := passing.owned
  have agree := (paid.later late).agree
  rcases Pipeline.asking_eq_some answered with ⟨rfl, error, rfl⟩ | ⟨response, chosen, rfl, rfl⟩
  · exact ⟨_, Later.refl _ _, ⟨settled, passing⟩, paid.later late⟩
  have told := Pipeline.told_learnRecovery world order.clientOrderId response
  have latter : Later orderId world (world.learnRecovery order.clientOrderId response) :=
    (Frame.of_told told).later
  have facts : (world.learnRecovery order.clientOrderId response).passTrades = trades ∧
      ∀ report ∈ (world.learnRecovery order.clientOrderId response).passReports,
        report ∈ world.passReports ∨
        (recoveredResponse order trades response).map (reportOf order.clientOrderId) =
          some report := by
    unfold Pipeline.learnRecovery recoveredResponse
    rw [tradesIs]
    cases response with
    | some response =>
      refine ⟨tradesIs, fun report member => ?_⟩
      exact (List.mem_append.mp member).imp_right fun new =>
        congrArg some (List.mem_singleton.mp new).symm
    | none =>
      cases trades with
      | none => exact ⟨rfl, fun report member => Or.inl member⟩
      | some trades =>
        obtain ⟨same, -, reports⟩ := told_reportedTrades_pass (held.later late) trades
        exact ⟨same.trans tradesIs, reports⟩
  have renewed := passing.told ((recoveredResponse order trades response).map
    (reportOf order.clientOrderId)) told covered facts.2
  rw [facts.1] at renewed
  refine ⟨(turns, {⟨trades, (world.learnRecovery order.clientOrderId response).passAsked,
      (recoveredResponse order trades response).map (reportOf order.clientOrderId)⟩}),
    latter, ⟨settled.frame (Frame.of_told told), renewed⟩,
    ⟨⟨_, rfl⟩, agree.later latter, fun found same => ?_⟩, fun missing unread => ?_⟩
  · cases response with
    | some response =>
      cases same
      have evidence := (met_condition met).1
      cases choice with
      | orderStatus answer =>
        cases chosen
        exact (of_decide_eq_true evidence).later latter
      | _ => cases chosen
    | none =>
      obtain ⟨read, rfl, built⟩ := Option.bind_eq_some_iff.mp same
      exact (evidence_responseOfTrades agree built).later latter
  · subst missing unread
    have askedNow : (world.learnRecovery order.clientOrderId none).passAsked =
        some order.clientOrderId := by
      unfold Pipeline.learnRecovery
      rw [tradesIs]
    rw [askedNow]
    rfl

theorem replies_getTrades (held : Held order seen)
    (owned : credit = (turns, {⟨none, some order.clientOrderId, none⟩})) :
    Replies service orderId .getTrades credit seen fun reply left next =>
      match reply with
      | .error _ => Paid orderId turns none left next
      | .ok trades => Owing orderId turns (some trades) order
          (ExecutionService.responseOfTrades order trades) left next := by
  intro world rest choice reply next late both met answered
  subst owned
  obtain ⟨settled, passing⟩ := both
  obtain ⟨-, -, tradesIs, askedIs, -⟩ := passing.owned
  rcases Pipeline.asking_eq_some answered with ⟨rfl, error, rfl⟩ | ⟨trades, chosen, rfl, rfl⟩
  · exact ⟨_, Later.refl _ _, ⟨settled, passing⟩, ⟨_, none, rfl, by nofun⟩, by nofun⟩
  have told := Pipeline.told_learnTrades world trades
  have latter : Later orderId world (world.learnTrades trades) := (Frame.of_told told).later
  have agree : TradesAgree world.broker (some trades) := by
    intro read same trade member
    cases same
    have evidence := (met_condition met).1
    cases choice with
    | trades answer =>
      cases chosen
      exact List.all_eq_true.mp evidence trade member
    | _ => cases chosen
  have learned : world.learnTrades trades =
      Pipeline.reportedTrades { world with passTrades := some trades, passAsked := none }
        order.clientOrderId trades := by
    unfold Pipeline.learnTrades
    rw [askedIs]
  have heldRead : Held order { world with passTrades := some trades, passAsked := none } :=
    ⟨(held.later late).row, (held.later late).evidence⟩
  obtain ⟨tradesNow, -, reports⟩ := told_reportedTrades_pass heldRead trades
  rw [← learned] at tradesNow reports
  have renewed := passing.told ((ExecutionService.responseOfTrades order trades).map
    (reportOf order.clientOrderId)) told (by nofun) reports
  rw [tradesNow] at renewed
  exact ⟨(turns, {⟨some trades, (world.learnTrades trades).passAsked,
      (ExecutionService.responseOfTrades order trades).map (reportOf order.clientOrderId)⟩}),
    latter, ⟨settled.frame (Frame.of_told told), renewed⟩, ⟨_, rfl⟩, agree.later latter,
    fun found same => (evidence_responseOfTrades agree same).later latter⟩

theorem replies_sleep (paid : Paid orderId turns trades credit seen) :
    Replies service orderId .sleep credit seen fun _ _ _ => True := by
  intro world rest choice reply next late both met answered
  obtain ⟨rfl, rfl⟩ := Pipeline.always_eq_some answered
  obtain ⟨asked, debt, rfl, owes⟩ := (paid.later late).token
  obtain ⟨settled, passing⟩ := both
  obtain ⟨empty, -, -, -, covered⟩ := passing.owned
  have frame : Frame world { world with
      reconciling := false
      passAsked := none
      passTrades := none
      passReports := []
      completed := world.completed ++ world.passReports } := ⟨rfl, rfl, rfl, rfl, rfl⟩
  refine ⟨(turns, 0), frame.later, ⟨settled.frame frame, ⟨none, ?_, ?_⟩, fun _ => ⟨rfl, rfl⟩, ?_⟩,
    trivial⟩
  · change (0 : Multiset PassToken) + rest.2 = 0
    rw [empty, add_zero]
  · exact fun report member => absurd member List.not_mem_nil
  · intro report member
    rcases List.mem_append.mp member with old | new
    · exact (passing.completed report old).later frame.later
    · exact ((covered report new).elim id (owes report)).later frame.later

end

end Fills

end BreezeTrading
