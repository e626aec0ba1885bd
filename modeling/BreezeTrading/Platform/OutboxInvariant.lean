/-
This file defines what a restart may lose, and the invariant behind the orders it does not lose.
An outbox row is published once its event is on the bus, which is in memory. The invariant follows
an order through the two outboxes, the bus, and its creation, until it has left VALIDATING.
-/

import BreezeTrading.Platform.Steps
import Mathlib.Algebra.Group.Prod

namespace BreezeTrading

open Async

namespace Outbox

open Platform

/-! ### Where an order is on its way -/

/-- The intent an event is about. -/
def carried : Envelope → Option String
  | .orderIntent intent => some intent.intentId
  | .riskDecision payload => some payload.intentId
  | _ => none

/-- The intent whose order a piece of work creates. -/
def creationOf : Job × Nat → Option String
  | (.creation intentId, 0) => some intentId
  | _ => none

/-- The intents whose orders are being created. -/
def creations (world : Platform) : List String := world.running.filterMap creationOf

/-- An outbox has a row about the intent that is not published. -/
def Stored (world : Platform) (store : Store) (intentId : String) : Prop :=
  ∃ row ∈ world.outbox store, row.published = false ∧ carried row.envelope = some intentId

instance (world : Platform) (store : Store) (intentId : String) :
    Decidable (Stored world store intentId) :=
  inferInstanceAs (Decidable (∃ row ∈ world.outbox store, _))

/-- An event about the intent is on the bus. -/
def OnBus (world : Platform) (intentId : String) : Prop :=
  ∃ envelope ∈ world.pipeline.pending, carried envelope = some intentId

instance (world : Platform) (intentId : String) : Decidable (OnBus world intentId) :=
  inferInstanceAs (Decidable (∃ envelope ∈ world.pipeline.pending, _))

/-- The order of the intent is there, and not in VALIDATING. -/
def Done (world : Platform) (intentId : String) : Prop :=
  ∃ row ∈ world.pipeline.oms.rows, row.intentId = intentId ∧ row.status ≠ .validating

/-! ### What a restart finds -/

/-- Every intent has exactly one order, and every order in VALIDATING a row of an outbox that is
not published. -/
structure Durable (world : Platform) : Prop where
  one : ∀ intent ∈ world.pipeline.intents,
    (world.pipeline.oms.rows.filter fun row => decide (row.intentId = intent.intentId)).length = 1
  covered : ∀ row ∈ world.pipeline.oms.rows, row.status = .validating →
    Stored world .oms row.intentId ∨ Stored world .risk row.intentId

/-- What a crash must not meet: a creation before its order is inserted, or an order in VALIDATING
that is being created or whose event is on the bus, when both of its outbox rows are published. -/
def survives (world : Platform) : Bool :=
  ((creations world).all fun intentId =>
      decide (∃ row ∈ world.pipeline.oms.rows, row.intentId = intentId)) &&
    world.pipeline.oms.rows.all fun row =>
      decide (row.status = .validating →
        row.intentId ∈ creations world ∨ OnBus world row.intentId →
        Stored world .oms row.intentId ∨ Stored world .risk row.intentId)

/-- The order of the decision in hand, while it is in VALIDATING, is among those listed. -/
def listed (world : Platform) (limit : Nat) : Bool :=
  match world.pipeline.inHand with
  | some (.riskDecision payload) =>
      decide (∀ row ∈ world.pipeline.oms.rows, row.intentId = payload.intentId →
        row.status = .validating → row ∈ world.pipeline.oms.listOrders limit)
  | _ => true

/-- The handlers of intents and decisions do not fail, find the order of a decision, and a crash
meets nothing it would lose. -/
def delivers : PlatformCondition where
  answer world op choice :=
    match op, choice with
    | .risk op, .raises _ => handles op
    | .pipeline (.listOrders limit), .pipeline .ok => decide (limit ≠ 50) || listed world limit
    | .pipeline (.listOrders limit), .pipeline (.raises _) => decide (limit ≠ 50)
    | .pipeline (.saveBrokerOrderWithTransition _ _ toState _), .pipeline (.raises _) =>
        decide (toState ∉ [OrderState.approved, .riskRejected])
    | _, _ => true
  restart := survives

/-! ### The invariant -/

/-- The way of an order: CREATED, then VALIDATING, then beyond. -/
def rank : OrderState → Nat
  | .created => 0
  | .validating => 1
  | _ => 2

/-- The order of this client id has left VALIDATING. -/
def Past (world : Platform) (clientOrderId : String) : Prop :=
  ∃ row ∈ world.pipeline.oms.rows, row.clientOrderId = clientOrderId ∧ rank row.status = 2

/-- An intent on record is on the bus or in creation, or its order is done. -/
def Underway (world : Platform) (intentId : String) : Prop :=
  intentId ∈ world.pipeline.intents.map OrderIntent.intentId →
    OnBus world intentId ∨ intentId ∈ creations world ∨ Done world intentId

/-- The creations that own a task, each with its progress: its intent is saved, its order is
inserted, dispatched, and its event published. The event that the dispatcher handles, and whether
it may be forgotten. -/
abbrev Credit := Multiset (String × Nat) × Multiset (Envelope × Bool)

/-- The event may be forgotten: its order is done, another event about it is queued, or its
creation has yet to publish one. -/
def Settled (world : Platform) (phases : Multiset (String × Nat)) (envelope : Envelope) : Prop :=
  ∀ intentId, carried envelope = some intentId →
    intentId ∈ world.pipeline.intents.map OrderIntent.intentId →
    (∃ other ∈ world.pipeline.queue, carried other = some intentId) ∨
      (∃ phase ≤ 2, (intentId, phase) ∈ phases) ∨ Done world intentId

/-- Every intent is on its way until its order is done. -/
structure Tracked (world : Platform) (credit : Credit) : Prop where
  creating : (creations world : Multiset String) = credit.1.map Prod.fst
  hand : credit.2.map Prod.fst = unique world.pipeline.inHand
  unique : (world.pipeline.intents.map OrderIntent.intentId).Nodup
  known : ∀ entry ∈ credit.1, entry.1 ∈ world.pipeline.intents.map OrderIntent.intentId
  once : (credit.1.map Prod.fst).Nodup
  traced : ∀ row ∈ world.pipeline.oms.rows,
    row.intentId ∈ world.pipeline.intents.map OrderIntent.intentId
  single : (world.pipeline.oms.rows.map BrokerOrder.intentId).Nodup
  inserted : ∀ intentId ∈ world.pipeline.intents.map OrderIntent.intentId,
    (intentId, 0) ∈ credit.1 ∨ ∃ row ∈ world.pipeline.oms.rows, row.intentId = intentId
  saved : ∀ intentId, (intentId, 0) ∈ credit.1 →
    ∀ row ∈ world.pipeline.oms.rows, row.intentId ≠ intentId
  opened : ∀ intentId, (intentId, 1) ∈ credit.1 →
    ∀ row ∈ world.pipeline.oms.rows, row.intentId = intentId → row.status = .created
  published : ∀ intentId, (intentId, 3) ∈ credit.1 → OnBus world intentId ∨ Done world intentId
  handled : ∀ envelope, (envelope, true) ∈ credit.2 → Settled world credit.1 envelope
  reports : ∀ payload, .brokerOrderEvent payload ∈ world.pipeline.pending →
    Past world payload.clientOrderId
  rows : ∀ store, ∀ row ∈ world.outbox store, carried row.envelope ≠ none
  covered : ∀ intentId ∈ world.pipeline.intents.map OrderIntent.intentId,
    Stored world .oms intentId ∨ Stored world .risk intentId ∨ Underway world intentId

/-- A row of an order, which has not moved back. -/
structure Advanced (row other : BrokerOrder) : Prop where
  orderId : other.orderId = row.orderId
  clientOrderId : other.clientOrderId = row.clientOrderId
  intentId : other.intentId = row.intentId
  rank : rank row.status ≤ rank other.status

/-- What no step undoes. -/
structure Later (seen world : Platform) : Prop where
  intents : ∀ intent ∈ seen.pipeline.intents, intent ∈ world.pipeline.intents
  rows : ∀ row ∈ seen.pipeline.oms.rows, ∃ other ∈ world.pipeline.oms.rows, Advanced row other
  outbox : ∀ (store : Store) (index : Nat) row, (seen.outbox store)[index]? = some row →
    ∃ other, (world.outbox store)[index]? = some other ∧ other.envelope = row.envelope
  underway : ∀ intentId, Underway seen intentId → Underway world intentId

theorem Advanced.refl (row : BrokerOrder) : Advanced row row := ⟨rfl, rfl, rfl, le_refl _⟩

theorem Advanced.trans {first second third : BrokerOrder} (left : Advanced first second)
    (right : Advanced second third) : Advanced first third :=
  ⟨right.orderId.trans left.orderId, right.clientOrderId.trans left.clientOrderId,
    right.intentId.trans left.intentId, left.rank.trans right.rank⟩

theorem Later.refl (world : Platform) : Later world world where
  intents _ member := member
  rows row member := ⟨row, member, .refl row⟩
  outbox _ _ row found := ⟨row, found, rfl⟩
  underway _ underway := underway

theorem Later.trans {first second third : Platform} (left : Later first second)
    (right : Later second third) : Later first third where
  intents intent member := right.intents intent (left.intents intent member)
  rows row member := by
    obtain ⟨other, inSecond, advanced⟩ := left.rows row member
    obtain ⟨last, inThird, further⟩ := right.rows other inSecond
    exact ⟨last, inThird, advanced.trans further⟩
  outbox store index row found := by
    obtain ⟨other, foundThen, same⟩ := left.outbox store index row found
    obtain ⟨last, foundLast, sameToo⟩ := right.outbox store index other foundThen
    exact ⟨last, foundLast, sameToo.trans same⟩
  underway intentId underway := right.underway intentId (left.underway intentId underway)

/-- A task owns the creations it has under way and the event it handles. -/
def discipline : Discipline Platform Credit where
  later := Later
  refl := Later.refl
  trans := Later.trans
  holds := Tracked

theorem Past.later {seen world : Platform} {clientOrderId : String}
    (past : Past seen clientOrderId) (late : Later seen world) : Past world clientOrderId := by
  obtain ⟨row, member, named, gone⟩ := past
  obtain ⟨other, inside, advanced⟩ := late.rows row member
  refine ⟨other, inside, advanced.clientOrderId.trans named, le_antisymm ?_ ?_⟩
  · cases other.status <;> decide
  · exact gone.symm.le.trans advanced.rank

/-! ### Steps that leave the orders and the outboxes alone -/

section

variable {world next : Platform} {credit : Credit}

variable {intentId : String}

theorem Underway.mono (underway : Underway world intentId)
    (intents : next.pipeline.intents = world.pipeline.intents)
    (onBus : OnBus world intentId → OnBus next intentId)
    (creating : intentId ∈ creations world → intentId ∈ creations next)
    (done : Done world intentId → Done next intentId) : Underway next intentId := by
  intro known
  rw [intents] at known
  exact (underway known).imp onBus (Or.imp creating done)

/-- Everything but the end of the queue is as it was, and the news of the broker that is added is
about orders that have left VALIDATING. -/
structure Frame (world next : Platform) : Prop where
  oms : next.pipeline.oms = world.pipeline.oms
  intents : next.pipeline.intents = world.pipeline.intents
  inHand : next.pipeline.inHand = world.pipeline.inHand
  queue : ∃ more, next.pipeline.queue = world.pipeline.queue ++ more ∧
    ∀ payload, .brokerOrderEvent payload ∈ more → Past world payload.clientOrderId
  outbox : next.outbox = world.outbox
  creations : creations next = creations world

theorem Frame.pending (frame : Frame world next) :
    ∃ more, next.pipeline.pending = world.pipeline.pending ++ more ∧
      ∀ payload, .brokerOrderEvent payload ∈ more → Past world payload.clientOrderId := by
  obtain ⟨more, queue, past⟩ := frame.queue
  refine ⟨more, ?_, past⟩
  rw [Pipeline.pending, Pipeline.pending, frame.inHand, queue, List.append_assoc]

theorem Frame.onBus (frame : Frame world next) (onBus : OnBus world intentId) :
    OnBus next intentId := by
  obtain ⟨more, pending, -⟩ := frame.pending
  obtain ⟨envelope, member, about⟩ := onBus
  exact ⟨envelope, pending ▸ List.mem_append_left _ member, about⟩

theorem done_congr (oms : next.pipeline.oms = world.pipeline.oms)
    (done : Done world intentId) : Done next intentId := by
  rw [Done, oms]
  exact done

theorem stored_congr (outbox : next.outbox = world.outbox) {store : Store}
    (stored : Stored world store intentId) : Stored next store intentId := by
  rw [Stored, outbox]
  exact stored

theorem past_congr (oms : next.pipeline.oms = world.pipeline.oms) {clientOrderId : String}
    (past : Past world clientOrderId) : Past next clientOrderId := by
  rw [Past, oms]
  exact past

theorem Frame.underway (frame : Frame world next)
    (underway : Underway world intentId) : Underway next intentId :=
  underway.mono frame.intents frame.onBus (fun creating => frame.creations ▸ creating)
    (done_congr frame.oms)

theorem Frame.later (frame : Frame world next) : Later world next where
  intents intent member := by rwa [frame.intents]
  rows row member := ⟨row, by rwa [frame.oms], .refl row⟩
  outbox store index row found := ⟨row, by rwa [frame.outbox], rfl⟩
  underway _ underway := frame.underway underway

theorem Settled.mono {phases phases' : Multiset (String × Nat)} {envelope : Envelope}
    (settled : Settled world phases envelope)
    (intents : next.pipeline.intents = world.pipeline.intents)
    (queue : ∀ other ∈ world.pipeline.queue, other ∈ next.pipeline.queue)
    (coming : ∀ intentId, carried envelope = some intentId →
      (∃ phase ≤ 2, (intentId, phase) ∈ phases) ∨ Done world intentId →
      (∃ other ∈ next.pipeline.queue, carried other = some intentId) ∨
        (∃ phase ≤ 2, (intentId, phase) ∈ phases') ∨ Done next intentId) :
    Settled next phases' envelope := by
  intro intentId about known
  rw [intents] at known
  rcases settled intentId about known with ⟨other, member, same⟩ | rest
  · exact .inl ⟨other, queue other member, same⟩
  · exact coming intentId about rest

theorem Tracked.frame (tracked : Tracked world credit) (frame : Frame world next) :
    Tracked next credit where
  creating := by rw [frame.creations]; exact tracked.creating
  hand := by rw [frame.inHand]; exact tracked.hand
  unique := by rw [frame.intents]; exact tracked.unique
  known := by rw [frame.intents]; exact tracked.known
  once := tracked.once
  traced := by rw [frame.oms, frame.intents]; exact tracked.traced
  single := by rw [frame.oms]; exact tracked.single
  inserted := by rw [frame.oms, frame.intents]; exact tracked.inserted
  saved := by rw [frame.oms]; exact tracked.saved
  opened := by rw [frame.oms]; exact tracked.opened
  published intentId phase :=
    (tracked.published intentId phase).imp frame.onBus (done_congr frame.oms)
  handled envelope owned := by
    obtain ⟨more, queue, -⟩ := frame.queue
    exact (tracked.handled envelope owned).mono frame.intents
      (fun other member => queue ▸ List.mem_append_left _ member)
      fun intentId _ rest => .inr (rest.imp_right (done_congr frame.oms))
  reports payload member := by
    obtain ⟨more, pending, past⟩ := frame.pending
    rw [pending] at member
    rcases List.mem_append.mp member with before | added
    · exact past_congr frame.oms (tracked.reports payload before)
    · exact past_congr frame.oms (past payload added)
  rows := by rw [frame.outbox]; exact tracked.rows
  covered intentId known := by
    rw [frame.intents] at known
    exact (tracked.covered intentId known).imp (stored_congr frame.outbox)
      (Or.imp (stored_congr frame.outbox) frame.underway)

theorem Tracked.kept (tracked : Tracked world credit) (frame : Frame world next) :
    Later world next ∧ Tracked next credit :=
  ⟨frame.later, tracked.frame frame⟩

theorem frame_beside {clients : String → Prop} (beside : Beside clients world next)
    (past : ∀ clientOrderId, clients clientOrderId → Past world clientOrderId) :
    Frame world next where
  oms := beside.oms
  intents := beside.intents
  inHand := beside.inHand
  queue := by
    obtain ⟨more, queue, light⟩ := beside.queue
    exact ⟨more, queue, fun payload added => past _ (light _ added)⟩
  outbox := beside.outbox
  creations := congrArg (List.filterMap _) beside.running

theorem frame_enqueue {envelope : Envelope} (about : carried envelope ≠ none) :
    Frame world (world.enqueue envelope) where
  oms := rfl
  intents := rfl
  inHand := rfl
  queue := by
    refine ⟨[envelope], rfl, fun payload added => ?_⟩
    rw [← List.mem_singleton.mp added] at about
    exact absurd rfl about
  outbox := rfl
  creations := rfl

theorem frame_of_eq (oms : next.pipeline.oms = world.pipeline.oms)
    (intents : next.pipeline.intents = world.pipeline.intents)
    (inHand : next.pipeline.inHand = world.pipeline.inHand)
    (queue : next.pipeline.queue = world.pipeline.queue) (outbox : next.outbox = world.outbox)
    (creations : creations next = creations world) : Frame world next where
  oms := oms
  intents := intents
  inHand := inHand
  queue := ⟨[], by rw [queue, List.append_nil], fun _ added => absurd added List.not_mem_nil⟩
  outbox := outbox
  creations := creations

/-! ### What a task owns -/

/-- A creation, at a stage of it. -/
def making (intentId : String) (phase : Nat) : Credit := ({(intentId, phase)}, 0)

/-- The event that is handled, and whether it may be forgotten. -/
def handling (envelope : Envelope) (settled : Bool) : Credit := (0, {(envelope, settled)})

section Owned

variable {intentId : String} {phase : Nat} {rest : Credit} {envelope : Envelope} {flag : Bool}

theorem mem_making {entry : String × Nat} :
    entry ∈ (making intentId phase + rest).1 ↔ entry = (intentId, phase) ∨ entry ∈ rest.1 := by
  show entry ∈ ({(intentId, phase)} + rest.1 : Multiset (String × Nat)) ↔ _
  rw [Multiset.singleton_add, Multiset.mem_cons]

theorem mem_rest {entry : String × Nat} (member : entry ∈ rest.1) :
    entry ∈ (making intentId phase + rest).1 := mem_making.mpr (.inr member)

theorem mem_of_phase {other : String} {stage : Nat}
    (member : (other, stage) ∈ (making intentId phase + rest).1) (different : stage ≠ phase) :
    (other, stage) ∈ rest.1 :=
  (mem_making.mp member).resolve_left fun here => different (Prod.mk.inj here).2

theorem making_snd (rest : Credit) : (making intentId phase + rest).2 = rest.2 := by
  show 0 + rest.2 = rest.2
  rw [zero_add]

theorem handling_fst (rest : Credit) : (handling envelope flag + rest).1 = rest.1 := by
  show 0 + rest.1 = rest.1
  rw [zero_add]

theorem making_names (rest : Credit) (other : Nat) :
    (making intentId phase + rest).1.map Prod.fst =
      (making intentId other + rest).1.map Prod.fst := by
  show Multiset.map Prod.fst ({(intentId, phase)} + rest.1) =
    Multiset.map Prod.fst ({(intentId, other)} + rest.1)
  rw [Multiset.map_add, Multiset.map_add, Multiset.map_singleton, Multiset.map_singleton]

section

variable (tracked : Tracked world (making intentId phase + rest))

include tracked

theorem Tracked.others : ∀ entry ∈ rest.1, entry.1 ≠ intentId := by
  intro entry member same
  have once : (Multiset.map Prod.fst ({(intentId, phase)} + rest.1)).Nodup := tracked.once
  rw [Multiset.singleton_add, Multiset.map_cons, Multiset.nodup_cons] at once
  exact once.1 (Multiset.mem_map.mpr ⟨entry, member, same⟩)

theorem Tracked.knows : intentId ∈ world.pipeline.intents.map OrderIntent.intentId :=
  tracked.known (intentId, phase) (mem_making.mpr (.inl rfl))

theorem Tracked.known_making (other : Nat) : ∀ entry ∈ (making intentId other + rest).1,
      entry.1 ∈ world.pipeline.intents.map OrderIntent.intentId := by
  intro entry inside
  rcases mem_making.mp inside with rfl | before
  · exact tracked.knows
  · exact tracked.known entry (mem_rest before)

theorem Tracked.creates : intentId ∈ creations world := by
  rw [← Multiset.mem_coe, tracked.creating]
  exact Multiset.mem_map.mpr ⟨(intentId, phase), mem_making.mpr (.inl rfl), rfl⟩

end

theorem Tracked.inHand (tracked : Tracked world (handling envelope flag + rest)) :
    world.pipeline.inHand = some envelope ∧ rest.2 = 0 := by
  have hand : Multiset.map Prod.fst ({(envelope, flag)} + rest.2) = Async.unique _ := tracked.hand
  rw [Multiset.map_add, Multiset.map_singleton] at hand
  obtain ⟨held, alone⟩ := eq_of_unique hand
  exact ⟨held, Multiset.map_eq_zero.mp alone⟩

theorem Tracked.settle (tracked : Tracked world (handling envelope flag + rest))
    (settled : Settled world rest.1 envelope) :
    Tracked world (handling envelope true + rest) := by
  obtain ⟨held, alone⟩ := tracked.inHand
  exact
    { tracked with
      hand := by
        show Multiset.map Prod.fst ({(envelope, true)} + rest.2) = Async.unique _
        rw [held, alone]
        rfl
      handled := fun other owned => by
        have cases : (other, true) ∈ ({(envelope, true)} + rest.2 : Multiset (Envelope × Bool)) :=
          owned
        rw [alone, add_zero, Multiset.mem_singleton] at cases
        obtain ⟨rfl, -⟩ := Prod.mk.inj cases
        rw [handling_fst]
        exact settled }

end Owned

/-! ### Steps that write an order -/

/-- The platform with another order table. -/
def withTable (world : Platform) (table : OrderTable) : Platform :=
  { world with pipeline := { world.pipeline with oms := table } }

/-- A write that replaces the row of one order by one that has not moved back. -/
structure Moves (world : Platform) (table : OrderTable) (old row : BrokerOrder) : Prop where
  before : old ∈ world.pipeline.oms.rows
  member : ∀ other, other ∈ table.rows ↔ other = row ∨
    (other ∈ world.pipeline.oms.rows ∧ other.orderId ≠ old.orderId)
  advanced : Advanced old row
  single : (world.pipeline.oms.rows.map BrokerOrder.intentId).Nodup →
    (table.rows.map BrokerOrder.intentId).Nodup

section Moves

variable {table : OrderTable} {old row : BrokerOrder}

theorem moves_of_save {order : BrokerOrder} {toState : OrderState}
    (stored : world.pipeline.oms.saveBrokerOrderWithTransition order toState = .ok table)
    (member : old ∈ world.pipeline.oms.rows) (orderId : old.orderId = order.orderId)
    (forward : rank old.status ≤ rank toState) :
    Moves world table old (OrderTable.updated old { order with status := toState }) where
  before := member
  member := OrderTable.mem_save_of_mem stored member orderId
  advanced := ⟨rfl, rfl, rfl, forward⟩
  single unique := OrderTable.nodup_save stored (fun _ _ => rfl) unique
    (.inl ⟨old, member, orderId⟩)

section

variable (moves : Moves world table old row)

include moves

theorem Moves.rows :
    ∀ other ∈ world.pipeline.oms.rows, ∃ after ∈ table.rows, Advanced other after := by
  intro other member
  by_cases same : other.orderId = old.orderId
  · rw [OrderTable.eq_of_orderId member moves.before same]
    exact ⟨row, (moves.member row).mpr (.inl rfl), moves.advanced⟩
  · exact ⟨other, (moves.member other).mpr (.inr ⟨member, same⟩), .refl other⟩

theorem Moves.past {clientOrderId : String} (past : Past world clientOrderId) :
    Past (withTable world table) clientOrderId := by
  obtain ⟨other, member, named, gone⟩ := past
  obtain ⟨after, inside, advanced⟩ := moves.rows other member
  refine ⟨after, inside, advanced.clientOrderId.trans named, le_antisymm ?_ ?_⟩
  · cases after.status <;> decide
  · exact gone.symm.le.trans advanced.rank

theorem Moves.done {intentId : String} (leaves : old.intentId = intentId → row.status ≠ .validating)
    (done : Done world intentId) : Done (withTable world table) intentId := by
  obtain ⟨other, member, named, gone⟩ := done
  by_cases same : other.orderId = old.orderId
  · obtain rfl := OrderTable.eq_of_orderId member moves.before same
    exact ⟨row, (moves.member row).mpr (.inl rfl), moves.advanced.intentId.trans named,
      leaves named⟩
  · exact ⟨other, (moves.member other).mpr (.inr ⟨member, same⟩), named, gone⟩

theorem Moves.of_mem {other : BrokerOrder} (member : other ∈ table.rows) :
    other = row ∨ other ∈ world.pipeline.oms.rows :=
  ((moves.member other).mp member).imp_right And.left

end

end Moves

theorem Tracked.write {table : OrderTable} {old row : BrokerOrder}
    (tracked : Tracked world credit) (moves : Moves world table old row)
    (dispatched : 1 ≤ rank old.status) (gone : rank row.status = 2) :
    Later world (withTable world table) ∧ Tracked (withTable world table) credit := by
  have beyond : row.status ≠ .validating := by
    intro same
    rw [same] at gone
    exact absurd gone (by decide)
  have done {intentId : String} (done : Done world intentId) :
      Done (withTable world table) intentId := moves.done (fun _ => beyond) done
  have underway {intentId : String} (underway : Underway world intentId) :
      Underway (withTable world table) intentId := underway.mono rfl id id done
  have late : Later world (withTable world table) :=
    ⟨fun _ member => member, moves.rows, fun _ _ row found => ⟨row, found, rfl⟩,
      fun _ => underway⟩
  have traced : old.intentId ∈ world.pipeline.intents.map OrderIntent.intentId :=
    tracked.traced old moves.before
  refine ⟨late, ?_⟩
  exact
    { tracked with
      traced := fun other member => by
        rcases moves.of_mem member with rfl | before
        · rw [moves.advanced.intentId]
          exact traced
        · exact tracked.traced other before
      single := moves.single tracked.single
      inserted := fun intentId known => by
        refine (tracked.inserted intentId known).imp_right fun ⟨other, member, named⟩ => ?_
        obtain ⟨after, inside, advanced⟩ := moves.rows other member
        exact ⟨after, inside, advanced.intentId.trans named⟩
      saved := fun intentId phase other member => by
        rcases moves.of_mem member with rfl | before
        · rw [moves.advanced.intentId]
          exact tracked.saved intentId phase old moves.before
        · exact tracked.saved intentId phase other before
      opened := fun intentId phase other member named => by
        rcases moves.of_mem member with rfl | before
        · have created := tracked.opened intentId phase old moves.before
            (moves.advanced.intentId.symm.trans named)
          rw [created] at dispatched
          exact absurd dispatched (by decide)
        · exact tracked.opened intentId phase other before named
      published := fun intentId phase => (tracked.published intentId phase).imp_right done
      handled := fun envelope owned => (tracked.handled envelope owned).mono rfl
        (fun _ member => member) fun intentId _ rest => .inr (rest.imp_right done)
      reports := fun payload member => moves.past (tracked.reports payload member)
      covered := fun intentId known =>
        (tracked.covered intentId known).imp_right (Or.imp_right underway) }

/-- A row is added to an outbox. -/
theorem outbox_added (target : Store) (added : OutboxRow) (next : Platform)
    (outbox : ∀ store, next.outbox store =
      if store = target then world.outbox store ++ [added] else world.outbox store) :
    (∀ store, ∀ row ∈ world.outbox store, row ∈ next.outbox store) ∧
      (∀ store (index : Nat) row, (world.outbox store)[index]? = some row →
        (next.outbox store)[index]? = some row) ∧
      ∀ store, ∀ row ∈ next.outbox store, row ∈ world.outbox store ∨ row = added := by
  refine ⟨fun store row member => ?_, fun store index row found => ?_,
    fun store row member => ?_⟩
  · rw [outbox]
    split
    · exact List.mem_append_left _ member
    · exact member
  · rw [outbox]
    split
    · exact List.getElem?_append_left (List.getElem?_eq_some_iff.mp found).1 ▸ found
    · exact found
  · rw [outbox] at member
    split at member
    · exact (List.mem_append.mp member).imp_right List.mem_singleton.mp
    · exact .inl member

/-! ### The creation of an order -/

section Creation

variable {intentId : String} {rest : Credit} {table : OrderTable}

theorem Tracked.saveOrderIntent {intent : OrderIntent} (tracked : Tracked world credit)
    (unseen : intent.intentId ∉ world.pipeline.intents.map OrderIntent.intentId) :
    Later world (world.saved intent) ∧
      Tracked (world.saved intent) (making intent.intentId 0 + credit) := by
  have ids : ∀ other, other ∈ (world.pipeline.intents ++ [intent]).map OrderIntent.intentId ↔
      other ∈ world.pipeline.intents.map OrderIntent.intentId ∨ other = intent.intentId := by
    intro other
    rw [List.map_append, List.mem_append, List.map_singleton, List.mem_singleton]
  have underway : ∀ other, Underway world other → Underway (world.saved intent) other := by
    intro other underway known
    rcases (ids other).mp known with before | rfl
    · exact (underway before).imp_right (Or.imp_left (List.mem_cons_of_mem _))
    · exact .inr (.inl List.mem_cons_self)
  obtain ⟨keeps, finds, held⟩ := outbox_added .oms
    ⟨.orderIntent intent, intent.createdAt, false⟩ (world.saved intent) fun _ => rfl
  refine ⟨⟨fun _ member => List.mem_append_left _ member,
    fun row member => ⟨row, member, .refl row⟩,
    fun store index row found => ⟨row, finds store index row found, rfl⟩, underway⟩, ?_⟩
  exact
    { creating := by
        show ((intent.intentId :: creations world : List String) : Multiset String) =
          Multiset.map Prod.fst ({(intent.intentId, 0)} + credit.1)
        rw [← Multiset.cons_coe, tracked.creating, Multiset.singleton_add, Multiset.map_cons]
      hand := by
        rw [making_snd]
        exact tracked.hand
      unique := Stored.nodup_map_concat tracked.unique unseen
      known := fun entry member => by
        rcases mem_making.mp member with rfl | before
        · exact (ids _).mpr (.inr rfl)
        · exact (ids _).mpr (.inl (tracked.known entry before))
      once := by
        show (Multiset.map Prod.fst ({(intent.intentId, 0)} + credit.1)).Nodup
        rw [Multiset.singleton_add, Multiset.map_cons, Multiset.nodup_cons]
        refine ⟨fun member => ?_, tracked.once⟩
        obtain ⟨entry, inside, named⟩ := Multiset.mem_map.mp member
        have same : entry.1 = intent.intentId := named
        exact unseen (same ▸ tracked.known entry inside)
      traced := fun row member => (ids _).mpr (.inl (tracked.traced row member))
      single := tracked.single
      inserted := fun other known => by
        rcases (ids other).mp known with before | rfl
        · exact (tracked.inserted other before).imp_left fun phase => mem_rest phase
        · exact .inl (mem_making.mpr (.inl rfl))
      saved := fun other phase row member => by
        rcases mem_making.mp phase with same | before
        · rw [(Prod.mk.inj same).1]
          exact fun named => unseen (named ▸ tracked.traced row member)
        · exact tracked.saved other before row member
      opened := fun other phase => tracked.opened other (mem_of_phase phase (by decide))
      published := fun other phase => tracked.published other (mem_of_phase phase (by decide))
      handled := fun envelope owned other about known => by
        rw [making_snd] at owned
        rcases (ids other).mp known with before | rfl
        · refine (tracked.handled envelope owned other about before).imp_right
            (Or.imp_left fun ⟨phase, early, member⟩ => ?_)
          exact ⟨phase, early, mem_rest member⟩
        · exact .inr (.inl ⟨0, by decide, mem_making.mpr (.inl rfl)⟩)
      reports := tracked.reports
      rows := fun store row member => by
        rcases held store row member with before | rfl
        · exact tracked.rows store row before
        · exact Option.some_ne_none _
      covered := fun other known => by
        rcases (ids other).mp known with before | rfl
        · exact (tracked.covered other before).imp
            (fun ⟨row, member, about⟩ => ⟨row, keeps _ row member, about⟩)
            (Or.imp (fun ⟨row, member, about⟩ => ⟨row, keeps _ row member, about⟩) (underway _))
        · refine .inl ⟨⟨.orderIntent intent, intent.createdAt, false⟩, ?_, rfl, rfl⟩
          exact List.mem_concat_self }

theorem Tracked.insert {order : BrokerOrder} (tracked : Tracked world (making intentId 0 + rest))
    (stored : world.pipeline.oms.saveBrokerOrderWithTransition order .created = .ok table)
    (isFresh : ∀ row ∈ world.pipeline.oms.rows, row.orderId ≠ order.orderId)
    (named : order.intentId = intentId) :
    Later world (withTable world table) ∧
      Tracked (withTable world table) (making intentId 1 + rest) := by
  have member := OrderTable.mem_save_of_fresh stored isFresh
  have done {other : String} (done : Done world other) : Done (withTable world table) other := by
    obtain ⟨row, inside, rest⟩ := done
    exact ⟨row, (member row).mpr (.inr inside), rest⟩
  have underway {other : String} (underway : Underway world other) :
      Underway (withTable world table) other := underway.mono rfl id id done
  have absent := tracked.saved intentId (mem_making.mpr (.inl rfl))
  refine ⟨⟨fun _ member => member, fun row inside => ⟨row, (member row).mpr (.inr inside),
    .refl row⟩, fun _ _ row found => ⟨row, found, rfl⟩, fun _ => underway⟩, ?_⟩
  exact
    { tracked with
      creating := tracked.creating.trans (making_names rest 1)
      known := tracked.known_making 1
      once := making_names rest 1 ▸ tracked.once
      traced := fun row inside => by
        rcases (member row).mp inside with rfl | before
        · show order.intentId ∈ _
          rw [named]
          exact tracked.knows
        · exact tracked.traced row before
      single := by
        refine OrderTable.nodup_save stored (fun _ _ => rfl) tracked.single (.inr ?_)
        rw [named]
        intro inside
        obtain ⟨row, inRows, same⟩ := List.mem_map.mp inside
        exact absent row inRows same
      inserted := fun other known => by
        rcases tracked.inserted other known with phase | ⟨row, inside, same⟩
        · rcases mem_making.mp phase with here | before
          · exact .inr ⟨_, (member _).mpr (.inl rfl), named.trans (Prod.mk.inj here).1.symm⟩
          · exact .inl (mem_rest before)
        · exact .inr ⟨row, (member row).mpr (.inr inside), same⟩
      saved := fun other phase row inside => by
        have before := mem_of_phase phase (by decide)
        rcases (member row).mp inside with rfl | old
        · show order.intentId ≠ other
          rw [named]
          exact fun same => tracked.others _ before same.symm
        · exact tracked.saved other (mem_rest before) row old
      opened := fun other phase row inside same => by
        rcases (member row).mp inside with rfl | old
        · rfl
        · rcases mem_making.mp phase with here | before
          · exact absurd (same.trans (Prod.mk.inj here).1) (absent row old)
          · exact tracked.opened other (mem_rest before) row old same
      published := fun other phase =>
        (tracked.published other (mem_rest (mem_of_phase phase (by decide)))).imp_right done
      handled := fun envelope owned => (tracked.handled envelope owned).mono rfl
        (fun _ queued => queued) fun other _ rest => .inr <| by
          rcases rest with ⟨phase, early, inside⟩ | finished
          · rcases mem_making.mp inside with here | before
            · refine .inl ⟨1, by decide, mem_making.mpr (.inl ?_)⟩
              rw [(Prod.mk.inj here).1]
            · exact .inl ⟨phase, early, mem_rest before⟩
          · exact .inr (done finished)
      reports := fun payload pending => by
        obtain ⟨row, inside, rest⟩ := tracked.reports payload pending
        exact ⟨row, (member row).mpr (.inr inside), rest⟩
      covered := fun other known =>
        (tracked.covered other known).imp_right (Or.imp_right underway) }

theorem Tracked.dispatch {old row : BrokerOrder}
    (tracked : Tracked world (making intentId 1 + rest)) (moves : Moves world table old row)
    (named : old.intentId = intentId) :
    Later world (withTable world table) ∧
      Tracked (withTable world table) (making intentId 2 + rest) := by
  have done {other : String} (different : other ≠ intentId) (done : Done world other) :
      Done (withTable world table) other :=
    moves.done (fun same => absurd (same.symm.trans named) different) done
  have underway {other : String} (underway : Underway world other) :
      Underway (withTable world table) other := by
    by_cases same : other = intentId
    · rw [same]
      exact fun _ => .inr (.inl tracked.creates)
    · exact underway.mono rfl id id (done same)
  refine ⟨⟨fun _ member => member, moves.rows, fun _ _ row found => ⟨row, found, rfl⟩,
    fun _ => underway⟩, ?_⟩
  exact
    { tracked with
      creating := tracked.creating.trans (making_names rest 2)
      known := tracked.known_making 2
      once := making_names rest 2 ▸ tracked.once
      traced := fun other member => by
        rcases moves.of_mem member with rfl | before
        · rw [moves.advanced.intentId]
          exact tracked.traced old moves.before
        · exact tracked.traced other before
      single := moves.single tracked.single
      inserted := fun other known => by
        rcases tracked.inserted other known with phase | ⟨row, member, same⟩
        · exact .inl (mem_rest (mem_of_phase phase (by decide)))
        · obtain ⟨after, inside, advanced⟩ := moves.rows row member
          exact .inr ⟨after, inside, advanced.intentId.trans same⟩
      saved := fun other phase row inside => by
        have absent := tracked.saved other (mem_rest (mem_of_phase phase (by decide)))
        rcases moves.of_mem inside with rfl | kept
        · rw [moves.advanced.intentId]
          exact absent old moves.before
        · exact absent row kept
      opened := fun other phase row inside same => by
        have before := mem_of_phase phase (by decide)
        rcases moves.of_mem inside with rfl | kept
        · exact absurd (same.symm.trans (moves.advanced.intentId.trans named))
            (tracked.others _ before)
        · exact tracked.opened other (mem_rest before) row kept same
      published := fun other phase =>
        have before := mem_of_phase phase (by decide)
        (tracked.published other (mem_rest before)).imp_right (done (tracked.others _ before))
      handled := fun envelope owned => (tracked.handled envelope owned).mono rfl
        (fun _ queued => queued) fun other _ rest => .inr <| by
          by_cases same : other = intentId
          · exact .inl ⟨2, le_refl _, mem_making.mpr (.inl (by rw [same]))⟩
          · rcases rest with ⟨phase, early, inside⟩ | finished
            · rcases mem_making.mp inside with here | before
              · exact absurd (Prod.mk.inj here).1 same
              · exact .inl ⟨phase, early, mem_rest before⟩
            · exact .inr (done same finished)
      reports := fun payload pending => moves.past (tracked.reports payload pending)
      covered := fun other known =>
        (tracked.covered other known).imp_right (Or.imp_right underway) }

theorem Tracked.publish {envelope : Envelope} (tracked : Tracked world (making intentId 2 + rest))
    (queued : envelope ∈ world.pipeline.queue) (about : carried envelope = some intentId) :
    Tracked world (making intentId 3 + rest) where
  creating := tracked.creating.trans (making_names rest 3)
  hand := tracked.hand
  unique := tracked.unique
  known := tracked.known_making 3
  once := making_names rest 3 ▸ tracked.once
  traced := tracked.traced
  single := tracked.single
  inserted other known :=
    (tracked.inserted other known).imp_left fun phase => mem_rest (mem_of_phase phase (by decide))
  saved other phase := tracked.saved other (mem_rest (mem_of_phase phase (by decide)))
  opened other phase := tracked.opened other (mem_rest (mem_of_phase phase (by decide)))
  published other phase := by
    rcases mem_making.mp phase with here | before
    · rw [(Prod.mk.inj here).1]
      exact .inl ⟨envelope, List.mem_append_right _ queued, about⟩
    · exact tracked.published other (mem_rest before)
  handled other owned := (tracked.handled other owned).mono rfl (fun _ queued => queued)
    fun named _ rest => by
      rcases rest with ⟨phase, early, inside⟩ | finished
      · rcases mem_making.mp inside with here | before
        · rw [(Prod.mk.inj here).1]
          exact .inl ⟨envelope, queued, about⟩
        · exact .inr (.inl ⟨phase, early, mem_rest before⟩)
      · exact .inr (.inr finished)
  reports := tracked.reports
  rows := tracked.rows
  covered := tracked.covered

theorem mem_running_of_mem_creations (creating : intentId ∈ creations world) :
    (.creation intentId, 0) ∈ world.running := by
  obtain ⟨entry, member, named⟩ := List.mem_filterMap.mp creating
  unfold creationOf at named
  split at named
  · cases named
    exact member
  · cases named

theorem Tracked.finish (tracked : Tracked world (making intentId 3 + rest)) :
    Later world { world with running := world.running.erase (.creation intentId, 0) } ∧
      Tracked { world with running := world.running.erase (.creation intentId, 0) } rest := by
  have left : (creations world).Perm (intentId ::
      creations { world with running := world.running.erase (.creation intentId, 0) }) :=
    (List.perm_cons_erase (mem_running_of_mem_creations tracked.creates)).filterMap _
  have underway {other : String} (underway : Underway world other) :
      Underway { world with running := world.running.erase (.creation intentId, 0) } other := by
    intro known
    rcases underway known with onBus | creating | done
    · exact .inl onBus
    · rcases List.mem_cons.mp (left.mem_iff.mp creating) with rfl | still
      · exact (tracked.published other (mem_making.mpr (.inl rfl))).imp_right .inr
      · exact .inr (.inl still)
    · exact .inr (.inr done)
  refine ⟨⟨fun _ member => member, fun row member => ⟨row, member, .refl row⟩,
    fun _ _ row found => ⟨row, found, rfl⟩, fun _ => underway⟩, ?_⟩
  exact
    { tracked with
      creating := by
        have all : ((creations world : List String) : Multiset String) =
          Multiset.map Prod.fst ({(intentId, 3)} + rest.1) := tracked.creating
        rw [Multiset.coe_eq_coe.mpr left, ← Multiset.cons_coe, Multiset.singleton_add,
          Multiset.map_cons] at all
        exact (Multiset.cons_inj_right _).mp all
      hand := making_snd rest ▸ tracked.hand
      known := fun entry inside => tracked.known entry (mem_rest inside)
      once := by
        have once : (Multiset.map Prod.fst ({(intentId, 3)} + rest.1)).Nodup := tracked.once
        rw [Multiset.singleton_add, Multiset.map_cons, Multiset.nodup_cons] at once
        exact once.2
      inserted := fun other known =>
        (tracked.inserted other known).imp_left fun phase => mem_of_phase phase (by decide)
      saved := fun other phase => tracked.saved other (mem_rest phase)
      opened := fun other phase => tracked.opened other (mem_rest phase)
      published := fun other phase => tracked.published other (mem_rest phase)
      handled := fun envelope owned => (tracked.handled envelope
        (making_snd rest ▸ owned)).mono rfl (fun _ queued => queued)
        fun other _ rest => .inr <| rest.imp_left fun ⟨phase, early, inside⟩ => by
          rcases mem_making.mp inside with here | before
          · rw [(Prod.mk.inj here).2] at early
            exact absurd early (by decide)
          · exact ⟨phase, early, before⟩
      covered := fun other known =>
        (tracked.covered other known).imp_right (Or.imp_right underway) }

end Creation

/-! ### The dispatcher -/

section Dispatcher

variable {rest : Credit} {envelope : Envelope}

theorem Tracked.taskDone (tracked : Tracked world (handling envelope true + rest)) :
    Later world { world with pipeline := { world.pipeline with inHand := none } } ∧
      Tracked { world with pipeline := { world.pipeline with inHand := none } } rest := by
  obtain ⟨held, alone⟩ := tracked.inHand
  have pending : ∀ other ∈ world.pipeline.pending,
      other = envelope ∨ other ∈ world.pipeline.queue := by
    intro other member
    rw [Pipeline.pending, held] at member
    exact List.mem_cons.mp member
  have settled : Settled world rest.1 envelope := by
    have owned : (envelope, true) ∈ ({(envelope, true)} + rest.2 : Multiset (Envelope × Bool)) := by
      rw [alone, add_zero]
      exact Multiset.mem_singleton.mpr rfl
    exact handling_fst rest ▸ tracked.handled envelope owned
  have forgotten {intentId : String}
      (known : intentId ∈ world.pipeline.intents.map OrderIntent.intentId)
      (onBus : OnBus world intentId) :
      OnBus { world with pipeline := { world.pipeline with inHand := none } } intentId ∨
        (∃ phase ≤ 2, (intentId, phase) ∈ rest.1) ∨ Done world intentId := by
    obtain ⟨other, member, about⟩ := onBus
    rcases pending other member with rfl | queued
    · exact (settled intentId about known).imp_left fun ⟨next, inQueue, same⟩ =>
        ⟨next, inQueue, same⟩
    · exact .inl ⟨other, queued, about⟩
  have creates {intentId : String} {phase : Nat} (owned : (intentId, phase) ∈ rest.1) :
      intentId ∈ creations world := by
    rw [← Multiset.mem_coe, tracked.creating, handling_fst]
    exact Multiset.mem_map.mpr ⟨_, owned, rfl⟩
  have underway {intentId : String} (underway : Underway world intentId) :
      Underway { world with pipeline := { world.pipeline with inHand := none } } intentId := by
    intro known
    rcases underway known with onBus | creating | done
    · exact (forgotten known onBus).imp_right (Or.imp_left fun ⟨_, _, owned⟩ => creates owned)
    · exact .inr (.inl creating)
    · exact .inr (.inr done)
  refine ⟨⟨fun _ member => member, fun row member => ⟨row, member, .refl row⟩,
    fun _ _ row found => ⟨row, found, rfl⟩, fun _ => underway⟩, ?_⟩
  exact
    { tracked with
      creating := handling_fst rest ▸ tracked.creating
      hand := by rw [alone]; rfl
      known := handling_fst rest ▸ tracked.known
      once := handling_fst rest ▸ tracked.once
      inserted := handling_fst rest ▸ tracked.inserted
      saved := handling_fst rest ▸ tracked.saved
      opened := handling_fst rest ▸ tracked.opened
      published := fun intentId phase => by
        have owned : (intentId, 3) ∈ (handling envelope true + rest).1 := by
          rw [handling_fst]
          exact phase
        have knows := tracked.known (intentId, 3) owned
        rcases tracked.published intentId owned with onBus | done
        · rcases forgotten knows onBus with still | ⟨other, early, coming⟩ | done
          · exact .inl still
          · have once := handling_fst rest ▸ tracked.once
            have same := Multiset.inj_on_of_nodup_map once _ phase _ coming rfl
            rw [← (Prod.mk.inj same).2] at early
            exact absurd early (by decide)
          · exact .inr done
        · exact .inr done
      handled := fun other owned => by
        rw [alone] at owned
        exact absurd owned (Multiset.notMem_zero _)
      reports := fun payload member => tracked.reports payload (List.mem_append_right _ member)
      covered := fun other known =>
        (tracked.covered other known).imp_right (Or.imp_right underway) }

theorem Tracked.take {queue : List Envelope} (tracked : Tracked world credit)
    (idle : world.pipeline.inHand = none) (queued : world.pipeline.queue = envelope :: queue) :
    Later world { world with
        pipeline := { world.pipeline with queue := queue, inHand := some envelope } } ∧
      Tracked { world with
        pipeline := { world.pipeline with queue := queue, inHand := some envelope } }
        (handling envelope (carried envelope).isNone + credit) := by
  have nothing : credit.2 = 0 := by
    have hand := tracked.hand
    rw [idle, unique_none] at hand
    exact Multiset.map_eq_zero.mp hand
  have same : ({ world.pipeline with queue := queue, inHand := some envelope } :
      Pipeline).pending = world.pipeline.pending := by
    show [envelope] ++ queue = world.pipeline.pending
    rw [Pipeline.pending, idle, queued]
    rfl
  have onBus {intentId : String} (onBus : OnBus world intentId) : OnBus { world with
      pipeline := { world.pipeline with queue := queue, inHand := some envelope } } intentId := by
    obtain ⟨other, member, about⟩ := onBus
    exact ⟨other, same ▸ member, about⟩
  have underway {intentId : String} (underway : Underway world intentId) : Underway { world with
      pipeline := { world.pipeline with queue := queue, inHand := some envelope } } intentId :=
    underway.mono rfl onBus id id
  refine ⟨⟨fun _ member => member, fun row member => ⟨row, member, .refl row⟩,
    fun _ _ row found => ⟨row, found, rfl⟩, fun _ => underway⟩, ?_⟩
  exact
    { tracked with
      creating := handling_fst credit ▸ tracked.creating
      hand := by
        show Multiset.map Prod.fst ({(envelope, (carried envelope).isNone)} + credit.2) = _
        rw [nothing]
        rfl
      known := handling_fst credit ▸ tracked.known
      once := handling_fst credit ▸ tracked.once
      inserted := handling_fst credit ▸ tracked.inserted
      saved := handling_fst credit ▸ tracked.saved
      opened := handling_fst credit ▸ tracked.opened
      published := fun intentId phase => (tracked.published intentId
        (handling_fst credit ▸ phase)).imp_left onBus
      handled := fun other owned intentId about => by
        have cases : (other, true) ∈ ({(envelope, (carried envelope).isNone)} + credit.2 :
            Multiset (Envelope × Bool)) := owned
        rw [nothing, add_zero, Multiset.mem_singleton] at cases
        obtain ⟨rfl, light⟩ := Prod.mk.inj cases
        rw [about] at light
        exact Bool.noConfusion light
      reports := fun payload member => tracked.reports payload (same ▸ member)
      covered := fun other known =>
        (tracked.covered other known).imp_right (Or.imp_right underway) }

end Dispatcher

/-! ### The outboxes -/

theorem getElem?_modify_published {rows : List OutboxRow} {index place : Nat} {row : OutboxRow}
    (found : (rows.modify index fun row => { row with published := true })[place]? = some row) :
    ∃ old, rows[place]? = some old ∧ old.envelope = row.envelope ∧
      (index ≠ place → old = row) := by
  rw [List.getElem?_modify] at found
  obtain ⟨old, inside, rfl⟩ := Option.map_eq_some_iff.mp found
  refine ⟨old, inside, ?_, fun different => ?_⟩
  · split <;> rfl
  · rw [if_neg different]

theorem Tracked.markPublished {store : Store} {index : Nat} {row : OutboxRow}
    (tracked : Tracked world credit) (found : (world.outbox store)[index]? = some row)
    (underway : ∀ intentId, carried row.envelope = some intentId → Underway world intentId) :
    Later world (world.markOutboxEventPublished store index) ∧
      Tracked (world.markOutboxEventPublished store index) credit := by
  have outbox (other : Store) : (world.markOutboxEventPublished store index).outbox other =
      if other = store then
        (world.outbox other).modify index fun row => { row with published := true }
      else world.outbox other := rfl
  have stored {other : Store} {intentId : String} (stored : Stored world other intentId) :
      Stored (world.markOutboxEventPublished store index) other intentId ∨
        carried row.envelope = some intentId := by
    obtain ⟨old, member, unpublished, about⟩ := stored
    by_cases same : other = store
    · subst same
      obtain ⟨place, here⟩ := List.mem_iff_getElem?.mp member
      by_cases marked : index = place
      · subst marked
        rw [found] at here
        rw [Option.some.inj here]
        exact .inr about
      · refine .inl ⟨old, ?_, unpublished, about⟩
        rw [outbox, if_pos rfl]
        refine List.mem_of_getElem? (i := place) ?_
        rw [List.getElem?_modify, here]
        exact congrArg some (if_neg marked)
    · refine .inl ⟨old, ?_, unpublished, about⟩
      rw [outbox, if_neg same]
      exact member
  refine ⟨⟨fun _ member => member, fun row member => ⟨row, member, .refl row⟩,
    fun other place old here => ?_, fun _ underway => underway⟩, ?_⟩
  · rw [outbox]
    split
    · rw [List.getElem?_modify, here]
      exact ⟨_, rfl, by split <;> rfl⟩
    · exact ⟨old, here, rfl⟩
  exact
    { tracked with
      rows := fun other old member => by
        rw [outbox] at member
        split at member
        · obtain ⟨place, here⟩ := List.mem_iff_getElem?.mp member
          obtain ⟨before, inside, same, -⟩ := getElem?_modify_published here
          rw [← same]
          exact tracked.rows other before (List.mem_of_getElem? inside)
        · exact tracked.rows other old member
      covered := fun intentId known => by
        rcases tracked.covered intentId known with inOms | inRisk | onWay
        · exact (stored inOms).imp_right fun about => .inr (underway intentId about)
        · rcases stored inRisk with still | about
          · exact .inr (.inl still)
          · exact .inr (.inr (underway intentId about))
        · exact .inr (.inr onWay) }

theorem Tracked.recordDecision (tracked : Tracked world credit) (decision : Decision) :
    Later world (world.recordDecision decision) ∧
      Tracked (world.recordDecision decision) credit := by
  obtain ⟨keeps, finds, held⟩ := outbox_added .risk
    ⟨.riskDecision decision.payload, 0, false⟩ (world.recordDecision decision) fun _ => rfl
  refine ⟨⟨fun _ member => member, fun row member => ⟨row, member, .refl row⟩,
    fun store index row found => ⟨row, finds store index row found, rfl⟩,
    fun _ underway => underway⟩, ?_⟩
  exact
    { tracked with
      rows := fun store row member => by
        rcases held store row member with before | rfl
        · exact tracked.rows store row before
        · exact Option.some_ne_none _
      covered := fun intentId known =>
        (tracked.covered intentId known).imp
          (fun ⟨row, member, about⟩ => ⟨row, keeps _ row member, about⟩)
          (Or.imp_left fun ⟨row, member, about⟩ => ⟨row, keeps _ row member, about⟩) }

/-! ### At rest, and after a crash -/

/-- Nothing is left to do: every row of an outbox is published, no event about an intent is on the
bus, and no order is being created. -/
structure Drained (world : Platform) : Prop where
  outbox : ∀ store, ∀ row ∈ world.outbox store, row.published = true
  bus : ∀ intentId, ¬ OnBus world intentId
  creations : creations world = []

/-- Where nothing is on the bus or in creation, an order in VALIDATING has a row that is not
published. -/
theorem Tracked.stored (tracked : Tracked world credit) (bus : ∀ intentId, ¬ OnBus world intentId)
    (idle : creations world = []) {row : BrokerOrder} (member : row ∈ world.pipeline.oms.rows)
    (validating : row.status = .validating) :
    Stored world .oms row.intentId ∨ Stored world .risk row.intentId := by
  have known := tracked.traced row member
  rcases tracked.covered row.intentId known with inOms | inRisk | underway
  · exact .inl inOms
  · exact .inr inRisk
  · rcases underway known with onBus | creating | ⟨other, inside, named, gone⟩
    · exact absurd onBus (bus _)
    · rw [idle] at creating
      exact absurd creating List.not_mem_nil
    · rw [Stored.eq_of_mem tracked.single inside member named] at gone
      exact absurd validating gone

theorem Tracked.left (tracked : Tracked world credit) (drained : Drained world) :
    ∀ row ∈ world.pipeline.oms.rows, row.status ≠ .validating := by
  intro row member validating
  rcases tracked.stored drained.bus drained.creations member validating with
    ⟨other, inside, unpublished, -⟩ | ⟨other, inside, unpublished, -⟩
  · exact Bool.noConfusion (unpublished.symm.trans (drained.outbox _ other inside))
  · exact Bool.noConfusion (unpublished.symm.trans (drained.outbox _ other inside))

theorem survives_iff : survives world = true ↔
    (∀ intentId ∈ creations world, ∃ row ∈ world.pipeline.oms.rows, row.intentId = intentId) ∧
      ∀ row ∈ world.pipeline.oms.rows, row.status = .validating →
        row.intentId ∈ creations world ∨ OnBus world row.intentId →
        Stored world .oms row.intentId ∨ Stored world .risk row.intentId := by
  unfold survives
  simp only [Bool.and_eq_true, List.all_eq_true, decide_eq_true_eq]

theorem Tracked.restart (tracked : Tracked world credit) (survived : survives world = true) :
    Tracked world.restart 0 := by
  obtain ⟨hasRow, hasStored⟩ := survives_iff.mp survived
  have inserted : ∀ intentId ∈ world.pipeline.intents.map OrderIntent.intentId,
      ∃ row ∈ world.pipeline.oms.rows, row.intentId = intentId := by
    intro intentId known
    rcases tracked.inserted intentId known with phase | found
    · refine hasRow intentId ?_
      rw [← Multiset.mem_coe, tracked.creating]
      exact Multiset.mem_map.mpr ⟨_, phase, rfl⟩
    · exact found
  exact
    { tracked with
      creating := rfl
      hand := rfl
      known := fun _ owned => absurd owned (Multiset.notMem_zero _)
      once := Multiset.nodup_zero
      inserted := fun intentId known => .inr (inserted intentId known)
      saved := fun _ owned => absurd owned (Multiset.notMem_zero _)
      opened := fun _ owned => absurd owned (Multiset.notMem_zero _)
      published := fun _ owned => absurd owned (Multiset.notMem_zero _)
      handled := fun _ owned => absurd owned (Multiset.notMem_zero _)
      reports := fun _ member => absurd member List.not_mem_nil
      covered := fun intentId known => by
        rcases tracked.covered intentId known with inOms | inRisk | underway
        · exact .inl inOms
        · exact .inr (.inl inRisk)
        · obtain ⟨row, member, rfl⟩ := inserted intentId known
          by_cases validating : row.status = .validating
          · rcases underway known with onBus | creating | ⟨other, inside, named, gone⟩
            · exact (hasStored row member validating (.inr onBus)).imp id .inl
            · exact (hasStored row member validating (.inl creating)).imp id .inl
            · rw [Stored.eq_of_mem tracked.single inside member named] at gone
              exact absurd validating gone
          · exact .inr (.inr fun _ => .inr (.inr ⟨row, member, rfl, validating⟩)) }

theorem Tracked.durable_iff (tracked : Tracked world credit) :
    Durable world.restart ↔ survives world = true := by
  constructor
  · intro durable
    refine survives_iff.mpr ⟨fun intentId creating => ?_, fun row member validating _ =>
      durable.covered row member validating⟩
    rw [← Multiset.mem_coe, tracked.creating] at creating
    obtain ⟨entry, owned, rfl⟩ := Multiset.mem_map.mp creating
    obtain ⟨intent, inIntents, named⟩ := List.mem_map.mp (tracked.known entry owned)
    have one := durable.one intent inIntents
    obtain ⟨row, listed⟩ := List.length_eq_one_iff.mp one
    have member : row ∈ world.restart.pipeline.oms.rows.filter
        fun row => decide (row.intentId = intent.intentId) := by
      rw [listed]
      exact List.mem_singleton.mpr rfl
    obtain ⟨inside, same⟩ := List.mem_filter.mp member
    exact ⟨row, inside, (of_decide_eq_true same).trans named⟩
  · intro survived
    have after := tracked.restart survived
    refine ⟨fun intent member => ?_, fun row member validating =>
      after.stored (fun _ ⟨_, onBus, _⟩ => absurd onBus List.not_mem_nil) rfl member validating⟩
    have known : intent.intentId ∈ world.restart.pipeline.intents.map OrderIntent.intentId :=
      List.mem_map.mpr ⟨intent, member, rfl⟩
    rcases after.inserted _ known with phase | ⟨row, inside, named⟩
    · exact absurd phase (Multiset.notMem_zero _)
    · have counted := List.count_eq_one_of_mem after.single
        (List.mem_map.mpr ⟨row, inside, named⟩)
      rw [List.count, List.countP_map, List.countP_eq_length_filter] at counted
      rw [← counted]
      refine congrArg List.length (List.filter_congr fun other _ => ?_)
      exact (beq_eq_decide _ _).symm

theorem tracked_initial : Tracked .initial 0 where
  creating := rfl
  hand := rfl
  unique := List.nodup_nil
  known _ owned := absurd owned (Multiset.notMem_zero _)
  once := Multiset.nodup_zero
  traced _ member := absurd member List.not_mem_nil
  single := List.nodup_nil
  inserted _ member := absurd member List.not_mem_nil
  saved _ owned := absurd owned (Multiset.notMem_zero _)
  opened _ owned := absurd owned (Multiset.notMem_zero _)
  published _ owned := absurd owned (Multiset.notMem_zero _)
  handled _ owned := absurd owned (Multiset.notMem_zero _)
  reports _ member := absurd member List.not_mem_nil
  rows _ _ member := absurd member List.not_mem_nil
  covered _ member := absurd member List.not_mem_nil

/-! ### Other work -/

theorem frame_finish {job : Job} {epoch : Nat} (other : creationOf (job, epoch) = none) :
    Frame world { world with running := world.running.erase (job, epoch) } := by
  refine frame_of_eq rfl rfl rfl rfl rfl ?_
  show (world.running.erase (job, epoch)).filterMap creationOf = world.running.filterMap creationOf
  induction world.running with
  | nil => rfl
  | cons entry rest inductionHypothesis =>
    by_cases same : entry = (job, epoch)
    · rw [same, List.erase_cons_head, List.filterMap_cons_none other]
    · rw [List.erase_cons_tail (by simpa using same), List.filterMap_cons, List.filterMap_cons,
        inductionHypothesis]

theorem frame_beginWork {job : Job} (other : creationOf (job, world.epoch) = none) :
    Frame world (world.beginWork job) := by
  refine frame_of_eq rfl rfl rfl rfl rfl ?_
  show ((job, world.epoch) :: world.running).filterMap creationOf = _
  rw [List.filterMap_cons_none other]
  rfl

end

end Outbox

end BreezeTrading
