/-
This file proves when a kill switch stops new exposure. The mode is read once, at the evaluation
of an intent, and never on the way to the broker. Where nothing that opens exposure is approved or
being worked on at the switch, no order that is not reduce-only reaches the broker until the mode
is normal again.
-/

import BreezeTrading.Platform.Steps

namespace BreezeTrading

open Async

namespace KillSwitch

open Platform

/-! ### At the switch -/

/-- An order in this state is past the execution of its approval. -/
def past (status : OrderState) : Bool :=
  decide (status ∉ [OrderState.created, .validating, .approved])

/-- An intent that is not reduce-only has been approved. -/
def EntryApproved (world : Platform) (intentId : String) : Prop :=
  (∃ decision ∈ world.decisions, decision.approved = true ∧ decision.intentId = intentId) ∧
    ∃ intent ∈ world.pipeline.intents, intent.intentId = intentId ∧ intent.reduceOnly = false

instance (world : Platform) (intentId : String) : Decidable (EntryApproved world intentId) :=
  inferInstanceAs (Decidable (_ ∧ _))

/-- The order under this id is reduce-only. -/
def Exits (world : Platform) (orderId : String) : Prop :=
  ∃ row ∈ world.pipeline.oms.rows, row.orderId = orderId ∧ row.reduceOnly = true

instance (world : Platform) (orderId : String) : Decidable (Exits world orderId) :=
  inferInstanceAs (Decidable (∃ row ∈ world.pipeline.oms.rows, _))

/-- A piece of work that is about a reduce-only order, or about none. -/
def Harmless (world : Platform) : Job → Prop
  | .creation _ => True
  | .handling (.orderIntent intent) => intent.reduceOnly = true
  | .handling (.riskDecision payload) =>
      ∃ intent ∈ world.pipeline.intents, intent.intentId = payload.intentId ∧
        intent.reduceOnly = true
  | .handling (.executionCommand payload) => Exits world payload.orderId
  | .handling (.brokerOrderEvent payload) =>
      ∃ row ∈ world.pipeline.oms.rows, row.clientOrderId = payload.clientOrderId ∧
        row.reduceOnly = true
  | .handling _ => True
  | .recovery => False
  | .execution orderId => Exits world orderId

instance (world : Platform) (job : Job) : Decidable (Harmless world job) := by
  cases job with
  | creation intentId => exact instDecidableTrue
  | handling envelope =>
    cases envelope with
    | orderIntent intent => exact inferInstanceAs (Decidable (_ = _))
    | riskDecision payload =>
      exact inferInstanceAs (Decidable (∃ intent ∈ world.pipeline.intents, _))
    | executionCommand payload => exact inferInstanceAs (Decidable (Exits world _))
    | brokerOrderEvent payload =>
      exact inferInstanceAs (Decidable (∃ row ∈ world.pipeline.oms.rows, _))
    | brokerTradeEvent payload => exact instDecidableTrue
    | portfolioPosition position => exact instDecidableTrue
    | portfolioPnl snapshot => exact instDecidableTrue
  | recovery => exact instDecidableFalse
  | execution orderId => exact inferInstanceAs (Decidable (Exits world _))

/-- No order that is not reduce-only is APPROVED, no intent that is not reduce-only and has been
approved has an order that is still CREATED or VALIDATING or whose creation is under way. -/
structure Quiet (world : Platform) : Prop where
  unapproved : ∀ row ∈ world.pipeline.oms.rows, row.reduceOnly = false → row.status ≠ .approved
  executed : ∀ row ∈ world.pipeline.oms.rows, EntryApproved world row.intentId →
    past row.status = true
  created : ∀ entry ∈ world.running, ∀ intentId, entry.1 = .creation intentId →
    ¬ EntryApproved world intentId

/-- What `Quiet` says of one piece of work, to be computed. -/
def createdQuietly (world : Platform) : Job → Bool
  | .creation intentId => decide (¬ EntryApproved world intentId)
  | _ => true

/-- At the switch, nothing that opens exposure is approved or being worked on. -/
def atRest (world : Platform) : Bool :=
  decide (∀ row ∈ world.pipeline.oms.rows, row.reduceOnly = false → row.status ≠ .approved) &&
    decide (∀ row ∈ world.pipeline.oms.rows, EntryApproved world row.intentId →
      past row.status = true) &&
    world.running.all fun entry =>
      createdQuietly world entry.1 && decide (Harmless world entry.1)

/-- Each switch out of the normal mode is made at rest. -/
def switchesAtRest : PlatformCondition where
  answer world op choice :=
    match op, choice with
    | .setSystemMode mode, .ok => blocks world.mode || !blocks mode || atRest world
    | _, _ => true

/-! ### What every run keeps -/

/-- A row of an order, whose state may have changed. -/
structure SameOrder (row other : BrokerOrder) : Prop where
  orderId : other.orderId = row.orderId
  clientOrderId : other.clientOrderId = row.clientOrderId
  intentId : other.intentId = row.intentId
  reduceOnly : other.reduceOnly = row.reduceOnly

/-- What no step undoes. Within an epoch the entries are blocked first and then, perhaps,
permitted: where they are blocked, they were, and none was approved since. -/
structure Later (seen world : Platform) : Prop where
  intents : ∀ intent ∈ seen.pipeline.intents, intent ∈ world.pipeline.intents
  decisions : ∀ decision ∈ seen.decisions, decision ∈ world.decisions
  rows : ∀ row ∈ seen.pipeline.oms.rows, ∃ other ∈ world.pipeline.oms.rows, SameOrder row other
  epoch : seen.epoch ≤ world.epoch
  blocked : seen.epoch = world.epoch → blocks world.mode = true →
    blocks seen.mode = true ∧ ∀ intentId, EntryApproved world intentId →
      EntryApproved seen intentId

theorem SameOrder.refl (row : BrokerOrder) : SameOrder row row := ⟨rfl, rfl, rfl, rfl⟩

theorem SameOrder.trans {first second third : BrokerOrder} (left : SameOrder first second)
    (right : SameOrder second third) : SameOrder first third :=
  ⟨right.orderId.trans left.orderId, right.clientOrderId.trans left.clientOrderId,
    right.intentId.trans left.intentId, right.reduceOnly.trans left.reduceOnly⟩

theorem Later.refl (world : Platform) : Later world world where
  intents _ member := member
  decisions _ member := member
  rows row member := ⟨row, member, .refl row⟩
  epoch := le_refl _
  blocked _ blocked := ⟨blocked, fun _ approved => approved⟩

theorem Later.trans {first second third : Platform} (left : Later first second)
    (right : Later second third) : Later first third where
  intents intent member := right.intents intent (left.intents intent member)
  decisions decision member := right.decisions decision (left.decisions decision member)
  rows row member := by
    obtain ⟨other, inSecond, same⟩ := left.rows row member
    obtain ⟨last, inThird, sameToo⟩ := right.rows other inSecond
    exact ⟨last, inThird, same.trans sameToo⟩
  epoch := left.epoch.trans right.epoch
  blocked sameEpoch blockedNow := by
    have middle : first.epoch = second.epoch :=
      le_antisymm left.epoch (sameEpoch ▸ right.epoch)
    have rest : second.epoch = third.epoch := middle.symm.trans sameEpoch
    obtain ⟨blockedThen, approvedThen⟩ := right.blocked rest blockedNow
    obtain ⟨blockedFirst, approvedFirst⟩ := left.blocked middle blockedThen
    exact ⟨blockedFirst, fun intentId approved =>
      approvedFirst intentId (approvedThen intentId approved)⟩

/-- What an event refers to is on record. -/
def Known (world : Platform) : Envelope → Prop
  | .orderIntent intent => intent ∈ world.pipeline.intents
  | .riskDecision payload => payload.approved = true →
      ∃ decision ∈ world.decisions, decision.approved = true ∧
        decision.intentId = payload.intentId
  | _ => True

theorem known_of_light {clients : String → Prop} {world : Platform} {envelope : Envelope}
    (light : Light clients envelope) :
    Known world envelope := by
  cases envelope <;> first | exact absurd light id | trivial

theorem Known.later {seen world : Platform} {envelope : Envelope} (known : Known seen envelope)
    (late : Later seen world) : Known world envelope := by
  cases envelope with
  | orderIntent intent => exact late.intents intent known
  | riskDecision payload =>
    intro approved
    obtain ⟨decision, member, rest⟩ := known approved
    exact ⟨decision, late.decisions decision member, rest⟩
  | _ => trivial

/-- Orders, decisions and events all trace back to intents on record, under unique ids. -/
structure Linked (world : Platform) : Prop where
  unique : (world.pipeline.intents.map OrderIntent.intentId).Nodup
  rows : ∀ row ∈ world.pipeline.oms.rows, ∃ intent ∈ world.pipeline.intents,
    intent.intentId = row.intentId ∧ intent.reduceOnly = row.reduceOnly
  decisions : ∀ decision ∈ world.decisions, ∃ intent ∈ world.pipeline.intents,
    intent.intentId = decision.intentId
  pending : ∀ envelope ∈ world.pipeline.pending, Known world envelope
  stored : ∀ store, ∀ row ∈ world.outbox store, Known world row.envelope

/-- No entry is approved where entries are blocked, and no call of the broker was made for one
where they were. -/
structure Guarded (world : Platform) (credit : Multiset (Job × Nat)) : Prop where
  running : (world.running : Multiset (Job × Nat)) = credit
  linked : Linked world
  quiet : blocks world.mode = true → Quiet world
  begun : blocks world.mode = true → ∀ entry ∈ world.running,
    Harmless world entry.1 ∨ entry.2 = world.epoch
  placed : ∀ placement ∈ world.placements, blocks placement.2 = true →
    ∃ row ∈ world.pipeline.oms.rows, row.clientOrderId = placement.1.clientOrderId ∧
      row.reduceOnly = true

/-- A task owns the pieces of work it has under way. -/
def discipline : Discipline Platform (Multiset (Job × Nat)) where
  later := Later
  refl := Later.refl
  trans := Later.trans
  holds := Guarded

/-! ### Steps that leave orders and approvals alone -/

/-- Everything but the events on the bus and in the outboxes is as it was, and those are on
record. -/
structure Frame (world next : Platform) : Prop where
  oms : next.pipeline.oms = world.pipeline.oms
  intents : next.pipeline.intents = world.pipeline.intents
  mode : next.mode = world.mode
  decisions : next.decisions = world.decisions
  running : next.running = world.running
  epoch : next.epoch = world.epoch
  placements : next.placements = world.placements
  pending : ∀ envelope ∈ next.pipeline.pending, Known world envelope
  stored : ∀ store, ∀ row ∈ next.outbox store, Known world row.envelope

section

variable {world next : Platform} {credit : Multiset (Job × Nat)}

section

variable (intents : next.pipeline.intents = world.pipeline.intents)
  (decisions : next.decisions = world.decisions)

include intents decisions

theorem entryApproved_congr (intentId : String) :
    EntryApproved next intentId ↔ EntryApproved world intentId := by
  unfold EntryApproved
  rw [intents, decisions]

theorem later_of_eq (mode : next.mode = world.mode) (epoch : next.epoch = world.epoch)
    (rows : ∀ row ∈ world.pipeline.oms.rows, ∃ other ∈ next.pipeline.oms.rows, SameOrder row other)
    : Later world next where
  intents intent member := by rwa [intents]
  decisions decision member := by rwa [decisions]
  rows := rows
  epoch := epoch.symm.le
  blocked _ blocked :=
    ⟨mode ▸ blocked, fun intentId approved => (entryApproved_congr intents decisions _).mp approved⟩

end

theorem Frame.later (frame : Frame world next) : Later world next :=
  later_of_eq frame.intents frame.decisions frame.mode frame.epoch fun row member =>
    ⟨row, by rwa [frame.oms], .refl row⟩

variable {job : Job} {envelope : Envelope} {table : OrderTable} {row order : BrokerOrder}
  {intent : OrderIntent} {decision : Decision} {rest : Multiset (Job × Nat)} {orderId : String}
  {latest : Platform} {service : ExecutionService}

variable {seen : Platform} {epoch : Nat}

theorem Harmless.later (harmless : Harmless seen job) (late : Later seen world) :
    Harmless world job := by
  have exits {orderId : String} (exits : Exits seen orderId) : Exits world orderId := by
    obtain ⟨row, member, rfl, reduces⟩ := exits
    obtain ⟨other, inside, same⟩ := late.rows row member
    exact ⟨other, inside, same.orderId, same.reduceOnly.trans reduces⟩
  cases job with
  | creation | recovery => exact harmless
  | handling envelope =>
    cases envelope with
    | orderIntent | brokerTradeEvent | portfolioPosition | portfolioPnl => exact harmless
    | riskDecision payload =>
      obtain ⟨intent, member, rest⟩ := harmless
      exact ⟨intent, late.intents intent member, rest⟩
    | executionCommand payload => exact exits harmless
    | brokerOrderEvent payload =>
      obtain ⟨row, member, named, reduces⟩ := harmless
      obtain ⟨other, inside, same⟩ := late.rows row member
      exact ⟨other, inside, same.clientOrderId.trans named, same.reduceOnly.trans reduces⟩
  | execution orderId => exact exits harmless

theorem Linked.frame (linked : Linked world) (frame : Frame world next) : Linked next where
  unique := by rw [frame.intents]; exact linked.unique
  rows := by rw [frame.oms, frame.intents]; exact linked.rows
  decisions := by rw [frame.decisions, frame.intents]; exact linked.decisions
  pending envelope member := (frame.pending envelope member).later frame.later
  stored store row member := (frame.stored store row member).later frame.later

theorem Linked.unmoved (linked : Linked world) (late : Later world next)
    (intents : next.pipeline.intents = world.pipeline.intents)
    (rows : next.pipeline.oms.rows = world.pipeline.oms.rows)
    (decisions : next.decisions = world.decisions)
    (pending : next.pipeline.pending = world.pipeline.pending)
    (outbox : next.outbox = world.outbox) : Linked next where
  unique := by rw [intents]; exact linked.unique
  rows := by rw [rows, intents]; exact linked.rows
  decisions := by rw [decisions, intents]; exact linked.decisions
  pending envelope member := (linked.pending envelope (pending ▸ member)).later late
  stored store row member := (linked.stored store row (outbox ▸ member)).later late

theorem Quiet.congr (quiet : Quiet world) (oms : next.pipeline.oms = world.pipeline.oms)
    (intents : next.pipeline.intents = world.pipeline.intents)
    (decisions : next.decisions = world.decisions) (running : next.running = world.running) :
    Quiet next where
  unapproved := by rw [oms]; exact quiet.unapproved
  executed row member approved :=
    quiet.executed row (oms ▸ member) ((entryApproved_congr intents decisions _).mp approved)
  created entry member intentId begun approved :=
    quiet.created entry (running ▸ member) intentId begun
      ((entryApproved_congr intents decisions _).mp approved)

theorem Guarded.frame (guarded : Guarded world credit) (frame : Frame world next) :
    Guarded next credit where
  running := by rw [frame.running]; exact guarded.running
  linked := guarded.linked.frame frame
  quiet blocked :=
    (guarded.quiet (frame.mode ▸ blocked)).congr frame.oms frame.intents frame.decisions
      frame.running
  begun blocked entry member := by
    rw [frame.epoch]
    exact (guarded.begun (frame.mode ▸ blocked) entry (frame.running ▸ member)).imp_left
      fun still => still.later frame.later
  placed placement member := by
    rw [frame.oms]
    exact guarded.placed placement (frame.placements ▸ member)

section

variable (linked : Linked world)

include linked

theorem frame_beside {clients : String → Prop} (beside : Beside clients world next) :
    Frame world next where
  oms := beside.oms
  intents := beside.intents
  mode := beside.mode
  decisions := beside.decisions
  running := beside.running
  epoch := beside.epoch
  placements := beside.placements
  pending envelope member := by
    obtain ⟨more, queue, light⟩ := beside.queue
    rw [Pipeline.pending, beside.inHand, queue, ← List.append_assoc] at member
    rcases List.mem_append.mp member with before | added
    · exact linked.pending envelope before
    · exact known_of_light (light envelope added)
  stored store row member := linked.stored store row (beside.outbox ▸ member)

theorem frame_enqueue (known : Known world envelope) : Frame world (world.enqueue envelope) := by
  refine ⟨rfl, rfl, rfl, rfl, rfl, rfl, rfl, fun other member => ?_, linked.stored⟩
  have queued : other ∈ world.pipeline.inHand.toList ++ (world.pipeline.queue ++ [envelope]) :=
    member
  rw [← List.append_assoc] at queued
  rcases Stored.mem_concat.mp queued with before | rfl
  · exact linked.pending other before
  · exact known

theorem frame_taskDone :
    Frame world { world with pipeline := { world.pipeline with inHand := none } } :=
  ⟨rfl, rfl, rfl, rfl, rfl, rfl, rfl,
    fun other member => linked.pending other (List.mem_append_right _ member), linked.stored⟩

theorem frame_markPublished (store : Store) (index : Nat) :
    Frame world (world.markOutboxEventPublished store index) := by
  refine ⟨rfl, rfl, rfl, rfl, rfl, rfl, rfl, linked.pending, fun other row member => ?_⟩
  have modified : row ∈ (if other = store then
      (world.outbox other).modify index fun row => { row with published := true }
    else world.outbox other) := member
  by_cases same : other = store
  · rw [if_pos same] at modified
    obtain ⟨place, found⟩ := List.mem_iff_getElem?.mp modified
    rw [List.getElem?_modify] at found
    obtain ⟨old, inside, rfl⟩ := Option.map_eq_some_iff.mp found
    have known := linked.stored other old (List.mem_of_getElem? inside)
    by_cases here : index = place
    · rw [if_pos here]
      exact known
    · rw [if_neg here]
      exact known
  · rw [if_neg same] at modified
    exact linked.stored other row modified

end

/-! ### Steps that write an order or an approval -/

/-- The pipeline with another order table. -/
def withTable (world : Platform) (table : OrderTable) : Platform :=
  { world with pipeline := { world.pipeline with oms := table } }

/-- A write that leaves every other row, and a row of its order. -/
structure Writes (world : Platform) (table : OrderTable) (row : BrokerOrder) : Prop where
  member : ∀ other, other ∈ table.rows ↔ other = row ∨
    (other ∈ world.pipeline.oms.rows ∧ other.orderId ≠ row.orderId)
  same : ∀ old ∈ world.pipeline.oms.rows, old.orderId = row.orderId → SameOrder old row

theorem Writes.rows (writes : Writes world table row) :
    ∀ old ∈ world.pipeline.oms.rows, ∃ other ∈ table.rows, SameOrder old other := by
  intro old member
  by_cases same : old.orderId = row.orderId
  · exact ⟨row, (writes.member row).mpr (.inl rfl), writes.same old member same⟩
  · exact ⟨old, (writes.member old).mpr (.inr ⟨member, same⟩), .refl old⟩

theorem Writes.later (writes : Writes world table row) : Later world (withTable world table) :=
  later_of_eq rfl rfl rfl rfl writes.rows

/-- A write of an order that traces back to an intent, and that opens nothing where entries are
blocked, keeps the guard. -/
theorem Guarded.write (guarded : Guarded world credit) (writes : Writes world table row) (linked : ∃
      intent ∈ world.pipeline.intents, intent.intentId = row.intentId ∧ intent.reduceOnly =
      row.reduceOnly) (quiet : blocks world.mode = true → (row.reduceOnly = false → row.status ≠
      .approved) ∧ (EntryApproved world row.intentId → past row.status = true)) :
    Guarded (withTable world table) credit where
  running := guarded.running
  linked :=
    { unique := guarded.linked.unique
      rows := fun other member => by
        rcases (writes.member other).mp member with rfl | ⟨before, -⟩
        · exact linked
        · exact guarded.linked.rows other before
      decisions := guarded.linked.decisions
      pending := fun envelope member =>
        (guarded.linked.pending envelope member).later writes.later
      stored := fun store row member =>
        (guarded.linked.stored store row member).later writes.later }
  quiet blocked :=
    { unapproved := fun other member => by
        rcases (writes.member other).mp member with rfl | ⟨before, -⟩
        · exact (quiet blocked).1
        · exact (guarded.quiet blocked).unapproved other before
      executed := fun other member approved => by
        rcases (writes.member other).mp member with rfl | ⟨before, -⟩
        · exact (quiet blocked).2 approved
        · exact (guarded.quiet blocked).executed other before approved
      created := (guarded.quiet blocked).created }
  begun blocked entry member :=
    (guarded.begun blocked entry member).imp_left fun still => still.later writes.later
  placed placement member blocked := by
    obtain ⟨row, inside, named, reduces⟩ := guarded.placed placement member blocked
    obtain ⟨other, there, same⟩ := writes.rows row inside
    exact ⟨other, there, same.clientOrderId.trans named, same.reduceOnly.trans reduces⟩

section

variable {toState : OrderState}
  (stored : world.pipeline.oms.saveBrokerOrderWithTransition order toState = .ok table)

include stored

theorem writes_of_member {old : BrokerOrder} (member : old ∈ world.pipeline.oms.rows)
    (orderId : old.orderId = order.orderId) (reduceOnly : old.reduceOnly = order.reduceOnly) :
    Writes world table (OrderTable.updated old { order with status := toState }) where
  member := OrderTable.mem_save_of_mem stored member orderId
  same other inside same := by
    rw [OrderTable.eq_of_orderId inside member same]
    exact ⟨rfl, rfl, rfl, reduceOnly.symm⟩

theorem writes_of_fresh (isFresh : ∀ row ∈ world.pipeline.oms.rows, row.orderId ≠ order.orderId) :
    Writes world table { order with status := toState } where
  member other := by
    rw [OrderTable.mem_save_of_fresh stored isFresh]
    exact or_congr_right ⟨fun inside => ⟨inside, isFresh other inside⟩, And.left⟩
  same other inside same := absurd same (isFresh other inside)

end

theorem Linked.eq_of_intentId (linked : Linked world) {first second : OrderIntent}
    (inFirst : first ∈ world.pipeline.intents) (inSecond : second ∈ world.pipeline.intents)
    (same : first.intentId = second.intentId) : first = second :=
  Stored.eq_of_mem linked.unique inFirst inSecond same

theorem Linked.enters (linked : Linked world) (member : intent ∈ world.pipeline.intents)
    (approved : EntryApproved world intent.intentId) : intent.reduceOnly = false := by
  obtain ⟨-, other, inside, same, enters⟩ := approved
  rw [← linked.eq_of_intentId inside member same]
  exact enters

/-- A row of an outbox to which one is added. -/
theorem Linked.stored_append (linked : Linked world) (late : Later world next) {store target : Store}
    {row : OutboxRow} (added : OutboxRow) (known : Known next added.envelope)
    (member : row ∈ if store = target then world.outbox store ++ [added] else world.outbox store) :
    Known next row.envelope := by
  split at member
  · rcases Stored.mem_concat.mp member with before | rfl
    · exact (linked.stored store row before).later late
    · exact known
  · exact (linked.stored store row member).later late

theorem Guarded.recordDecision (guarded : Guarded world credit)
    (member : intent ∈ world.pipeline.intents) (named : decision.intentId = intent.intentId)
    (closed : blocks world.mode = true → decision.approved = true → intent.reduceOnly = true) :
    Later world (world.recordDecision decision) ∧
      Guarded (world.recordDecision decision) credit := by
  have approvals : blocks world.mode = true → ∀ intentId,
      EntryApproved (world.recordDecision decision) intentId → EntryApproved world intentId := by
    rintro blocked intentId ⟨⟨given, inside, approved, rfl⟩, entry⟩
    rcases Stored.mem_concat.mp inside with before | rfl
    · exact ⟨⟨given, before, approved, rfl⟩, entry⟩
    · obtain ⟨other, inIntents, same, enters⟩ := entry
      rw [guarded.linked.eq_of_intentId inIntents member (same.trans named)] at enters
      exact absurd (closed blocked approved) (by rw [enters]; decide)
  have late : Later world (world.recordDecision decision) :=
    { intents := fun _ member => member
      decisions := fun _ member => List.mem_append_left _ member
      rows := fun row member => ⟨row, member, .refl row⟩
      epoch := le_refl _
      blocked := fun _ blocked => ⟨blocked, approvals blocked⟩ }
  refine ⟨late, ?_⟩
  exact
    { running := guarded.running
      linked :=
        { unique := guarded.linked.unique
          rows := guarded.linked.rows
          decisions := fun other inside => by
            rcases Stored.mem_concat.mp inside with before | rfl
            · exact guarded.linked.decisions other before
            · exact ⟨intent, member, named.symm⟩
          pending := fun envelope inside => (guarded.linked.pending envelope inside).later late
          stored := fun store row inside =>
            guarded.linked.stored_append late ⟨.riskDecision decision.payload, 0, false⟩
              (fun approved => ⟨decision, List.mem_concat_self, approved, rfl⟩) inside }
      quiet := fun blocked =>
        { unapproved := (guarded.quiet blocked).unapproved
          executed := fun row inside approved =>
            (guarded.quiet blocked).executed row inside (approvals blocked _ approved)
          created := fun entry inside intentId begun approved =>
            (guarded.quiet blocked).created entry inside intentId begun
              (approvals blocked _ approved) }
      begun := fun blocked entry inside =>
        (guarded.begun blocked entry inside).imp_left fun still => still.later late
      placed := guarded.placed }

/-! ### Steps that begin and end work, and the switch -/

theorem Guarded.saveOrderIntent (guarded : Guarded world credit)
    (unseen : intent.intentId ∉ world.pipeline.intents.map OrderIntent.intentId) :
    Later world (world.saved intent) ∧ intent ∈ (world.saved intent).pipeline.intents ∧
      Guarded (world.saved intent) ({(.creation intent.intentId, 0)} + credit) := by
  have undecided : ∀ decision ∈ world.decisions, decision.intentId ≠ intent.intentId := by
    intro decision member same
    obtain ⟨other, inside, named⟩ := guarded.linked.decisions decision member
    exact unseen (List.mem_map.mpr ⟨other, inside, named.trans same⟩)
  have approvals : ∀ intentId, EntryApproved (world.saved intent) intentId →
      EntryApproved world intentId := by
    rintro intentId ⟨⟨decision, member, approved, rfl⟩, other, inside, named, enters⟩
    refine ⟨⟨decision, member, approved, rfl⟩, other, ?_, named, enters⟩
    rcases List.mem_append.mp inside with before | added
    · exact before
    · rw [List.mem_singleton.mp added] at named
      exact absurd named.symm (undecided decision member)
  have late : Later world (world.saved intent) :=
    { intents := fun _ member => List.mem_append_left _ member
      decisions := fun _ member => member
      rows := fun row member => ⟨row, member, .refl row⟩
      epoch := le_refl _
      blocked := fun _ blocked => ⟨blocked, approvals⟩ }
  have onRecord : intent ∈ world.pipeline.intents ++ [intent] :=
    List.mem_concat_self
  refine ⟨late, onRecord, ?_⟩
  exact
    { running := by
        show (((_, 0) :: world.running : List (Job × Nat)) : Multiset (Job × Nat)) = _
        rw [← Multiset.cons_coe, guarded.running, Multiset.singleton_add]
      linked :=
        { unique := Stored.nodup_map_concat guarded.linked.unique unseen
          rows := fun row member => by
            obtain ⟨other, inside, rest⟩ := guarded.linked.rows row member
            exact ⟨other, List.mem_append_left _ inside, rest⟩
          decisions := fun decision member => by
            obtain ⟨other, inside, rest⟩ := guarded.linked.decisions decision member
            exact ⟨other, List.mem_append_left _ inside, rest⟩
          pending := fun envelope member =>
            (guarded.linked.pending envelope member).later late
          stored := fun store row member =>
            guarded.linked.stored_append late ⟨.orderIntent intent, intent.createdAt, false⟩
              onRecord member }
      quiet := fun blocked =>
        { unapproved := (guarded.quiet blocked).unapproved
          executed := fun row member approved =>
            (guarded.quiet blocked).executed row member (approvals _ approved)
          created := fun entry member intentId begun approved => by
            rcases List.mem_cons.mp member with rfl | before
            · obtain rfl := Job.creation.inj begun
              obtain ⟨⟨decision, inside, -, named⟩, -⟩ := approved
              exact undecided decision inside named
            · exact (guarded.quiet blocked).created entry before intentId begun
                (approvals _ approved) }
      begun := fun blocked entry member => by
        rcases List.mem_cons.mp member with rfl | before
        · exact .inl True.intro
        · exact (guarded.begun blocked entry before).imp_left fun still => still.later late
      placed := guarded.placed }

theorem Guarded.beginWork (guarded : Guarded world credit) (job : Job)
    (creates : ∀ intentId, job ≠ .creation intentId) :
    Later world (world.beginWork job) ∧
      Guarded (world.beginWork job) ({(job, world.epoch)} + credit) := by
  have late : Later world (world.beginWork job) :=
    later_of_eq rfl rfl rfl rfl fun row member => ⟨row, member, .refl row⟩
  refine ⟨late, ?_⟩
  exact
    { running := by
        show (((job, world.epoch) :: world.running : List (Job × Nat)) : Multiset (Job × Nat)) = _
        rw [← Multiset.cons_coe, guarded.running, Multiset.singleton_add]
      linked := guarded.linked.unmoved late rfl rfl rfl rfl rfl
      quiet := fun blocked =>
        { guarded.quiet blocked with
          created := fun entry member intentId begun => by
            rcases List.mem_cons.mp member with rfl | before
            · exact absurd begun (creates intentId)
            · exact (guarded.quiet blocked).created entry before intentId begun }
      begun := fun blocked entry member => by
        rcases List.mem_cons.mp member with rfl | before
        · exact .inr rfl
        · exact (guarded.begun blocked entry before).imp_left fun still => still.later late
      placed := guarded.placed }

theorem Guarded.finish (guarded : Guarded world ({(job, epoch)} + credit)) :
    Later world { world with running := world.running.erase (job, epoch) } ∧
      Guarded { world with running := world.running.erase (job, epoch) } credit := by
  have late : Later world { world with running := world.running.erase (job, epoch) } :=
    later_of_eq rfl rfl rfl rfl fun row member => ⟨row, member, .refl row⟩
  refine ⟨late, ?_⟩
  exact
    { running := by
        have all := guarded.running
        have member : (job, epoch) ∈ world.running := by
          rw [← Multiset.mem_coe, all, Multiset.singleton_add]
          exact Multiset.mem_cons_self _ _
        rw [Multiset.coe_eq_coe.mpr (List.perm_cons_erase member), ← Multiset.cons_coe,
          Multiset.singleton_add] at all
        exact Multiset.cons_inj_right _ |>.mp all
      linked := guarded.linked.unmoved late rfl rfl rfl rfl rfl
      quiet := fun blocked =>
        { guarded.quiet blocked with
          created := fun entry member =>
            (guarded.quiet blocked).created entry (List.mem_of_mem_erase member) }
      begun := fun blocked entry member =>
        (guarded.begun blocked entry (List.mem_of_mem_erase member)).imp_left
          fun still => still.later late
      placed := guarded.placed }

theorem Guarded.placeOrder (guarded : Guarded world credit) (request : BrokerOrderRequest)
    (closed : blocks world.mode = true → ∃ row ∈ world.pipeline.oms.rows,
      row.clientOrderId = request.clientOrderId ∧ row.reduceOnly = true) :
    Later world (world.called request) ∧ Guarded (world.called request) credit := by
  have late : Later world (world.called request) :=
    later_of_eq rfl rfl rfl rfl fun row member => ⟨row, member, .refl row⟩
  refine ⟨late, ?_⟩
  exact
    { running := guarded.running
      linked := guarded.linked.unmoved late rfl rfl rfl rfl rfl
      quiet := fun blocked => { guarded.quiet blocked with }
      begun := fun blocked entry member =>
        (guarded.begun blocked entry member).imp_left fun still => still.later late
      placed := fun placement member blocked => by
        rcases Stored.mem_concat.mp member with before | rfl
        · exact guarded.placed placement before blocked
        · exact closed blocked }

theorem quiet_of_atRest (rests : atRest world = true) :
    Quiet world ∧ ∀ entry ∈ world.running, Harmless world entry.1 := by
  unfold atRest at rests
  simp only [Bool.and_eq_true, decide_eq_true_eq, List.all_eq_true] at rests
  obtain ⟨⟨unapproved, executed⟩, work⟩ := rests
  refine ⟨⟨unapproved, executed, fun entry member intentId begun => ?_⟩,
    fun entry member => (work entry member).2⟩
  have quietly := (work entry member).1
  rw [begun] at quietly
  exact of_decide_eq_true quietly

theorem Guarded.setMode (guarded : Guarded world credit) {mode : SystemMode}
    (rests : (blocks world.mode || !blocks mode || atRest world) = true) :
    Later world (world.setMode mode) ∧ Guarded (world.setMode mode) credit := by
  have epochs : world.epoch ≤ (world.setMode mode).epoch := by
    show world.epoch ≤ if _ then _ else _
    split
    · exact Nat.le_succ _
    · exact le_refl _
  have switched : blocks mode = true → blocks world.mode = false →
      (world.setMode mode).epoch = world.epoch + 1 := by
    intro closes opens
    show (if _ then _ else _) = _
    rw [closes, opens]
    rfl
  have kept : blocks world.mode = true → (world.setMode mode).epoch = world.epoch := by
    intro closed
    show (if _ then _ else _) = _
    rw [closed]
    rfl
  have late : Later world (world.setMode mode) :=
    { intents := fun _ member => member
      decisions := fun _ member => member
      rows := fun row member => ⟨row, member, .refl row⟩
      epoch := epochs
      blocked := fun same blocked => by
        cases before : blocks world.mode with
        | true => exact ⟨rfl, fun _ approved => approved⟩
        | false =>
          rw [switched blocked before] at same
          exact absurd same (Nat.succ_ne_self _).symm }
  refine ⟨late, ?_⟩
  have still : blocks mode = true → Quiet world ∧ ∀ entry ∈ world.running,
      Harmless world entry.1 ∨ entry.2 = (world.setMode mode).epoch := by
    intro closes
    cases before : blocks world.mode with
    | true =>
      rw [kept before]
      exact ⟨guarded.quiet before, guarded.begun before⟩
    | false =>
      rw [before, closes] at rests
      obtain ⟨quiet, harmless⟩ := quiet_of_atRest rests
      exact ⟨quiet, fun entry member => .inl (harmless entry member)⟩
  exact
    { running := guarded.running
      linked := guarded.linked.unmoved late rfl rfl rfl rfl rfl
      quiet := fun blocked => { (still blocked).1 with }
      begun := fun blocked entry member =>
        ((still blocked).2 entry member).imp_left fun harmless => harmless.later late
      placed := guarded.placed }

theorem guarded_initial : Guarded .initial 0 where
  running := rfl
  linked :=
    { unique := List.nodup_nil
      rows := fun _ member => absurd member List.not_mem_nil
      decisions := fun _ member => absurd member List.not_mem_nil
      pending := fun _ member => absurd member List.not_mem_nil
      stored := fun _ _ member => absurd member List.not_mem_nil }
  quiet blocked := absurd blocked (by decide)
  begun blocked := absurd blocked (by decide)
  placed _ member := absurd member List.not_mem_nil

theorem Guarded.restart (guarded : Guarded world credit) : Guarded world.restart 0 where
  running := rfl
  linked :=
    { guarded.linked with
      pending := fun _ member => absurd member List.not_mem_nil }
  quiet blocked :=
    { guarded.quiet blocked with
      created := fun _ member => absurd member List.not_mem_nil }
  begun _ _ member := absurd member List.not_mem_nil
  placed := guarded.placed

/-! ### One operation -/

abbrev AnswersGuarded := Answers pipelinePart (pipelineCondition switchesAtRest) discipline

/-- A task of the pipeline's services, under the guard. -/
abbrev Keeps {Result : Type} (task : Task Result) (credit : Multiset (Job × Nat))
    (seen : Platform)
    (post : Except Raised Result → Multiset (Job × Nat) → Platform → Prop) : Prop :=
  Owns pipelinePart (pipelineCondition switchesAtRest) discipline task credit seen post

/-- What is known of an order that is read: where entries are blocked, it is quiet. -/
structure Read (world : Platform) (order : BrokerOrder) : Prop where
  member : order ∈ world.pipeline.oms.rows
  linked : ∃ intent ∈ world.pipeline.intents,
    intent.intentId = order.intentId ∧ intent.reduceOnly = order.reduceOnly
  quiet : blocks world.mode = true → (order.reduceOnly = false → order.status ≠ .approved) ∧
    (EntryApproved world order.intentId → past order.status = true)

theorem Guarded.read (guarded : Guarded world credit) (member : order ∈ world.pipeline.oms.rows) :
    Read world order where
  member := member
  linked := guarded.linked.rows order member
  quiet blocked :=
    ⟨(guarded.quiet blocked).unapproved order member, (guarded.quiet blocked).executed order member⟩

/-- Where entries are blocked, a piece of work that is not harmless has seen them blocked since it
began. -/
theorem Guarded.since (guarded : Guarded world ({(job, epoch)} + rest)) (begun : epoch ≤ seen.epoch)
    (late : Later seen world) (blocked : blocks world.mode = true) :
    Harmless world job ∨ (blocks seen.mode = true ∧ ∀ intentId, EntryApproved world intentId →
      EntryApproved seen intentId) := by
  have member : (job, epoch) ∈ world.running := by
    rw [← Multiset.mem_coe, guarded.running, Multiset.singleton_add]
    exact Multiset.mem_cons_self _ _
  rcases guarded.begun blocked _ member with harmless | now
  · exact .inl harmless
  · have same : seen.epoch = world.epoch := le_antisymm late.epoch (now ▸ begun)
    exact .inr (late.blocked same blocked)

theorem answers_plain {op : PipelineOp} (plain : Plain anyOrder op) :
    AnswersGuarded op credit seen (leaving credit) := by
  intro world rest choice reply next _ guarded _ answered
  obtain ⟨_, -, answered⟩ := pipelinePart_answer answered
  have frame := frame_beside guarded.linked (beside_of_plain plain answered)
  exact ⟨credit, frame.later, guarded.frame frame, rfl⟩

theorem keeps_plain {Result : Type} {task : Task Result} (within : task.Within (Plain anyOrder)) :
    Keeps task credit seen (leaving credit) :=
  Owns.of_within seen (fun _ _ _ plain => answers_plain plain) within

theorem answers_publish (known : Known seen envelope) :
    AnswersGuarded (.publish envelope) credit seen (leaving credit) := by
  intro world rest choice reply next late guarded _ answered
  obtain ⟨_, -, answered⟩ := pipelinePart_answer answered
  obtain ⟨rfl, rfl⟩ := answerPipeline_publish answered
  have frame := frame_enqueue guarded.linked (known.later late)
  exact ⟨credit, frame.later, guarded.frame frame, rfl⟩

theorem answers_write {old : BrokerOrder}
    {toState : OrderState} {fromState : Option OrderState} {reason : Option String}
    (read : Read seen old) (orderId : order.orderId = old.orderId)
    (reduceOnly : order.reduceOnly = old.reduceOnly)
    (quiet : ∀ world rest, Later seen world → Guarded world (credit + rest) →
      blocks world.mode = true → (old.reduceOnly = false → toState ≠ .approved) ∧
        (EntryApproved world old.intentId → past toState = true)) :
    AnswersGuarded (.saveBrokerOrderWithTransition order fromState toState reason) credit seen
      (leaving credit) := by
  intro world rest choice reply next late guarded _ answered
  obtain ⟨_, -, answered⟩ := pipelinePart_answer answered
  rcases answerPipeline_saveBrokerOrder answered with ⟨rfl, -⟩ | ⟨table, stored, -, rfl⟩
  · exact ⟨credit, Later.refl _, guarded, rfl⟩
  · obtain ⟨row, member, same⟩ := late.rows old read.member
    have writes := writes_of_member stored member (same.orderId.trans orderId.symm)
      (same.reduceOnly.trans reduceOnly.symm)
    refine ⟨credit, writes.later, guarded.write writes ?_ fun blocked => ?_, rfl⟩
    · obtain ⟨intent, inside, named, reduces⟩ := guarded.linked.rows row member
      refine ⟨intent, inside, named, ?_⟩
      show intent.reduceOnly = order.reduceOnly
      rw [reduces, same.reduceOnly, reduceOnly]
    · have closed := quiet world rest late guarded blocked
      refine ⟨fun enters => closed.1 ?_, fun approved => closed.2 ?_⟩
      · rw [← reduceOnly]
        exact enters
      · rw [← same.intentId]
        exact approved

/-! ### The execution of an order -/

/-- A piece of work that executes this order is harmless only where the order is reduce-only. -/
def Covers (job : Job) (orderId : String) : Prop :=
  ∀ world, Harmless world job → Exits world orderId

theorem keeps_markOrderSubmitting :
    Keeps (OmsService.markOrderSubmitting orderId) credit seen fun result left next =>
      left = credit ∧ ∀ order, result = .ok (some order) →
        ∃ row ∈ next.pipeline.oms.rows, row.orderId = orderId ∧
          row.clientOrderId = order.clientOrderId := by
  refine Owns.await (answers_reading (.getOrderById orderId) (·.getOrderById orderId)) ?_
  rintro reply left next _ ⟨rfl, found⟩
  match reply with
  | .error error => exact ⟨rfl, fun _ same => nomatch same⟩
  | .ok none => exact ⟨rfl, fun _ same => nomatch same⟩
  | .ok (some order) =>
    obtain ⟨value, rest, guarded⟩ := found _ rfl
    obtain ⟨member, named⟩ := OrderTable.mem_of_getOrderById value.symm
    have here : ∀ other, (.ok (some order) : Except Raised _) = .ok (some other) →
        ∃ row ∈ next.pipeline.oms.rows, row.orderId = orderId ∧
          row.clientOrderId = other.clientOrderId := by
      intro other same
      obtain rfl := Option.some.inj (Except.ok.inj same)
      exact ⟨order, member, named, rfl⟩
    simp only
    split
    · exact ⟨rfl, here⟩
    · split
      · exact ⟨rfl, here⟩
      · refine Owns.ofExcept (fun _ _ => ?_) fun _ _ => ⟨rfl, fun _ same => nomatch same⟩
        refine Owns.await (answers_write
          (Guarded.read guarded member) rfl rfl fun _ _ _ _ _ =>
            ⟨fun _ => (by decide), fun _ => rfl⟩) ?_
        rintro reply last next' late rfl
        cases reply with
        | error error => exact ⟨rfl, fun _ same => nomatch same⟩
        | ok _ =>
          refine ⟨rfl, fun other same => ?_⟩
          obtain rfl := Option.some.inj (Except.ok.inj same)
          obtain ⟨row, inside, sameOrder⟩ := Later.rows late order member
          exact ⟨row, inside, sameOrder.orderId.trans named, sameOrder.clientOrderId⟩

theorem answers_placeOrder {request : BrokerOrderRequest}
    {tradingMode : TradingMode} (covers : Covers job orderId) (begun : epoch ≤ seen.epoch)
    (read : Read seen order) (named : order.orderId = orderId) (approved : order.status = .approved)
    (late : Later seen latest) (member : row ∈ latest.pipeline.oms.rows)
    (rowNamed : row.orderId = orderId) (clientOrderId : row.clientOrderId = request.clientOrderId) :
    AnswersGuarded
      (.placeOrder request tradingMode) {(job, epoch)} latest (leaving {(job, epoch)}) := by
  intro world rest choice reply next latter guarded _ answered
  obtain ⟨_, -, answered⟩ := pipelinePart_answer answered
  obtain rfl := answerPipeline_placeOrder answered
  obtain ⟨current, inside, same⟩ := latter.rows row member
  have latest := late.trans latter
  have closed : blocks world.mode = true → ∃ row ∈ world.pipeline.oms.rows,
      row.clientOrderId = request.clientOrderId ∧ row.reduceOnly = true := by
    intro blocked
    refine ⟨current, inside, same.clientOrderId.trans clientOrderId, ?_⟩
    rcases guarded.since begun latest blocked with harmless | ⟨blockedThen, -⟩
    · obtain ⟨other, inOther, otherNamed, reduces⟩ := covers world harmless
      rw [OrderTable.eq_of_orderId inside inOther
        ((same.orderId.trans rowNamed).trans otherNamed.symm)]
      exact reduces
    · obtain ⟨other, inOther, sameToo⟩ := latest.rows order read.member
      have one : current = other := OrderTable.eq_of_orderId inside inOther
        ((same.orderId.trans rowNamed).trans (sameToo.orderId.trans named).symm)
      rw [one, sameToo.reduceOnly]
      by_contra enters
      exact (read.quiet blockedThen).1 (Bool.eq_false_iff.mpr enters) approved
  obtain ⟨later, held⟩ := guarded.placeOrder request closed
  exact ⟨_, later, held, rfl⟩

theorem keeps_report (light : Light anyOrder envelope) :
    Keeps (perform (.publish envelope)) credit seen (leaving credit) := by
  have plain : Plain anyOrder (.publish envelope) := light
  exact keeps_plain (Coroutine.within_perform plain)

theorem keeps_submitOrder {request : BrokerOrderRequest} (placed : AnswersGuarded
      (.placeOrder request order.tradingMode) credit seen fun _ left _ => left = credit) :
    Keeps (ExecutionService.submitOrder order request) credit seen (leaving credit) := by
  refine Owns.await placed ?_
  rintro reply left next _ rfl
  cases reply with
  | error error => rfl
  | ok response =>
    simp only
    generalize ExecutionService.normalizeBrokerStatus response.status = normalizedStatus
    refine Owns.call (keeps_report (by trivial)) ?_
    rintro result last after _ rfl
    cases result with
    | error error => rfl
    | ok _ =>
      simp only
      split
      · exact keeps_plain (within_publishTradeFill _ _ _ _)
      · rfl

theorem keeps_submitReserved {reserved : BrokerOrder}
    (covers : Covers job orderId) (begun : epoch ≤ seen.epoch) (read : Read seen order)
    (named : order.orderId = orderId) (approved : order.status = .approved)
    (late : Later seen latest) (member : row ∈ latest.pipeline.oms.rows)
    (rowNamed : row.orderId = orderId) (clientOrderId : row.clientOrderId = reserved.clientOrderId)
    : Keeps (service.submitReserved reserved) {(job, epoch)} latest (leaving {(job, epoch)}) := by
  unfold ExecutionService.submitReserved
  split
  · exact keeps_report (by trivial)
  · rename_i request built
    have same : row.clientOrderId = request.clientOrderId :=
      clientOrderId.trans (ExecutionService.buildBrokerRequest_clientOrderId built).symm
    refine Owns.catching ((keeps_submitOrder (answers_placeOrder covers begun read named approved
      late member rowNamed same)).weaken fun result left last _ kept => ?_)
    cases result with
    | ok _ => exact kept
    | error error =>
      subst kept
      exact keeps_report (by trivial)

theorem keeps_executeOrder {other : String}
    (covers : Covers job orderId) (begun : epoch ≤ seen.epoch) :
    Keeps (service.executeOrder orderId other) {(job, epoch)} seen (leaving {(job, epoch)}) := by
  refine Owns.await (answers_reading (.getOrder orderId) (·.getOrderById orderId)) ?_
  rintro reply left first late ⟨rfl, found⟩
  match reply with
  | .error error => rfl
  | .ok none => rfl
  | .ok (some order) =>
    obtain ⟨value, rest, guarded⟩ := found _ rfl
    obtain ⟨member, named⟩ := OrderTable.mem_of_getOrderById value.symm
    have begunFirst : epoch ≤ first.epoch := begun.trans (Later.epoch late)
    simp only
    split
    · rfl
    · rename_i status
      have approved : order.status = .approved := not_not.mp status
      refine Owns.call (keeps_plain (within_boundaryMessage order)) ?_
      rintro result left second afterFirst rfl
      match result with
      | .error error => rfl
      | .ok (some message) => exact keeps_report (by trivial)
      | .ok none =>
        refine Owns.call keeps_markOrderSubmitting ?_
        rintro result left third afterSecond ⟨rfl, holds⟩
        match result with
        | .error error => rfl
        | .ok none => rfl
        | .ok (some reserved) =>
          simp only
          split
          · rfl
          · obtain ⟨row, inside, rowNamed, sameClient⟩ := holds reserved rfl
            exact keeps_submitReserved covers begunFirst (Guarded.read guarded member) named approved
              (Later.trans afterFirst afterSecond) inside rowNamed sameClient

theorem keeps_recoverApprovedOrders (begun : epoch ≤ seen.epoch) :
    Keeps service.recoverApprovedOrders {(.recovery, epoch)} seen
      fun _ left next => left = {(.recovery, epoch)} ∧ epoch ≤ next.epoch :=
  ExecutionService.owns_recoverApprovedOrders
    ((answers_plain (by trivial)).weaken
      fun _ _ _ late kept => ⟨kept, begun.trans (Later.epoch late)⟩)
    fun orderId client left next ⟨same, begun⟩ => by
      subst same
      exact (keeps_executeOrder (fun _ => False.elim) begun).weaken
        fun _ _ _ late kept => ⟨kept, begun.trans (Later.epoch late)⟩

theorem keeps_handleExecutionCommand {payload : ExecutionCommand}
    (begun : epoch ≤ seen.epoch) : Keeps (service.handleExecutionCommand payload)
      {(.handling (.executionCommand payload), epoch)} seen
      fun _ left next => left = {(.handling (.executionCommand payload), epoch)} ∧
        epoch ≤ next.epoch :=
  ExecutionService.owns_handleExecutionCommand
    ((answers_plain (by trivial)).weaken
      fun _ _ _ late kept => ⟨kept, begun.trans (Later.epoch late)⟩)
    fun left next ⟨same, begun⟩ => by
      subst same
      have covers : Covers (.handling (.executionCommand payload)) payload.orderId :=
        fun _ exits => exits
      exact (keeps_executeOrder covers begun).weaken
        fun _ _ _ late kept => ⟨kept, begun.trans (Later.epoch late)⟩

/-! ### The handlers of the OMS -/

theorem Read.not_approved (read : Read seen order) (late : Later seen world)
    (linked : Linked world) (reduces : order.reduceOnly = true) :
    ¬ EntryApproved world order.intentId := by
  intro approved
  obtain ⟨intent, inside, named, same⟩ := read.linked
  rw [← named] at approved
  have enters := linked.enters (late.intents intent inside) approved
  rw [same, reduces] at enters
  exact Bool.noConfusion enters

theorem brokerState_past (current : OrderState) (brokerStatus : String) (filledQuantity : Int) :
    OmsService.brokerState current brokerStatus filledQuantity = current ∨
      past (OmsService.brokerState current brokerStatus filledQuantity) = true := by
  unfold OmsService.brokerState
  split_ifs <;> first | exact .inl rfl | exact .inr rfl

theorem ne_approved_of_past {status : OrderState} (done : past status = true) :
    status ≠ .approved := by
  rintro rfl
  exact absurd done (by decide)

theorem keeps_handleBrokerOrderEvent {payload : BrokerOrderEvent} (begun : epoch ≤ seen.epoch) :
    Keeps (OmsService.handleBrokerOrderEvent payload)
      {(.handling (.brokerOrderEvent payload), epoch)} seen
      (leaving {(.handling (.brokerOrderEvent payload), epoch)}) := by
  unfold OmsService.handleBrokerOrderEvent
  generalize upper payload.status = brokerStatus
  refine Owns.await (answers_reading (.getOrderByClientId payload.clientOrderId)
    (·.getOrderByClientId payload.clientOrderId)) ?_
  rintro reply left next late ⟨rfl, found⟩
  match reply with
  | .error error => rfl
  | .ok none => rfl
  | .ok (some order) =>
    obtain ⟨value, rest, guarded⟩ := found _ rfl
    obtain ⟨member, client⟩ := OrderTable.mem_of_getOrderByClientId value.symm
    have read := Guarded.read guarded member
    simp only
    split
    · refine Owns.ofExcept (fun _ _ => ?_) fun _ _ => rfl
      refine Owns.perform_last (answers_write read rfl rfl
        fun world rest latter guarded blocked => ?_)
      rcases brokerState_past order.status brokerStatus payload.filledQuantity with same | done
      · rw [same]
        rcases guarded.since (begun.trans (Later.epoch late)) latter blocked with
          ⟨row, inside, named, reduces⟩ | ⟨blockedThen, approvedThen⟩
        · -- the order is the one the event is about
          obtain ⟨current, inCurrent, sameOrder⟩ := latter.rows order member
          have one : current = row := OrderTable.eq_of_clientOrderId inCurrent inside
            ((sameOrder.clientOrderId.trans client).trans named.symm)
          have exits : order.reduceOnly = true := by
            rw [← sameOrder.reduceOnly, one]
            exact reduces
          exact ⟨fun enters => Bool.noConfusion (exits.symm.trans enters),
            fun approved => absurd approved (read.not_approved latter guarded.linked exits)⟩
        · exact ⟨(read.quiet blockedThen).1,
            fun approved => (read.quiet blockedThen).2 (approvedThen _ approved)⟩
      · exact ⟨fun _ => ne_approved_of_past done, fun _ => done⟩
    · rfl

/-- Where entries are blocked, the decision that is handled opens nothing: the order is reduce-only
or the decision refuses, and no entry was approved for the order. -/
theorem decision_closed {payload : RiskDecision}
    (read : Read seen order) (known : Known seen (.riskDecision payload))
    (begun : epoch ≤ seen.epoch) (named : order.intentId = payload.intentId)
    (validating : order.status = .validating) (late : Later seen world)
    (guarded : Guarded world ({(.handling (.riskDecision payload), epoch)} + rest))
    (blocked : blocks world.mode = true) : (payload.approved = true → order.reduceOnly = true) ∧
      ¬ EntryApproved world order.intentId := by
  obtain ⟨intent, inside, intentNamed, same⟩ := read.linked
  rcases guarded.since begun late blocked with
    ⟨other, inOther, otherNamed, reduces⟩ | ⟨blockedThen, approvedThen⟩
  · have one : intent = other := guarded.linked.eq_of_intentId (late.intents intent inside) inOther
      ((intentNamed.trans named).trans otherNamed.symm)
    have exits : order.reduceOnly = true := by
      rw [← same, one]
      exact reduces
    exact ⟨fun _ => exits, read.not_approved late guarded.linked exits⟩
  · have unapproved : ¬ EntryApproved seen order.intentId := by
      intro approved
      have done := (read.quiet blockedThen).2 approved
      rw [validating] at done
      exact absurd done (by decide)
    refine ⟨fun approves => ?_, fun approved => unapproved (approvedThen _ approved)⟩
    by_contra enters
    obtain ⟨decision, inDecisions, approved, decisionNamed⟩ := known approves
    exact unapproved ⟨⟨decision, inDecisions, approved, decisionNamed.trans named.symm⟩, intent,
      inside, intentNamed, same.trans (Bool.eq_false_iff.mpr enters)⟩

theorem keeps_handleRiskDecisionEvent {payload : RiskDecision}
    (known : Known seen (.riskDecision payload)) (begun : epoch ≤ seen.epoch) :
    Keeps (OmsService.handleRiskDecisionEvent payload)
      {(.handling (.riskDecision payload), epoch)} seen
      (leaving {(.handling (.riskDecision payload), epoch)}) := by
  refine Owns.await (answers_reading (.listOrders 50) (·.listOrders 50)) ?_
  rintro reply left next late ⟨rfl, found⟩
  match reply with
  | .error error => rfl
  | .ok orders =>
    obtain ⟨value, rest, guarded⟩ := found _ rfl
    simp only
    split
    · rfl
    · rename_i order rest matching
      have listed := List.mem_filter.mp
        (matching ▸ List.mem_cons_self : order ∈ orders.filter _)
      have member : order ∈ next.pipeline.oms.rows :=
        OrderTable.mem_of_mem_listOrders (value ▸ listed.1)
      have named : order.intentId = payload.intentId := of_decide_eq_true listed.2
      have read := Guarded.read guarded member
      split
      · rfl
      · rename_i status
        have validating : order.status = .validating := not_not.mp status
        refine Owns.ofExcept (fun _ _ => ?_) fun _ _ => rfl
        refine Owns.await (answers_write read rfl rfl
          fun world rest latter guarded blocked => ?_) fun reply left after _ kept => ?_
        · obtain ⟨exits, unapproved⟩ := decision_closed read (known.later late)
            (begun.trans (Later.epoch late)) named validating latter guarded blocked
          refine ⟨fun enters => ?_, fun approved => absurd approved unapproved⟩
          by_cases approves : payload.approved = true
          · exact absurd ((exits approves).symm.trans enters) (by decide)
          · rw [if_neg approves]
            decide
        · obtain rfl := kept
          cases reply with
          | error error => rfl
          | ok _ =>
            simp only
            split
            · exact keeps_report (by trivial)
            · rfl

/-! ### The creation of an order -/

theorem Guarded.creation_closed {intentId : String}
    (guarded : Guarded world ({(.creation intentId, 0)} + rest))
    (blocked : blocks world.mode = true) : ¬ EntryApproved world intentId := by
  have member : (.creation intentId, 0) ∈ world.running := by
    rw [← Multiset.mem_coe, guarded.running, Multiset.singleton_add]
    exact Multiset.mem_cons_self _ _
  exact (guarded.quiet blocked).created _ member intentId rfl

theorem answers_saveOrderIntent :
    AnswersGuarded (.saveOrderIntent intent) 0
      seen fun reply left next => reply = .ok () →
        left = {(.creation intent.intentId, 0)} ∧ intent ∈ next.pipeline.intents := by
  intro world rest choice reply next _ guarded _ answered
  obtain ⟨_, -, answered⟩ := pipelinePart_answer answered
  rcases answerPipeline_saveOrderIntent answered with
    ⟨rfl, error, rfl⟩ | ⟨unseen, rfl, rfl⟩
  · exact ⟨0, Later.refl _, guarded, fun same => nomatch same⟩
  · obtain ⟨late, onRecord, held⟩ := guarded.saveOrderIntent unseen
    rw [zero_add] at held
    exact ⟨_, late, held, fun _ => ⟨rfl, onRecord⟩⟩

theorem answers_insert {reason : Option String}
    (onRecord : intent ∈ seen.pipeline.intents) (named : order.intentId = intent.intentId)
    (reduceOnly : order.reduceOnly = intent.reduceOnly) :
    AnswersGuarded (.saveBrokerOrderWithTransition order none .created reason)
      {(.creation intent.intentId, 0)} seen fun reply left next =>
        left = {(.creation intent.intentId, 0)} ∧
          (reply = .ok () → Read next { order with status := .created }) := by
  intro world rest choice reply next late guarded _ answered
  obtain ⟨_, -, answered⟩ := pipelinePart_answer answered
  obtain ⟨isFresh, -⟩ := answerPipeline_eq_some answered
  rcases answerPipeline_saveBrokerOrder answered with ⟨rfl, error, rfl⟩ | ⟨table, stored, -, rfl⟩
  · exact ⟨_, Later.refl _, guarded, rfl, fun same => nomatch same⟩
  · have unseen : ∀ row ∈ world.pipeline.oms.rows, row.orderId ≠ order.orderId :=
      fun row member => (of_decide_eq_true isFresh row member).1
    have writes := writes_of_fresh stored unseen
    have held := guarded.write writes
      ⟨intent, late.intents intent onRecord, named.symm, reduceOnly.symm⟩ fun blocked =>
        ⟨fun _ => show OrderState.created ≠ .approved by decide, fun approved =>
          absurd (named ▸ approved) (guarded.creation_closed blocked)⟩
    exact ⟨_, writes.later, held, rfl, fun _ =>
      held.read ((writes.member _).mpr (.inl rfl))⟩

theorem keeps_createOrderIntent (orderId clientOrderId : String) {now : Int} :
    Keeps (OmsService.createOrderIntent intent orderId clientOrderId now) 0 seen
      fun result left _ => ∀ order, result = .ok order →
        left = {(.creation intent.intentId, 0)} := by
  unfold OmsService.createOrderIntent
  generalize made : OmsService.newOrder intent orderId clientOrderId now = order
  have named : order.intentId = intent.intentId := by rw [← made]; rfl
  have reduceOnly : order.reduceOnly = intent.reduceOnly := by rw [← made]; rfl
  refine Owns.await answers_saveOrderIntent fun reply left first _ post => ?_
  cases reply with
  | error error => exact fun _ same => nomatch same
  | ok _ =>
    obtain ⟨rfl, onRecord⟩ := post rfl
    refine Owns.await (answers_insert onRecord named reduceOnly) ?_
    rintro reply left second late ⟨rfl, inserted⟩
    cases reply with
    | error error => exact fun _ same => nomatch same
    | ok _ =>
      refine Owns.ofExcept (fun _ _ => ?_) fun _ _ _ same => nomatch same
      refine Owns.await (answers_write
        (inserted rfl) rfl rfl fun world rest _ guarded blocked =>
          ⟨fun _ => (by decide), fun approved =>
            absurd (named ▸ approved) (guarded.creation_closed blocked)⟩) ?_
      rintro reply left third latter rfl
      cases reply with
      | error error => exact fun _ same => nomatch same
      | ok _ =>
        have known : Known third (.orderIntent intent) :=
          Later.intents latter intent (Later.intents late intent onRecord)
        refine Owns.await (answers_publish known) ?_
        rintro reply left last _ rfl
        cases reply with
        | error error => exact fun _ same => nomatch same
        | ok _ => exact fun _ _ => rfl

/-! ### The evaluation of an intent -/

theorem answers_asks {op : RiskOp} (asks : Asks op) :
    Answers riskPart (riskCondition switchesAtRest) discipline op credit seen (leaving credit) := by
  intro world rest choice reply next _ guarded _ answered
  obtain ⟨raw, answeredThere, -⟩ := riskPart_answer answered
  obtain rfl := answerRisk_asks asks answeredThere
  exact ⟨credit, Later.refl _, guarded, rfl⟩

theorem answers_publishDecision (recorded : decision ∈ seen.decisions) :
    Answers riskPart (riskCondition switchesAtRest) discipline (.publish decision) credit seen
      (leaving credit) := by
  intro world rest choice reply next late guarded _ answered
  obtain ⟨raw, answeredThere, -⟩ := riskPart_answer answered
  rcases answerRisk_publish answeredThere with ⟨rfl, -⟩ | ⟨rfl, -⟩
  · exact ⟨credit, Later.refl _, guarded, rfl⟩
  · have known : Known world (.riskDecision decision.payload) := fun approved =>
      ⟨decision, late.decisions decision recorded, approved, rfl⟩
    have frame := frame_enqueue guarded.linked known
    exact ⟨credit, frame.later, guarded.frame frame, rfl⟩

theorem answers_saveDecision
    (onRecord : intent ∈ seen.pipeline.intents) (named : decision.intentId = intent.intentId)
    (begun : epoch ≤ seen.epoch) (late : Later seen latest)
    (checked : decision.approved = true → seen.mode = .normal ∨ intent.reduceOnly = true) :
    Answers riskPart (riskCondition switchesAtRest) discipline (.saveDecision intent decision)
      {(.handling (.orderIntent intent), epoch)} latest fun reply left next =>
        left = {(.handling (.orderIntent intent), epoch)} ∧
          (reply = .ok () → decision ∈ next.decisions) := by
  intro world rest choice reply next latter guarded _ answered
  obtain ⟨raw, answeredThere, values⟩ := riskPart_answer answered
  rcases answerRisk_saveDecision answeredThere with ⟨rfl, error, rfl⟩ | ⟨rfl, rfl⟩
  · exact ⟨_, Later.refl _, guarded, rfl, fun same => nomatch (values ()).mp same⟩
  · have latest := late.trans latter
    obtain ⟨later, held⟩ := guarded.recordDecision (latest.intents intent onRecord) named
      fun blocked approved => by
        rcases guarded.since begun latest blocked with harmless | ⟨blockedThen, -⟩
        · exact harmless
        · refine (checked approved).resolve_left fun normal => ?_
          rw [normal] at blockedThen
          exact absurd blockedThen (by decide)
    exact ⟨_, later, held, rfl, fun _ => List.mem_concat_self⟩

/-- A task of the risk service, under the guard. -/
abbrev RiskKeeps {Result : Type} (task : RiskTask Result) (credit : Multiset (Job × Nat))
    (seen : Platform)
    (post : Except RiskError Result → Multiset (Job × Nat) → Platform → Prop) : Prop :=
  Owns riskPart (riskCondition switchesAtRest) discipline task credit seen post

section

variable (onRecord : intent ∈ seen.pipeline.intents)

include onRecord

theorem keeps_recordAndPublish (named : decision.intentId = intent.intentId)
    (begun : epoch ≤ seen.epoch) (late : Later seen latest)
    (checked : decision.approved = true → seen.mode = .normal ∨ intent.reduceOnly = true) :
    RiskKeeps (RiskService.recordAndPublish intent decision)
      {(.handling (.orderIntent intent), epoch)} latest
      (leaving {(.handling (.orderIntent intent), epoch)}) := by
  refine Owns.await (answers_saveDecision onRecord named begun late checked) ?_
  rintro reply left next _ ⟨rfl, recorded⟩
  cases reply with
  | error error => rfl
  | ok _ =>
    refine Owns.await (answers_publishDecision (recorded rfl)) fun reply left last _ kept => ?_
    cases reply <;> exact kept

theorem keeps_evaluateIntent {service : RiskService} (begun : epoch ≤ seen.epoch) :
    RiskKeeps (service.evaluateIntent intent) {(.handling (.orderIntent intent), epoch)} seen
      (leaving {(.handling (.orderIntent intent), epoch)}) := by
  have read : Answers riskPart (riskCondition switchesAtRest) discipline .getSystemMode
      {(.handling (.orderIntent intent), epoch)} seen fun reply left next =>
        left = {(.handling (.orderIntent intent), epoch)} ∧
          ∀ mode, reply = .ok mode → mode = next.mode := by
    intro world rest choice reply next _ guarded _ answered
    obtain ⟨raw, answeredThere, values⟩ := riskPart_answer answered
    obtain ⟨rfl, replied⟩ := answerRisk_getSystemMode answeredThere
    refine ⟨_, Later.refl _, guarded, rfl, fun mode same => ?_⟩
    have rawSame := (values mode).mp same
    rcases replied with rfl | ⟨error, rfl⟩
    · exact (Except.ok.inj rawSame).symm
    · exact nomatch rawSame
  refine Owns.await read ?_
  rintro reply left first late ⟨rfl, modeRead⟩
  cases reply with
  | error error => rfl
  | ok systemMode =>
    obtain rfl := modeRead systemMode rfl
    refine Owns.call (Owns.of_within_yields (fun _ seen asks => answers_asks asks)
      (sure_checks first.mode).1 (yields_checks first.mode) first) ?_
    rintro result left second latter ⟨rfl, passed⟩
    cases result with
    | error error => rfl
    | ok refusal =>
      have checked : (RiskService.decisionOf intent first.mode refusal).approved = true →
          first.mode = .normal ∨ intent.reduceOnly = true := by
        cases refusal with
        | none => exact fun _ => passed none rfl rfl
        | some refusal => exact fun approved => Bool.noConfusion approved
      have named : (RiskService.decisionOf intent first.mode refusal).intentId =
          intent.intentId := by
        cases refusal <;> rfl
      exact keeps_recordAndPublish (Later.intents late intent onRecord) named
        (begun.trans (Later.epoch late)) latter checked

theorem keeps_handleOrderIntentEvent {service : RiskService} (begun : epoch ≤ seen.epoch) :
    RiskKeeps (service.handleOrderIntentEvent intent)
      {(.handling (.orderIntent intent), epoch)} seen
      (leaving {(.handling (.orderIntent intent), epoch)}) := by
  have read : Answers riskPart (riskCondition switchesAtRest) discipline
      (.getDecisionByIntent intent.intentId) {(.handling (.orderIntent intent), epoch)} seen
      fun reply left next => left = {(.handling (.orderIntent intent), epoch)} ∧
        ∀ decision, reply = .ok (some decision) → decision ∈ next.decisions := by
    intro world rest choice reply next _ guarded _ answered
    obtain ⟨raw, answeredThere, values⟩ := riskPart_answer answered
    obtain ⟨rfl, recorded⟩ := answerRisk_getDecision answeredThere
    exact ⟨_, Later.refl _, guarded, rfl, fun decision same =>
      (recorded decision ((values _).mp same)).1⟩
  refine Owns.await read ?_
  rintro reply left next late ⟨rfl, recorded⟩
  match reply with
  | .error error => rfl
  | .ok (some decision) =>
    exact Owns.perform_last (answers_publishDecision (recorded decision rfl))
  | .ok none =>
    refine Owns.call (keeps_evaluateIntent (Later.intents late intent onRecord)
      (begun.trans (Later.epoch late))) fun result left last _ kept => ?_
    cases result <;> exact kept

end

/-! ### The tasks of the platform -/

/-- A task of the platform, under the guard. -/
abbrev Runs {Result : Type} (services : Services) (task : PlatformTask Result)
    (credit : Multiset (Job × Nat)) (seen : Platform)
    (post : Except Raised Result → Multiset (Job × Nat) → Platform → Prop) : Prop :=
  Owns (system services) switchesAtRest discipline task credit seen post

section Tasks

variable {services : Services} {seen : Platform} {epoch : Nat}

theorem runs_finish :
    Runs services (act (.finish job epoch)) {(job, epoch)} seen fun _ _ _ => True := by
  refine Owns.perform_last fun world rest choice reply next _ guarded _ answered => ?_
  cases answered
  obtain ⟨late, held⟩ := guarded.finish
  refine ⟨0, late, ?_, True.intro⟩
  rw [zero_add]
  exact held

theorem runs_work {task : PlatformTask Unit}
    (runs : Runs services task {(job, epoch)} seen fun _ left _ => left = {(job, epoch)}) :
    Runs services (Services.work job epoch task) {(job, epoch)} seen fun _ _ _ => True := by
  refine Owns.bind (Owns.catching (runs.weaken ?_))
  rintro result left last _ rfl
  cases result with
  | ok | error => exact runs_finish

theorem runs_handle (known : Known seen envelope) (begun : epoch ≤ seen.epoch) :
    Runs services (services.handle envelope) {(.handling envelope, epoch)} seen
      (leaving {(.handling envelope, epoch)}) := by
  cases envelope with
  | orderIntent intent => exact owns_onRisk (keeps_handleOrderIntentEvent known begun)
  | riskDecision payload => exact owns_onPipeline (keeps_handleRiskDecisionEvent known begun)
  | executionCommand payload =>
    exact owns_onPipeline ((keeps_handleExecutionCommand begun).weaken fun _ _ _ _ kept => kept.1)
  | brokerOrderEvent payload => exact owns_onPipeline (keeps_handleBrokerOrderEvent begun)
  | brokerTradeEvent payload =>
    exact owns_onPipeline (keeps_plain (within_handleTradeEvent payload))
  | portfolioPosition position => rfl
  | portfolioPnl snapshot => rfl

theorem runs_dispatch (known : Known seen envelope) (begun : epoch ≤ seen.epoch) :
    Runs services (services.dispatch envelope epoch) {(.handling envelope, epoch)} seen
      fun _ _ _ => True := by
  have done (seen : Platform) : Runs services (onPipeline (perform .taskDone))
      {(.handling envelope, epoch)} seen (leaving {(.handling envelope, epoch)}) := by
    refine owns_onPipeline (Owns.perform_last fun world rest choice reply next _ guarded _
      answered => ?_)
    obtain ⟨_, -, answered⟩ := pipelinePart_answer answered
    obtain ⟨rfl, rfl⟩ := answerPipeline_taskDone answered
    have frame := frame_taskDone guarded.linked
    exact ⟨_, frame.later, guarded.frame frame, rfl⟩
  refine runs_work (Owns.bind (Owns.catching ((runs_handle known begun).weaken ?_)))
  rintro result left last _ rfl
  cases result with
  | ok | error => exact done last

theorem runs_create (orderId clientOrderId : String) {now : Int} :
    Runs services (Services.create intent orderId clientOrderId now) 0 seen
      fun _ _ _ => True := by
  refine Owns.call (owns_onPipeline (keeps_createOrderIntent orderId clientOrderId)) fun result left last _ created => ?_
  cases result with
  | error error => exact True.intro
  | ok order =>
    obtain rfl := created order rfl
    exact runs_finish

theorem runs_publishOutbox {store : Store} {events : List (Nat × Envelope)}
    (known : ∀ entry ∈ events, Known seen entry.2) :
    Runs services (Services.publishOutbox store events) 0 seen fun _ _ _ => True := by
  induction events generalizing seen with
  | nil => exact True.intro
  | cons entry rest inductionHypothesis =>
    obtain ⟨index, envelope⟩ := entry
    have published : Answers (system services) switchesAtRest discipline
        (.pipeline (.publish envelope)) 0 seen (leaving 0) := by
      intro world credit choice reply next late guarded _ answered
      obtain ⟨chosen, -, answeredThere⟩ := pipelinePart_answer answered
      obtain ⟨rfl, rfl⟩ := answerPipeline_publish answeredThere
      have frame := frame_enqueue guarded.linked
        ((known _ List.mem_cons_self).later late)
      exact ⟨0, frame.later, guarded.frame frame, rfl⟩
    refine Owns.await published ?_
    rintro reply left first late rfl
    cases reply with
    | error error => exact True.intro
    | ok _ =>
      have marked : Answers (system services) switchesAtRest discipline
          (.markOutboxPublished store index) 0 first (leaving 0) := by
        intro world credit choice reply next _ guarded _ answered
        cases choice with
        | ok =>
          cases answered
          have frame := frame_markPublished guarded.linked store index
          exact ⟨0, frame.later, guarded.frame frame, rfl⟩
        | raises text =>
          cases answered
          exact ⟨0, Later.refl _, guarded, rfl⟩
        | _ => cases answered
      refine Owns.await marked ?_
      rintro reply left second latter rfl
      cases reply with
      | error error => exact True.intro
      | ok _ =>
        exact inductionHypothesis fun other member =>
          ((known other (List.mem_cons_of_mem _ member)).later late).later latter

theorem runs_outboxRound {store : Store} :
    Runs services (Services.outboxRound store) 0 seen fun _ _ _ => True := by
  have listed : Answers (system services) switchesAtRest discipline
      (.getOutboxEventsToPublish store) 0 seen fun reply left next => left = 0 ∧
        ∀ events, reply = .ok events → ∀ entry ∈ events, Known next entry.2 := by
    intro world credit choice reply next _ guarded _ answered
    cases choice with
    | ok =>
      cases answered
      refine ⟨0, Later.refl _, guarded, rfl, fun events same entry member => ?_⟩
      cases same
      obtain ⟨row, found, envelope⟩ := row_of_pending member
      exact envelope ▸ guarded.linked.stored store row (List.mem_of_getElem? found)
    | raises text =>
      cases answered
      exact ⟨0, Later.refl _, guarded, rfl, fun _ same => nomatch same⟩
    | _ => cases answered
  refine Owns.catching (Owns.await listed ?_)
  rintro reply left next _ ⟨rfl, known⟩
  cases reply with
  | error error => exact True.intro
  | ok events =>
    refine (runs_publishOutbox (known events rfl)).weaken fun result _ _ _ _ => ?_
    cases result <;> exact True.intro

theorem answers_setSystemMode {mode : SystemMode} :
    Answers (system services) switchesAtRest discipline (.setSystemMode mode) 0 seen
      (leaving 0) := by
  intro world rest choice reply next _ guarded met answered
  cases choice with
  | ok =>
    cases answered
    obtain ⟨late, held⟩ := guarded.setMode met
    exact ⟨0, late, held, rfl⟩
  | raises text =>
    cases answered
    exact ⟨0, Later.refl _, guarded, rfl⟩
  | _ => cases answered

theorem answers_audit {op : PlatformOp}
    (leaves : ∀ (world : Platform) choice reply next,
      world.answer op choice = some (reply, next) → next = world) :
    Answers (system services) switchesAtRest discipline op 0 seen (leaving 0) := by
  intro world rest choice reply next _ guarded _ answered
  obtain rfl := leaves world choice reply next answered
  exact ⟨0, Later.refl _, guarded, rfl⟩

theorem runs_publishAudit :
    Runs services (act .publishAudit) 0 seen (leaving 0) := by
  refine Owns.perform_last (answers_audit fun world choice reply next answered => ?_)
  cases choice <;> first
    | exact (congrArg Prod.snd (Option.some.inj answered)).symm
    | exact nomatch answered

theorem runs_setSystemMode {mode : SystemMode} :
    Runs services (Services.setSystemMode mode) 0 seen fun _ _ _ => True := by
  refine Owns.await answers_setSystemMode ?_
  rintro reply left next _ rfl
  cases reply with
  | error error => exact True.intro
  | ok _ => exact runs_publishAudit.weaken fun _ _ _ _ _ => True.intro

theorem runs_triggerKillSwitch {action : String} :
    Runs services (Services.triggerKillSwitch action) 0 seen fun _ _ _ => True := by
  have rest (seen : Platform) : Runs services
      (do
        act (.recordKillSwitch action)
        act .publishAudit) 0 seen fun _ _ _ => True := by
    refine Owns.await (answers_audit fun world choice reply next answered => ?_)
      fun reply left next _ kept => ?_
    · cases choice <;> first
        | exact (congrArg Prod.snd (Option.some.inj answered)).symm
        | exact nomatch answered
    · obtain rfl := kept
      cases reply with
      | error error => exact True.intro
      | ok _ => exact runs_publishAudit.weaken fun _ _ _ _ _ => True.intro
  unfold Services.triggerKillSwitch
  cases Services.killSwitchMode action with
  | none => exact rest seen
  | some mode =>
    refine Owns.await answers_setSystemMode ?_
    rintro reply left next _ rfl
    cases reply with
    | error error => exact True.intro
    | ok _ => exact rest next

end Tasks

theorem Guarded.kept (guarded : Guarded world credit) (frame : Frame world next) :
    Later world next ∧ Guarded next credit :=
  ⟨frame.later, guarded.frame frame⟩

theorem sound (services : Services) :
    Sound (system services) switchesAtRest discipline where
  start world total kind task next guarded _ started := by
    cases kind with
    | create intent orderId clientOrderId now =>
      cases started
      exact ⟨Later.refl _, 0, (zero_add total).symm ▸ guarded, runs_create _ _⟩
    | dispatch =>
      simp only [Platform.system, Platform.start] at started
      split at started
      · rename_i envelope rest idle queued
        cases started
        have taken : ({ world.pipeline with queue := rest, inHand := some envelope } :
            Pipeline).pending = world.pipeline.pending := by
          show [envelope] ++ rest = world.pipeline.pending
          rw [Pipeline.pending, idle, queued]
          rfl
        have frame : Frame world { world with
            pipeline := { world.pipeline with queue := rest, inHand := some envelope } } :=
          ⟨rfl, rfl, rfl, rfl, rfl, rfl, rfl, fun other member =>
            guarded.linked.pending other (taken ▸ member), guarded.linked.stored⟩
        obtain ⟨late, held⟩ := (guarded.frame frame).beginWork (.handling envelope) nofun
        have known : Known world envelope := guarded.linked.pending envelope (by
          rw [Pipeline.pending, idle, queued]
          exact List.mem_cons_self)
        exact ⟨frame.later.trans late, _, held,
          runs_dispatch (known.later (frame.later.trans late)) (le_refl _)⟩
      · cases started
    | outbox store =>
      cases started
      exact ⟨Later.refl _, 0, (zero_add total).symm ▸ guarded, runs_outboxRound⟩
    | recover =>
      cases started
      obtain ⟨late, held⟩ := guarded.beginWork .recovery nofun
      exact ⟨late, _, held, runs_work (owns_onPipeline
          ((keeps_recoverApprovedOrders le_rfl).weaken fun _ _ _ _ kept => kept.1))⟩
    | execute orderId clientOrderId =>
      cases started
      obtain ⟨late, held⟩ := guarded.beginWork (.execution orderId) nofun
      exact ⟨late, _, held, runs_work (owns_onPipeline
        (keeps_executeOrder (fun _ exits => exits) (le_refl _)))⟩
    | reconcile =>
      simp only [Platform.system, Platform.start] at started
      split at started
      · cases started
      · cases started
        have beside : Beside anyOrder world { world with
            pipeline := { world.pipeline with reconciling := true } } :=
          beside_of_eq rfl rfl rfl rfl
        obtain ⟨late, held⟩ := guarded.kept (frame_beside guarded.linked beside)
        exact ⟨late, 0, (zero_add total).symm ▸ held,
          (owns_onPipeline (keeps_plain within_reconciliationRound)).weaken
            fun _ _ _ _ _ => True.intro⟩
    | triggerKillSwitch action =>
      cases started
      exact ⟨Later.refl _, 0, (zero_add total).symm ▸ guarded, runs_triggerKillSwitch⟩
    | setSystemMode mode =>
      cases started
      exact ⟨Later.refl _, 0, (zero_add total).symm ▸ guarded, runs_setSystemMode⟩
  disturb world total cause next guarded _ disturbed := by
    obtain ⟨broker, rfl⟩ := eq_of_disturb disturbed
    exact guarded.kept (frame_beside guarded.linked
      (show Beside anyOrder _ _ from beside_of_eq rfl rfl rfl rfl))
  restart _ _ guarded _ := guarded.restart

end

/-- The broker was called, where entries are blocked, for reduce-only orders only. -/
def StopsEntries (world : Platform) : Prop :=
  ∀ placement ∈ world.placements, blocks placement.2 = true →
    ∃ row ∈ world.pipeline.oms.rows, row.clientOrderId = placement.1.clientOrderId ∧
      row.reduceOnly = true

instance (world : Platform) : Decidable (StopsEntries world) :=
  inferInstanceAs (Decidable (∀ placement ∈ world.placements, _))

end KillSwitch

open KillSwitch in
/-- In every run in which each switch out of the normal mode is made at rest, over any
interleaving of the services, their outboxes, the recovery and restarts, the broker is called for
no order that is not reduce-only until the mode is normal again. -/
theorem triggerKillSwitch_stops_entries (services : Services)
    (config : Config PlatformOp PlatformReply Raised Platform)
    (reaches : (Platform.system services).Reaches switchesAtRest ⟨.initial, []⟩ config) :
    StopsEntries config.world := by
  have start : Owned (Platform.system services) switchesAtRest discipline ⟨.initial, []⟩ :=
    owned_idle guarded_initial
  obtain ⟨credits, guarded, -⟩ := start.reaches (sound services) reaches
  exact Guarded.placed guarded

namespace KillSwitch

/-! ### Runs of one order -/

def entry : OrderIntent where
  intentId := "intent-1"
  correlationId := "correlation-1"
  strategyInstanceId := none
  instrumentId := "INST-NIFTY-2026-01-29-25000-CE"
  symbol := "NIFTY"
  side := .buy
  orderType := .limit
  quantity := 75
  price := 100
  triggerPrice := none
  tradingMode := .live
  reduceOnly := false
  createdAt := 0

/-- The exit of it. -/
def exitIntent : OrderIntent := { entry with side := .sell, reduceOnly := true }

def services : Services where
  risk :=
    { maxOrderQty := 100
      liveAccountId := "account"
      portfolioService := true
      brokerGateway := some "breeze"
      brokerSessionService := true
      marketDataService := true
      liveMaxOrderNotional := 50000
      liveMaxOpenPositions := 2
      text := fun _ => "price"
      money := fun _ => "amount" }
  execution := ⟨"breeze", true, true, true⟩

def held : BrokerPositionResponse where
  stockCode := "NIFTY"
  quantity := 75
  averagePrice := 100
  strikePrice := some 25000
  right := some "CE"
  expiryDate := some "2026-01-29"

abbrev Step := Event PlatformAnswer PlatformStart PlatformDisturbance

/-- Statements of one task that succeed. -/
def commits (task count : Nat) : List Step :=
  List.replicate count (.resume task (.pipeline .ok))

/-- An intent is saved and its order dispatched. -/
def created (task : Nat) (intent : OrderIntent) : List Step :=
  .start (.create intent "order-1" "CL-1" 0) :: commits task 4 ++ [.resume task .ok]

/-- The dispatcher hands the intent to the risk service, whose checks are answered, and which
approves it. -/
def evaluated (task : Nat) (checks : List PlatformAnswer) : List Step :=
  .start .dispatch :: .resume task .ok :: .resume task .ok :: checks.map (.resume task) ++
    [.resume task .ok, .resume task .ok] ++ commits task 1 ++ [.resume task .ok]

/-- The dispatcher hands the decision to the OMS, which approves the order. -/
def approved (task : Nat) : List Step :=
  .start .dispatch :: commits task 4 ++ [.resume task .ok]

def halted (task : Nat) : List Step :=
  [.start (.triggerKillSwitch "HALT"), .resume task .ok, .resume task .ok, .resume task .ok]

def placedResponse : BrokerOrderResponse where
  success := true
  brokerOrderId := some "broker-1"
  clientOrderId := "CL-1"
  status := "PLACED"
  message := none
  filledQuantity := 0
  averagePrice := 0

/-- The dispatcher hands the command to the execution service, which calls the broker. -/
def executed (task : Nat) (health : List PipelineAnswer) : List Step :=
  .start .dispatch :: commits task 2 ++
    health.map (fun answer => .resume task (.pipeline answer)) ++ commits task 2 ++
    [.resume task (.pipeline (.response placedResponse))]

/-- An entry is approved, the kill switch is triggered, and the command is handled. -/
def haltedTooLate : List Step :=
  created 0 entry ++
    evaluated 1 [.session ⟨true, some "CONNECTED"⟩, .feedHealth ⟨true, []⟩,
      .authorization true "LIVE authorization valid", .positions [], .funds ⟨20000, 20000, 0⟩,
      .duplicate false] ++
    approved 2 ++ halted 3 ++
    executed 4 [.session ⟨true, some "CONNECTED"⟩, .feedHealth ⟨true, []⟩,
      .authorization true "LIVE authorization valid"]

/-- The kill switch is triggered, and an exit goes through. -/
def exitWhileHalted : List Step :=
  halted 0 ++ created 1 exitIntent ++ evaluated 2 [.positions [held], .duplicate false] ++ approved 3 ++
    executed 4 []

end KillSwitch

open KillSwitch in
/-- An entry that was approved before the kill switch reaches the broker after it. -/
theorem triggerKillSwitch_lets_entry_through :
    ¬ ∀ (services : Services) (config : Config PlatformOp PlatformReply Raised Platform),
      (Platform.system services).Reaches anyPlatform ⟨.initial, []⟩ config →
      StopsEntries config.world := by
  intro stops
  have runs : ((Platform.system KillSwitch.services).run anyPlatform ⟨.initial, []⟩
      haltedTooLate).map (fun config => decide (StopsEntries config.world)) = some false := by
    decide +kernel
  obtain ⟨config, reaches, entered⟩ := System.reaches_of_map runs
  exact of_decide_eq_false entered (stops _ config
    reaches)

open KillSwitch in
/-- A reduce-only order reaches the broker while the system is halted. -/
theorem triggerKillSwitch_stops_entries_exit :
    ∃ config, (Platform.system KillSwitch.services).Reaches switchesAtRest ⟨.initial, []⟩ config ∧
      config.world.placements.map Prod.snd = [SystemMode.halted] ∧ StopsEntries config.world := by
  have runs : ((Platform.system KillSwitch.services).run switchesAtRest ⟨.initial, []⟩
      exitWhileHalted).map (fun config => config.world.placements.map Prod.snd) =
      some [SystemMode.halted] := by decide +kernel
  obtain ⟨config, reaches, placed⟩ := System.reaches_of_map runs
  exact ⟨config, reaches, placed, triggerKillSwitch_stops_entries KillSwitch.services config
    reaches⟩

end BreezeTrading
