/-
This file proves when an order is submitted at most once. Moving it from APPROVED to SUBMITTING is
a credit, which calling the broker spends; the invariant counts calls and reservations together.
It holds in every run in which no reservation meets another one. Two concurrent calls of
`execute_order` that both pass the check for APPROVED break this.
-/

import BreezeTrading.Execution.Parts
import BreezeTrading.Pipeline.System
import Mathlib.Algebra.Group.Prod

namespace BreezeTrading

open Async

namespace Submission

/-! ### The condition -/

/-- No reservation of the order meets another one. -/
def condition (clientOrderId : String) :
    Condition PipelineOp Pipeline PipelineAnswer PipelineStart PipelineDisturbance where
  answer world op _ :=
    match op with
    | .getOrderById orderId =>
        decide (∀ row ∈ world.oms.rows, row.orderId = orderId →
          row.clientOrderId = clientOrderId → row.status ≠ .submitting)
    | .saveBrokerOrderWithTransition order (some .approved) .submitting _ =>
        decide (∀ row ∈ world.oms.rows, row.orderId = order.orderId →
          row.clientOrderId = clientOrderId → row.status = .approved)
    | _ => true

/-! ### The invariant -/

/-- The states before a submission is reserved. -/
def unreserved : OrderState → Bool
  | .created | .validating | .approved => true
  | _ => false

/-- The order has left the states before its reservation. -/
def Reserved (clientOrderId : String) (world : Pipeline) : Prop :=
  ∃ status, world.oms.statusOf clientOrderId = some status ∧ unreserved status = false

/-- An event about the order that an order without a reservation can receive. -/
def Harmless (clientOrderId : String) (envelope : Envelope) : Prop :=
  ∀ event, envelope = .brokerOrderEvent event → event.clientOrderId = clientOrderId →
    upper event.status = "FAILED_SAFE"

/-- The credit of a task: its reservations of the order, the dispatcher's turn, and the
dispatcher's turn while it decides on the order in VALIDATING. -/
abbrev Credit := ℕ × ℕ × ℕ

/-- Calls and reservations together are at most one, and none before the order is reserved. -/
structure Safe (clientOrderId : String) (world : Pipeline) (credit : Credit) : Prop where
  once : world.placements clientOrderId + credit.1 ≤ 1
  unused : ¬ Reserved clientOrderId world →
    world.placements clientOrderId + credit.1 = 0 ∧
      ∀ envelope ∈ world.queue, Harmless clientOrderId envelope
  deciding : 0 < credit.2.2 → world.oms.statusOf clientOrderId = some .validating
  turn : credit.2.1 + credit.2.2 = if world.inHand.isSome then 1 else 0

/-- Orders stay known under their ids, and a reserved order stays reserved. -/
def Later (clientOrderId : String) (world next : Pipeline) : Prop :=
  (∀ orderId other, world.oms.Knows orderId other → next.oms.Knows orderId other) ∧
    (Reserved clientOrderId world → Reserved clientOrderId next)

def discipline (clientOrderId : String) : Discipline Pipeline Credit where
  later := Later clientOrderId
  refl _ := ⟨fun _ _ known => known, fun reserved => reserved⟩
  trans first second := ⟨fun orderId other known => second.1 orderId other
    (first.1 orderId other known), fun reserved => second.2 (first.2 reserved)⟩
  holds := Safe clientOrderId

section

variable {clientOrderId : String} {service : ExecutionService}

/-- A task that owns its credit, in this discipline. -/
abbrev Safely (service : ExecutionService) (clientOrderId : String) {Result : Type}
    (task : Task Result) (credit : Credit) (seen : Pipeline)
    (post : Except Raised Result → Credit → Pipeline → Prop) : Prop :=
  Owns (Pipeline.system service) (condition clientOrderId) (discipline clientOrderId) task
    credit seen post

/-- An operation that keeps the invariant, in this discipline. -/
abbrev Replies (service : ExecutionService) (clientOrderId : String) (op : PipelineOp)
    (credit : Credit) (seen : Pipeline)
    (post : Except Raised (PipelineReply op) → Credit → Pipeline → Prop) : Prop :=
  Answers (Pipeline.system service) (condition clientOrderId) (discipline clientOrderId) op
    credit seen post

variable {world next seen : Pipeline} {credit : Credit} {envelope : Envelope} {order : BrokerOrder}
  {toState : OrderState} {reason : Option String}

theorem later_of_oms (oms : next.oms = world.oms) : Later clientOrderId world next := by
  unfold Later Reserved
  rw [oms]
  exact ⟨fun _ _ known => known, fun reserved => reserved⟩

theorem reserved_of_oms (oms : next.oms = world.oms) :
    Reserved clientOrderId next ↔ Reserved clientOrderId world := by
  unfold Reserved
  rw [oms]

/-- The invariant reads the orders, the queue, the turn and the calls. -/
structure Same (world next : Pipeline) : Prop where
  oms : next.oms = world.oms
  queue : next.queue = world.queue
  inHand : next.inHand = world.inHand
  placed : next.placed = world.placed

theorem Same.of_told (told : Pipeline.Told world next) : Same world next :=
  ⟨told.oms, told.queue, told.inHand, told.placed⟩

theorem placements_of_placed (placed : next.placed = world.placed) :
    next.placements clientOrderId = world.placements clientOrderId := by
  unfold Pipeline.placements
  rw [placed]

theorem Safe.same (safe : Safe clientOrderId world credit) (same : Same world next) :
    Safe clientOrderId next credit := by
  refine ⟨placements_of_placed same.placed ▸ safe.once, ?_, ?_, same.inHand ▸ safe.turn⟩
  · rw [placements_of_placed same.placed, same.queue, reserved_of_oms same.oms]
    exact safe.unused
  · rw [same.oms]
    exact safe.deciding

/-! ### Operations -/

theorem replies_same {op : PipelineOp} (known : Except Raised (PipelineReply op) → Pipeline → Prop)
    (same : ∀ world choice reply next, Pipeline.answer world op choice = some (reply, next) →
      Same world next ∧ known reply next) :
    Replies service clientOrderId op credit seen fun reply left next =>
      left = credit ∧ known reply next := by
  intro world rest choice reply next late safe met answered
  obtain ⟨frame, fact⟩ := same world choice reply next answered
  exact ⟨credit, later_of_oms frame.oms, safe.same frame, rfl, fact⟩

theorem replies_reading {op : PipelineOp} (value : Pipeline → PipelineReply op)
    (reads : ∀ world choice, Pipeline.answer world op choice =
      Pipeline.reading world (value world) choice) :
    Replies service clientOrderId op credit seen fun reply left next =>
      left = credit ∧ ∀ result, reply = .ok result → result = value next := by
  refine replies_same _ fun world choice reply next answered => ?_
  rw [reads] at answered
  obtain ⟨rfl, rfl | ⟨error, rfl⟩⟩ := Pipeline.reading_eq_some answered
  · exact ⟨.of_told (Pipeline.told_refl _), fun result equal => (Except.ok.inj equal).symm⟩
  · exact ⟨.of_told (Pipeline.told_refl _), fun result equal => nomatch equal⟩

theorem replies_asking {op : PipelineOp} {select : PipelineAnswer → Option (PipelineReply op)}
    {learn : Pipeline → PipelineReply op → Pipeline}
    (asks : ∀ world choice, Pipeline.answer world op choice =
      Pipeline.asking world select (learn world) choice)
    (told : ∀ world value, Pipeline.Told world (learn world value)) :
    Replies service clientOrderId op credit seen (leaving credit) := by
  refine (replies_same (fun _ _ => True)
    fun world choice reply next answered => ?_).weaken fun _ _ _ _ post => post.1
  rw [asks] at answered
  rcases Pipeline.asking_eq_some answered with ⟨rfl, -⟩ | ⟨value, -, -, rfl⟩
  · exact ⟨.of_told (Pipeline.told_refl _), trivial⟩
  · exact ⟨.of_told (told world value), trivial⟩

theorem replies_publish (allowed : Reserved clientOrderId seen ∨ Harmless clientOrderId envelope) :
    Replies service clientOrderId (.publish envelope) credit seen fun reply left _ =>
      left = credit ∧ reply = .ok () := by
  intro world rest choice reply next late safe met answered
  obtain ⟨rfl, rfl⟩ := Pipeline.always_eq_some answered
  refine ⟨credit, later_of_oms rfl, ⟨safe.once, fun open_ => ?_, safe.deciding, safe.turn⟩,
    rfl, rfl⟩
  have fresh : ¬ Reserved clientOrderId world := open_
  have harmless := allowed.resolve_left fun reserved => fresh (late.2 reserved)
  refine ⟨(safe.unused fresh).1, fun other member => ?_⟩
  rcases Stored.mem_concat.mp member with old | rfl
  · exact (safe.unused fresh).2 other old
  · exact harmless

theorem replies_taskDone (turn : credit.2.1 + credit.2.2 = 1) :
    Replies service clientOrderId .taskDone credit seen fun _ _ _ => True := by
  intro world rest choice reply next late safe met answered
  obtain ⟨rfl, rfl⟩ := Pipeline.always_eq_some answered
  have whole := safe.turn
  have bound : (if world.inHand.isSome then 1 else 0) ≤ 1 := by split <;> omega
  simp only [Prod.fst_add, Prod.snd_add] at whole
  refine ⟨(credit.1, 0, 0), later_of_oms rfl, ⟨safe.once, safe.unused, ?_, ?_⟩, trivial⟩
  · intro positive
    simp only [Prod.snd_add] at positive
    omega
  · show 0 + rest.2.1 + (0 + rest.2.2) = 0
    omega

theorem replies_placeOrder {request : BrokerOrderRequest} {mode : TradingMode}
    (reservation : request.clientOrderId = clientOrderId → 0 < credit.1) :
    Replies service clientOrderId (.placeOrder request mode) credit seen
      fun _ left _ => left.2 = credit.2 := by
  intro world rest choice reply next late safe met answered
  obtain rfl : next = { world with placed := world.placed ++ [request] } := by
    rcases Pipeline.asking_eq_some answered with ⟨rfl, -⟩ | ⟨value, -, -, rfl⟩ <;> rfl
  have called : ({ world with placed := world.placed ++ [request] } : Pipeline).placements
      clientOrderId = world.placements clientOrderId +
        if request.clientOrderId = clientOrderId then 1 else 0 := by
    simp only [Pipeline.placements, List.countP_append, List.countP_singleton, decide_eq_true_eq]
  refine ⟨(credit.1 - if request.clientOrderId = clientOrderId then 1 else 0, credit.2),
    later_of_oms rfl, ⟨?_, ?_, safe.deciding, safe.turn⟩, rfl⟩
  · have once := safe.once
    rw [called]
    simp only [Prod.fst_add] at once ⊢
    split
    · rename_i same
      have := reservation same
      omega
    · omega
  · intro fresh
    have unused := safe.unused fresh
    rw [called]
    simp only [Prod.fst_add] at unused ⊢
    split
    · rename_i same
      have := reservation same
      omega
    · exact ⟨by omega, unused.2⟩

/-! ### Writing an order -/

/-- An order that a task holds a snapshot of. -/
def Held (order : BrokerOrder) (world : Pipeline) : Prop :=
  world.oms.Knows order.orderId order.clientOrderId

theorem Held.later (held : Held order world) (late : Later clientOrderId world next) :
    Held order next :=
  late.1 _ _ held

theorem Held.of_ids {other : BrokerOrder} (held : Held order world)
    (orderId : other.orderId = order.orderId) (client : other.clientOrderId = order.clientOrderId) :
    Held other world := by
  unfold Held
  rw [orderId, client]
  exact held

theorem savedOrder_cases {choice : PipelineAnswer} {reply : Except Raised Unit}
    (held : Held order world) (answered : Pipeline.committing world (world.savedOrder order toState)
      choice = some (reply, next)) : (next = world ∧ ∃ error, reply = .error error) ∨
      (reply = .ok () ∧ ∃ table, next = { world with oms := table } ∧
        (∀ orderId other, world.oms.Knows orderId other → table.Knows orderId other) ∧
        ∀ other, table.statusOf other =
          if order.clientOrderId = other then some toState else world.oms.statusOf other) := by
  rcases Pipeline.committing_eq_some answered with outcome | failed
  · unfold Pipeline.savedOrder at outcome
    split at outcome
    · rename_i table stored
      cases outcome
      exact Or.inr ⟨rfl, table, rfl, fun _ _ known => known.save stored,
        OrderTable.statusOf_save stored held.agrees⟩
    · cases outcome
      exact Or.inl ⟨rfl, _, rfl⟩
  · exact Or.inl failed

theorem not_reserved {status : OrderState} (found : world.oms.statusOf clientOrderId = some status)
    (open_ : unreserved status = true) : ¬ Reserved clientOrderId world := by
  rintro ⟨other, same, closed⟩
  obtain rfl := Option.some.inj (found.symm.trans same)
  rw [open_] at closed
  cases closed

theorem replies_save_broker {fromState : Option OrderState} (held : Held order seen)
    (turn : credit.2 = (1, 0))
    (closed : order.clientOrderId = clientOrderId → unreserved toState = false) :
    Replies service clientOrderId
      (.saveBrokerOrderWithTransition order fromState toState reason) credit seen
      (leaving credit) := by
  intro world rest choice reply next late safe met answered
  rcases savedOrder_cases (held.later late) answered with
    ⟨rfl, -⟩ | ⟨-, table, rfl, knows, statusOf⟩
  · exact ⟨credit, (discipline clientOrderId).refl _, safe, rfl⟩
  have whole := safe.turn
  have bound : (if world.inHand.isSome then 1 else 0) ≤ 1 := by split <;> omega
  simp only [turn, Prod.snd_add, Prod.fst_add] at whole
  have reserves : Reserved clientOrderId world →
      Reserved clientOrderId { world with oms := table } := by
    rintro ⟨status, found, isClosed⟩
    by_cases same : order.clientOrderId = clientOrderId
    · exact ⟨toState, by rw [statusOf, if_pos same], closed same⟩
    · exact ⟨status, by rw [statusOf, if_neg same, found], isClosed⟩
  refine ⟨credit, ⟨knows, reserves⟩, ⟨safe.once, ?_, ?_, safe.turn⟩, rfl⟩
  · intro fresh
    exact safe.unused fun reserved => fresh (reserves reserved)
  · intro positive
    simp only [turn, Prod.snd_add] at positive
    omega

theorem replies_save_decision {fromState : Option OrderState} (held : Held order seen)
    (turn : credit.2.1 + credit.2.2 = 1)
    (decides : order.clientOrderId = clientOrderId → 0 < credit.2.2) : Replies service clientOrderId
      (.saveBrokerOrderWithTransition order fromState toState reason) credit seen
      fun _ left _ => left.2.1 + left.2.2 = 1 := by
  intro world rest choice reply next late safe met answered
  rcases savedOrder_cases (held.later late) answered with
    ⟨rfl, -⟩ | ⟨-, table, rfl, knows, statusOf⟩
  · exact ⟨credit, (discipline clientOrderId).refl _, safe, turn⟩
  have whole := safe.turn
  have bound : (if world.inHand.isSome then 1 else 0) ≤ 1 := by split <;> omega
  simp only [Prod.snd_add, Prod.fst_add] at whole
  refine ⟨(credit.1, 1, 0), ⟨knows, ?_⟩, ⟨safe.once, ?_, ?_, ?_⟩, rfl⟩
  · rintro ⟨status, found, isClosed⟩
    by_cases same : order.clientOrderId = clientOrderId
    · have validating := safe.deciding
        (by simp only [Prod.snd_add]; exact Nat.add_pos_left (decides same) _)
      exact absurd ⟨status, found, isClosed⟩ (not_reserved validating rfl)
    · exact ⟨status, by rw [statusOf, if_neg same, found], isClosed⟩
  · intro fresh
    refine safe.unused fun reserved => ?_
    by_cases same : order.clientOrderId = clientOrderId
    · have validating := safe.deciding
        (by simp only [Prod.snd_add]; exact Nat.add_pos_left (decides same) _)
      exact not_reserved validating rfl reserved
    · obtain ⟨status, found, isClosed⟩ := reserved
      exact fresh ⟨status, by rw [statusOf, if_neg same, found], isClosed⟩
  · intro positive
    simp only [Prod.snd_add] at positive
    omega
  · show 1 + rest.2.1 + (0 + rest.2.2) = if world.inHand.isSome then 1 else 0
    omega

theorem replies_reserve (held : Held order seen) : Replies service clientOrderId
      (.saveBrokerOrderWithTransition order (some .approved) .submitting reason) credit seen
      fun reply left next => left.2 = credit.2 ∧ (reply = .ok () →
        order.clientOrderId = clientOrderId → 0 < left.1 ∧ Reserved clientOrderId next) := by
  intro world rest choice reply next late safe met answered
  have heldNow := held.later late
  rcases savedOrder_cases heldNow answered with
    ⟨rfl, error, rfl⟩ | ⟨rfl, table, rfl, knows, statusOf⟩
  · exact ⟨credit, (discipline clientOrderId).refl _, safe, rfl, fun equal => nomatch equal⟩
  by_cases same : order.clientOrderId = clientOrderId
  · obtain ⟨row, member, named, client⟩ := heldNow
    have approved : row.status = .approved :=
      of_decide_eq_true met row member named (client.trans same)
    have found : world.oms.statusOf clientOrderId = some .approved := by
      rw [← same, ← client, OrderTable.statusOf_of_mem member, approved]
    have fresh := not_reserved found rfl
    have unused := safe.unused fresh
    have reserved : Reserved clientOrderId { world with oms := table } :=
      ⟨.submitting, by rw [statusOf, if_pos same], rfl⟩
    refine ⟨(credit.1 + 1, credit.2), ⟨knows, fun old => absurd old fresh⟩, ⟨?_, ?_, ?_,
      safe.turn⟩, rfl, fun _ _ => ⟨Nat.succ_pos _, reserved⟩⟩
    · have placements : ({ world with oms := table } : Pipeline).placements clientOrderId =
          world.placements clientOrderId := rfl
      simp only [Prod.fst_add] at unused ⊢
      omega
    · exact fun open_ => absurd reserved open_
    · intro positive
      have validating := safe.deciding positive
      rw [found] at validating
      cases validating
  · have unchanged : table.statusOf clientOrderId = world.oms.statusOf clientOrderId := by
      rw [statusOf, if_neg same]
    have reserves : Reserved clientOrderId { world with oms := table } ↔
        Reserved clientOrderId world := by
      unfold Reserved
      rw [unchanged]
    refine ⟨credit, ⟨knows, reserves.mpr⟩, ⟨safe.once, ?_, ?_, safe.turn⟩, rfl,
      fun _ client => absurd client same⟩
    · rw [reserves]
      exact safe.unused
    · intro positive
      exact unchanged.trans (safe.deciding positive)

/-! ### Reading an order -/

theorem replies_getOrder {orderId : String} :
    Replies service clientOrderId (.getOrder orderId) credit seen fun reply left next =>
      left = credit ∧ ∀ order, reply = .ok (some order) → order.orderId = orderId ∧
        Held order next := by
  refine (replies_reading (fun world => world.oms.getOrderById orderId)
    fun _ _ => rfl).weaken fun reply left next _ post => ⟨post.1, fun order equal => ?_⟩
  obtain ⟨member, named⟩ := OrderTable.mem_of_getOrderById (post.2 _ equal).symm
  exact ⟨named, OrderTable.knows_of_mem member⟩

theorem replies_getOrderByClientId {client : String} :
    Replies service clientOrderId (.getOrderByClientId client) credit seen
      fun reply left next => left = credit ∧ ∀ order, reply = .ok (some order) →
        order ∈ next.oms.rows ∧ order.clientOrderId = client := by
  refine (replies_reading
    (fun world => world.oms.getOrderByClientId client) fun _ _ => rfl).weaken fun reply left next _ post => ⟨post.1, fun order equal => ?_⟩
  exact OrderTable.mem_of_getOrderByClientId (post.2 _ equal).symm

theorem replies_listOrders {limit : Nat} :
    Replies service clientOrderId (.listOrders limit) credit seen fun reply left next =>
      left = credit ∧ ∀ orders : List BrokerOrder, reply = .ok orders →
        ∀ order ∈ orders, order ∈ next.oms.rows := by
  refine (replies_reading (fun world => world.oms.listOrders limit)
    fun _ _ => rfl).weaken fun reply left next _ post => ⟨post.1, fun orders equal order => ?_⟩
  rw [post.2 orders equal]
  exact OrderTable.mem_of_mem_listOrders

theorem replies_getOrderById {orderId : String} :
    Replies service clientOrderId (.getOrderById orderId) credit seen fun reply left next =>
      left = credit ∧ ∀ order, reply = .ok (some order) → order.orderId = orderId ∧
        Held order next ∧ (order.clientOrderId = clientOrderId → order.status ≠ .submitting) := by
  intro world rest choice reply next late safe met answered
  obtain ⟨rfl, result⟩ := Pipeline.reading_eq_some answered
  refine ⟨credit, (discipline clientOrderId).refl _, safe, rfl, fun order equal => ?_⟩
  rcases result with rfl | ⟨error, rfl⟩
  · obtain ⟨member, named⟩ := OrderTable.mem_of_getOrderById (Except.ok.inj equal)
    exact ⟨named, OrderTable.knows_of_mem member, of_decide_eq_true met order member named⟩
  · cases equal

/-- The dispatcher reads the orders to decide on: an order in VALIDATING stays so until it
has decided. -/
theorem replies_listOrders_decision {limit : Nat} (turn : credit.2 = (1, 0)) :
    Replies service clientOrderId (.listOrders limit) credit seen fun reply left next =>
      left.2.1 + left.2.2 = 1 ∧ ∀ orders : List BrokerOrder, reply = .ok orders →
        ∀ order ∈ orders,
        Held order next ∧ (order.clientOrderId = clientOrderId → order.status = .validating →
          0 < left.2.2) := by
  intro world rest choice reply next late safe met answered
  obtain ⟨rfl, result⟩ := Pipeline.reading_eq_some answered
  have whole := safe.turn
  simp only [turn, Prod.snd_add, Prod.fst_add] at whole
  by_cases validating : next.oms.statusOf clientOrderId = some .validating
  · refine ⟨(credit.1, 0, 1), (discipline clientOrderId).refl _,
      ⟨safe.once, safe.unused, fun _ => validating, ?_⟩, rfl, fun orders equal order member => ?_⟩
    · show 0 + rest.2.1 + (1 + rest.2.2) = if next.inHand.isSome then 1 else 0
      omega
    · rcases result with rfl | ⟨error, rfl⟩
      · cases equal
        exact ⟨OrderTable.knows_of_mem (OrderTable.mem_of_mem_listOrders member),
          fun _ _ => Nat.one_pos⟩
      · cases equal
  · refine ⟨credit, (discipline clientOrderId).refl _, safe, by rw [turn]; rfl,
      fun orders equal order member => ?_⟩
    rcases result with rfl | ⟨error, rfl⟩
    · cases equal
      have inRows := OrderTable.mem_of_mem_listOrders member
      refine ⟨OrderTable.knows_of_mem inRows, fun same status => absurd ?_ validating⟩
      rw [← same, OrderTable.statusOf_of_mem inRows, status]
    · cases equal

/-! ### Submission -/

theorem safely_boundaryMessage :
    Safely service clientOrderId (service.boundaryMessage order) credit seen (leaving credit) :=
  Owns.of_within seen (fun op next _ asked => by
    cases op with
    | getSessionStatus | getExecutionFeedHealth | validateLiveOrder =>
      exact replies_asking (fun _ _ => rfl) fun world _ => Pipeline.told_refl world
    | _ => exact asked.elim) (ExecutionService.asks_boundaryMessage order)

/-- A reservation that returns the order SUBMITTING has earned the credit to call the broker,
when the order is the one the invariant is about. -/
def ReservedFor (clientOrderId : String) (order : BrokerOrder) (credit : Credit)
    (world : Pipeline) : Prop :=
  order.clientOrderId = clientOrderId → 0 < credit.1 ∧ Reserved clientOrderId world

theorem safely_markOrderSubmitting {orderId : String} :
    Safely service clientOrderId (OmsService.markOrderSubmitting orderId) credit seen
      fun result left next => left.2 = credit.2 ∧ ∀ order, result = .ok (some order) →
        order.status = .submitting → ReservedFor clientOrderId order left next := by
  refine Owns.await replies_getOrderById ?_
  rintro reply left next _ ⟨rfl, read⟩
  match reply, read with
  | .error error, _ => exact ⟨rfl, fun _ equal => nomatch equal⟩
  | .ok none, _ => exact ⟨rfl, fun _ equal => nomatch equal⟩
  | .ok (some order), read =>
    obtain ⟨-, held, notSubmitting⟩ := read order rfl
    simp only
    split
    · rename_i submitting
      refine ⟨rfl, fun result equal _ same => ?_⟩
      obtain rfl := Option.some.inj (Except.ok.inj equal)
      exact absurd submitting (notSubmitting same)
    · split
      · rename_i notSubmitting' _
        refine ⟨rfl, fun result equal status => ?_⟩
        obtain rfl := Option.some.inj (Except.ok.inj equal)
        exact absurd status notSubmitting'
      · rename_i approved
        rw [not_not] at approved
        rw [approved]
        refine Owns.ofExcept (fun _ _ => ?_) fun _ _ => ⟨rfl, fun _ equal => nomatch equal⟩
        have heldReserved : Held { order with status := .submitting } next :=
          held.of_ids rfl rfl
        refine Owns.await (replies_reserve heldReserved) ?_
        rintro reply left' next' _ ⟨turn, earned⟩
        cases reply with
        | error error => exact ⟨turn, fun _ equal => nomatch equal⟩
        | ok _ =>
          refine ⟨turn, fun result equal _ same => ?_⟩
          obtain rfl := Option.some.inj (Except.ok.inj equal)
          exact earned rfl same

theorem safely_publish (allowed : Reserved clientOrderId seen ∨ Harmless clientOrderId envelope) :
    Safely service clientOrderId (perform (.publish envelope)) credit seen (leaving credit) :=
  Owns.perform_last ((replies_publish allowed).weaken fun _ _ _ _ post => post.1)

theorem harmless_other (other : ∀ event, envelope ≠ .brokerOrderEvent event) :
    Harmless clientOrderId envelope :=
  fun event equal => absurd equal (other event)

theorem harmless_trade (payload : BrokerTradeEvent) :
    Harmless clientOrderId (.brokerTradeEvent payload) :=
  harmless_other fun _ equal => nomatch equal

theorem allowed_of_reserved {event : BrokerOrderEvent}
    (reserved : event.clientOrderId = clientOrderId → Reserved clientOrderId world) :
    Reserved clientOrderId world ∨ Harmless clientOrderId (.brokerOrderEvent event) := by
  by_cases same : event.clientOrderId = clientOrderId
  · exact Or.inl (reserved same)
  · refine Or.inr fun other equal client => absurd ?_ same
    obtain rfl := Envelope.brokerOrderEvent.inj equal
    exact client

theorem safely_submitOrder {request : BrokerOrderRequest}
    (client : request.clientOrderId = order.clientOrderId)
    (reserved : ReservedFor clientOrderId order credit seen) :
    Safely service clientOrderId (ExecutionService.submitOrder order request) credit seen
      fun _ left next => left.2 = credit.2 ∧
        (order.clientOrderId = clientOrderId → Reserved clientOrderId next) := by
  refine Owns.await (replies_placeOrder
    fun same => (reserved (client.symm.trans same)).1) fun reply left next late turn => ?_
  have stillReserved : order.clientOrderId = clientOrderId → Reserved clientOrderId next :=
    fun same => late.2 (reserved same).2
  cases reply with
  | error error => exact ⟨turn, stillReserved⟩
  | ok response =>
    simp only
    generalize ExecutionService.normalizeBrokerStatus response.status = normalizedStatus
    refine Owns.await (replies_publish (allowed_of_reserved stillReserved)) ?_
    rintro reply left' next' late' ⟨rfl, rfl⟩
    have lastReserved : order.clientOrderId = clientOrderId → Reserved clientOrderId next' :=
      fun same => late'.2 (stillReserved same)
    simp only
    split
    · exact (safely_publish (Or.inr (harmless_trade _))).weaken
        fun _ last final latest same => ⟨same ▸ turn, fun client => latest.2 (lastReserved client)⟩
    · exact ⟨turn, lastReserved⟩

theorem safely_submitReserved (reserved : ReservedFor clientOrderId order credit seen) :
    Safely service clientOrderId (service.submitReserved order) credit seen
      fun _ left _ => left.2 = credit.2 := by
  unfold ExecutionService.submitReserved
  split
  · exact (safely_publish (allowed_of_reserved fun same => (reserved same).2)).weaken
      fun _ left _ _ same => congrArg Prod.snd same
  · rename_i request built
    refine Owns.catching ((safely_submitOrder
      (ExecutionService.buildBrokerRequest_clientOrderId built) reserved).weaken
      ?_)
    rintro result left next _ ⟨turn, still⟩
    cases result with
    | ok _ => exact turn
    | error error =>
      exact (safely_publish (allowed_of_reserved still)).weaken
        fun _ last _ _ same => same ▸ turn

theorem safely_executeOrder (orderId other : String) :
    Safely service clientOrderId (service.executeOrder orderId other) credit seen
      fun _ left _ => left.2 = credit.2 := by
  refine Owns.await replies_getOrder ?_
  rintro reply left next _ ⟨rfl, -⟩
  match reply with
  | .error error => rfl
  | .ok none => rfl
  | .ok (some order) =>
    simp only
    split
    · rfl
    · refine Owns.call safely_boundaryMessage ?_
      rintro result left' next' _ rfl
      match result with
      | .error error => rfl
      | .ok (some message) =>
        refine (safely_publish (Or.inr ?_)).weaken
          fun _ last _ _ same => congrArg Prod.snd same
        rintro event equal -
        obtain rfl := Envelope.brokerOrderEvent.inj equal
        show upper "FAILED_SAFE" = "FAILED_SAFE"
        decide
      | .ok none =>
        refine Owns.call safely_markOrderSubmitting ?_
        rintro result last next'' _ ⟨turn, earned⟩
        match result with
        | .error error => exact turn
        | .ok none => exact turn
        | .ok (some reserved) =>
          simp only
          split
          · exact turn
          · rename_i submitting
            rw [not_not] at submitting
            exact (safely_submitReserved (earned reserved rfl submitting)).weaken
              fun _ final _ _ same => same.trans turn

theorem safely_recoverApprovedOrders :
    Safely service clientOrderId service.recoverApprovedOrders credit seen
      fun _ left _ => left.2 = credit.2 :=
  ExecutionService.owns_recoverApprovedOrders
    ((replies_listOrders).weaken fun _ _ _ _ post => congrArg Prod.snd post.1)
    fun orderId client _ _ same =>
      (safely_executeOrder orderId client).weaken fun _ _ _ _ turn => turn.trans same

theorem safely_handleExecutionCommand {payload : ExecutionCommand} :
    Safely service clientOrderId (service.handleExecutionCommand payload) credit seen
      fun _ left _ => left.2 = credit.2 := by
  refine ExecutionService.owns_handleExecutionCommand ((replies_same (fun _ _ => True)
    fun world choice reply next answered => ?_).weaken fun _ _ _ _ post => congrArg Prod.snd post.1)
    fun left next same => (safely_executeOrder _ _).weaken
      fun _ _ _ _ turn => turn.trans same
  obtain ⟨rfl, rfl⟩ := Pipeline.always_eq_some answered
  exact ⟨⟨rfl, rfl, rfl, rfl⟩, trivial⟩

/-! ### Reconciliation -/

theorem safely_publishProgress {portfolioFilled : Int} {response : BrokerOrderResponse}
    (reserved : order.clientOrderId = clientOrderId → Reserved clientOrderId seen)
    : Safely service clientOrderId
      (ExecutionService.publishProgress order portfolioFilled response) credit seen
      (leaving credit) := by
  refine Owns.await (replies_publish (allowed_of_reserved reserved)) ?_
  rintro reply left next _ ⟨rfl, rfl⟩
  simp only
  split
  · exact safely_publish (Or.inr (harmless_trade _))
  · rfl

variable {brokerTrades : Option (List BrokerTradeResponse)}

theorem safely_brokerEvidence :
    Safely service clientOrderId (ExecutionService.brokerEvidence order brokerTrades) credit
      seen (leaving credit) := by
  have awaiting : Safely service clientOrderId
      (ExecutionService.brokerEvidence.awaiting order brokerTrades) credit seen
      (leaving credit) := by
    unfold ExecutionService.brokerEvidence.awaiting
    split
    · refine Owns.await (replies_asking
        (fun _ _ => rfl) fun world value => Pipeline.told_learnRecovery world _ value) ?_
      rintro reply left next _ rfl
      match reply, brokerTrades with
      | .error error, _ => rfl
      | .ok (some response), _ => rfl
      | .ok none, some trades => rfl
      | .ok none, none =>
        refine Owns.await (replies_asking (fun _ _ => rfl)
          fun world value => Pipeline.told_learnTrades world value) ?_
        rintro reply left' next' _ rfl
        cases reply with
        | error error => rfl
        | ok trades => rfl
    · rfl
  unfold ExecutionService.brokerEvidence
  split
  · split
    · exact awaiting
    · refine Owns.await (replies_asking (fun _ _ => rfl)
        fun world value => Pipeline.told_learnStatus world _ value) ?_
      rintro reply left next _ rfl
      cases reply with
      | error error => rfl
      | ok response => rfl
  · exact awaiting

theorem safely_reconcilePending {portfolioFilled : Int}
    (reserved : order.clientOrderId = clientOrderId → Reserved clientOrderId seen) :
    Safely service clientOrderId
      (ExecutionService.reconcilePending order portfolioFilled brokerTrades) credit seen
      fun result left _ => left = credit ∧ ∃ trades, result = .ok trades := by
  refine Owns.catching (Owns.call safely_brokerEvidence ?_)
  rintro result left next late rfl
  match result with
  | .error error => exact ⟨rfl, _, rfl⟩
  | .ok (none, trades) => exact ⟨rfl, _, rfl⟩
  | .ok (some response, trades) =>
    refine Owns.catching (Owns.call (safely_publishProgress
      fun same => late.2 (reserved same)) ?_)
    rintro result left' next' _ rfl
    cases result with
    | error error => exact ⟨rfl, _, rfl⟩
    | ok _ => exact ⟨rfl, _, rfl⟩

theorem safely_reconcileOrders {orders : List BrokerOrder}
    (reserved : ∀ order ∈ orders, order.clientOrderId = clientOrderId → Reserved clientOrderId seen)
    : Safely service clientOrderId (service.reconcileOrders orders brokerTrades) credit seen
      (leaving credit) := by
  induction orders generalizing brokerTrades credit seen with
  | nil => rfl
  | cons order rest inductionHypothesis =>
    have progress : Safely service clientOrderId (service.portfolioFilled order) credit seen
        (leaving credit) := by
      unfold ExecutionService.portfolioFilled
      by_cases present : service.portfolioService = true
      · rw [if_pos present]
        exact Owns.perform_last ((replies_reading
          (fun world => world.portfolio.getExecutedQuantityForOrder order.orderId)
          fun _ _ => rfl).weaken fun _ _ _ _ post => post.1)
      · rw [if_neg present]
        rfl
    refine Owns.call progress ?_
    rintro result left next late rfl
    cases result with
    | error error => rfl
    | ok portfolioFilled =>
      have still : ∀ later, Later clientOrderId next later → ∀ order' ∈ order :: rest,
          order'.clientOrderId = clientOrderId → Reserved clientOrderId later :=
        fun later latter order' member same => latter.2 (late.2 (reserved order' member same))
      simp only
      split
      · have missing : Safely service clientOrderId
            (ExecutionService.publishMissing order portfolioFilled) left next
            fun _ final _ => final = left := by
          unfold ExecutionService.publishMissing
          simp only
          split
          · exact safely_publish (Or.inr (harmless_trade _))
          · rfl
        refine Owns.call missing ?_
        rintro result left' next' late' rfl
        cases result with
        | error error => rfl
        | ok _ =>
          exact inductionHypothesis fun order' member =>
            still next' late' order' (List.mem_cons_of_mem _ member)
      · refine Owns.call (safely_reconcilePending
          (still next ((discipline clientOrderId).refl next) order List.mem_cons_self)) ?_
        rintro result left' next' late' ⟨rfl, trades, rfl⟩
        exact inductionHypothesis fun order' member =>
          still next' late' order' (List.mem_cons_of_mem _ member)

theorem reserved_of_reconcilable (member : order ∈ world.oms.rows)
    (reconcilable : ExecutionService.reconcilable order = true)
    (same : order.clientOrderId = clientOrderId) : Reserved clientOrderId world := by
  refine ⟨order.status, same ▸ OrderTable.statusOf_of_mem member, ?_⟩
  obtain ⟨-, pending | filled⟩ := of_decide_eq_true reconcilable
  · revert pending
    cases order.status <;> decide
  · rw [filled]
    rfl

theorem safely_reconciliationRound :
    Safely service clientOrderId service.reconciliationRound credit seen
      fun _ _ _ => True := by
  have pass : Safely service clientOrderId service.reconcileLiveOrders credit seen
      (leaving credit) := by
    refine Owns.await replies_listOrders ?_
    rintro reply left next _ ⟨rfl, listed⟩
    cases reply with
    | error error => rfl
    | ok orders =>
      refine safely_reconcileOrders fun order member same => ?_
      obtain ⟨inOrders, reconcilable⟩ := List.mem_filter.mp member
      exact reserved_of_reconcilable (listed orders rfl order inOrders) reconcilable same
  have rest : ∀ left next, Safely service clientOrderId (perform .sleep) left next
      fun _ _ _ => True := fun left next =>
    Owns.perform_last ((replies_same (fun _ _ => True)
      fun world choice reply after answered => by
        obtain ⟨rfl, -⟩ := Pipeline.always_eq_some answered
        exact ⟨⟨rfl, rfl, rfl, rfl⟩, trivial⟩).weaken fun _ _ _ _ _ => trivial)
  refine Owns.bind (Owns.catching (pass.weaken fun result left next _ _ => ?_))
  cases result with
  | error | ok => exact rest left next

/-! ### The dispatcher -/

theorem brokerState_reserved {current : OrderState} (brokerStatus : String)
    (filledQuantity : Int) (closed : unreserved current = false) :
    unreserved (OmsService.brokerState current brokerStatus filledQuantity) = false := by
  unfold OmsService.brokerState
  split_ifs <;> first | rfl | exact closed

theorem brokerState_failedSafe (current : OrderState) (filledQuantity : Int) :
    OmsService.brokerState current "FAILED_SAFE" filledQuantity = .failedSafe := rfl

theorem safely_handleBrokerOrderEvent {payload : BrokerOrderEvent} (turn : credit.2 = (1, 0))
    (allowed : Reserved clientOrderId seen ∨ Harmless clientOrderId (.brokerOrderEvent payload)) :
    Safely service clientOrderId (OmsService.handleBrokerOrderEvent payload) credit seen
      (leaving credit) := by
  unfold OmsService.handleBrokerOrderEvent
  have expected : Reserved clientOrderId seen ∨ (payload.clientOrderId = clientOrderId →
      upper payload.status = "FAILED_SAFE") := allowed.imp_right fun harmless =>
    harmless payload rfl
  generalize upper payload.status = brokerStatus at expected
  refine Owns.await replies_getOrderByClientId ?_
  rintro reply left next late ⟨rfl, read⟩
  match reply, read with
  | .error error, _ => rfl
  | .ok none, _ => rfl
  | .ok (some order), read =>
    obtain ⟨member, client⟩ := read order rfl
    simp only
    split
    · refine Owns.ofExcept (fun _ _ => ?_) fun _ _ => rfl
      have held : Held (OmsService.reconciledOrder order payload
          (OmsService.brokerState order.status brokerStatus payload.filledQuantity)) next :=
        Held.of_ids (OrderTable.knows_of_mem member : Held order next) rfl rfl
      refine Owns.perform_last (replies_save_broker held turn ?_)
      intro same
      rcases expected with reserved | failedSafe
      · obtain ⟨status, found, closed⟩ := late.2 reserved
        rw [← same] at found
        obtain rfl := Option.some.inj ((OrderTable.statusOf_of_mem member).symm.trans found)
        exact brokerState_reserved brokerStatus _ closed
      · rw [failedSafe (client.symm.trans same), brokerState_failedSafe]
        rfl
    · rfl

theorem safely_handleRiskDecisionEvent {payload : RiskDecision} (turn : credit.2 = (1, 0)) :
    Safely service clientOrderId (OmsService.handleRiskDecisionEvent payload) credit seen
      fun _ left _ => left.2.1 + left.2.2 = 1 := by
  refine Owns.await (replies_listOrders_decision turn) ?_
  rintro reply left next _ ⟨turn', listed⟩
  match reply, listed with
  | .error error, _ => exact turn'
  | .ok orders, listed =>
    simp only
    split
    · exact turn'
    · rename_i order rest matching
      have member : order ∈ orders :=
        List.mem_of_mem_filter (matching ▸ List.mem_cons_self : order ∈ orders.filter _)
      obtain ⟨held, decides⟩ := listed orders rfl order member
      split
      · exact turn'
      · rename_i validating
        rw [not_not] at validating
        refine Owns.ofExcept (fun _ _ => ?_) fun _ _ => turn'
        have heldDecided : Held { order with
            status := if payload.approved then OrderState.approved else .riskRejected
            statusMessage := payload.reason } next := held.of_ids rfl rfl
        refine Owns.await (replies_save_decision heldDecided turn'
          fun same => decides same validating) fun reply left' next' _ turn => ?_
        cases reply with
        | error error => exact turn
        | ok _ =>
          simp only
          split
          · exact (safely_publish (Or.inr (harmless_other
              (by nofun)))).weaken fun _ last _ _ same => same ▸ turn
          · exact turn

theorem safely_handleTradeEvent {payload : BrokerTradeEvent} :
    Safely service clientOrderId (PortfolioService.handleTradeEvent payload) credit seen
      (leaving credit) := by
  have generated : Safely service clientOrderId (perform .generateId) credit seen
      (leaving credit) :=
    Owns.perform_last (replies_asking (fun _ _ => rfl)
      fun world _ => Pipeline.told_refl world)
  have named : Safely service clientOrderId (PortfolioService.executionId payload) credit seen
      (leaving credit) := by
    unfold PortfolioService.executionId
    split
    · split
      · exact generated
      · rfl
    · exact generated
  have snapshot : ∀ left next, Safely service clientOrderId
      PortfolioService.publishPnlSnapshot left next fun _ final _ => final = left := by
    intro left next
    refine Owns.await (replies_reading
      (fun world => world.portfolio.positions) fun _ _ => rfl) ?_
    rintro reply left' next' _ ⟨rfl, -⟩
    cases reply with
    | error error => rfl
    | ok positions =>
      refine Owns.await (replies_reading (fun _ => ())
        fun _ _ => rfl) ?_
      rintro reply last next'' _ ⟨rfl, -⟩
      cases reply with
      | error error => rfl
      | ok _ => exact safely_publish (Or.inr (harmless_other (by nofun)))
  refine Owns.call named ?_
  rintro result left next _ rfl
  cases result with
  | error error => rfl
  | ok executionId =>
    refine Owns.await (replies_asking (fun _ _ => rfl)
      fun world _ => Pipeline.told_refl world) ?_
    rintro reply left' next' _ rfl
    cases reply with
    | error error => rfl
    | ok quote =>
      refine Owns.await (replies_same (fun _ _ => True)
        fun world choice reply after answered => ?_) fun reply last next'' _ post => ?_
      · rcases Pipeline.committing_eq_some answered with outcome | ⟨rfl, -⟩
        · cases outcome
          exact ⟨⟨rfl, rfl, rfl, rfl⟩, trivial⟩
        · exact ⟨⟨rfl, rfl, rfl, rfl⟩, trivial⟩
      · obtain ⟨rfl, -⟩ := post
        match reply with
        | .error error => rfl
        | .ok (position, applied) =>
          simp only
          split
          · refine Owns.await (replies_publish (Or.inr (harmless_other (by nofun)))) ?_
            rintro reply final world _ ⟨rfl, rfl⟩
            exact snapshot final world
          · rfl

theorem safely_dispatch (turn : credit.2 = (1, 0))
    (allowed : Reserved clientOrderId seen ∨ Harmless clientOrderId envelope) :
    Safely service clientOrderId (dispatch service envelope) credit seen fun _ _ _ => True := by
  have handled : Safely service clientOrderId (handle service envelope) credit seen
      fun _ left _ => left.2.1 + left.2.2 = 1 := by
    have kept : ∀ left : Credit, left.2 = credit.2 → left.2.1 + left.2.2 = 1 := by
      intro left same
      rw [same, turn]
      rfl
    cases envelope with
    | riskDecision payload => exact safely_handleRiskDecisionEvent turn
    | executionCommand payload =>
      exact (safely_handleExecutionCommand).weaken
        fun _ left _ _ same => kept left same
    | brokerOrderEvent payload =>
      exact (safely_handleBrokerOrderEvent turn allowed).weaken
        fun _ left _ _ same => kept left (congrArg Prod.snd same)
    | brokerTradeEvent payload =>
      exact (safely_handleTradeEvent).weaken
        fun _ left _ _ same => kept left (congrArg Prod.snd same)
    | orderIntent | portfolioPosition | portfolioPnl => exact kept credit rfl
  refine Owns.bind (Owns.catching (handled.weaken fun result left next _ turn => ?_))
  cases result with
  | error | ok => exact Owns.perform_last (replies_taskDone turn)

/-! ### Runs -/

theorem safe_zero_add {total : Credit} (safe : Safe clientOrderId world total) :
    Safe clientOrderId world ((0, 0, 0) + total) := by
  have zero : ((0, 0, 0) : Credit) + total = total := zero_add total
  rw [zero]
  exact safe

theorem Safe.opened {table : OrderTable} {total : Credit} (safe : Safe clientOrderId world total)
    (stored : world.oms.saveBrokerOrderWithTransition order toState = .ok table)
    (agrees : world.oms.Agrees order) (before : order.clientOrderId = clientOrderId → ∀ status,
      world.oms.statusOf clientOrderId = some status → unreserved status = true ∧ status ≠
      .validating) : Later clientOrderId world { world with oms := table } ∧
      Safe clientOrderId { world with oms := table } total := by
  have statusOf := OrderTable.statusOf_save stored agrees clientOrderId
  by_cases same : order.clientOrderId = clientOrderId
  · rw [if_pos same] at statusOf
    have fresh : ¬ Reserved clientOrderId world := by
      rintro ⟨status, found, closed⟩
      rw [(before same status found).1] at closed
      cases closed
    refine ⟨⟨fun _ _ known => known.save stored, fun reserved => absurd reserved fresh⟩,
      ⟨safe.once, fun _ => safe.unused fresh, fun positive => ?_, safe.turn⟩⟩
    exact absurd rfl (before same _ (safe.deciding positive)).2
  · rw [if_neg same] at statusOf
    have reserves : Reserved clientOrderId { world with oms := table } ↔
        Reserved clientOrderId world := by
      unfold Reserved
      rw [statusOf]
    refine ⟨⟨fun _ _ known => known.save stored, reserves.mpr⟩,
      ⟨safe.once, ?_, fun positive => statusOf.trans (safe.deciding positive), safe.turn⟩⟩
    rw [reserves]
    exact safe.unused

theorem sound (service : ExecutionService) (clientOrderId : String) :
    Sound (Pipeline.system service) (condition clientOrderId) (discipline clientOrderId) where
  start world total kind task next safe _ started := by
    cases kind with
    | dispatch =>
      simp only [Pipeline.system, Pipeline.start] at started
      split at started
      · rename_i envelope rest idle queued
        cases started
        have turn := safe.turn
        rw [idle] at turn
        simp only [Option.isSome_none, Bool.false_eq_true, if_false] at turn
        have allowed : Reserved clientOrderId world ∨ Harmless clientOrderId envelope := by
          by_cases reserved : Reserved clientOrderId world
          · exact Or.inl reserved
          · exact Or.inr ((safe.unused reserved).2 envelope (queued ▸ List.mem_cons_self))
        refine ⟨later_of_oms rfl, (0, 1, 0), ⟨?_, ?_, ?_, ?_⟩, safely_dispatch rfl allowed⟩
        · have once := safe.once
          simp only [Prod.fst_add, Nat.zero_add]
          exact once
        · intro fresh
          obtain ⟨unused, quiet⟩ := safe.unused fresh
          refine ⟨by simp only [Prod.fst_add, Nat.zero_add]; exact unused, fun other member => ?_⟩
          exact quiet other (queued ▸ List.mem_cons_of_mem _ member)
        · intro positive
          simp only [Prod.snd_add, Nat.zero_add] at positive
          omega
        · show 1 + total.2.1 + (0 + total.2.2) = 1
          omega
      · cases started
    | recover =>
      cases started
      exact ⟨later_of_oms rfl, (0, 0, 0), safe_zero_add safe,
        (safely_recoverApprovedOrders).weaken fun _ _ _ _ _ => trivial⟩
    | execute orderId other =>
      cases started
      exact ⟨later_of_oms rfl, (0, 0, 0), safe_zero_add safe,
        (safely_executeOrder orderId other).weaken fun _ _ _ _ _ => trivial⟩
    | reconcile =>
      simp only [Pipeline.system, Pipeline.start] at started
      split at started
      · cases started
      · cases started
        exact ⟨later_of_oms rfl, (0, 0, 0), safe_zero_add (safe.same ⟨rfl, rfl, rfl, rfl⟩),
          safely_reconciliationRound⟩
  disturb world total cause next safe _ disturbed := by
    cases cause with
    | riskDecision payload =>
      cases disturbed
      refine ⟨later_of_oms rfl, ⟨safe.once, fun fresh => ?_, safe.deciding, safe.turn⟩⟩
      obtain ⟨unused, quiet⟩ := safe.unused fresh
      refine ⟨unused, fun other member => ?_⟩
      rcases Stored.mem_concat.mp member with old | rfl
      · exact quiet other old
      · exact harmless_other (by nofun)
    | orderCreated intent orderId client now =>
      simp only [Pipeline.system, Pipeline.disturb] at disturbed
      split at disturbed
      · cases disturbed
      · rename_i new
        split at disturbed
        · rename_i table stored
          cases disturbed
          refine safe.opened stored (fun row member same => absurd ?_ new)
            fun same status found => absurd ?_ new
          · exact Or.inl ⟨row, member, same⟩
          · obtain ⟨row, read, -⟩ := Option.map_eq_some_iff.mp found
            obtain ⟨member, named⟩ := OrderTable.mem_of_getOrderByClientId read
            exact Or.inr ⟨row, member, named.trans same.symm⟩
        · cases disturbed
    | orderDispatched orderId =>
      simp only [Pipeline.system, Pipeline.disturb] at disturbed
      split at disturbed
      · cases disturbed
      · rename_i order read
        split at disturbed
        · rename_i created
          split at disturbed
          · rename_i table stored
            cases disturbed
            have member := (OrderTable.mem_of_getOrderById read).1
            refine safe.opened stored (OrderTable.knows_of_mem member).agrees
              fun same status found => ?_
            rw [← same, OrderTable.statusOf_of_mem member, created] at found
            cases found
            exact ⟨rfl, by decide⟩
          · cases disturbed
        · cases disturbed
    | brokerAccepts | brokerFills =>
      simp only [Pipeline.system, Pipeline.disturb] at disturbed
      split at disturbed
      · cases disturbed
        exact ⟨later_of_oms rfl, safe.same ⟨rfl, rfl, rfl, rfl⟩⟩
      · cases disturbed
  restart world total safe _ := by
    refine ⟨?_, fun fresh => ?_, fun positive => absurd positive (lt_irrefl 0), rfl⟩
    · exact le_trans (Nat.add_le_add_left (Nat.zero_le _) _) safe.once
    · have unused := (safe.unused fresh).1
      exact ⟨Nat.add_eq_zero_iff.mpr ⟨(Nat.add_eq_zero_iff.mp unused).1, rfl⟩,
        fun _ member => absurd member List.not_mem_nil⟩

theorem safe_initial (clientOrderId : String) : Safe clientOrderId .initial 0 where
  once := Nat.zero_le 1
  unused _ := ⟨rfl, fun _ member => absurd member List.not_mem_nil⟩
  deciding positive := absurd positive (lt_irrefl 0)
  turn := rfl

end

end Submission

open Submission in
/-- In every run in which no reservation of an order meets another one, over any interleaving
of the command handler, the recovery, direct calls, reconciliation and restarts, the broker is
called at most once for the order. -/
theorem executeOrder_places_at_most_once (service : ExecutionService) (clientOrderId : String)
    (config : Config PipelineOp PipelineReply Raised Pipeline)
    (reaches : (Pipeline.system service).Reaches (condition clientOrderId)
      (Pipeline.idle .initial) config) :
    config.world.placements clientOrderId ≤ 1 := by
  have start : Owned (Pipeline.system service) (condition clientOrderId)
      (discipline clientOrderId) (Pipeline.idle .initial) :=
    owned_idle (safe_initial clientOrderId)
  obtain ⟨credits, safe, -⟩ := start.reaches (sound service clientOrderId) reaches
  exact le_trans (Nat.le_add_right _ _) safe.once

namespace Submission

/-! ### Runs of one order -/

def exitIntent : OrderIntent where
  intentId := "intent-1"
  correlationId := "correlation-1"
  strategyInstanceId := none
  instrumentId := "INST-NIFTY-2026-01-29-25000-CE"
  symbol := "NIFTY"
  side := .sell
  orderType := .limit
  quantity := 75
  price := 100
  triggerPrice := none
  tradingMode := .live
  reduceOnly := true
  createdAt := 0

def placedResponse : BrokerOrderResponse where
  success := true
  brokerOrderId := some "broker-1"
  clientOrderId := "CL-1"
  status := "PLACED"
  message := none
  filledQuantity := 0
  averagePrice := 0

def breezeService : ExecutionService := ⟨"breeze", true, true, true⟩

/-- An order is created and approved; the dispatcher hands its command to `execute_order`,
which reads it APPROVED. -/
def approvedAndRead : List (Event PipelineAnswer PipelineStart PipelineDisturbance) :=
  [.disturb (.orderCreated exitIntent "order-1" "CL-1" 0), .disturb (.orderDispatched "order-1"),
    .disturb (.riskDecision ⟨"intent-1", true, none⟩),
    .start .dispatch, .resume 0 .ok, .resume 0 .ok, .resume 0 .ok, .resume 0 .ok,
    .start .dispatch, .resume 1 .ok, .resume 1 .ok]

/-- The command reserves the order and calls the broker. -/
def submitted : List (Event PipelineAnswer PipelineStart PipelineDisturbance) :=
  [.resume 1 .ok, .resume 1 .ok, .resume 1 (.response placedResponse)]

/-- The recovery reads the order APPROVED before the command reserves it, and calls the broker
after. -/
def overlapping : List (Event PipelineAnswer PipelineStart PipelineDisturbance) :=
  approvedAndRead ++ [.start .recover, .resume 2 .ok, .resume 2 .ok] ++ submitted ++
    [.resume 2 .ok, .resume 2 (.response placedResponse)]

end Submission

open Submission in
/-- Without the condition one order is submitted twice: the command handler and the recovery
overlap between their check for APPROVED and their reservation. -/
theorem executeOrder_places_twice :
    ¬ ∀ (service : ExecutionService) (clientOrderId : String)
      (config : Config PipelineOp PipelineReply Raised Pipeline),
      (Pipeline.system service).Reaches Condition.unrestricted (Pipeline.idle .initial) config →
      config.world.placements clientOrderId ≤ 1 := by
  intro atMostOnce
  have twice : ((Pipeline.system breezeService).run Condition.unrestricted
      (Pipeline.idle .initial) overlapping).map (fun config => config.world.placements "CL-1") =
      some 2 := by decide +kernel
  obtain ⟨config, reaches, placements⟩ := System.reaches_of_map twice
  have bound := atMostOnce breezeService "CL-1" config
    reaches
  omega

open Submission in
/-- A run that meets the condition and submits the order once. -/
theorem executeOrder_places_once :
    ∃ config, (Pipeline.system breezeService).Reaches (condition "CL-1")
        (Pipeline.idle .initial) config ∧
      config.world.placements "CL-1" = 1 ∧ config.world.placements "CL-1" ≤ 1 := by
  have once : ((Pipeline.system breezeService).run (condition "CL-1") (Pipeline.idle .initial)
      (approvedAndRead ++ submitted)).map (fun config => config.world.placements "CL-1") =
      some 1 := by decide +kernel
  obtain ⟨config, reaches, placements⟩ := System.reaches_of_map once
  exact ⟨config, reaches, placements,
    executeOrder_places_at_most_once breezeService "CL-1" config reaches⟩

end BreezeTrading
