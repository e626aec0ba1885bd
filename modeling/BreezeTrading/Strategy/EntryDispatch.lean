/-
This file proves when the entry of a live trade is all or nothing. Its trade, the log, its order
and the reference to the order are written one after another, and nothing undoes the first when a
later one fails. The writes are stated over a book of entries, of which the state of the service
is one.
-/

import BreezeTrading.Lib.Custody
import BreezeTrading.Strategy.EntryRules
import Mathlib.Algebra.Group.Prod

namespace BreezeTrading

open Async Async.Coroutine StrategyService

/-! ### The book of entries -/

/-- The stored trades, the trades that were entered, those still being dispatched, and the orders to
buy that were created for each trade. -/
structure EntryBook where
  trades : List ActiveTrade
  entered : List ActiveTrade
  dispatching : List String
  bought : String → List String

namespace EntryBook

variable {book next : EntryBook} {tradeId orderId : String}

def Stored (book : EntryBook) (tradeId : String) : Prop :=
  ∃ row ∈ book.trades, row.tradeId = tradeId

/-- A live trade was entered under the id. -/
def Live (book : EntryBook) (tradeId : String) : Prop :=
  ∃ trade ∈ book.entered, trade.tradeId = tradeId ∧ trade.mode = .live

/-- One order was created for a live entry, and its record carries the id of the order. -/
structure Complete (book : EntryBook) (tradeId orderId : String) : Prop where
  live : book.Live tradeId
  stored : book.Stored tradeId
  bought : book.bought tradeId = [orderId]
  rows : ∀ row ∈ book.trades, row.tradeId = tradeId → row.entryOrderId = some orderId

/-- No order was created for a live entry, and its record is closed. -/
structure Void (book : EntryBook) (tradeId : String) : Prop where
  stored : book.Stored tradeId
  bought : book.bought tradeId = []
  rows : ∀ row ∈ book.trades, row.tradeId = tradeId → row.state = .closed

/-- Every entry has a record of its own; a live entry that is not being dispatched any more is void
or complete; and an order to buy belongs to a complete entry. -/
structure AllOrNothing (book : EntryBook) : Prop where
  own : (book.entered.map ActiveTrade.tradeId).Nodup
  settled : ∀ tradeId, book.Live tradeId → tradeId ∉ book.dispatching →
    book.Void tradeId ∨ ∃ orderId, book.Complete tradeId orderId
  referred : ∀ tradeId, tradeId ∉ book.dispatching → ∀ orderId ∈ book.bought tradeId,
    book.Complete tradeId orderId

/-- A live entry that is stored without an order; the order may have been created already. -/
structure Awaiting (book : EntryBook) (tradeId : String) (ordered : Option String) : Prop where
  live : book.Live tradeId
  stored : book.Stored tradeId
  bought : book.bought tradeId = ordered.toList
  rows : ∀ row ∈ book.trades, row.tradeId = tradeId →
    row.state = .entryPending ∧ row.entryOrderId = none

theorem Complete.not_awaiting (complete : book.Complete tradeId orderId) {ordered : Option String}
    (awaiting : book.Awaiting tradeId ordered) : False := by
  obtain ⟨row, member, same⟩ := complete.stored
  have carries := complete.rows row member same
  rw [(awaiting.rows row member same).2] at carries
  cases carries

/-- How far the dispatch of an entry has come. -/
inductive DispatchPhase where
  | awaiting (ordered : Option String)
  | done

/-- What holds of an entry in a phase. -/
def InPhase (book : EntryBook) (tradeId : String) : DispatchPhase → Prop
  | .awaiting ordered => book.Awaiting tradeId ordered
  | .done => book.Live tradeId → ∃ orderId, book.Complete tradeId orderId

/-- A copy of a trade that may be saved at any time: it carries the order of a complete entry, or
its trade was no live entry. -/
inductive Referenced (book : EntryBook) (copy : ActiveTrade) : Prop
  | complete (orderId : String) (complete : book.Complete copy.tradeId orderId)
      (carries : copy.entryOrderId = some orderId)
  | other (stored : book.Stored copy.tradeId) (notLive : ¬book.Live copy.tradeId)

/-- Two books agree on a trade. -/
structure Agrees (book next : EntryBook) (tradeId : String) : Prop where
  live : next.Live tradeId ↔ book.Live tradeId
  bought : next.bought tradeId = book.bought tradeId
  rows : ∀ row, row.tradeId = tradeId → (row ∈ next.trades ↔ row ∈ book.trades)

namespace Agrees

variable (agrees : Agrees book next tradeId)

include agrees

theorem stored (stored : book.Stored tradeId) : next.Stored tradeId := by
  obtain ⟨row, member, same⟩ := stored
  exact ⟨row, (agrees.rows row same).mpr member, same⟩

theorem complete (complete : book.Complete tradeId orderId) : next.Complete tradeId orderId where
  live := agrees.live.mpr complete.live
  stored := agrees.stored complete.stored
  bought := agrees.bought.trans complete.bought
  rows row member same := complete.rows row ((agrees.rows row same).mp member) same

theorem awaiting {ordered : Option String} (awaiting : book.Awaiting tradeId ordered) :
    next.Awaiting tradeId ordered where
  live := agrees.live.mpr awaiting.live
  stored := agrees.stored awaiting.stored
  bought := agrees.bought.trans awaiting.bought
  rows row member same := awaiting.rows row ((agrees.rows row same).mp member) same

theorem inPhase {phase : DispatchPhase} (inPhase : book.InPhase tradeId phase) :
    next.InPhase tradeId phase := by
  cases phase with
  | awaiting ordered => exact agrees.awaiting inPhase
  | done =>
    intro live
    obtain ⟨orderId, complete⟩ := inPhase (agrees.live.mp live)
    exact ⟨orderId, agrees.complete complete⟩

end Agrees

theorem Referenced.agrees {copy : ActiveTrade} (referenced : book.Referenced copy)
    (agrees : Agrees book next copy.tradeId) : next.Referenced copy := by
  cases referenced with
  | complete orderId complete carries => exact .complete orderId (agrees.complete complete) carries
  | other stored notLive =>
    exact .other (agrees.stored stored) fun live => notLive (agrees.live.mp live)

/-! ### Changes of the book -/

/-- A trade is stored. -/
def put (book : EntryBook) (trade : ActiveTrade) : EntryBook :=
  { book with trades := putTrade book.trades trade }

/-- A new trade is stored and about to be dispatched. -/
def enter (book : EntryBook) (trade : ActiveTrade) : EntryBook :=
  { book.put trade with
    entered := book.entered ++ [trade]
    dispatching := trade.tradeId :: book.dispatching }

/-- An order to buy is created for a trade. -/
def buy (book : EntryBook) (tradeId orderId : String) : EntryBook :=
  { book with
    bought := fun other =>
      if other = tradeId then book.bought other ++ [orderId] else book.bought other }

def endEntry (book : EntryBook) (tradeId : String) : EntryBook :=
  { book with dispatching := book.dispatching.erase tradeId }

section Changes

variable {copy : ActiveTrade}

theorem mem_put {row : ActiveTrade} (other : row.tradeId ≠ copy.tradeId) :
    row ∈ (book.put copy).trades ↔ row ∈ book.trades := by
  unfold put
  rw [mem_putTrade]
  constructor
  · rintro (⟨member, _⟩ | rfl)
    · exact member
    · exact absurd rfl other
  · exact fun member => Or.inl ⟨member, other⟩

theorem stored_put (book : EntryBook) (copy : ActiveTrade) :
    (book.put copy).Stored copy.tradeId :=
  ⟨copy, mem_putTrade.mpr (Or.inr rfl), rfl⟩

theorem eq_of_mem_put {row : ActiveTrade} (member : row ∈ (book.put copy).trades)
    (same : row.tradeId = copy.tradeId) : row = copy := by
  rcases mem_putTrade.mp member with ⟨_, other⟩ | rfl
  · exact absurd same other
  · rfl

theorem agrees_put (other : tradeId ≠ copy.tradeId) : Agrees book (book.put copy) tradeId :=
  ⟨Iff.rfl, rfl, fun _ same => mem_put (same ▸ other)⟩

theorem agrees_enter (other : tradeId ≠ copy.tradeId) : Agrees book (book.enter copy) tradeId := by
  refine ⟨⟨?_, ?_⟩, rfl, fun _ same => mem_put (same ▸ other)⟩
  · rintro ⟨trade, member, same, live⟩
    rcases Stored.mem_concat.mp member with before | rfl
    · exact ⟨trade, before, same, live⟩
    · exact absurd same.symm other
  · rintro ⟨trade, member, same, live⟩
    exact ⟨trade, List.mem_append_left _ member, same, live⟩

theorem agrees_buy {otherId : String} (other : otherId ≠ tradeId) :
    Agrees book (book.buy tradeId orderId) otherId :=
  ⟨Iff.rfl, if_neg other, fun _ _ => Iff.rfl⟩

theorem agrees_dispatching (dispatching : List String) (tradeId : String) :
    Agrees book { book with dispatching := dispatching } tradeId :=
  ⟨Iff.rfl, rfl, fun _ _ => Iff.rfl⟩

theorem Complete.put (complete : book.Complete tradeId orderId) (referenced : book.Referenced copy) :
    (book.put copy).Complete tradeId orderId := by
  by_cases same : tradeId = copy.tradeId
  · subst same
    refine ⟨complete.live, stored_put book copy, complete.bought, fun row member same => ?_⟩
    obtain rfl := eq_of_mem_put member same
    cases referenced with
    | other stored notLive => exact absurd complete.live notLive
    | complete carried completed carries =>
      have sameOrder : [carried] = [orderId] := completed.bought.symm.trans complete.bought
      rw [carries, List.singleton_inj.mp sameOrder]
  · exact (agrees_put same).complete complete

theorem InPhase.put {phase : DispatchPhase} (inPhase : book.InPhase tradeId phase)
    (referenced : book.Referenced copy) : (book.put copy).InPhase tradeId phase := by
  cases phase with
  | done =>
    intro live
    obtain ⟨orderId, complete⟩ := inPhase live
    exact ⟨orderId, complete.put referenced⟩
  | awaiting ordered =>
    have awaiting : book.Awaiting tradeId ordered := inPhase
    refine (agrees_put fun same => ?_).awaiting awaiting
    subst same
    cases referenced with
    | complete orderId complete carries => exact complete.not_awaiting awaiting
    | other stored notLive => exact notLive awaiting.live

theorem Referenced.put {other : ActiveTrade} (referenced : book.Referenced other)
    (saved : book.Referenced copy) : (book.put copy).Referenced other := by
  cases referenced with
  | complete orderId complete carries => exact .complete orderId (complete.put saved) carries
  | other stored notLive =>
    refine .other ?_ notLive
    by_cases same : other.tradeId = copy.tradeId
    · exact same ▸ stored_put book copy
    · exact (agrees_put same).stored stored

section

variable (referenced : book.Referenced copy)

include referenced

theorem Referenced.sameEntry {later : ActiveTrade} (same : copy.SameEntry later) :
    book.Referenced later := by
  cases referenced with
  | complete orderId complete carries =>
    exact .complete orderId (same.tradeId ▸ complete) (same.entryOrderId.trans carries)
  | other stored notLive => exact .other (same.tradeId ▸ stored) (same.tradeId ▸ notLive)

theorem Referenced.stored : book.Stored copy.tradeId := by
  cases referenced with
  | complete orderId complete carries => exact complete.stored
  | other stored notLive => exact stored

theorem Referenced.not_awaiting {ordered : Option String}
    (awaiting : book.Awaiting copy.tradeId ordered) : False := by
  cases referenced with
  | complete orderId complete carries => exact complete.not_awaiting awaiting
  | other stored notLive => exact notLive awaiting.live

end

end Changes

/-! ### Ownership of the book -/

/-- What tasks own of the book: the entries they dispatch, and copies of trades. -/
abbrev Credit := Multiset (String × DispatchPhase) × Multiset ActiveTrade

/-- Each entry that is being dispatched is owned by one task, and the copies in hand may be saved at
any time. -/
structure Owned (book : EntryBook) (credit : Credit) : Prop where
  custody : Custody book.InPhase (· = .done) book.dispatching credit.1
  copies : ∀ copy ∈ credit.2, book.Referenced copy
  own : (book.entered.map ActiveTrade.tradeId).Nodup
  stored : ∀ trade ∈ book.entered, book.Stored trade.tradeId
  dispatched : ∀ tradeId ∈ book.dispatching, tradeId ∈ book.entered.map ActiveTrade.tradeId
  bought : ∀ tradeId, book.bought tradeId ≠ [] → book.Live tradeId

/-- The phase in which an entry is stored: only a live one is ordered. -/
def firstPhase (trade : ActiveTrade) : DispatchPhase :=
  if trade.mode = .live then .awaiting none else .done

namespace Owned

variable {credit : Credit} {tokens : Multiset (String × DispatchPhase)}
  {copies : Multiset ActiveTrade} {copy : ActiveTrade}

theorem stored_of_live (owned : book.Owned credit) (live : book.Live tradeId) :
    book.Stored tradeId := by
  obtain ⟨trade, member, rfl, _⟩ := live
  exact owned.stored trade member

theorem put (owned : book.Owned credit) (referenced : book.Referenced copy) :
    (book.put copy).Owned credit := by
  refine ⟨owned.custody.imp fun _ _ inPhase => inPhase.put referenced,
    fun other member => (owned.copies other member).put referenced, owned.own,
    fun trade member => ?_, owned.dispatched, owned.bought⟩
  by_cases same : trade.tradeId = copy.tradeId
  · exact same ▸ stored_put book copy
  · exact (agrees_put same).stored (owned.stored trade member)

theorem move {ordered : Option String} {reached : DispatchPhase}
    (owned : book.Owned ({(tradeId, .awaiting ordered)} + tokens, copies))
    (reaches : next.InPhase tradeId reached) (stored : next.Stored tradeId)
    (dispatching : next.dispatching = book.dispatching) (entered : next.entered = book.entered)
    (agrees : ∀ other, other ≠ tradeId → Agrees book next other) :
    next.Owned ({(tradeId, reached)} + tokens, copies) := by
  have awaiting : book.Awaiting tradeId ordered := owned.custody.own_phase
  have live : ∀ other, next.Live other ↔ book.Live other := fun other => by
    unfold Live
    rw [entered]
  refine ⟨?_, fun copy member => ?_, entered ▸ owned.own, fun trade member => ?_, ?_,
    fun other bought => ?_⟩
  · rw [dispatching]
    exact owned.custody.move reaches fun other _ different inPhase =>
      (agrees other different).inPhase inPhase
  · have referenced := owned.copies copy member
    exact referenced.agrees (agrees _ fun same => referenced.not_awaiting (same ▸ awaiting))
  · rw [entered] at member
    by_cases same : trade.tradeId = tradeId
    · exact same ▸ stored
    · exact (agrees _ same).stored (owned.stored trade member)
  · rw [dispatching, entered]
    exact owned.dispatched
  · by_cases same : other = tradeId
    · exact same ▸ (live tradeId).mpr awaiting.live
    · rw [(agrees other same).bought] at bought
      exact (live other).mpr (owned.bought other bought)

theorem buy (owned : book.Owned ({(tradeId, .awaiting none)} + tokens, copies)) (orderId : String) :
    (book.buy tradeId orderId).Owned ({(tradeId, .awaiting (some orderId))} + tokens, copies) := by
  have awaiting : book.Awaiting tradeId none := owned.custody.own_phase
  have ordered : (book.buy tradeId orderId).Awaiting tradeId (some orderId) := by
    refine ⟨awaiting.live, awaiting.stored, ?_, awaiting.rows⟩
    unfold EntryBook.buy
    dsimp only
    rw [if_pos rfl, awaiting.bought]
    rfl
  exact owned.move ordered awaiting.stored rfl rfl fun other different => agrees_buy different

theorem refer (owned : book.Owned ({(tradeId, .awaiting (some orderId))} + tokens, copies))
    (same : copy.tradeId = tradeId) (carries : copy.entryOrderId = some orderId) :
    (book.put copy).Owned ({(tradeId, .done)} + tokens, copies) := by
  subst same
  have awaiting : book.Awaiting copy.tradeId (some orderId) := owned.custody.own_phase
  have complete : (book.put copy).Complete copy.tradeId orderId :=
    ⟨awaiting.live, stored_put book copy, awaiting.bought,
      fun row member same => eq_of_mem_put member same ▸ carries⟩
  have done : (book.put copy).InPhase copy.tradeId .done := fun _ => ⟨orderId, complete⟩
  exact owned.move done (stored_put book copy) rfl rfl fun other different => agrees_put different

theorem enter (owned : book.Owned (tokens, copies)) {trade : ActiveTrade}
    (fresh : ¬book.Stored trade.tradeId)
    (pending : trade.mode = .live → trade.state = .entryPending ∧ trade.entryOrderId = none) :
    (book.enter trade).Owned ({(trade.tradeId, firstPhase trade)} + tokens, copies) := by
  have notLive : ¬book.Live trade.tradeId := fun live => fresh (owned.stored_of_live live)
  have unentered : trade.tradeId ∉ book.entered.map ActiveTrade.tradeId := fun member => by
    obtain ⟨other, entered, same⟩ := List.mem_map.mp member
    exact fresh (same ▸ owned.stored other entered)
  have taken : Custody book.InPhase (· = .done) (trade.tradeId :: book.dispatching)
      ({(trade.tradeId, .done)} + tokens) :=
    owned.custody.take (List.nodup_singleton trade.tradeId)
      (fun other member inHand => unentered (List.mem_singleton.mp member ▸
        owned.dispatched other inHand))
      fun other member live => absurd (List.mem_singleton.mp member ▸ live) notLive
  have unbought : book.bought trade.tradeId = [] := by
    by_contra bought
    exact notLive (owned.bought trade.tradeId bought)
  have first : (book.enter trade).InPhase trade.tradeId (firstPhase trade) := by
    unfold firstPhase
    split
    · rename_i live
      exact ⟨⟨trade, List.mem_concat_self, rfl, live⟩, stored_put book trade, unbought,
        fun row member same => eq_of_mem_put member same ▸ pending live⟩
    · rename_i simulated
      rintro ⟨other, member, same, live⟩
      rcases Stored.mem_concat.mp member with before | rfl
      · exact absurd ⟨other, before, same, live⟩ notLive
      · exact absurd live simulated
  have others : ∀ other, book.Stored other → Agrees book (book.enter trade) other :=
    fun other stored => agrees_enter fun same => fresh (same ▸ stored)
  refine ⟨taken.move first fun other _ different inPhase =>
    (agrees_enter different).inPhase inPhase, fun copy member => ?_, ?_, fun other member => ?_,
    fun other member => ?_, fun other bought => ?_⟩
  · have referenced := owned.copies copy member
    exact referenced.agrees (others _ referenced.stored)
  · exact Stored.nodup_map_concat owned.own unentered
  · rcases Stored.mem_concat.mp member with before | rfl
    · exact (others _ (owned.stored other before)).stored (owned.stored other before)
    · exact stored_put book other
  · show other ∈ (book.entered ++ [trade]).map ActiveTrade.tradeId
    rw [List.map_append, List.mem_append, List.map_singleton]
    rcases List.mem_cons.mp member with rfl | before
    · exact Or.inr (List.mem_singleton_self _)
    · exact Or.inl (owned.dispatched other before)
  · have live := owned.bought other bought
    exact (others other (owned.stored_of_live live)).live.mpr live

theorem endEntry (owned : book.Owned ({(tradeId, .done)} + tokens, copies)) :
    (book.endEntry tradeId).Owned (tokens, copies) := by
  have ended := owned.custody.putDown (allSettled_singleton tradeId rfl)
  rw [List.diff_cons, List.diff_nil] at ended
  exact ⟨ended.imp fun other _ inPhase => (agrees_dispatching _ other).inPhase inPhase,
    fun copy member => (owned.copies copy member).agrees (agrees_dispatching _ _), owned.own,
    owned.stored, fun other member => owned.dispatched other (List.mem_of_mem_erase member),
    owned.bought⟩

theorem restarted (owned : book.Owned credit)
    (live : ∀ tradeId ∈ book.dispatching, ¬book.Live tradeId) :
    Owned { book with dispatching := [] } 0 := by
  refine ⟨.none fun tradeId => ⟨.done, rfl, fun isLive => ?_⟩,
    fun copy member => absurd member (Multiset.notMem_zero copy), owned.own, owned.stored,
    fun tradeId member => absurd member List.not_mem_nil, owned.bought⟩
  obtain ⟨phase, rfl, done⟩ :=
    owned.custody.free tradeId fun dispatching => live tradeId dispatching isLive
  exact (agrees_dispatching _ tradeId).inPhase done isLive

theorem allOrNothing (owned : book.Owned credit) : book.AllOrNothing := by
  refine ⟨owned.own, fun tradeId live settled => ?_, fun tradeId settled orderId bought => ?_⟩
  · obtain ⟨phase, rfl, done⟩ := owned.custody.free tradeId settled
    exact Or.inr (done live)
  · obtain ⟨phase, rfl, done⟩ := owned.custody.free tradeId settled
    obtain ⟨other, complete⟩ := done (owned.bought tradeId (List.ne_nil_of_mem bought))
    rw [complete.bought, List.mem_singleton] at bought
    exact bought ▸ complete

theorem takeCopies (owned : book.Owned (tokens, copies)) {taken : Multiset ActiveTrade}
    (referenced : ∀ copy ∈ taken, book.Referenced copy) :
    book.Owned (tokens, taken + copies) :=
  ⟨owned.custody, fun copy member => (Multiset.mem_add.mp member).elim (referenced copy)
    (owned.copies copy), owned.own, owned.stored, owned.dispatched, owned.bought⟩

theorem dropCopies {taken : Multiset ActiveTrade} (owned : book.Owned (tokens, taken + copies)) :
    book.Owned (tokens, copies) :=
  ⟨owned.custody, fun copy member => owned.copies copy (Multiset.mem_add.mpr (Or.inr member)),
    owned.own, owned.stored, owned.dispatched, owned.bought⟩

theorem referenced_of_settled (owned : book.Owned credit) {row : ActiveTrade}
    (member : row ∈ book.trades) (settled : row.tradeId ∉ book.dispatching) :
    book.Referenced row := by
  obtain ⟨phase, rfl, done⟩ := owned.custody.free row.tradeId settled
  by_cases live : book.Live row.tradeId
  · obtain ⟨orderId, complete⟩ := done live
    exact .complete orderId complete (complete.rows row member rfl)
  · exact .other ⟨row, member, rfl⟩ live

theorem referenced_of_stored (owned : book.Owned credit) {row : ActiveTrade}
    (member : row ∈ book.trades)
    (confirmed : ¬(row.state = .entryPending ∧ row.entryOrderId = none)) :
    book.Referenced row := by
  obtain ⟨phase, inPhase⟩ := owned.custody.exists_phase row.tradeId
  cases phase with
  | awaiting ordered =>
    have awaiting : book.Awaiting row.tradeId ordered := inPhase
    exact absurd (awaiting.rows row member rfl) confirmed
  | done =>
    by_cases live : book.Live row.tradeId
    · obtain ⟨orderId, complete⟩ := inPhase live
      exact .complete orderId complete (complete.rows row member rfl)
    · exact .other ⟨row, member, rfl⟩ live

end Owned

end EntryBook

open EntryBook

/-! ### The book of the service -/

/-- The orders to buy that were created for a trade. -/
def buyOrders (orders : List (String × IntentRequest)) (tradeId : String) : List String :=
  (orders.filter fun order =>
    decide (order.2.side = .buy ∧ order.2.correlationId = tradeId)).map Prod.fst

theorem buyOrders_append (orders : List (String × IntentRequest)) (orderId : String)
    (intent : IntentRequest) :
    buyOrders (orders ++ [(orderId, intent)]) = fun tradeId =>
      if intent.side = .buy ∧ intent.correlationId = tradeId then
        buyOrders orders tradeId ++ [orderId]
      else buyOrders orders tradeId := by
  funext tradeId
  unfold buyOrders
  rw [List.filter_append, List.map_append, List.filter_singleton]
  by_cases buys : intent.side = .buy ∧ intent.correlationId = tradeId
  · simp only [buys, and_self, decide_true, if_true, cond_true, List.map_singleton]
  · simp only [buys, decide_false, if_false, cond_false, List.map_nil, List.append_nil]

namespace StrategyWorld

/-- The book of entries of the service. -/
def entryBook (world : StrategyWorld) : EntryBook where
  trades := world.trades
  entered := world.entries.map EntryRecord.trade
  dispatching := world.dispatching
  bought := buyOrders world.orders

section Book

variable (world : StrategyWorld) (trade : ActiveTrade)

theorem entryBook_savedTrade {purpose : SavePurpose}
    (later : purpose ≠ .entry ∧ purpose ≠ .forcedEntry) :
    (world.savedTrade trade purpose).entryBook = world.entryBook.put trade := by
  cases purpose with
  | entry => exact absurd rfl later.1
  | forcedEntry => exact absurd rfl later.2
  | reference | managed | closing => rfl

theorem entryBook_enteredTrade (path : EntryPath) :
    (world.savedTrade trade path.purpose).entryBook = world.entryBook.enter trade := by
  cases path with
  | cycle | forced =>
    unfold entryBook EntryBook.enter
    simp only [EntryPath.purpose, savedTrade, List.map_append, List.map_singleton]
    rfl

theorem entryBook_bought {intent : IntentRequest} (buys : intent.side = .buy) (orderId : String) :
    (world.createdOrder orderId intent).entryBook =
      world.entryBook.buy intent.correlationId orderId := by
  unfold entryBook createdOrder EntryBook.buy
  rw [buyOrders_append]
  simp only [buys, true_and, eq_comm]

theorem entryBook_sold {intent : IntentRequest} (sells : intent.side ≠ .buy) (orderId : String) :
    (world.createdOrder orderId intent).entryBook = world.entryBook := by
  unfold entryBook createdOrder
  rw [buyOrders_append]
  simp only [sells, false_and, if_false]

end Book

/-! ### The condition -/

/-- No live entry is being dispatched. -/
def liveDispatched (world : StrategyWorld) : Bool :=
  world.entries.all fun record => decide (record.trade.mode ≠ .live) ||
    decide (record.trade.tradeId ∉ world.dispatching)

/-- A new trade has an id that no stored trade has, no write between the two saves of a live trade
fails, nor does the second save, and no operator exits a trade that is being dispatched. -/
def dispatchUnbroken (world : StrategyWorld) : StrategyOp → StrategyAnswer → Bool
  | .saveTrade trade .entry, _ | .saveTrade trade .forcedEntry, _ =>
      decide (trade.tradeId ∉ world.trades.map ActiveTrade.tradeId)
  | .logEntry trade, .raises _ => decide (trade.mode ≠ .live)
  | .createOrderIntent intent, .raises _ | .createOrderIntent intent, .raisesAfter _ =>
      decide (intent.side ≠ .buy)
  | .saveTrade _ .reference, .raises _ => false
  | .getActiveTrades (.exit tradeId), _ => decide (tradeId ∉ world.dispatching)
  | _, _ => true

end StrategyWorld

open StrategyWorld

/-- The dispatches are unbroken, by failures as by the end of a task or of the process. -/
def dispatchesUnbroken :
    Condition StrategyOp StrategyWorld StrategyAnswer StrategyStart Empty where
  answer := StrategyWorld.dispatchUnbroken
  cancel := StrategyWorld.liveDispatched
  restart := StrategyWorld.liveDispatched

def dispatchDiscipline : Discipline StrategyWorld EntryBook.Credit where
  later _ _ := True
  refl _ := trivial
  trans _ _ := trivial
  holds world credit := world.entryBook.Owned credit

/-! ### Operations -/

/-- An operation that changes no record, no dispatch and no order to buy. -/
structure KeepsBook (op : StrategyOp) : Prop where
  saves : ¬op.saves
  dispatch : ¬op.movesDispatch
  buys : ¬op.buys

section Operations

variable {world next : StrategyWorld} {op : StrategyOp} {choice : StrategyAnswer}
  {reply : Except Raised (StrategyReply op)}

theorem entryBook_answer (keeps : KeepsBook op)
    (answered : world.answer op choice = some (reply, next)) :
    next.entryBook = world.entryBook := by
  have frame := answer_frame answered
  have enters : ¬op.enters := by
    cases op with
    | saveTrade trade purpose => exact absurd trivial keeps.saves
    | _ => exact id
  by_cases orders : op.orders
  · cases op with
    | createOrderIntent intent =>
      rcases ordering_cases answered with ⟨orderId, _, rfl, _⟩ | ⟨_, rfl⟩
      · exact entryBook_sold world keeps.buys orderId
      · rfl
    | _ => exact orders.elim
  · unfold entryBook
    rw [frame.trades keeps.saves, frame.entries enters, frame.dispatching keeps.dispatch,
      frame.orders orders]

abbrev AnswersDispatch := Answers strategySystem dispatchesUnbroken dispatchDiscipline

variable {seen : StrategyWorld}

theorem book_quiet (keeps : KeepsBook op) {credit : EntryBook.Credit} :
    AnswersDispatch op credit seen (leaving credit) := by
  intro world rest choice reply next _ owned _ answered
  refine ⟨credit, trivial, ?_, rfl⟩
  show next.entryBook.Owned (credit + rest)
  rw [entryBook_answer keeps answered]
  exact owned

theorem book_managed {credit : EntryBook.Credit} {trade : ActiveTrade} (copy : trade ∈ credit.2)
    (managed : IsManagement trade op) (seen : StrategyWorld) :
    AnswersDispatch op credit seen (leaving credit) := by
  cases op with
  | saveTrade saved purpose =>
    have later : purpose ≠ .entry ∧ purpose ≠ .forcedEntry := by
      rcases managed.2 with rfl | rfl <;> exact ⟨nofun, nofun⟩
    intro world rest choice reply next _ owned _ answered
    refine ⟨credit, trivial, ?_, rfl⟩
    rcases committing_cases answered with ⟨_, rfl⟩ | ⟨_, rfl⟩
    · have referenced := (owned.copies trade (Multiset.mem_add.mpr (Or.inl copy))).sameEntry
        managed.1
      show (world.savedTrade saved purpose).entryBook.Owned (credit + rest)
      rw [entryBook_savedTrade world saved later]
      exact owned.put referenced
    · exact owned
  | createOrderIntent intent =>
    have sells : intent.side = .sell := managed
    refine book_quiet ⟨id, id, fun buys => ?_⟩
    exact absurd (sells.symm.trans buys) (by decide)
  | _ => first | exact book_quiet ⟨id, id, id⟩ | exact managed.elim

theorem book_enter {trade : ActiveTrade} {path : EntryPath}
    (pending : trade.mode = .live → trade.state = .entryPending ∧ trade.entryOrderId = none) :
    AnswersDispatch (.saveTrade trade path.purpose) 0 seen fun reply left _ => match reply with
        | .ok _ => left = ({(trade.tradeId, firstPhase trade)}, 0)
        | .error _ => left = 0 := by
  refine answers_committing (fun world rest _ owned met => ?_) fun _ _ => ⟨trivial, rfl⟩
  have fresh : trade.tradeId ∉ world.trades.map ActiveTrade.tradeId := by
    cases path with
    | cycle | forced => exact of_decide_eq_true met
  have unstored : ¬world.entryBook.Stored trade.tradeId := fun ⟨row, member, same⟩ =>
    fresh (List.mem_map.mpr ⟨row, member, same⟩)
  rw [zero_add] at owned
  refine ⟨_, trivial, ?_, rfl⟩
  show (world.savedTrade trade path.purpose).entryBook.Owned _
  rw [entryBook_enteredTrade]
  have entered : (world.entryBook.enter trade).Owned
      ({(trade.tradeId, firstPhase trade)} + rest.1, rest.2) := Owned.enter owned unstored pending
  rw [← zero_add rest.2] at entered
  exact entered

theorem book_order {intent : IntentRequest} (buys : intent.side = .buy) :
    AnswersDispatch (.createOrderIntent intent)
      ({(intent.correlationId, .awaiting none)}, 0) seen fun reply left _ =>
        ∃ orderId, reply = .ok orderId ∧
          left = ({(intent.correlationId, .awaiting (some orderId))}, 0) := by
  intro world rest choice reply next _ owned met answered
  change world.answer (.createOrderIntent intent) choice = _ at answered
  cases choice with
  | generated orderId =>
    simp only [answer, ordering] at answered
    split at answered
    · cases answered
    · cases answered
      refine ⟨_, trivial, ?_, orderId, rfl, rfl⟩
      show (world.createdOrder orderId intent).entryBook.Owned _
      rw [entryBook_bought world buys]
      exact Owned.buy owned orderId
  | raises | raisesAfter => exact absurd buys (of_decide_eq_true met)
  | _ => cases answered

theorem book_refer (trade : ActiveTrade) {orderId : String}
    (carries : trade.entryOrderId = some orderId) (seen : StrategyWorld) :
    AnswersDispatch (.saveTrade trade .reference)
      ({(trade.tradeId, .awaiting (some orderId))}, 0) seen fun reply left _ =>
        reply = .ok () ∧ left = ({(trade.tradeId, .done)}, 0) := by
  intro world rest choice reply next _ owned met answered
  cases choice with
  | ok =>
    cases answered
    refine ⟨_, trivial, ?_, rfl, rfl⟩
    exact Owned.refer owned rfl carries
  | raises text => exact absurd met Bool.false_ne_true
  | _ => cases answered

theorem book_endEntry {tradeId : String} :
    AnswersDispatch (.endEntry tradeId) ({(tradeId, .done)}, 0) seen (leaving 0) := by
  intro world rest choice reply next _ owned _ answered
  obtain rfl := always_next answered
  have ended : (world.entryBook.endEntry tradeId).Owned (rest.1, 0 + rest.2) :=
    Owned.endEntry owned
  rw [zero_add] at ended
  exact ⟨0, trivial, (zero_add rest).symm ▸ ended, rfl⟩

/-- The trades of a list that may be saved: the others are pending without an order. -/
def confirmedTrades (active : List ActiveTrade) : List ActiveTrade :=
  active.filter fun trade =>
    decide (¬(trade.state = .entryPending ∧ orText trade.entryOrderId none = none))

theorem book_readManaged : AnswersDispatch (.getActiveTrades .management) 0
      seen fun reply left _ => match reply with
        | .ok active => left = (0, (confirmedTrades active : Multiset ActiveTrade))
        | .error _ => left = 0 := by
  refine answers_committing (fun world rest _ owned _ => ?_) fun _ _ => ⟨trivial, rfl⟩
  rw [zero_add] at owned
  refine ⟨_, trivial, ?_, rfl⟩
  have taken : world.entryBook.Owned
      (rest.1, (confirmedTrades (getActiveTrades world.trades) : Multiset ActiveTrade) + rest.2) :=
    Owned.takeCopies owned fun copy member => by
      obtain ⟨listed, confirmed⟩ := List.mem_filter.mp (Multiset.mem_coe.mp member)
      refine owned.referenced_of_stored (mem_getActiveTrades.mp listed).1 fun pending => ?_
      exact of_decide_eq_true confirmed ⟨pending.1, by rw [pending.2]; rfl⟩
  rw [← zero_add rest.1] at taken
  exact taken

theorem book_readExit {tradeId : String} : AnswersDispatch (.getActiveTrades (.exit tradeId))
      0 seen fun reply left _ => ∀ active target, reply = .ok active →
        active.find? (fun trade => decide (trade.tradeId = tradeId)) = some target →
          left = (0, {target}) := by
  intro world rest choice reply next _ owned met answered
  rw [zero_add] at owned
  have settled : tradeId ∉ world.dispatching := of_decide_eq_true met
  have frame := Frame.of_afterRead world (.exit tradeId)
  have sameBook : (world.afterRead (.exit tradeId)).entryBook = world.entryBook := by
    unfold entryBook
    rw [frame.trades id, frame.entries id, frame.dispatching id, frame.orders id]
  rcases committing_cases answered with ⟨rfl, rfl⟩ | ⟨⟨error, rfl⟩, rfl⟩
  · have kept : (world.afterRead (.exit tradeId)).entryBook.Owned rest := sameBook ▸ owned
    cases found : (getActiveTrades world.trades).find?
        fun trade => decide (trade.tradeId = tradeId) with
    | none =>
      refine ⟨0, trivial, (zero_add rest).symm ▸ kept, fun active target same found' => ?_⟩
      cases same
      rw [found] at found'
      cases found'
    | some target =>
      have named := List.find?_some found
      have member := (mem_getActiveTrades.mp (List.mem_of_find?_eq_some found)).1
      have referenced : world.entryBook.Referenced target :=
        owned.referenced_of_settled member ((of_decide_eq_true named).symm ▸ settled)
      have taken : (world.afterRead (.exit tradeId)).entryBook.Owned
          (rest.1, {target} + rest.2) := Owned.takeCopies kept fun copy same => by
        obtain rfl := Multiset.mem_singleton.mp same
        exact sameBook ▸ referenced
      rw [← zero_add rest.1] at taken
      refine ⟨(0, {target}), trivial, taken, fun active other same found' => ?_⟩
      cases same
      rw [found] at found'
      rw [Option.some.inj found']
  · exact ⟨0, trivial, (zero_add rest).symm ▸ owned, fun _ _ same => by cases same⟩

theorem book_putDown {copies : Multiset ActiveTrade} {tradeIds : List String} :
    AnswersDispatch (.putDown tradeIds) (0, copies) seen (leaving 0) := by
  intro world rest choice reply next _ owned _ answered
  obtain rfl := always_next answered
  have dropped : world.entryBook.Owned (0 + rest.1, rest.2) := Owned.dropCopies owned
  rw [zero_add] at dropped
  exact ⟨0, trivial, (zero_add rest).symm ▸ dropped, rfl⟩

theorem within_evaluate_confirmed {active : List ActiveTrade} {trade : ActiveTrade}
    (member : trade ∈ active) :
    (evaluateActiveTrade trade).Within fun op => KeepsBook op ∨
      ∃ copy ∈ confirmedTrades active, IsManagement copy op := by
  by_cases pending : trade.state = .entryPending ∧ orText trade.entryOrderId none = none
  · refine (within_evaluateActiveTrade_pending pending.1 pending.2).mono ?_
    rintro op rfl
    exact Or.inl ⟨id, id, id⟩
  · exact (within_evaluateActiveTrade trade).mono fun op managed =>
      Or.inr ⟨trade, List.mem_filter.mpr ⟨member, decide_eq_true pending⟩, managed⟩

end Operations

/-! ### Entries -/

/-- What a task owns in each phase. -/
def bookOwns : Phase → EntryBook.Credit → Prop
  | .managing active, credit | .managed active, credit =>
      credit = (0, (confirmedTrades active : Multiset ActiveTrade))
  | .entered _ trade, credit => credit = ({(trade.tradeId, firstPhase trade)}, 0)
  | .ordered _ trade orderId, credit =>
      credit = ({(trade.tradeId, .awaiting (some orderId))}, 0)
  | .completed _ trade, credit | .failed _ trade, credit =>
      credit = ({(trade.tradeId, .done)}, 0)
  | .started, credit | .seeking _, credit | .entering _, credit | .finished _, credit => credit = 0

theorem keepsBook_of_isIncidental {op : StrategyOp} (incidental : IsIncidental op) :
    KeepsBook op := by
  cases op with
  | _ => first | exact ⟨id, id, id⟩ | exact incidental.elim

theorem keepsBook_of_isControl {op : StrategyOp} (control : IsControl op) : KeepsBook op := by
  cases op with
  | _ => first | exact ⟨id, id, id⟩ | exact control.elim

theorem book_dispatch {trade : ActiveTrade} {op : StrategyOp} (dispatch : IsDispatch trade op)
    {credit : EntryBook.Credit} {seen : StrategyWorld} :
    AnswersDispatch op credit seen
      fun reply left _ => left = credit ∧
        ∀ error, reply = .error error → trade.mode ≠ .live := by
  intro world rest choice reply next late owned met answered
  have keeps : KeepsBook op := by
    cases op with
    | _ => first | exact ⟨id, id, id⟩ | exact dispatch.elim
  obtain ⟨left, later, held, rfl⟩ :=
    book_quiet keeps world rest choice reply next late owned met answered
  refine ⟨_, later, held, rfl, fun error raised => ?_⟩
  subst raised
  cases op with
  | logEntry logged =>
    obtain rfl : logged = trade := dispatch
    cases choice with
    | raises text => exact of_decide_eq_true met
    | _ => cases answered
  | appendActiveTrade appended => cases (Prod.mk.inj (always_cases answered)).1
  | recordExecution entry => cases (recordExecution_cases answered).1
  | _ => exact dispatch.elim

def bookRules : EntryRules dispatchesUnbroken dispatchDiscipline where
  owns := bookOwns
  knows _ _ := True
  gated _ _ := True
  lists _ _ := True
  incidental seen kind := book_quiet (keepsBook_of_isIncidental kind)
  mayEnd := by
    intro phase path credit owned mayEnd
    cases mayEnd with
    | started | managed | seeking | entering | finished => exact owned
  acquire seen := Answers.weaken (book_quiet ⟨id, id, id⟩) fun _ _ _ _ same _ _ => same
  readManaged := by
    rintro _ seen rfl
    exact book_readManaged
  manage := by
    rintro credit active seen owned
    have caches : KeepsBook (.cacheActiveTrades active) := ⟨id, id, id⟩
    refine Owns.weaken (owns_managing (fun op => KeepsBook op ∨
      ∃ copy ∈ confirmedTrades active, IsManagement copy op) (fun op world fits => ?_)
      (Or.inl caches) fun trade member => within_evaluate_confirmed member)
      fun result left world _ same => ?_
    · rcases fits with keeps | ⟨copy, member, managed⟩
      · exact book_quiet keeps
      · refine book_managed ?_ managed world
        rw [show credit = _ from owned]
        exact Multiset.mem_coe.mpr member
    · exact same ▸ owned
  putDown := by
    rintro _ active seen rfl
    exact book_putDown
  readRemaining := by
    rintro credit seen owned
    refine Answers.weaken (book_quiet ⟨id, id, id⟩) ?_
    rintro reply left world _ rfl
    cases reply with
    | ok remaining => exact owned
    | error error => exact owned
  gate := by
    rintro _ remaining feedHealthy seen rfl
    exact Answers.weaken (book_quiet ⟨id, id, id⟩) fun _ _ _ _ same =>
      ⟨same, fun _ _ _ _ => ⟨same, trivial⟩⟩
  list seen _ := Answers.weaken (book_quiet ⟨id, id, id⟩)
    fun _ _ _ _ same => ⟨same, fun _ _ => trivial⟩
  read seen _ := Answers.weaken (book_quiet ⟨id, id, id⟩)
    fun _ _ _ _ same => ⟨same, fun _ _ => trivial⟩
  enter := by
    rintro _ path trade seen rfl evidence
    refine Answers.weaken (book_enter evidence.pending) fun reply left world _ entered => ?_
    cases reply with
    | ok saved => exact entered
    | error error => exact entered
  dispatch := by
    rintro credit path trade op seen owned kind
    refine Answers.weaken (book_dispatch kind) ?_
    rintro reply left world _ ⟨rfl, simulated⟩
    cases reply with
    | ok value => exact owned
    | error error =>
      rw [show left = _ from owned, firstPhase, if_neg (simulated error rfl)]
      rfl
  order := by
    rintro _ path trade intent seen rfl live buys same
    rw [firstPhase, if_pos live, ← same]
    refine Answers.weaken (book_order buys) ?_
    rintro reply left world _ ⟨orderId, rfl, rfl⟩
    exact congrArg (fun tradeId => ({(tradeId, DispatchPhase.awaiting (some orderId))}, 0)) same
  refer := by
    rintro _ path trade orderId seen rfl
    have refers := book_refer
      { trade with entryOrderId := some orderId, state := .entryPending } rfl seen
    refine Answers.weaken refers ?_
    rintro reply left world _ ⟨rfl, rfl⟩
    rfl
  simulated := by
    rintro _ path trade rfl simulated
    show _ = _
    rw [firstPhase, if_neg simulated]
  endEntry := by
    rintro credit path trade seen owned
    obtain rfl : credit = ({(trade.tradeId, .done)}, 0) := owned.elim id id
    exact book_endEntry
  release seen _ := Answers.weaken (book_quiet ⟨id, id, id⟩) fun _ _ _ _ _ => trivial
  beginForced seen :=
    Answers.weaken (book_quiet ⟨id, id, id⟩) fun _ _ _ _ same _ _ => same
  endForced seen _ := Answers.weaken (book_quiet ⟨id, id, id⟩) fun _ _ _ _ _ => trivial

theorem book_manualExitTrade (tradeId reason : String) {seen : StrategyWorld} :
    Owns strategySystem dispatchesUnbroken dispatchDiscipline (manualExitTrade tradeId reason) 0
      seen fun _ _ _ => True := by
  refine Owns.await book_readExit fun reply left world _ read => ?_
  cases reply with
  | error error => trivial
  | ok active =>
    dsimp only
    split
    · refine Owns.weaken (Owns.of_within world (fun op next _ keeps => book_quiet keeps)
        ((within_perform ⟨id, id, id⟩).bind fun _ => trivial)) fun _ _ _ _ _ => trivial
    · rename_i target found
      obtain rfl := read active target rfl found
      refine owns_finallyDo (Owns.weaken (Owns.of_within world
        (fun op next _ managed => book_managed (Multiset.mem_singleton_self _) managed next)
        (within_exitTrade target reason)) ?_)
      rintro result last final _ rfl
      exact Answers.weaken book_putDown fun _ _ _ _ _ => trivial

theorem book_sound : Sound strategySystem dispatchesUnbroken dispatchDiscipline := by
  refine bookRules.sound (fun world tradeId reason _ => book_manualExitTrade tradeId reason)
    (fun op world control => book_quiet (keepsBook_of_isControl control))
    fun world total owned dispatched => ?_
  refine Owned.restarted owned fun tradeId dispatching => ?_
  rintro ⟨trade, member, rfl, live⟩
  obtain ⟨record, recorded, rfl⟩ := List.mem_map.mp member
  have settled := List.all_eq_true.mp dispatched record recorded
  rw [Bool.or_eq_true, decide_eq_true_eq, decide_eq_true_eq] at settled
  exact settled.elim (absurd live) (absurd dispatching)

/-! ### Every run -/

/-- From the first start on, every live entry is all or nothing, as long as no dispatch of one is
broken. -/
theorem entries_all_or_nothing (stored : StrategyWorld)
    {last : Config StrategyOp StrategyReply Raised StrategyWorld}
    (reaches : strategySystem.Reaches dispatchesUnbroken ⟨stored.firstStart, []⟩ last) :
    last.world.entryBook.AllOrNothing := by
  have first : dispatchDiscipline.holds stored.firstStart 0 := by
    refine ⟨.none fun tradeId => ⟨.done, rfl, fun live => ?_⟩, fun copy member => ?_,
      List.nodup_nil, fun trade member => absurd member List.not_mem_nil,
      fun tradeId member => absurd member List.not_mem_nil, fun tradeId bought => absurd rfl bought⟩
    · obtain ⟨trade, member, _⟩ := live
      exact absurd member List.not_mem_nil
    · exact absurd member (Multiset.notMem_zero copy)
  obtain ⟨credits, owned, _⟩ := (owned_idle first).reaches book_sound reaches
  exact owned.allOrNothing

/-- What a run that ends shows of the dispatches: the entries being dispatched, the orders to buy of
a trade, and of each stored trade its state and its order. -/
structure DispatchesShown where
  dispatching : List String
  bought : List String
  records : List (String × TradeLifecycleState × Option String)
  deriving DecidableEq

def dispatchesShown (tradeId : String)
    (config : Config StrategyOp StrategyReply Raised StrategyWorld) : DispatchesShown where
  dispatching := config.world.dispatching
  bought := buyOrders config.world.orders tradeId
  records := config.world.trades.map fun trade =>
    (trade.tradeId, trade.state, trade.entryOrderId)

/-- An operator arms the live system and forces an entry, up to the creation of its order. -/
def liveEntryOrdered : List (Event StrategyAnswer StrategyStart Empty) :=
  [.start (.arm true), .resume 0 .ok, .resume 0 (.readiness "READY_FOR_LIVE"), .resume 0 .ok] ++
    forcedEntryAt 1 0 ++ [.resume 1 .ok, .resume 1 .ok, .resume 1 (.generated "ORD-1")]

/-- A live entry is dispatched to its end. -/
theorem entries_all_or_nothing_dispatched :
    ∃ last, strategySystem.Reaches dispatchesUnbroken
      ⟨(storedWorld { mode := .live } []).firstStart, []⟩ last ∧
        dispatchesShown "TRD-FORCED-0" last =
          ⟨[], ["ORD-1"], [("TRD-FORCED-0", .entryPending, some "ORD-1")]⟩ ∧
        last.world.entryBook.AllOrNothing := by
  have runs : (strategySystem.run dispatchesUnbroken
      ⟨(storedWorld { mode := .live } []).firstStart, []⟩
      (liveEntryOrdered ++ [.resume 1 .ok, .resume 1 .ok, .resume 1 .ok])).map
        (dispatchesShown "TRD-FORCED-0") =
          some ⟨[], ["ORD-1"], [("TRD-FORCED-0", .entryPending, some "ORD-1")]⟩ := by
    decide +kernel
  obtain ⟨last, reaches, shown⟩ := System.reaches_of_map runs
  exact ⟨last, reaches, shown, entries_all_or_nothing _ reaches⟩

/-- The service stops once the order of a live entry is created and before the trade is stored with
it. The next cycle only reports the trade: the order is one no trade refers to. -/
theorem live_order_orphaned :
    ∃ last, strategySystem.Reaches Condition.unrestricted
      ⟨(storedWorld { mode := .live } []).firstStart, []⟩ last ∧
        dispatchesShown "TRD-FORCED-0" last =
          ⟨[], ["ORD-1"], [("TRD-FORCED-0", .entryPending, none)]⟩ ∧
        ¬last.world.entryBook.AllOrNothing := by
  have runs : (strategySystem.run Condition.unrestricted
      ⟨(storedWorld { mode := .live } []).firstStart, []⟩
      (liveEntryOrdered ++ [.restart, .start .evaluateCycle, .resume 0 .ok,
        .resume 0 (.time 60000000), .resume 0 (.market openMarket), .resume 0 .ok, .resume 0 .ok,
        .resume 0 .ok, .resume 0 .ok, .resume 0 .ok, .resume 0 .ok, .resume 0 .ok,
        .resume 0 .ok])).map (dispatchesShown "TRD-FORCED-0") =
          some ⟨[], ["ORD-1"], [("TRD-FORCED-0", .entryPending, none)]⟩ := by
    decide +kernel
  obtain ⟨last, reaches, shown⟩ := System.reaches_of_map runs
  refine ⟨last, reaches, shown, fun atomic => ?_⟩
  have settled : last.world.dispatching = [] := congrArg DispatchesShown.dispatching shown
  have bought : buyOrders last.world.orders "TRD-FORCED-0" = ["ORD-1"] :=
    congrArg DispatchesShown.bought shown
  have records : last.world.trades.map (fun trade =>
      (trade.tradeId, trade.state, trade.entryOrderId)) =
        [("TRD-FORCED-0", .entryPending, none)] := congrArg DispatchesShown.records shown
  have ended : "TRD-FORCED-0" ∉ last.world.entryBook.dispatching := by
    show _ ∉ last.world.dispatching
    rw [settled]
    exact List.not_mem_nil
  have member : "ORD-1" ∈ last.world.entryBook.bought "TRD-FORCED-0" := by
    show _ ∈ buyOrders last.world.orders _
    rw [bought]
    exact List.mem_singleton_self _
  have complete := atomic.referred _ ended _ member
  obtain ⟨row, stored, same⟩ := complete.stored
  have listed : (row.tradeId, row.state, row.entryOrderId) ∈ last.world.trades.map
      fun trade => (trade.tradeId, trade.state, trade.entryOrderId) :=
    List.mem_map_of_mem stored
  rw [records, List.mem_singleton, complete.rows row stored same] at listed
  cases (Prod.mk.inj (Prod.mk.inj listed).2).2

end BreezeTrading
