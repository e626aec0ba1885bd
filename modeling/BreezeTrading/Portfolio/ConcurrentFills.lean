/-
This file runs calls of `apply_execution_atomic` statement by statement. The reads of a call are
outside of its transaction. In every run in which a position is read only while no other call on
it stands between its read and its commit, the calls apply their fills one after another;
otherwise the later commit loses the other fill.
-/

import BreezeTrading.Lib.Run
import BreezeTrading.Portfolio.Accounting

namespace BreezeTrading

open Stored

namespace PortfolioTables

/-! ### The two inserts of the transaction -/

theorem nodup_insertExecution (tables : PortfolioTables) (execution : Execution)
    (fresh : execution.executionId ∉ tables.executions.map Execution.executionId) :
    ((tables.executions ++ [execution]).map Execution.executionId).Nodup :=
  nodup_map_concat tables.byExecutionId fresh

/-- `INSERT INTO executions`. -/
def insertExecution (tables : PortfolioTables) (execution : Execution)
    (fresh : execution.executionId ∉ tables.executions.map Execution.executionId) :
    PortfolioTables where
  executions := tables.executions ++ [execution]
  positions := tables.positions
  byExecutionId := nodup_insertExecution tables execution fresh
  byInstrumentId := tables.byInstrumentId

theorem nodup_upsertPosition (tables : PortfolioTables) (position : Position) :
    ((upsertRows Position.instrumentId (fun old new => { new with instrumentId := old.instrumentId })
      position tables.positions).map Position.instrumentId).Nodup :=
  nodup_key_upsertRows (fun _ => rfl) tables.byInstrumentId

/-- `INSERT INTO positions ... ON CONFLICT(instrument_id) DO UPDATE`. -/
def upsertPosition (tables : PortfolioTables) (position : Position) : PortfolioTables where
  executions := tables.executions
  positions := upsertRows Position.instrumentId
    (fun old new => { new with instrumentId := old.instrumentId }) position tables.positions
  byExecutionId := tables.byExecutionId
  byInstrumentId := nodup_upsertPosition tables position

def Recorded (tables : PortfolioTables) (executionId : String) : Prop :=
  executionId ∈ tables.executions.map Execution.executionId

instance (tables : PortfolioTables) (executionId : String) :
    Decidable (tables.Recorded executionId) :=
  inferInstanceAs (Decidable (_ ∈ _))

end PortfolioTables

namespace ConcurrentFills

open PortfolioTables

/-! ### Calls, statement by statement -/

/-- Where a call stands: what its next statement is. -/
inductive Phase where
  /-- `SELECT execution_id FROM executions`. -/
  | started
  /-- The execution is on record: `SELECT * FROM positions`, and return. -/
  | known
  /-- It is not: `SELECT * FROM positions`. -/
  | fresh
  /-- The position was read: `INSERT INTO executions`, which begins the transaction. -/
  | read (row : Option Position)
  /-- `INSERT INTO positions`. -/
  | inserted (position : Position)
  /-- `COMMIT`. -/
  | upserted (position : Position)
  | ended (result : Except Raised (Position × Bool))

/-- The call stands between its read of the position and its commit. -/
def Phase.stands : Phase → Bool
  | .read _ => true
  | .inserted _ => true
  | .upserted _ => true
  | _ => false

/-- The call is about to read the position. -/
def Phase.seeks : Phase → Bool
  | .fresh => true
  | _ => false

/-- A call of `apply_execution_atomic`. -/
structure Call where
  delivery : Delivery
  phase : Phase

namespace Call

def executionId (call : Call) : String := call.delivery.execution.executionId

def instrumentId (call : Call) : String := call.delivery.execution.instrumentId

/-- The position the call builds from the row it read. -/
def booked (call : Call) (row : Option Position) : Position :=
  bookedPosition row call.delivery.execution call.delivery.tradingMode call.delivery.currentPrice

/-- The call has returned. -/
def ended (call : Call) : Bool :=
  match call.phase with
  | .ended _ => true
  | _ => false

/-- The fill that the call has applied. -/
def applied (call : Call) : Option Delivery :=
  match call.phase with
  | .ended (.ok (_, true)) => some call.delivery
  | _ => none

end Call

/-- The database: what is committed, the call that writes with the tables it sees, and all
calls. -/
structure Store where
  committed : PortfolioTables
  writer : Option (Nat × PortfolioTables)
  calls : List Call

namespace Store

/-- A database that no call has reached. -/
def opened (tables : PortfolioTables) : Store := ⟨tables, none, []⟩

/-- A call gets on. -/
def moved (store : Store) (index : Nat) (call : Call) (phase : Phase) : Store :=
  { store with calls := store.calls.set index { call with phase } }

/-- The fills that calls have applied. -/
def applied (store : Store) : List Delivery := store.calls.filterMap Call.applied

end Store

/-- What the database is told: that a call starts, or that a call executes its next statement. -/
inductive Op where
  | start (delivery : Delivery)
  | statement (index : Nat)

/-- The next statement of a call. A reader sees what is committed; a writer waits for another. -/
def statement (store : Store) (index : Nat) (call : Call) : Store :=
  match call.phase with
  | .started =>
    if store.committed.Recorded call.executionId then store.moved index call .known
    else store.moved index call .fresh
  | .known =>
    match store.committed.getPosition call.instrumentId with
    | none => store.moved index call
        (.ended (.error ⟨"Execution exists but portfolio position is missing"⟩))
    | some row => store.moved index call (.ended (.ok (row, false)))
  | .fresh => store.moved index call (.read (store.committed.getPosition call.instrumentId))
  | .read row =>
    match store.writer with
    | some _ => store
    | none =>
      if recorded : store.committed.Recorded call.executionId then
        store.moved index call
          (.ended (.error ⟨"UNIQUE constraint failed: executions.execution_id"⟩))
      else
        { store.moved index call (.inserted (call.booked row)) with
          writer := some (index,
            store.committed.insertExecution call.delivery.execution recorded) }
  | .inserted position =>
    { store.moved index call (.upserted position) with
      writer := store.writer.map fun writer => (writer.1, writer.2.upsertPosition position) }
  | .upserted position =>
    { store.moved index call (.ended (.ok (position, true))) with
      committed := store.writer.elim store.committed Prod.snd
      writer := none }
  | .ended _ => store

def step (store : Store) : Op → Store
  | .start delivery => { store with calls := store.calls ++ [⟨delivery, .started⟩] }
  | .statement index =>
    match store.calls[index]? with
    | none => store
    | some call => statement store index call

/-! ### What is claimed and what is needed -/

/-- The totals of an instrument. -/
def tradedOn (tables : PortfolioTables) (instrumentId : String) : Traded :=
  (tables.getPosition instrumentId).elim ⟨0, 0, 0, 0⟩ Position.traded

/-- Totals of two lists of fills. -/
def plus (first second : Traded) : Traded where
  buyQuantity := first.buyQuantity + second.buyQuantity
  sellQuantity := first.sellQuantity + second.sellQuantity
  buyValue := first.buyValue + second.buyValue
  sellValue := first.sellValue + second.sellValue

/-- The totals of the fills of an instrument. -/
def filledOn (deliveries : List Delivery) (instrumentId : String) : Traded :=
  Traded.of (executionsOn instrumentId (deliveries.map Delivery.execution))

/-- The calls have applied their fills as one after another would: every position includes the
quantity and the value of each, and a call that has returned has applied its fill unless the
execution was on record, or is that of another call. -/
structure Atomic (start : PortfolioTables) (store : Store) : Prop where
  sequential : ∃ order, order.Perm store.applied ∧ store.committed = start.applyAll order
  included : ∀ instrumentId, tradedOn store.committed instrumentId =
    plus (tradedOn start instrumentId) (filledOn store.applied instrumentId)
  complete : ∀ (index : Nat) (call : Call), store.calls[index]? = some call →
    call.ended = true → ¬ start.Recorded call.executionId →
    (∀ (other : Nat) (otherCall : Call), other ≠ index → store.calls[other]? = some otherCall →
      otherCall.executionId ≠ call.executionId) →
    call.applied = some call.delivery

/-- A position is read only while no other call on its instrument stands between its read and its
commit. -/
def ReadsAlone (store : Store) : Op → Prop
  | .start _ => True
  | .statement index => ∀ call ∈ store.calls[index]?, call.phase.seeks = true →
      ∀ other < store.calls.length, other ≠ index → ∀ otherCall ∈ store.calls[other]?,
        otherCall.phase.stands = true → otherCall.instrumentId ≠ call.instrumentId

instance (store : Store) : (op : Op) → Decidable (ReadsAlone store op)
  | .start _ => inferInstanceAs (Decidable True)
  | .statement index => inferInstanceAs (Decidable (∀ call ∈ store.calls[index]?,
      call.phase.seeks = true → ∀ other < store.calls.length, other ≠ index →
        ∀ otherCall ∈ store.calls[other]?,
          otherCall.phase.stands = true → otherCall.instrumentId ≠ call.instrumentId))

/-! ### What is kept -/

/-- The call is in its transaction. -/
def Phase.writes : Phase → Bool
  | .inserted _ => true
  | .upserted _ => true
  | _ => false

/-- The call has not begun its transaction. -/
def Phase.reads : Phase → Bool
  | .inserted _ => false
  | .upserted _ => false
  | .ended _ => false
  | _ => true

theorem Phase.writes_of_reads {phase : Phase} (reads : phase.reads = true) :
    phase.writes = false := by
  cases phase <;> first | rfl | cases reads

theorem Call.applied_of_running {call : Call} (running : call.ended = false) :
    call.applied = none := by
  unfold Call.ended at running
  unfold Call.applied
  cases phase : call.phase <;> rw [phase] at running
  case ended => cases running

theorem Call.running_of_reads {call : Call} (reads : call.phase.reads = true) :
    call.ended = false := by
  unfold Call.ended
  cases phase : call.phase <;> rw [phase] at reads
  case ended => cases reads

/-- What is known of a call where it stands: what it read is still so, and what it writes books
its fill. -/
def Place (committed : PortfolioTables) (writer : Option (Nat × PortfolioTables)) (index : Nat)
    (call : Call) : Prop :=
  match call.phase with
  | .started => True
  | .known => committed.Recorded call.executionId
  | .fresh => True
  | .read row => row = committed.getPosition call.instrumentId
  | .inserted position => position = call.booked (committed.getPosition call.instrumentId) ∧
      ∃ fresh, writer = some (index, committed.insertExecution call.delivery.execution fresh)
  | .upserted position => position = call.booked (committed.getPosition call.instrumentId) ∧
      ∃ fresh, writer = some (index, committed.book call.delivery.execution position fresh)
  | .ended _ => committed.Recorded call.executionId

/-- What is committed are the fills of the calls that have applied theirs, in some order. -/
def Ledger (start committed : PortfolioTables) (applied : List Delivery) : Prop :=
  ∃ order, order.Perm applied ∧ committed = start.applyAll order ∧
    committed.executions = start.executions ++ order.map Delivery.execution ∧
    ∀ instrumentId, tradedOn committed instrumentId =
      plus (tradedOn start instrumentId) (filledOn order instrumentId)

structure Sound (start : PortfolioTables) (store : Store) : Prop where
  ledger : Ledger start store.committed store.applied
  places : ∀ (index : Nat) (call : Call), store.calls[index]? = some call →
    Place store.committed store.writer index call
  owner : ∀ (index : Nat) (tables : PortfolioTables), store.writer = some (index, tables) →
    ∃ call : Call, store.calls[index]? = some call ∧ call.phase.writes = true
  apart : ∀ (first second : Nat) (firstCall secondCall : Call), first ≠ second →
    store.calls[first]? = some firstCall → store.calls[second]? = some secondCall →
    firstCall.phase.stands = true → secondCall.phase.stands = true →
    firstCall.instrumentId ≠ secondCall.instrumentId

section

variable {start : PortfolioTables} {store next : Store} {index : Nat} {call : Call}

variable {committed : PortfolioTables}

theorem Place.writer_eq
    {writer : Option (Nat × PortfolioTables)} (place : Place committed writer index call)
    (writes : call.phase.writes = true) : ∃ tables, writer = some (index, tables) := by
  unfold Place at place
  cases phase : call.phase <;> rw [phase] at place writes
  case inserted => exact ⟨_, place.2.choose_spec⟩
  case upserted => exact ⟨_, place.2.choose_spec⟩
  all_goals cases writes

theorem Place.of_writer
    {writer other : Option (Nat × PortfolioTables)} (place : Place committed writer index call)
    (reads : call.phase.writes = false) : Place committed other index call := by
  unfold Place at place ⊢
  cases phase : call.phase <;> rw [phase] at place reads
  case inserted => cases reads
  case upserted => cases reads
  all_goals exact place

theorem Sound.others (sound : Sound start store)
    (alone : ∀ tables other, store.writer = some (other, tables) → other = index)
    (writer : Option (Nat × PortfolioTables)) {other : Nat} {otherCall : Call}
    (different : other ≠ index) (found : store.calls[other]? = some otherCall) :
    otherCall.phase.writes = false ∧ Place store.committed writer other otherCall := by
  have place := sound.places other otherCall found
  have reads : otherCall.phase.writes = false := by
    refine Bool.eq_false_iff.mpr fun writes => ?_
    obtain ⟨tables, same⟩ := place.writer_eq writes
    exact different (alone tables other same)
  exact ⟨reads, place.of_writer reads⟩

theorem Sound.replaced (sound : Sound start store) (phase : Phase)
    (calls : next.calls = store.calls.set index { call with phase })
    (found : store.calls[index]? = some call)
    (ledger : Ledger start next.committed next.applied)
    (place : Place next.committed next.writer index { call with phase })
    (places : ∀ (other : Nat) (otherCall : Call), other ≠ index →
      store.calls[other]? = some otherCall → Place next.committed next.writer other otherCall)
    (owner : ∀ (other : Nat) (tables : PortfolioTables), next.writer = some (other, tables) →
      other = index ∧ phase.writes = true ∨ other ≠ index ∧ store.writer = some (other, tables))
    (apart : phase.stands = true → ∀ (other : Nat) (otherCall : Call), other ≠ index →
      store.calls[other]? = some otherCall → otherCall.phase.stands = true →
      otherCall.instrumentId ≠ call.instrumentId) : Sound start next := by
  have inside : index < store.calls.length := (List.getElem?_eq_some_iff.mp found).1
  have own : next.calls[index]? = some { call with phase } := by
    rw [calls, List.getElem?_set_self inside]
  have others (other : Nat) (different : other ≠ index) :
      next.calls[other]? = store.calls[other]? := by
    rw [calls, List.getElem?_set_ne different.symm]
  refine ⟨ledger, fun other otherCall present => ?_, fun other tables writing => ?_,
    fun first second firstCall secondCall different inFirst inSecond standsFirst standsSecond => ?_⟩
  · by_cases same : other = index
    · subst same
      rw [own] at present
      cases present
      exact place
    · rw [others other same] at present
      exact places other otherCall same present
  · rcases owner other tables writing with ⟨rfl, writes⟩ | ⟨different, same⟩
    · exact ⟨_, own, writes⟩
    · rw [others other different]
      exact sound.owner other tables same
  · by_cases isFirst : first = index
    · subst isFirst
      rw [own] at inFirst
      cases inFirst
      rw [others second different.symm] at inSecond
      exact (apart standsFirst second secondCall different.symm inSecond standsSecond).symm
    · rw [others first isFirst] at inFirst
      by_cases isSecond : second = index
      · subst isSecond
        rw [own] at inSecond
        cases inSecond
        exact apart standsSecond first firstCall isFirst inFirst standsFirst
      · rw [others second isSecond] at inSecond
        exact sound.apart first second firstCall secondCall different inFirst inSecond standsFirst
          standsSecond

/-! ### What a call has applied -/

theorem filterMap_set_none {Item Kept : Type} {keep : Item → Option Kept} {old new : Item}
    (dropped : keep old = none) (stays : keep new = none) :
    ∀ {items : List Item} {place : Nat}, items[place]? = some old →
      (items.set place new).filterMap keep = items.filterMap keep
  | item :: rest, 0, found => by
    cases found
    simp [dropped, stays]
  | item :: rest, place + 1, found => by
    rw [List.set_cons_succ, List.filterMap_cons, List.filterMap_cons,
      filterMap_set_none dropped stays (by simpa using found)]

theorem filterMap_set_some {Item Kept : Type} {keep : Item → Option Kept} {old new : Item}
    {kept : Kept} (dropped : keep old = none) (adds : keep new = some kept) :
    ∀ {items : List Item} {place : Nat}, items[place]? = some old →
      (items.filterMap keep ++ [kept]).Perm ((items.set place new).filterMap keep)
  | item :: rest, 0, found => by
    cases found
    simp [dropped, adds, List.perm_append_singleton]
  | item :: rest, place + 1, found => by
    have tail := filterMap_set_some dropped adds (by simpa using found : rest[place]? = some old)
    rw [List.set_cons_succ, List.filterMap_cons, List.filterMap_cons]
    cases keep item with
    | none => exact tail
    | some head => exact tail.cons head

theorem Sound.ledger_moved (sound : Sound start store) (phase : Phase)
    (calls : next.calls = store.calls.set index { call with phase })
    (committed : next.committed = store.committed)
    (found : store.calls[index]? = some call) (unapplied : call.applied = none)
    (stays : Call.applied { call with phase } = none) :
    Ledger start next.committed next.applied := by
  have same : next.applied = store.applied := by
    unfold Store.applied
    rw [calls]
    exact filterMap_set_none unapplied stays found
  rw [committed, same]
  exact sound.ledger

theorem Sound.moved (sound : Sound start store) (phase : Phase)
    (found : store.calls[index]? = some call) (reads : call.phase.reads = true)
    (stays : Call.applied { call with phase } = none)
    (place : Place store.committed store.writer index { call with phase })
    (apart : phase.stands = true → ∀ (other : Nat) (otherCall : Call), other ≠ index →
      store.calls[other]? = some otherCall → otherCall.phase.stands = true →
      otherCall.instrumentId ≠ call.instrumentId) :
    Sound start (store.moved index call phase) := by
  have unapplied := Call.applied_of_running (Call.running_of_reads reads)
  refine sound.replaced phase rfl found (sound.ledger_moved phase rfl rfl found unapplied stays)
    place (fun other otherCall _ present => sound.places other otherCall present)
    (fun other tables writing => .inr ⟨?_, writing⟩) apart
  rintro rfl
  obtain ⟨writerCall, present, writes⟩ := sound.owner other tables writing
  rw [found] at present
  cases present
  rw [Phase.writes_of_reads reads] at writes
  cases writes

/-! ### Commits -/

theorem plus_assoc (first second third : Traded) :
    plus (plus first second) third = plus first (plus second third) := by
  simp only [plus, add_assoc]

theorem of_append_plus (executions : List Execution) (fill : Execution) :
    Traded.of (executions ++ [fill]) = plus (Traded.of executions) (Traded.of [fill]) := by
  simp [Traded.of, plus]

theorem traded_bookedPosition (row : Option Position) (fill : Execution)
    (tradingMode : TradingMode) (currentPrice : ℚ) :
    (bookedPosition row fill tradingMode currentPrice).traded =
      plus (row.elim ⟨0, 0, 0, 0⟩ Position.traded) (Traded.of [fill]) := by
  cases row <;> simp [bookedPosition, Position.traded, plus, Traded.of]

theorem filledOn_append (order : List Delivery) (delivery : Delivery) (instrumentId : String) :
    filledOn (order ++ [delivery]) instrumentId =
      if delivery.execution.instrumentId = instrumentId then
        plus (filledOn order instrumentId) (Traded.of [delivery.execution])
      else filledOn order instrumentId := by
  unfold filledOn
  rw [List.map_append, List.map_singleton, executionsOn_append]
  split
  · exact of_append_plus _ _
  · rfl

theorem filledOn_perm {first second : List Delivery} (perm : first.Perm second)
    (instrumentId : String) : filledOn first instrumentId = filledOn second instrumentId :=
  Traded.of_perm ((perm.map _).filter _)

theorem Ledger.book {applied : List Delivery}
    (ledger : Ledger start committed applied) (delivery : Delivery)
    (fresh : delivery.execution.executionId ∉ committed.executions.map Execution.executionId) :
    Ledger start (committed.book delivery.execution (bookedPosition
        (committed.getPosition delivery.execution.instrumentId) delivery.execution
        delivery.tradingMode delivery.currentPrice) fresh) (applied ++ [delivery]) := by
  obtain ⟨order, perm, sequential, executions, totals⟩ := ledger
  refine ⟨order ++ [delivery], perm.append_right _, ?_, ?_, fun instrumentId => ?_⟩
  · have last : start.applyAll (order ++ [delivery]) = ((start.applyAll order).applyExecutionAtomic
        delivery.execution delivery.tradingMode delivery.currentPrice).2 := by
      rw [applyAll, List.foldl_append]
      rfl
    rw [last, ← sequential, applyExecutionAtomic, dif_neg fresh]
  · show committed.executions ++ [delivery.execution] = _
    rw [executions, List.map_append, List.append_assoc]
    rfl
  · unfold tradedOn
    rw [getPosition_book, bookedPosition_instrumentId, filledOn_append]
    split
    · rename_i same
      subst same
      rw [Option.elim_some, traded_bookedPosition, ← plus_assoc]
      exact congrArg (plus · _) (totals _)
    · exact totals instrumentId

section

variable (sound : Sound start store)

include sound

theorem Sound.commit {position : Position} (found : store.calls[index]? = some call)
    (phase : call.phase = .upserted position) : Sound start (statement store index call) := by
  have place := sound.places index call found
  unfold Place at place
  rw [phase] at place
  obtain ⟨rfl, fresh, writing⟩ := place
  have alone : ∀ tables other, store.writer = some (other, tables) → other = index := by
    intro tables other same
    rw [writing] at same
    exact (congrArg Prod.fst (Option.some.inj same)).symm
  have unapplied : call.applied = none := by
    simp [Call.applied, phase]
  have committed : (statement store index call).committed =
      store.committed.book call.delivery.execution
        (call.booked (store.committed.getPosition call.instrumentId)) fresh := by
    unfold statement
    simp only [phase, writing]
    rfl
  have writer : (statement store index call).writer = none := by
    unfold statement
    simp only [phase]
  have calls : (statement store index call).calls = store.calls.set index { call with
      phase := .ended (.ok (call.booked (store.committed.getPosition call.instrumentId),
        true)) } := by
    unfold statement
    simp only [phase]
    rfl
  have recorded (executionId : String) (before : store.committed.Recorded executionId) :
      (statement store index call).committed.Recorded executionId := by
    rw [committed]
    show executionId ∈ (store.committed.executions ++ [call.delivery.execution]).map _
    rw [List.map_append]
    exact List.mem_append_left _ before
  refine sound.replaced _ calls found ?_ ?_ (fun other otherCall different present => ?_)
    (fun other tables same => ?_) (fun stands => ?_)
  · obtain ⟨order, perm, rest⟩ := sound.ledger.book call.delivery fresh
    rw [committed]
    refine ⟨order, perm.trans ?_, rest⟩
    unfold Store.applied
    rw [calls]
    exact filterMap_set_some unapplied rfl found
  · show (statement store index call).committed.Recorded call.executionId
    rw [committed]
    show call.executionId ∈ (store.committed.executions ++ [call.delivery.execution]).map _
    simp [Call.executionId]
  · obtain ⟨reads, place⟩ := sound.others alone none different present
    unfold Place at place ⊢
    cases otherPhase : otherCall.phase <;> rw [otherPhase] at place reads
    case started => exact place
    case fresh => exact place
    case known => exact recorded _ place
    case ended => exact recorded _ place
    case read row =>
      have elsewhere : otherCall.instrumentId ≠ call.instrumentId := by
        refine sound.apart other index otherCall call different present found ?_ ?_
        · rw [otherPhase]
          rfl
        · rw [phase]
          rfl
      rw [committed, getPosition_book, if_neg]
      · exact place
      · exact elsewhere.symm
    case inserted => cases reads
    case upserted => cases reads
  · rw [writer] at same
    cases same
  · cases stands

theorem Sound.statement (found : store.calls[index]? = some call)
    (alone : ReadsAlone store (.statement index)) : Sound start (statement store index call) := by
  have place := sound.places index call found
  unfold Place at place
  have standing (stands : call.phase.stands = true) (other : Nat) (otherCall : Call)
      (different : other ≠ index) (present : store.calls[other]? = some otherCall)
      (otherStands : otherCall.phase.stands = true) :
      otherCall.instrumentId ≠ call.instrumentId :=
    sound.apart other index otherCall call different present found otherStands stands
  unfold ConcurrentFills.statement
  cases phase : call.phase with
  | started =>
    have reads : call.phase.reads = true := phase ▸ rfl
    dsimp only
    split
    · rename_i recorded
      exact sound.moved .known found reads rfl recorded nofun
    · exact sound.moved .fresh found reads rfl True.intro nofun
  | known =>
    rw [phase] at place
    have reads : call.phase.reads = true := phase ▸ rfl
    dsimp only
    split
    · exact sound.moved _ found reads rfl place nofun
    · exact sound.moved _ found reads rfl place nofun
  | fresh =>
    have reads : call.phase.reads = true := phase ▸ rfl
    have seeks : call.phase.seeks = true := phase ▸ rfl
    exact sound.moved _ found reads rfl rfl fun _ other otherCall different present =>
      alone call found seeks other (List.getElem?_eq_some_iff.mp present).1 different otherCall
        present
  | read row =>
    rw [phase] at place
    have reads : call.phase.reads = true := phase ▸ rfl
    cases writing : store.writer with
    | some writer => exact sound
    | none =>
      simp only
      split
      · rename_i recorded
        exact sound.moved _ found reads rfl recorded nofun
      · rename_i fresh
        have nobody : ∀ tables other, store.writer = some (other, tables) → other = index := by
          intro tables other same
          rw [writing] at same
          cases same
        have unapplied := Call.applied_of_running (Call.running_of_reads reads)
        refine sound.replaced (.inserted (call.booked row)) rfl found
          (sound.ledger_moved _ rfl rfl found unapplied rfl) ⟨?_, fresh, rfl⟩
          (fun other otherCall different present =>
            (sound.others nobody _ different present).2)
          (fun other tables same => ?_)
          (fun _ => standing (by rw [phase]; rfl))
        · rw [place]
          rfl
        · exact .inl ⟨(congrArg Prod.fst (Option.some.inj same)).symm, rfl⟩
  | inserted position =>
    rw [phase] at place
    obtain ⟨built, fresh, writing⟩ := place
    have unapplied : call.applied = none := by
      simp [Call.applied, phase]
    have own : ∀ tables other, store.writer = some (other, tables) → other = index := by
      intro tables other same
      rw [writing] at same
      exact (congrArg Prod.fst (Option.some.inj same)).symm
    simp only [writing, Option.map_some]
    refine sound.replaced (.upserted position) rfl found
      (sound.ledger_moved _ rfl rfl found unapplied rfl) ⟨built, fresh, rfl⟩
      (fun other otherCall different present => (sound.others own _ different present).2)
      (fun other tables same => ?_)
      (fun _ => standing (by rw [phase]; rfl))
    exact .inl ⟨(congrArg Prod.fst (Option.some.inj same)).symm, rfl⟩
  | upserted position =>
    simpa only [ConcurrentFills.statement, phase] using sound.commit found phase
  | ended result =>
    exact sound

theorem Sound.started (delivery : Delivery) : Sound start (step store (.start delivery)) := by
  have same : (step store (.start delivery)).applied = store.applied := by
    simp [Store.applied, step, Call.applied]
  have cases (index : Nat) (call : Call)
      (present : (step store (.start delivery)).calls[index]? = some call) :
      store.calls[index]? = some call ∨ call.phase = .started := by
    unfold step at present
    rw [List.getElem?_append] at present
    split at present
    · exact .inl present
    · right
      rw [List.getElem?_singleton] at present
      split at present
      · cases present
        rfl
      · cases present
  refine ⟨?_, fun index call present => ?_, fun index tables writing => ?_,
    fun first second firstCall secondCall different inFirst inSecond standsFirst standsSecond => ?_⟩
  · rw [same]
    exact sound.ledger
  · rcases cases index call present with before | started
    · exact sound.places index call before
    · unfold Place
      rw [started]
      trivial
  · obtain ⟨call, present, writes⟩ := sound.owner index tables writing
    refine ⟨call, ?_, writes⟩
    unfold step
    rw [List.getElem?_append_left (List.getElem?_eq_some_iff.mp present).1]
    exact present
  · rcases cases first firstCall inFirst with beforeFirst | started
    · rcases cases second secondCall inSecond with beforeSecond | started
      · exact sound.apart first second firstCall secondCall different beforeFirst beforeSecond
          standsFirst standsSecond
      · rw [started] at standsSecond
        cases standsSecond
    · rw [started] at standsFirst
      cases standsFirst

theorem Sound.step (op : Op) (alone : ReadsAlone store op) : Sound start (step store op) := by
  cases op with
  | start delivery => exact sound.started delivery
  | statement index =>
    cases found : store.calls[index]? with
    | none => simpa [ConcurrentFills.step, found] using sound
    | some call => simpa [ConcurrentFills.step, found] using sound.statement found alone

end

theorem sound_opened (start : PortfolioTables) : Sound start (Store.opened start) where
  ledger := ⟨[], List.Perm.refl _, rfl, (List.append_nil _).symm, fun instrumentId => by
    have none : filledOn [] instrumentId = ⟨0, 0, 0, 0⟩ := rfl
    simp [none, plus, Store.opened]⟩
  places _ _ present := by cases present
  owner _ _ writing := by cases writing
  apart _ _ _ _ _ present := by cases present

theorem Sound.atomic (sound : Sound start store) : Atomic start store where
  sequential := by
    obtain ⟨order, perm, sequential, -⟩ := sound.ledger
    exact ⟨order, perm, sequential⟩
  included instrumentId := by
    obtain ⟨order, perm, -, -, totals⟩ := sound.ledger
    rw [totals, filledOn_perm perm]
  complete index call present ended unrecorded distinct := by
    obtain ⟨order, perm, -, executions, -⟩ := sound.ledger
    have place := sound.places index call present
    have recorded : store.committed.Recorded call.executionId := by
      unfold Place at place
      unfold Call.ended at ended
      cases phase : call.phase <;> rw [phase] at place ended
      case ended => exact place
      all_goals cases ended
    -- the execution on record is that of a call that applied it, and no other call has it
    unfold Recorded at recorded unrecorded
    rw [executions, List.map_append, List.mem_append] at recorded
    obtain ⟨execution, traded, same⟩ := List.mem_map.mp (recorded.resolve_left unrecorded)
    obtain ⟨delivery, booked, rfl⟩ := List.mem_map.mp traded
    obtain ⟨applier, member, applied⟩ := List.mem_filterMap.mp (perm.mem_iff.mp booked)
    obtain ⟨place, inPlace⟩ := List.mem_iff_getElem?.mp member
    have own : applier.delivery = delivery := by
      unfold Call.applied at applied
      split at applied
      · exact Option.some.inj applied
      · cases applied
    by_cases itself : place = index
    · subst itself
      rw [present] at inPlace
      cases inPlace
      rw [applied, own]
    · refine absurd ?_ (distinct place applier itself inPlace)
      rw [← same, ← own]
      rfl

end

end ConcurrentFills

open ConcurrentFills PortfolioTables

/-- In every run of calls in which a position is read only while no other call on its instrument
stands between its read and its commit, the calls apply their fills as one after another
would. -/
theorem applyExecutionAtomic_atomic (start : PortfolioTables) (ops : List Op)
    (alone : Run.Along step ReadsAlone (Store.opened start) ops) :
    Atomic start (ops.foldl step (Store.opened start)) :=
  (alone.holds_final (fun _ op sound alone => sound.step op alone) (sound_opened start)).atomic

namespace ConcurrentFills

/-- Two fills of one instrument. -/
def firstFill : Delivery := delivered "first" .buy 75 100 100

def secondFill : Delivery := delivered "second" .buy 25 110 110

/-- The statements of one call. -/
def statements (index : Nat) (count : Nat) : List Op := List.replicate count (.statement index)

/-- Both calls read the position before either writes it. -/
def overlapping : List Op :=
  [.start firstFill, .start secondFill] ++ statements 0 2 ++ statements 1 2 ++ statements 0 3 ++
    statements 1 3

/-- The second call reads the position when the first has committed. -/
def afterwards : List Op :=
  [.start firstFill, .start secondFill] ++ statements 1 1 ++ statements 0 5 ++ statements 1 4

end ConcurrentFills

/-- The later commit takes the fill of the other call out of the position. -/
theorem applyExecutionAtomic_loses_fill :
    ¬ ∀ (start : PortfolioTables) (ops : List Op),
      Atomic start (ops.foldl step (Store.opened start)) := by
  intro atomic
  have included := (atomic empty overlapping).included "INST-NIFTY-2026-01-29-25000-CE"
  revert included
  decide +kernel

/-- A second call that reads the position after the first commit adds its fill to it. -/
theorem applyExecutionAtomic_atomic_afterwards :
    Atomic empty (afterwards.foldl step (Store.opened empty)) :=
  applyExecutionAtomic_atomic empty afterwards (by decide +kernel)

end BreezeTrading
