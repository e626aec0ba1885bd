/-
This file proves when a guarded write is invoked at most once for its request: in every run in
which a request is marked as submitting only while its row is still received. The mark earns a
credit, which the invocation spends; the invariant counts both together.
-/

import BreezeTrading.BrokerGateway.Guard
import BreezeTrading.Lib.Ownership
import Mathlib.Algebra.Group.Prod
import Mathlib.Algebra.GroupWithZero.Nat

namespace BreezeTrading.BrokerGateway

open Async ExecutionGuard

namespace GuardedOnce

/-! ### Condition -/

def InState (requestId : String) (state : BrokerWriteStatus) (world : Guard) : Prop :=
  ∃ row, world.rows requestId = some row ∧ row.state = state

instance (requestId : String) (state : BrokerWriteStatus) (world : Guard) :
    Decidable (InState requestId state world) :=
  match found : world.rows requestId with
  | none => isFalse fun ⟨_, same, _⟩ => nomatch found.symm.trans same
  | some row =>
    if stands : row.state = state then isTrue ⟨row, found, stands⟩
    else isFalse fun ⟨_, same, holds⟩ =>
      stands (Option.some.inj (found.symm.trans same) ▸ holds)

/-- The request is marked as submitting only while it is still received. -/
def condition (requestId : String) : Condition GuardOp Guard GuardAnswer GuardStart Empty where
  answer world op _ :=
    match op with
    | .markSubmitting other => decide (other = requestId → InState requestId .received world)
    | _ => true

/-! ### The invariant -/

/-- What a call that has not invoked the write is answered: a refusal, or the acknowledgement
the ledger keeps. -/
def Replayed (requestId : String) (world : Guard)
    (outcome : Except BrokerError BrokerOrderAcknowledgement) : Prop :=
  (∃ error, outcome = .error error) ∨
    ∃ row now, world.rows requestId = some row ∧ row.state = .acknowledged ∧
      outcome = .ok (row.acknowledgement requestId now)

/-- A call invoked the write, or its outcome is a replay. -/
def Accounted (requestId : String) (world : Guard) (caller : Nat)
    (outcome : Except BrokerError BrokerOrderAcknowledgement) : Prop :=
  (requestId, caller) ∈ world.invocations ∨ Replayed requestId world outcome

/-- The write was invoked at most once, and every other call was answered with a replay. -/
structure Once (requestId : String) (world : Guard) : Prop where
  invoked : world.invoked requestId ≤ 1
  answers : ∀ given ∈ world.answers, given.requestId = requestId →
    Accounted requestId world given.caller given.outcome

/-- The credit of a task: its rights to invoke the write, and the outcomes it has to record. -/
abbrev Credit := ℕ × ℕ

/-- Rights and invocations together are at most one, and none while the request is received. -/
structure Safe (requestId : String) (world : Guard) (credit : Credit) : Prop where
  free : world.rows requestId = none ∨ InState requestId .received world →
    credit.1 = 0 ∧ world.invoked requestId = 0
  once : credit.1 + world.invoked requestId ≤ 1
  recording : credit.2 ≤ world.invoked requestId
  settled : InState requestId .acknowledged world → credit.1 = 0 ∧ credit.2 = 0
  answers : ∀ given ∈ world.answers, given.requestId = requestId →
    Accounted requestId world given.caller given.outcome

/-- What no step undoes: an invocation stays, and so does an acknowledged row. -/
structure Later (requestId : String) (world next : Guard) : Prop where
  invocations : world.invocations ⊆ next.invocations
  rows : ∀ row, world.rows requestId = some row → row.state = .acknowledged →
    next.rows requestId = some row

def discipline (requestId : String) : Discipline Guard Credit where
  later := Later requestId
  refl _ := ⟨List.Subset.refl _, fun _ found _ => found⟩
  trans first second := ⟨List.Subset.trans first.invocations second.invocations, fun row found done =>
    second.rows row (first.rows row found done) done⟩
  holds := Safe requestId

section

variable {requestHash : String → String} {requestId : String} {world next : Guard}

theorem Accounted.later {caller : Nat} {outcome : Except BrokerError BrokerOrderAcknowledgement}
    (accounted : Accounted requestId world caller outcome) (late : Later requestId world next) :
    Accounted requestId next caller outcome := by
  rcases accounted with invoked | refused | ⟨row, now, found, done, same⟩
  · exact Or.inl (late.invocations invoked)
  · exact Or.inr (Or.inl refused)
  · exact Or.inr (Or.inr ⟨row, now, late.rows row found done, done, same⟩)

/-- A task that owns its credit, in this discipline. -/
abbrev Safely (requestHash : String → String) (requestId : String) {Result : Type}
    (task : GuardTask Result) (credit : Credit) (seen : Guard)
    (post : Except BrokerError Result → Credit → Guard → Prop) : Prop :=
  Owns (Guard.system requestHash) (condition requestId) (discipline requestId) task credit seen
    post

/-- An operation that keeps the invariant, in this discipline. -/
abbrev Replies (requestHash : String → String) (requestId : String) (op : GuardOp)
    (credit : Credit) (seen : Guard)
    (post : Except BrokerError (GuardReply op) → Credit → Guard → Prop) : Prop :=
  Answers (Guard.system requestHash) (condition requestId) (discipline requestId) op credit seen
    post

/-! ### What the invariant reads -/

/-- The row of the request, its invocations and the answers are the same. -/
structure Frame (requestId : String) (world next : Guard) : Prop where
  rows : next.rows requestId = world.rows requestId
  invoked : next.invoked requestId = world.invoked requestId
  invocations : world.invocations ⊆ next.invocations
  answers : next.answers = world.answers

theorem frame_refl (world : Guard) : Frame requestId world world :=
  ⟨rfl, rfl, List.Subset.refl _, rfl⟩

theorem Frame.later (frame : Frame requestId world next) : Later requestId world next :=
  ⟨frame.invocations, fun _ found _ => frame.rows.trans found⟩

theorem Frame.inState (frame : Frame requestId world next) {state : BrokerWriteStatus} :
    InState requestId state next ↔ InState requestId state world := by
  unfold InState
  rw [frame.rows]

variable {credit : Credit} {after : Guard} {choice : GuardAnswer} {op : GuardOp}
  {request : GuardedWrite}

theorem Safe.frame (safe : Safe requestId world credit) (frame : Frame requestId world next) :
    Safe requestId next credit := by
  refine ⟨?_, ?_, ?_, ?_, ?_⟩
  · rw [frame.rows, frame.inState, frame.invoked]
    exact safe.free
  · rw [frame.invoked]
    exact safe.once
  · rw [frame.invoked]
    exact safe.recording
  · rw [frame.inState]
    exact safe.settled
  · rw [frame.answers]
    exact fun given member own => (safe.answers given member own).later frame.later

theorem statement_eq_some {Value : Type} {value : Value} {reply : Except BrokerError Value}
    (answered : Guard.statement world value after choice = some (reply, next)) :
    (reply = .ok value ∧ next = after) ∨ (next = world ∧ ∃ error, reply = .error error) := by
  cases choice with
  | ok =>
    cases answered
    exact Or.inl ⟨rfl, rfl⟩
  | raises error =>
    cases answered
    exact Or.inr ⟨rfl, error, rfl⟩
  | _ => cases answered

theorem world_of_reply {Value : Type} {value : Option Value} {reply : Except BrokerError Value}
    (answered : world.reply value choice = some (reply, next)) : next = world := by
  cases choice with
  | raises error => exact (Prod.mk.inj (Option.some.inj answered)).2.symm
  | _ =>
    obtain ⟨found, -, same⟩ := Option.map_eq_some_iff.mp answered
    exact (Prod.mk.inj same).2.symm

theorem setRow_self (world : Guard) (requestId : String) (row : Option BrokerWriteRequest) :
    (world.setRow requestId row).rows requestId = row := if_pos rfl

theorem frame_setRow {other : String} (different : other ≠ requestId) (world : Guard)
    (row : Option BrokerWriteRequest) : Frame requestId world (world.setRow other row) :=
  ⟨if_neg different.symm, rfl, List.Subset.refl _, rfl⟩

theorem frame_statement {Value : Type} {value : Value} {reply : Except BrokerError Value}
    (frame : Frame requestId world after)
    (answered : Guard.statement world value after choice = some (reply, next)) :
    Frame requestId world next := by
  rcases statement_eq_some answered with ⟨-, rfl⟩ | ⟨rfl, -⟩
  · exact frame
  · exact frame_refl _

/-- An operation that leaves the row of the request, its invocations and the answers. -/
def Apart (requestId : String) : GuardOp → Prop
  | .insert other _ | .markSubmitting other | .markAcknowledged other _ _ | .markUnknown other _
  | .markRejected other _ | .invoke other _ => other ≠ requestId
  | .respond _ => False
  | .getStatus | .now | .select _ | .outcome _ | .arrive => True

theorem frame_of_apart (apart : Apart requestId op) {reply : Except BrokerError (GuardReply op)}
    (answered : Guard.answer world op choice = some (reply, next)) :
    Frame requestId world next := by
  cases op with
  | getStatus | now | outcome =>
    obtain rfl := world_of_reply answered
    exact frame_refl _
  | select other => exact frame_statement (frame_refl _) answered
  | insert other row =>
    simp only [Guard.answer] at answered
    split at answered
    · exact frame_statement (frame_setRow apart world _) answered
    · cases answered
      exact frame_refl _
  | markSubmitting other | markAcknowledged other | markUnknown other | markRejected other =>
    exact frame_statement (frame_setRow apart world _) answered
  | invoke other caller =>
    cases answered
    exact ⟨rfl, List.count_cons_of_ne apart, List.subset_cons_self _ _, rfl⟩
  | arrive =>
    cases answered
    exact ⟨rfl, rfl, List.Subset.refl _, rfl⟩
  | respond given => exact apart.elim

variable {seen : Guard}

theorem replies_apart (apart : Apart requestId op) :
    Replies requestHash requestId op credit seen (leaving credit) := by
  intro world rest choice reply next _ safe _ answered
  have frame := frame_of_apart apart answered
  exact ⟨credit, frame.later, safe.frame frame, rfl⟩

theorem replies_select :
    Replies requestHash requestId (.select requestId) credit seen fun reply left next =>
      left = credit ∧ ∀ row, reply = .ok (some row) → next.rows requestId = some row := by
  intro world rest choice reply next _ safe _ answered
  have frame : Frame requestId world next := frame_statement (frame_refl _) answered
  refine ⟨credit, frame.later, safe.frame frame, rfl, fun row found => ?_⟩
  rcases statement_eq_some answered with ⟨same, rfl⟩ | ⟨-, error, same⟩
  · exact Except.ok.inj (same.symm.trans found)
  · exact nomatch same.symm.trans found

/-! ### Writes of the request -/

/-- A row that replaces one without a right or an outcome to record keeps the invariant, when
it is not acknowledged with either. -/
theorem Safe.setRow {total : Credit} (safe : Safe requestId world total)
    {row : Option BrokerWriteRequest} (later : Later requestId world (world.setRow requestId row))
    (free : (row = none ∨ ∃ found, row = some found ∧ found.state = .received) → credit.1 = 0 ∧
      world.invoked requestId = 0) (once : credit.1 + world.invoked requestId ≤ 1)
    (recording : credit.2 ≤ world.invoked requestId) (settled : (∃ found, row = some found ∧
      found.state = .acknowledged) → credit.1 = 0 ∧ credit.2 = 0) :
    Safe requestId (world.setRow requestId row) credit := by
  have reads (state : BrokerWriteStatus) : InState requestId state (world.setRow requestId row) ↔
      ∃ found, row = some found ∧ found.state = state := by
    unfold InState
    rw [setRow_self]
  refine ⟨?_, once, recording, ?_, fun given member own =>
    (safe.answers given member own).later later⟩
  · rw [setRow_self, reads]
    exact free
  · rw [reads]
    exact settled

theorem replies_insert {row : BrokerWriteRequest} (received : row.state = .received) :
    Replies requestHash requestId (.insert requestId row) 0 seen (leaving 0) := by
  intro world rest choice reply next _ safe _ answered
  have answered : Guard.answer world (.insert requestId row) choice = some (reply, next) := answered
  simp only [Guard.answer] at answered
  cases vacant : world.rows requestId with
  | some other =>
    rw [vacant] at answered
    cases answered
    exact ⟨0, (discipline requestId).refl _, safe, rfl⟩
  | none =>
    rw [vacant] at answered
    rcases statement_eq_some answered with ⟨-, rfl⟩ | ⟨rfl, -⟩
    · have later : Later requestId world (world.setRow requestId (some row)) :=
        ⟨List.Subset.refl _, fun other found => nomatch vacant.symm.trans found⟩
      refine ⟨0, later, safe.setRow later (fun _ => safe.free (Or.inl vacant)) safe.once
        safe.recording ?_, rfl⟩
      rintro ⟨found, same, done⟩
      cases same
      exact nomatch received.symm.trans done
    · exact ⟨0, (discipline requestId).refl _, safe, rfl⟩

theorem replies_markSubmitting :
    Replies requestHash requestId (.markSubmitting requestId) 0 seen fun reply left _ =>
      match reply with
      | .ok _ => left = (1, 0)
      | .error _ => left = 0 := by
  intro world rest choice reply next _ safe met answered
  have standing : InState requestId .received world :=
    of_decide_eq_true (p := requestId = requestId → InState requestId .received world) met rfl
  obtain ⟨row, found, received⟩ := standing
  have free := safe.free (Or.inr ⟨row, found, received⟩)
  have recording := safe.recording
  rw [zero_add] at free recording
  rcases statement_eq_some answered with ⟨rfl, rfl⟩ | ⟨rfl, error, rfl⟩
  · have later (after : Option BrokerWriteRequest) :
        Later requestId world (world.setRow requestId after) :=
      ⟨List.Subset.refl _, fun other same done => by
        obtain rfl := Option.some.inj (found.symm.trans same)
        exact nomatch received.symm.trans done⟩
    refine ⟨(1, 0), later _, safe.setRow (later _) ?_ ?_ ?_ ?_, rfl⟩
    · rw [found]
      rintro (vacant | ⟨other, same, done⟩)
      · cases vacant
      · cases same
        cases done
    · show 1 + rest.1 + world.invoked requestId ≤ 1
      rw [free.1, free.2]
    · show 0 + rest.2 ≤ world.invoked requestId
      rw [zero_add]
      exact recording
    · rw [found]
      rintro ⟨other, same, done⟩
      cases same
      cases done
  · exact ⟨0, (discipline requestId).refl _, safe, rfl⟩

theorem replies_invoke {caller : Nat} :
    Replies requestHash requestId (.invoke requestId caller) (1, 0) seen fun reply left next =>
      reply = .ok () ∧ left = (0, 1) ∧ (requestId, caller) ∈ next.invocations := by
  intro world rest choice reply next _ safe _ answered
  cases answered
  have counted : Guard.invoked
      { world with invocations := (requestId, caller) :: world.invocations } requestId =
      world.invoked requestId + 1 := List.count_cons_self
  have once : 1 + rest.1 + world.invoked requestId ≤ 1 := safe.once
  have recording : 0 + rest.2 ≤ world.invoked requestId := safe.recording
  have later : Later requestId world
      { world with invocations := (requestId, caller) :: world.invocations } :=
    ⟨List.subset_cons_self _ _, fun _ found _ => found⟩
  refine ⟨(0, 1), later, ⟨fun vacant => ?_, ?_, ?_, fun done => ?_,
    fun given member own => (safe.answers given member own).later later⟩, rfl, rfl,
    List.mem_cons_self⟩
  · have rights : 1 + rest.1 = 0 := (safe.free vacant).1
    omega
  · show 0 + rest.1 + _ ≤ 1
    omega
  · show 1 + rest.2 ≤ _
    omega
  · have rights : 1 + rest.1 = 0 := (safe.settled done).1
    omega

theorem unsettled {rest : Credit} (safe : Safe requestId world ((0, 1) + rest)) :
    rest.1 = 0 ∧ rest.2 = 0 ∧ 0 < world.invoked requestId ∧
      ¬ InState requestId .acknowledged world ∧ ¬ InState requestId .received world := by
  have once : 0 + rest.1 + world.invoked requestId ≤ 1 := safe.once
  have recording : 1 + rest.2 ≤ world.invoked requestId := safe.recording
  refine ⟨by omega, by omega, by omega, fun done => ?_, fun received => ?_⟩
  · have outcomes : 1 + rest.2 = 0 := (safe.settled done).2
    omega
  · have none : world.invoked requestId = 0 := (safe.free (Or.inr received)).2
    omega

theorem safe_record {rest : Credit} (safe : Safe requestId world ((0, 1) + rest))
    {update : BrokerWriteRequest → BrokerWriteRequest}
    (recorded : ∀ row, (update row).state ≠ .received) :
    Later requestId world (world.updateRow requestId update) ∧
      Safe requestId (world.updateRow requestId update) (0 + rest) := by
  obtain ⟨rights, outcomes, invoked, unacknowledged, -⟩ := unsettled safe
  have later : Later requestId world (world.updateRow requestId update) :=
    ⟨List.Subset.refl _, fun row found done => absurd ⟨row, found, done⟩ unacknowledged⟩
  have once : 0 + rest.1 + world.invoked requestId ≤ 1 := safe.once
  refine ⟨later, safe.setRow later ?_ ?_ ?_ fun _ => ⟨?_, ?_⟩⟩
  · rintro (vacant | ⟨after, same, received⟩)
    · have free := safe.free (Or.inl (Option.map_eq_none_iff.mp vacant))
      exact absurd free.2 invoked.ne'
    · obtain ⟨row, -, rfl⟩ := Option.map_eq_some_iff.mp same
      exact absurd received (recorded row)
  · show 0 + rest.1 + world.invoked requestId ≤ 1
    exact once
  · show 0 + rest.2 ≤ world.invoked requestId
    omega
  · show 0 + rest.1 = 0
    omega
  · show 0 + rest.2 = 0
    omega

theorem replies_record (update : BrokerWriteRequest → BrokerWriteRequest) (records : ∀ (world next :
      Guard) choice reply, Guard.answer world op choice = some (reply, next) → next =
      world.updateRow requestId update ∧ (∃ value, reply = .ok value) ∨ next = world)
    (recorded : ∀ row, (update row).state ≠ .received) :
    Replies requestHash requestId op (0, 1) seen fun reply left _ =>
      ∀ error, reply = .error error → left = (0, 1) := by
  intro world rest choice reply next _ safe _ answered
  rcases records world next choice reply answered with ⟨rfl, value, rfl⟩ | rfl
  · obtain ⟨later, recordedSafe⟩ := safe_record safe recorded
    exact ⟨0, later, recordedSafe, nofun⟩
  · exact ⟨(0, 1), (discipline requestId).refl _, safe, fun _ _ => rfl⟩

theorem updated_of_statement {value : Unit} {reply : Except BrokerError Unit}
    (answered : Guard.statement world value after choice = some (reply, next)) :
    next = after ∧ (∃ value, reply = .ok value) ∨ next = world := by
  rcases statement_eq_some answered with ⟨rfl, same⟩ | ⟨same, -⟩
  · exact Or.inl ⟨same, value, rfl⟩
  · exact Or.inr same

theorem replies_markUnknown {text : String} :
    Replies requestHash requestId (.markUnknown requestId text) (0, 1) seen fun _ _ _ => True :=
  (replies_record (fun row => { row with state := .submissionUnknown, errorMessage := some text })
    (fun _ _ _ _ answered => by exact updated_of_statement answered)
    (fun _ same => nomatch same)).weaken fun _ _ _ _ _ => True.intro

theorem replies_markRejected {text : String} :
    Replies requestHash requestId (.markRejected requestId text) (0, 1) seen fun _ _ _ => True :=
  (replies_record (fun row => { row with state := .rejected, errorMessage := some text })
    (fun _ _ _ _ answered => by exact updated_of_statement answered)
    (fun _ same => nomatch same)).weaken fun _ _ _ _ _ => True.intro

theorem replies_markAcknowledged {brokerOrderId : Option String} {result : AcknowledgedResult} :
    Replies requestHash requestId (.markAcknowledged requestId brokerOrderId result) (0, 1) seen
      fun reply left _ => ∀ error, reply = .error error → left = (0, 1) :=
  replies_record
    (fun row =>
      { row with
        state := .acknowledged
        brokerOrderId := brokerOrderId
        result := some result })
    (fun _ _ _ _ answered => by exact updated_of_statement answered)
    (fun _ same => nomatch same)

/-! ### Calls -/

theorem within_executeGuardedWrite (different : request.requestId ≠ requestId) (caller : Nat) :
    (executeGuardedWrite requestHash request caller).Within (Apart requestId) := by
  have perform {op : GuardOp} (apart : Apart requestId op) :
      (ask op).Within (Apart requestId) := Coroutine.within_perform apart
  have inserts : (recordIntent.insertIntent (requestHash request.payload) request).Within
      (Apart requestId) := (perform (by exact different)).bind fun _ => True.intro
  have records : (recordIntent (requestHash request.payload) request).Within
      (Apart requestId) := by
    refine (perform (by trivial)).bind fun row => ?_
    cases row with
    | none => exact inserts
    | some row =>
      simp only
      split
      · trivial
      · split
        · exact (perform (by trivial)).bind fun _ => True.intro
        · trivial
        · trivial
        · trivial
        · trivial
        · exact inserts
  have submits : (submit request caller).Within (Apart requestId) := by
    refine Coroutine.Within.catching ?_ fun error => ?_
    · refine (perform (by exact different)).bind fun _ => (perform (by trivial)).bind fun ack => ?_
      exact (perform (by exact different)).bind fun _ => True.intro
    · cases error <;> exact (perform (by exact different)).bind fun _ => True.intro
  refine (perform (by trivial)).bind fun status => ?_
  split
  · trivial
  · refine records.bind fun reserved => ?_
    rcases reserved with ⟨isNew | isNew, ack | ack⟩
    · exact (perform (by exact different)).bind fun _ => submits
    · trivial
    · exact (perform (by exact different)).bind fun _ => submits
    · exact (perform (by exact different)).bind fun _ => submits

/-- What reserving the request returns: leave to go on, or a refusal, or the acknowledgement
the ledger keeps. -/
def Recorded (requestId : String) (world : Guard) :
    Except BrokerError (Bool × Option BrokerOrderAcknowledgement) → Prop
  | .ok (false, some ack) => Replayed requestId world (.ok ack)
  | _ => True

section

variable (own : request.requestId = requestId)

include own

theorem safely_recordIntent {hash : String} {seen : Guard} :
    Safely requestHash requestId (recordIntent hash request) 0 seen fun result left world =>
      left = 0 ∧ Recorded requestId world result := by
  subst own
  have inserts (seen : Guard) : Safely requestHash request.requestId
      (recordIntent.insertIntent hash request) 0 seen fun result left world =>
        left = 0 ∧ Recorded request.requestId world result := by
    refine Owns.await (replies_insert rfl) fun reply left _ _ same => ?_
    cases reply with
    | ok | error => exact ⟨same, True.intro⟩
  refine Owns.await replies_select ?_
  rintro reply left found _ ⟨rfl, reads⟩
  cases reply with
  | error error => exact ⟨rfl, True.intro⟩
  | ok row =>
    cases row with
    | none => exact inserts found
    | some row =>
      have stored := reads row rfl
      simp only
      split
      · exact ⟨rfl, True.intro⟩
      · split
        · rename_i done
          refine Owns.await (replies_apart (by trivial)) ?_
          rintro reply left last late rfl
          cases reply with
          | error error => exact ⟨rfl, True.intro⟩
          | ok now => exact ⟨rfl, Or.inr ⟨row, now, late.rows row stored done, done, rfl⟩⟩
        · exact ⟨rfl, True.intro⟩
        · exact ⟨rfl, True.intro⟩
        · exact ⟨rfl, True.intro⟩
        · exact ⟨rfl, True.intro⟩
        · exact inserts found

theorem safely_recordFailure (caller : Nat) (error : BrokerError) (seen : Guard) :
    Safely requestHash requestId (recordFailure request error) (0, 1) seen
      fun outcome _ world => Accounted requestId world caller outcome := by
  subst own
  have refused {error : BrokerError} {world : Guard} :
      Accounted request.requestId world caller (.error error) := Or.inr (Or.inl ⟨error, rfl⟩)
  cases error with
  | timeout message =>
    refine Owns.await replies_markUnknown fun reply _ _ _ _ => ?_
    cases reply <;> exact refused
  | _ =>
    refine Owns.await replies_markRejected fun reply _ _ _ _ => ?_
    cases reply <;> exact refused

/-- A call that has the right to invoke the write invokes it, and raises what it cannot
acknowledge. -/
theorem safely_submit {caller : Nat} {seen : Guard} :
    Safely requestHash requestId (submit request caller) (1, 0) seen fun outcome _ world =>
      Accounted requestId world caller outcome := by
  have failed := @safely_recordFailure requestHash requestId request own caller
  subst own
  refine Owns.catching (Owns.await replies_invoke ?_)
  rintro reply left first _ ⟨rfl, rfl, invoked⟩
  refine Owns.await (replies_apart (by trivial)) ?_
  rintro reply left second late rfl
  cases reply with
  | error error => exact failed error second
  | ok ack =>
    refine Owns.await replies_markAcknowledged fun reply left third later post => ?_
    cases reply with
    | error error =>
      obtain rfl := post error rfl
      exact failed error third
    | ok _ => exact Or.inl (later.invocations (late.invocations invoked))

/-- A call for the request that does not invoke the write is refused, or returns the
acknowledgement the ledger keeps. -/
theorem safely_executeGuardedWrite {caller : Nat} {seen : Guard} :
    Safely requestHash requestId (executeGuardedWrite requestHash request caller) 0 seen
      fun outcome _ world => Accounted requestId world caller outcome := by
  have refused {error : BrokerError} {world : Guard} :
      Accounted requestId world caller (.error error) := Or.inr (Or.inl ⟨error, rfl⟩)
  have goesOn (seen : Guard) : Safely requestHash requestId
      (do
        ask (.markSubmitting request.requestId)
        submit request caller) 0 seen
      fun outcome _ world => Accounted requestId world caller outcome := by
    rw [own]
    refine Owns.await replies_markSubmitting fun reply left marked _ post => ?_
    cases reply with
    | error error => exact refused
    | ok _ =>
      obtain rfl : left = (1, 0) := post
      exact safely_submit own
  refine Owns.await (replies_apart (by trivial)) ?_
  rintro reply left first _ rfl
  cases reply with
  | error error => exact refused
  | ok status =>
    simp only
    split
    · exact refused
    · refine Owns.call (safely_recordIntent own) ?_
      rintro result left second _ ⟨rfl, recorded⟩
      rcases result with error | ⟨isNew | isNew, ack | ack⟩
      · exact refused
      · exact goesOn second
      · exact Or.inr recorded
      · exact goesOn second
      · exact goesOn second

end

theorem replies_respond {given : Given}
    (accounted : given.requestId = requestId → Accounted requestId seen given.caller given.outcome)
    : Replies requestHash requestId (.respond given) credit seen fun _ _ _ => True := by
  intro world rest choice reply next late safe _ answered
  cases answered
  refine ⟨credit, ⟨List.Subset.refl _, fun _ found _ => found⟩,
    ⟨safe.free, safe.once, safe.recording, safe.settled, fun other member own => ?_⟩, trivial⟩
  rcases List.mem_append.mp member with before | last
  · exact safe.answers other before own
  · obtain rfl := List.mem_singleton.mp last
    exact (accounted own).later ⟨late.invocations, late.rows⟩

/-! ### Runs -/

theorem safely_serve :
    Safely requestHash requestId (serve requestHash request) 0 seen fun _ _ _ => True := by
  refine Owns.await (replies_apart (by trivial)) ?_
  rintro reply left first _ rfl
  cases reply with
  | error error => trivial
  | ok caller =>
    have answer {outcome : Except BrokerError BrokerOrderAcknowledgement} {left : Credit}
        {world : Guard} (accounted : request.requestId = requestId →
          Accounted requestId world caller outcome) :
        Safely requestHash requestId (ask (.respond ⟨request.requestId, caller, outcome⟩)) left
          world fun _ _ _ => True :=
      Owns.perform_last (replies_respond accounted)
    refine Owns.bind (Owns.catching ?_)
    by_cases own : request.requestId = requestId
    · refine Owns.call (safely_executeGuardedWrite own)
        fun outcome left second _ accounted => ?_
      cases outcome with
      | ok | error => exact answer fun _ => accounted
    · have apart : Safely requestHash requestId (executeGuardedWrite requestHash request caller) 0
          first (leaving 0) :=
        Owns.of_within first (fun op next _ apart => replies_apart apart)
          (within_executeGuardedWrite own caller)
      refine Owns.call apart fun outcome left second _ _ => ?_
      cases outcome with
      | ok | error => exact answer fun same => absurd same own

theorem sound (requestHash : String → String) (requestId : String) :
    Sound (Guard.system requestHash) (condition requestId) (discipline requestId) where
  start world total kind task next safe _ started := by
    have empty : Safe requestId world (0 + total) := by rwa [zero_add]
    cases kind with
    | write request =>
      cases started
      exact ⟨(discipline requestId).refl _, 0, empty, safely_serve⟩
  disturb _ _ cause := nomatch cause
  restart world total safe _ :=
    ⟨fun free => ⟨rfl, (safe.free free).2⟩,
      (Nat.add_le_add_right (Nat.zero_le total.1) _).trans safe.once, Nat.zero_le _,
      fun _ => ⟨rfl, rfl⟩, safe.answers⟩

theorem safe_opened (rows : String → Option BrokerWriteRequest) :
    Safe requestId (Guard.opened rows) 0 :=
  ⟨fun _ => ⟨rfl, rfl⟩, Nat.zero_le _, Nat.zero_le _, fun _ => ⟨rfl, rfl⟩, nofun⟩

end

end GuardedOnce

open GuardedOnce in
/-- In every run in which a request is marked as submitting only while it is still received, over
any interleaving of calls, failures, cancellations and restarts and from any ledger, its write is
invoked at most once. Every other call is refused, or answered with the acknowledgement the ledger
keeps. -/
theorem executeGuardedWrite_invokes_once (requestHash : String → String) (requestId : String)
    (rows : String → Option BrokerWriteRequest)
    (config : Config GuardOp GuardReply BrokerError Guard)
    (reaches : (Guard.system requestHash).Reaches (condition requestId)
      (Guard.idle (.opened rows)) config) : Once requestId config.world := by
  have start : Owned (Guard.system requestHash) (condition requestId) (discipline requestId)
      (Guard.idle (.opened rows)) := owned_idle (safe_opened rows)
  obtain ⟨credits, safe, -⟩ := start.reaches (sound requestHash requestId) reaches
  exact ⟨(Nat.le_add_left _ _).trans safe.once, safe.answers⟩

namespace GuardedOnce

/-! ### Runs of one request -/

def placeOrder : GuardedWrite where
  requestId := "CL-1"
  accountId := "account"
  clientReference := "CL-1"
  action := .place
  payload := "\x7b\"quantity\": 75\x7d"

def placed : BrokerOrderAcknowledgement where
  requestId := "CL-1"
  clientReference := "CL-1"
  brokerOrderId := some "B1"
  status := .acknowledged
  message := some "Order placed successfully with broker"
  acknowledgedAt := 0

/-- A call arrives, finds the session active and reads the ledger. -/
def arrives (task : Nat) : List (Event GuardAnswer GuardStart Empty) :=
  [.start (.write placeOrder), .resume task .ok, .resume task (.session .active),
    .resume task .ok]

/-- A call marks the request as submitting, invokes the write, records the acknowledgement and
returns it. -/
def submits (task : Nat) : List (Event GuardAnswer GuardStart Empty) :=
  [.resume task .ok, .resume task .ok, .resume task (.acknowledges placed), .resume task .ok,
    .resume task .ok]

end GuardedOnce

open GuardedOnce in
/-- Without the condition a write is invoked twice: a second call reads the received row before
the first one has marked it as submitting. -/
theorem executeGuardedWrite_invokes_twice :
    ¬ ∀ (requestHash : String → String) (requestId : String)
      (rows : String → Option BrokerWriteRequest)
      (config : Config GuardOp GuardReply BrokerError Guard),
      (Guard.system requestHash).Reaches Condition.unrestricted (Guard.idle (.opened rows)) config →
      Once requestId config.world := by
  intro once
  have twice : ((Guard.system id).run Condition.unrestricted (Guard.idle (.opened fun _ => none))
      (arrives 0 ++ [.resume 0 .ok] ++ arrives 1 ++ submits 0 ++ submits 1)).map
      (fun config => config.world.invoked "CL-1") = some 2 := by decide +kernel
  obtain ⟨config, reaches, invoked⟩ := System.reaches_of_map twice
  have bound := (once id "CL-1" (fun _ => none) config
    reaches).invoked
  omega

open GuardedOnce in
/-- A run that meets the condition: the write is invoked, and a call that arrives while it is in
flight and one that arrives after it are answered without another. -/
theorem executeGuardedWrite_invokes_once_replayed :
    ∃ config, (Guard.system id).Reaches (condition "CL-1") (Guard.idle (.opened fun _ => none))
        config ∧
      config.world.invoked "CL-1" = 1 ∧ config.world.answers.length = 3 ∧
      Once "CL-1" config.world := by
  have replay : ((Guard.system id).run (condition "CL-1") (Guard.idle (.opened fun _ => none))
      (arrives 0 ++ [.resume 0 .ok] ++ [.resume 0 .ok] ++ arrives 1 ++ [.resume 1 .ok] ++
        (submits 0).drop 1 ++ arrives 2 ++ [.resume 2 (.time 1), .resume 2 .ok])).map
      (fun config => (config.world.invoked "CL-1", config.world.answers.length)) =
        some (1, 3) := by decide +kernel
  obtain ⟨config, reaches, counts⟩ := System.reaches_of_map replay
  exact ⟨config, reaches, congrArg Prod.fst counts, congrArg Prod.snd counts,
    executeGuardedWrite_invokes_once id "CL-1" (fun _ => none) config reaches⟩

end BreezeTrading.BrokerGateway
