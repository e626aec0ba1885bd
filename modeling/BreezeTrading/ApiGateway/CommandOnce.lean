/-
This file proves when a command takes effect at most once under its idempotency key: in every run
in which the upsert of a claim finds the key free, and no claim is released once its command took
effect. A claim is a credit, which completing the effect spends; the invariant counts claims and
effects together.
-/

import BreezeTrading.ApiGateway.Idempotency
import BreezeTrading.Lib.Ownership
import Mathlib.Algebra.Group.Prod
import Mathlib.Algebra.GroupWithZero.Nat

namespace BreezeTrading

open Async Idempotency

namespace CommandOnce

/-! ### Conditions -/

def unexpired (key : String) (world : Gateway) : Bool :=
  match world.records key with
  | none => true
  | some record => decide (world.clock ≤ record.expiresAt)

/-- Requests under the key carry one request hash, its record does not expire, and the clock
and the SELECT do not fail. -/
def claimed (sha256 : String → String) (key hash : String) :
    Condition GatewayOp Gateway GatewayAnswer GatewayStart GatewayDisturbance where
  start _ kind :=
    match kind with
    | .request request =>
        decide (orText request.idempotencyKey none = some key →
          computeRequestHash sha256 request = hash)
    | .cleanup => true
  answer world op choice :=
    match op, choice with
    | .now, .raises _ => false
    | .select other, .raises _ => decide (other ≠ key) && unexpired key world
    | _, _ => unexpired key world

/-- A claim finds its key free, and the claim of a command that has taken effect is not
released. -/
def undisturbed (key : String) (world : Gateway) : GatewayOp → Bool
  | .claim other _ => decide (other = key → world.records key = none)
  | .release other => decide (other = key → world.completions key = 0)
  | _ => true

def condition (sha256 : String → String) (key hash : String) :
    Condition GatewayOp Gateway GatewayAnswer GatewayStart GatewayDisturbance where
  start := (claimed sha256 key hash).start
  answer world op choice :=
    (claimed sha256 key hash).answer world op choice && undisturbed key world op

/-! ### The invariant -/

/-- What a request that arrives after the effect may be answered: a conflict, or the stored
response. -/
def Replayed (key : String) (world : Gateway) (outcome : Except CommandError CommandResponse) :
    Prop :=
  outcome = .error (.http 409 inProgressDetail) ∨
    ∃ record, world.records key = some record ∧ record.status = .completed ∧
      outcome = .ok (replay key record.responseCode record.responseBody)

/-- The effect completed at most once, and every request that arrived after it was answered
with a conflict or the stored response. -/
structure Once (key : String) (world : Gateway) : Prop where
  effect : world.completions key ≤ 1
  answers : ∀ answered ∈ world.answers, answered.key = some key → answered.late = true →
    Replayed key world answered.outcome

/-- The credit of a task: its claims of the key, and the responses it has still to store. -/
abbrev Credit := ℕ × ℕ

/-- Claims and effects of the key together are at most one, and none while the key is free. -/
structure Safe (key hash : String) (world : Gateway) (credit : Credit) : Prop where
  free : world.records key = none → credit.1 = 0 ∧ world.completions key = 0
  once : credit.1 + world.completions key ≤ 1
  storing : credit.2 ≤ world.completions key
  hashed : ∀ record, world.records key = some record →
    record.requestHash = hash ∧ validKey key = true
  stored : ∀ record, world.records key = some record → record.status = .completed →
    credit.1 = 0 ∧ credit.2 = 0
  answers : ∀ answered ∈ world.answers, answered.key = some key → answered.late = true →
    Replayed key world answered.outcome

/-- What no step undoes: time passes, an effect stays, and so does a stored response. -/
structure Later (key : String) (world next : Gateway) : Prop where
  clock : world.clock ≤ next.clock
  completions : world.completions key ≤ next.completions key
  records : ∀ record, world.records key = some record → record.status = .completed →
    next.records key = some record

def discipline (key hash : String) : Discipline Gateway Credit where
  later := Later key
  refl _ := ⟨le_rfl, le_rfl, fun _ found _ => found⟩
  trans first second := ⟨first.clock.trans second.clock,
    first.completions.trans second.completions, fun record found done =>
      second.records record (first.records record found done) done⟩
  holds := Safe key hash

section

variable {sha256 : String → String} {key hash : String} {world next : Gateway}

theorem Replayed.later {outcome : Except CommandError CommandResponse}
    (replayed : Replayed key world outcome) (late : Later key world next) :
    Replayed key next outcome := by
  rcases replayed with conflict | ⟨record, found, done, same⟩
  · exact Or.inl conflict
  · exact Or.inr ⟨record, late.records record found done, done, same⟩

/-- A task that owns its credit, in this discipline. -/
abbrev Safely (sha256 : String → String) (key hash : String) {Result : Type}
    (task : GatewayTask Result) (credit : Credit) (seen : Gateway)
    (post : Except CommandError Result → Credit → Gateway → Prop) : Prop :=
  Owns (Gateway.system sha256) (condition sha256 key hash) (discipline key hash) task credit seen
    post

/-- An operation that keeps the invariant, in this discipline. -/
abbrev Replies (sha256 : String → String) (key hash : String) (op : GatewayOp) (credit : Credit)
    (seen : Gateway) (post : Except CommandError (GatewayReply op) → Credit → Gateway → Prop) :
    Prop :=
  Answers (Gateway.system sha256) (condition sha256 key hash) (discipline key hash) op credit
    seen post

variable {op : GatewayOp} {choice : GatewayAnswer} {credit : Credit} {other user path : String}
  {seen : Gateway} {now ttl : Int} {request : CommandRequest}

section

variable (met : (condition sha256 key hash).answer world op choice = true)

include met

theorem met_condition :
    (claimed sha256 key hash).answer world op choice = true ∧ undisturbed key world op = true :=
  Bool.and_eq_true_iff.mp met

theorem unexpired_of_met {record : IdempotencyRecord} (found : world.records key = some record) :
    op ≠ .now → world.clock ≤ record.expiresAt := by
  intro different
  have alive : unexpired key world = true := by
    have agreed := (met_condition met).1
    unfold claimed at agreed
    simp only at agreed
    split at agreed
    · exact absurd rfl different
    · exact (Bool.and_eq_true_iff.mp agreed).2
    · exact agreed
  unfold unexpired at alive
  rw [found] at alive
  exact of_decide_eq_true alive

end

/-! ### Operations -/

/-- What the invariant reads of the world. -/
structure Frame (key : String) (world next : Gateway) : Prop where
  clock : next.clock = world.clock
  records : next.records key = world.records key
  completions : next.completions key = world.completions key
  answers : next.answers = world.answers

theorem frame_refl (world : Gateway) : Frame key world world := ⟨rfl, rfl, rfl, rfl⟩

theorem Frame.later (frame : Frame key world next) : Later key world next :=
  ⟨frame.clock.ge, frame.completions.ge, fun _ found _ => frame.records.trans found⟩

theorem Safe.frame (safe : Safe key hash world credit) (frame : Frame key world next) :
    Safe key hash next credit := by
  refine ⟨?_, ?_, ?_, ?_, ?_, ?_⟩
  · rw [frame.records, frame.completions]
    exact safe.free
  · rw [frame.completions]
    exact safe.once
  · rw [frame.completions]
    exact safe.storing
  · rw [frame.records]
    exact safe.hashed
  · rw [frame.records]
    exact safe.stored
  · rw [frame.answers]
    exact fun answered member own arrived =>
      (safe.answers answered member own arrived).later frame.later

theorem statement_eq_some {Value : Type} {value : Value} {after : Gateway}
    {reply : Except CommandError Value}
    (answered : Gateway.statement world value after choice = some (reply, next)) :
    (reply = .ok value ∧ next = after ∧ choice = .ok) ∨
      (next = world ∧ ∃ text, reply = .error (.raised text) ∧ choice = .raises text) := by
  cases choice with
  | ok =>
    cases answered
    exact Or.inl ⟨rfl, rfl, rfl⟩
  | raises text =>
    cases answered
    exact Or.inr ⟨rfl, text, rfl, rfl⟩
  | _ => cases answered

theorem replies_frame (known : Except CommandError (GatewayReply op) → Gateway → Prop)
    (same : ∀ world total choice reply next, Later key seen world
      → Safe key hash world total → (condition sha256 key hash).answer world op choice = true →
      Gateway.answer world op choice = some (reply, next) → Frame key world next ∧ known reply next)
    : Replies sha256 key hash op credit seen fun reply left next =>
      left = credit ∧ known reply next := by
  intro world rest choice reply next late safe met answered
  obtain ⟨frame, fact⟩ := same world _ choice reply next late safe met answered
  exact ⟨credit, frame.later, safe.frame frame, rfl, fact⟩

theorem setRecord_self (world : Gateway) (key : String) (record : Option IdempotencyRecord) :
    (world.setRecord key record).records key = record := if_pos rfl

theorem frame_setRecord (different : other ≠ key) (world : Gateway)
    (record : Option IdempotencyRecord) : Frame key world (world.setRecord other record) :=
  ⟨rfl, if_neg different.symm, rfl, rfl⟩

/-- An operation on nothing of the key. -/
def Apart (key : String) : GatewayOp → Prop
  | .select other => other ≠ key
  | .deleteExpired other => other ≠ key
  | .claim other _ => other ≠ key
  | .complete other _ _ _ => other ≠ key
  | .release other => other ≠ key
  | .execute other => other ≠ some key
  | .cleanup _ => False
  | .respond _ => False
  | .now | .publishMismatch _ _ _ | .encode _ | .arrive _ => True

theorem frame_statement {Value : Type} {value : Value} {after : Gateway}
    {reply : Except CommandError Value} (frame : Frame key world after)
    (answered : Gateway.statement world value after choice = some (reply, next)) :
    Frame key world next := by
  rcases statement_eq_some answered with ⟨-, rfl, -⟩ | ⟨rfl, -⟩
  · exact frame
  · exact frame_refl _

theorem frame_execute {other : Option String} (different : other ≠ some key) (world : Gateway) :
    Frame key world { world with effects := other :: world.effects } :=
  ⟨rfl, rfl, List.count_cons_of_ne different, rfl⟩

theorem frame_of_apart (apart : Apart key op) {reply : Except CommandError (GatewayReply op)}
    (answered : Gateway.answer world op choice = some (reply, next)) : Frame key world next := by
  cases op with
  | now | select | publishMismatch | arrive => exact frame_statement (frame_refl _) answered
  | deleteExpired | claim | complete | release =>
    exact frame_statement (frame_setRecord apart world _) answered
  | cleanup | respond => exact apart.elim
  | execute other =>
    cases choice with
    | completes | failsAfterEffect =>
      cases answered
      exact frame_execute apart world
    | raises text =>
      cases answered
      exact frame_refl _
    | _ => cases answered
  | encode result =>
    cases choice with
    | encoded | raises =>
      cases answered
      exact frame_refl _
    | _ => cases answered

theorem replies_apart (apart : Apart key op) :
    Replies sha256 key hash op credit seen (leaving credit) :=
  (replies_frame (fun _ _ => True) fun _ _ _ _ _ _ _ _ answered =>
    ⟨frame_of_apart apart answered, trivial⟩).weaken fun _ _ _ _ post => post.1

theorem replies_now :
    Replies sha256 key hash .now credit seen fun reply left next => left = credit ∧
      ∃ now : Int, reply = .ok now ∧ now ≤ next.clock := by
  refine replies_frame _ fun world total choice reply next _ _ met answered => ?_
  rcases statement_eq_some answered with ⟨rfl, rfl, rfl⟩ | ⟨-, text, -, rfl⟩
  · exact ⟨frame_refl _, next.clock, rfl, le_rfl⟩
  · exact nomatch (met_condition met).1

/-- Whether the command of the key has taken effect when a request arrives. A key under which
one has is well formed. -/
theorem replies_arrive {arriving : Option String} :
    Replies sha256 key hash (.arrive arriving) credit seen fun reply left next =>
      left = credit ∧ ∀ late : Bool, reply = .ok late → late = true → arriving = some key →
        0 < next.completions key ∧ validKey key = true := by
  refine replies_frame _ fun world total choice reply next _ safe _ answered => ?_
  rcases statement_eq_some answered with ⟨rfl, rfl, -⟩ | ⟨rfl, text, rfl, -⟩
  · refine ⟨frame_refl _, fun late equal arrived own => ?_⟩
    cases equal
    subst own
    have effect : 0 < next.completions key := List.count_pos_iff.mpr (of_decide_eq_true arrived)
    refine ⟨effect, ?_⟩
    cases found : next.records key with
    | none => exact absurd (safe.free found).2 effect.ne'
    | some record => exact (safe.hashed record found).2
  · exact ⟨frame_refl _, fun _ equal => nomatch equal⟩

/-- The SELECT of the key returns its record, which has the hash and has not expired. Without
a record the command has not taken effect. -/
theorem replies_select :
    Replies sha256 key hash (.select key) credit seen fun reply left next => left = credit ∧
      ∃ row : Option IdempotencyRecord, reply = .ok row ∧ next.records key = row ∧
        (row = none → next.completions key = 0) ∧
        ∀ record, row = some record → (record.requestHash = hash ∧ validKey key = true) ∧
          next.clock ≤ record.expiresAt := by
  refine replies_frame _ fun world total choice reply next _ safe met answered => ?_
  rcases statement_eq_some answered with ⟨rfl, rfl, rfl⟩ | ⟨-, text, -, rfl⟩
  · exact ⟨frame_refl _, next.records key, rfl, rfl, fun free => (safe.free free).2,
      fun record found => ⟨safe.hashed record found, unexpired_of_met met found (by nofun)⟩⟩
  · have agreed := (met_condition met).1
    unfold claimed at agreed
    simp at agreed

theorem replies_claim (valid : validKey key = true) {record : IdempotencyRecord}
    (hashed : record.requestHash = hash) (fresh : record.status = .inProgress) :
    Replies sha256 key hash (.claim key record) 0 seen fun reply left next =>
      match reply with
      | .ok _ => left = (1, 0) ∧ next.completions key = 0
      | .error _ => left = 0 := by
  intro world rest choice reply next _ safe met answered
  have vacant : world.records key = none :=
    of_decide_eq_true (p := key = key → _) (met_condition met).2 rfl
  have free := safe.free vacant
  have storing := safe.storing
  rw [zero_add] at free storing
  rcases statement_eq_some answered with ⟨rfl, rfl, -⟩ | ⟨rfl, text, rfl, -⟩
  · refine ⟨(1, 0), ⟨le_rfl, le_rfl, fun other found => ?_⟩, ?_, rfl, free.2⟩
    · exact absurd (vacant.symm.trans found) (by nofun)
    · refine ⟨fun vacated => ?_, ?_, ?_, fun other found => ?_, fun other found done => ?_, ?_⟩
      · exact absurd ((setRecord_self world key _).symm.trans vacated) (by nofun)
      · show 1 + rest.1 + world.completions key ≤ 1
        rw [free.1, free.2]
      · show 0 + rest.2 ≤ world.completions key
        rw [zero_add]
        exact storing
      · obtain rfl := Option.some.inj ((setRecord_self world key _).symm.trans found)
        exact ⟨hashed, valid⟩
      · obtain rfl := Option.some.inj ((setRecord_self world key _).symm.trans found)
        rw [fresh] at done
        exact absurd done (by nofun)
      · exact fun answered member own late =>
          (safe.answers answered member own late).later ⟨le_rfl, le_rfl, fun other found =>
            absurd (vacant.symm.trans found) (by nofun)⟩
  · exact ⟨0, (discipline key hash).refl _, safe, rfl⟩

theorem safe_effect {rest : Credit} (safe : Safe key hash world ((1, 0) + rest)) :
    Later key world { world with effects := some key :: world.effects } ∧
    Safe key hash { world with effects := some key :: world.effects } ((0, 1) + rest) ∧
    0 < Gateway.completions { world with effects := some key :: world.effects } key := by
  have counted : Gateway.completions { world with effects := some key :: world.effects } key =
      world.completions key + 1 := List.count_cons_self
  have once : 1 + rest.1 + world.completions key ≤ 1 := safe.once
  have storing : 0 + rest.2 ≤ world.completions key := safe.storing
  have later : Later key world { world with effects := some key :: world.effects } :=
    ⟨le_rfl, counted ▸ Nat.le_succ _, fun _ found _ => found⟩
  refine ⟨later, ⟨fun vacant => ?_, ?_, ?_, safe.hashed, fun record found done => ?_, ?_⟩, ?_⟩
  · have claims : 1 + rest.1 = 0 := (safe.free vacant).1
    omega
  · show 0 + rest.1 + _ ≤ 1
    omega
  · show 1 + rest.2 ≤ _
    omega
  · have claims : 1 + rest.1 = 0 := (safe.stored record found done).1
    omega
  · exact fun answered member own late => (safe.answers answered member own late).later later
  · rw [counted]
    exact Nat.succ_pos _

theorem replies_execute :
    Replies sha256 key hash (.execute (some key)) (1, 0) seen fun reply left next =>
      match reply with
      | .ok _ => left = (0, 1) ∧ 0 < next.completions key
      | .error _ => left = (1, 0) ∨ 0 < next.completions key := by
  intro world rest choice reply next _ safe met answered
  obtain ⟨later, effect, positive⟩ := safe_effect safe
  cases choice with
  | completes result =>
    cases answered
    exact ⟨(0, 1), later, effect, rfl, positive⟩
  | failsAfterEffect text =>
    cases answered
    exact ⟨(0, 1), later, effect, Or.inr positive⟩
  | raises text =>
    cases answered
    exact ⟨(1, 0), (discipline key hash).refl _, safe, Or.inl rfl⟩
  | _ => cases answered

theorem replies_complete {code : Int} {headers body : String} (effect : 0 < seen.completions key) :
    Replies sha256 key hash (.complete key code headers body) (0, 1) seen fun _ _ next =>
      0 < next.completions key := by
  intro world rest choice reply next late safe met answered
  have positive : 0 < world.completions key := Nat.lt_of_lt_of_le effect late.completions
  have once : 0 + rest.1 + world.completions key ≤ 1 := safe.once
  have storing : 1 + rest.2 ≤ world.completions key := safe.storing
  rcases statement_eq_some answered with ⟨rfl, rfl, -⟩ | ⟨rfl, -⟩
  · have open_ : ∀ record, world.records key = some record → record.status ≠ .completed :=
      fun record found done => by
        have responses : 1 + rest.2 = 0 := (safe.stored record found done).2
        omega
    obtain ⟨record, found⟩ : ∃ record, world.records key = some record := by
      cases found : world.records key with
      | none => exact absurd (safe.free found).2 positive.ne'
      | some record => exact ⟨record, rfl⟩
    have later : ∀ after, Later key world (world.setRecord key after) := fun after =>
      ⟨le_rfl, le_rfl, fun other same done => absurd done (open_ other same)⟩
    rw [found]
    refine ⟨0, later _, ⟨fun vacated => ?_, ?_, ?_, fun other same => ?_, fun other same _ => ?_,
      fun answered member own arrived =>
        (safe.answers answered member own arrived).later (later _)⟩, positive⟩
    · exact absurd ((setRecord_self world key _).symm.trans vacated) (by nofun)
    · show 0 + rest.1 + world.completions key ≤ 1
      exact once
    · show 0 + rest.2 ≤ world.completions key
      omega
    · obtain rfl := Option.some.inj ((setRecord_self world key _).symm.trans same)
      exact safe.hashed record found
    · refine ⟨?_, ?_⟩
      · show 0 + rest.1 = 0
        omega
      · show 0 + rest.2 = 0
        omega
  · exact ⟨(0, 1), (discipline key hash).refl _, safe, positive⟩

theorem replies_release (spent : credit = (1, 0) ∨ 0 < seen.completions key) :
    Replies sha256 key hash (.release key) credit seen fun _ _ _ => True := by
  intro world rest choice reply next late safe met answered
  have untouched : world.completions key = 0 :=
    of_decide_eq_true (p := key = key → _) (met_condition met).2 rfl
  have owned : credit = (1, 0) := by
    rcases spent with owned | effect
    · exact owned
    · exact absurd untouched (Nat.lt_of_lt_of_le effect late.completions).ne'
  subst owned
  have once : 1 + rest.1 + world.completions key ≤ 1 := safe.once
  have storing : 0 + rest.2 ≤ world.completions key := safe.storing
  rcases statement_eq_some answered with ⟨rfl, rfl, -⟩ | ⟨rfl, -⟩
  · have later : Later key world (world.setRecord key none) :=
      ⟨le_rfl, le_rfl, fun record found done => by
        have claims : 1 + rest.1 = 0 := (safe.stored record found done).1
        omega⟩
    refine ⟨0, later, ⟨fun _ => ?_, ?_, ?_, fun other found => ?_, fun other found => ?_,
      fun answered member own arrived =>
        (safe.answers answered member own arrived).later later⟩, trivial⟩
    · refine ⟨?_, untouched⟩
      show 0 + rest.1 = 0
      omega
    · show 0 + rest.1 + world.completions key ≤ 1
      omega
    · show 0 + rest.2 ≤ world.completions key
      exact storing
    · exact absurd ((setRecord_self world key _).symm.trans found) (by nofun)
    · exact absurd ((setRecord_self world key _).symm.trans found) (by nofun)
  · exact ⟨(1, 0), (discipline key hash).refl _, safe, trivial⟩

theorem replies_cleanup (passed : now ≤ seen.clock) :
    Replies sha256 key hash (.cleanup now) credit seen fun _ _ _ => True := by
  refine (replies_frame (fun _ _ => True)
    fun world total choice reply next late _ met answered => ?_).weaken fun _ _ _ _ _ => trivial
  have kept : (world.dropExpired now).records key = world.records key := by
    show (world.records key).filter _ = world.records key
    cases found : world.records key with
    | none => rfl
    | some record =>
      have alive : world.clock ≤ record.expiresAt := unexpired_of_met met found (by nofun)
      have unexpired : ¬ record.expiresAt < now := by
        have passing := late.clock
        omega
      exact Option.filter_some_pos (by simpa using unexpired)
  have frame : Frame key world (world.dropExpired now) := ⟨rfl, kept, rfl, rfl⟩
  exact ⟨frame_statement frame answered, trivial⟩

theorem replies_respond {answered : Answered}
    (replayed : answered.key = some key → answered.late = true → Replayed key seen answered.outcome)
    : Replies sha256 key hash (.respond answered) credit seen fun _ _ _ => True := by
  intro world rest choice reply next late safe met given
  rcases statement_eq_some given with ⟨rfl, rfl, -⟩ | ⟨rfl, -⟩
  · refine ⟨credit, ⟨le_rfl, le_rfl, fun _ found _ => found⟩, ⟨safe.free, safe.once, safe.storing,
      safe.hashed, safe.stored, fun other member own arrived => ?_⟩, trivial⟩
    rcases List.mem_append.mp member with before | last
    · exact safe.answers other before own arrived
    · obtain rfl := List.mem_singleton.mp last
      exact (replayed own arrived).later ⟨late.clock, late.completions, late.records⟩
  · exact ⟨credit, (discipline key hash).refl _, safe, trivial⟩

/-! ### Requests of other keys -/

/-- A task that leaves its credit alone. -/
abbrev Kept (Result : Type) (credit : Credit) :
    Except CommandError Result → Credit → Gateway → Prop := fun _ left _ => left = credit

theorem safely_apart {Result : Type} (apart : Apart key op)
    {follow : GatewayReply op → GatewayTask Result} (follows : ∀ value world, Safely sha256 key hash
      (follow value) credit world (Kept Result credit)) :
    Safely sha256 key hash (ask op >>= follow) credit seen (Kept Result credit) := by
  refine Owns.await (replies_apart apart) ?_
  rintro reply left after _ rfl
  cases reply with
  | ok value => exact follows value after
  | error error => rfl

theorem safely_caught {Result : Type} {task : GatewayTask Result}
    {handler : CommandError → GatewayTask Result}
    (tried : Safely sha256 key hash task credit seen (Kept Result credit)) (handled : ∀ error world,
      Safely sha256 key hash (handler error) credit world (Kept Result credit)) :
    Safely sha256 key hash (task.catching handler) credit seen (Kept Result credit) := by
  refine Owns.catching (tried.weaken fun result left after _ post => ?_)
  have same : left = credit := post
  subst same
  cases result with
  | ok value => rfl
  | error error => exact handled error after

theorem safely_chain {First Second : Type} {task : GatewayTask First}
    {follow : First → GatewayTask Second}
    (first : Safely sha256 key hash task credit seen (Kept First credit)) (follows : ∀ value world,
      Safely sha256 key hash (follow value) credit world (Kept Second credit)) :
    Safely sha256 key hash (task >>= follow) credit seen (Kept Second credit) := by
  refine Owns.call first fun result left after _ post => ?_
  have same : left = credit := post
  subst same
  cases result with
  | ok value => exact follows value after
  | error error => rfl

theorem safely_once (apart : Apart key op) :
    Safely sha256 key hash (ask op) credit seen (Kept _ credit) :=
  Owns.perform_last (replies_apart apart)

theorem safely_claim_other {fingerprint : String} (different : other ≠ key) :
    Safely sha256 key hash (claim other user path fingerprint now ttl) credit seen
      (Kept _ credit) := by
  refine safely_caught ?_ fun _ _ => rfl
  exact safely_apart (by exact different) fun _ _ => rfl

theorem safely_claimOrGet_other {fingerprint : String} (different : other ≠ key) :
    Safely sha256 key hash (claimOrGet other user path fingerprint ttl) credit seen
      (Kept _ credit) := by
  refine safely_apart (by trivial) fun now _ => ?_
  refine safely_apart (by exact different) fun row _ => ?_
  cases row with
  | none => exact safely_claim_other different
  | some row =>
    simp only
    split
    · refine safely_chain (safely_caught (safely_once (by exact different)) fun _ _ => rfl) fun _ _ => ?_
      exact safely_claim_other different
    · split
      · rfl
      · split
        · rfl
        · rfl

theorem safely_executeClaimed_other (different : other ≠ key) :
    Safely sha256 key hash (executeClaimed other) credit seen (Kept _ credit) := by
  refine safely_caught ?_ fun error _ => ?_
  · refine safely_apart (by simpa [Apart] using different) fun result _ => ?_
    refine safely_apart (by trivial) fun body _ => ?_
    exact safely_apart (by exact different) fun _ _ => rfl
  · exact safely_apart (by exact different) fun _ _ => rfl

theorem safely_command_other (different : orText request.idempotencyKey none ≠ some key) :
    Safely sha256 key hash (executeIdempotentCommand sha256 request) credit seen
      (Kept _ credit) := by
  unfold executeIdempotentCommand
  generalize orText request.idempotencyKey none = presented at different
  cases presented with
  | none =>
    refine safely_apart (by simp [Apart]) fun result _ => ?_
    exact safely_apart (by trivial) fun body _ => rfl
  | some other =>
    have apart : other ≠ key := fun same => different (congrArg some same)
    simp only
    split
    · refine safely_chain (safely_claimOrGet_other apart) fun status _ => ?_
      cases status with
      | claimed => exact safely_executeClaimed_other apart
      | completed code body => rfl
      | inProgress => rfl
      | mismatch =>
        refine safely_chain (safely_caught (safely_once (by trivial)) fun _ _ => rfl) fun _ _ => ?_
        exact rfl
    · exact rfl

/-! ### Requests of the key -/

/-- The status of a claim of the key, in terms of its record. -/
def Claimed (key : String) (seen : Gateway) (result : Except CommandError ClaimStatus)
    (left : Credit) (world : Gateway) : Prop :=
  match result with
  | .ok .claimed => left = (1, 0) ∧ seen.completions key = 0
  | .ok (.completed code body) => left = 0 ∧ ∃ record, world.records key = some record ∧
      record.status = .completed ∧ code = record.responseCode ∧ body = record.responseBody
  | .ok .inProgress => left = 0
  | .ok .mismatch => False
  | .error _ => False

theorem safely_claim (valid : validKey key = true) :
    Safely sha256 key hash (claim key user path hash now ttl) 0 seen (Claimed key seen) := by
  refine Owns.catching (Owns.await (replies_claim valid rfl rfl)
    fun reply left after late post => ?_)
  cases reply with
  | ok _ =>
    obtain ⟨earned, untouched⟩ := post
    exact ⟨earned, Nat.le_zero.mp (untouched ▸ late.completions)⟩
  | error error => exact post

theorem Claimed.earlier {middle : Gateway} (late : Later key seen middle)
    {result : Except CommandError ClaimStatus} {left : Credit}
    (claimed : Claimed key middle result left world) : Claimed key seen result left world := by
  match result, claimed with
  | .ok .claimed, ⟨earned, untouched⟩ =>
    exact ⟨earned, Nat.le_zero.mp (untouched ▸ late.completions)⟩
  | .ok (.completed _ _), stored => exact stored
  | .ok .inProgress, nothing => exact nothing

/-- Claiming the key: the record of a request that has the same hash is returned, and a free
key is claimed. -/
theorem safely_claimOrGet (valid : validKey key = true) :
    Safely sha256 key hash (claimOrGet key user path hash ttl) 0 seen (Claimed key seen) := by
  refine Owns.await replies_now ?_
  rintro reply left first late ⟨rfl, now, rfl, passed⟩
  refine Owns.await replies_select ?_
  rintro reply left second later ⟨rfl, row, rfl, found, free, matching⟩
  have latest : Later key seen second := (discipline key hash).trans late later
  cases row with
  | none =>
    exact (safely_claim valid).weaken fun _ _ _ _ claimed => claimed.earlier latest
  | some record =>
    obtain ⟨⟨hashed, -⟩, alive⟩ := matching record rfl
    have unexpired : ¬ record.expiresAt < now := by
      have passing := later.clock
      omega
    simp only
    rw [if_neg unexpired, if_neg (not_not.mpr hashed)]
    cases stored : record.status with
    | completed => exact ⟨rfl, record, found, stored, rfl, rfl⟩
    | inProgress => exact rfl

theorem safely_executeClaimed :
    Safely sha256 key hash (executeClaimed key) (1, 0) seen fun _ _ _ => True := by
  have released : ∀ {credit : Credit} {world : Gateway} (error : CommandError),
      credit = (1, 0) ∨ 0 < world.completions key →
      Safely sha256 key hash
        (do
          ask (.release key)
          (.raised error : GatewayTask CommandResponse)) credit world fun _ _ _ => True := by
    intro credit world error spent
    refine Owns.await (replies_release spent) fun reply _ _ _ _ => ?_
    cases reply <;> trivial
  refine Owns.catching (Owns.await replies_execute fun reply left first _ post => ?_)
  cases reply with
  | error error => exact released error post
  | ok result =>
    obtain ⟨rfl, effect⟩ := post
    refine Owns.await (replies_apart (by trivial))
      fun reply left second late post => ?_
    have remains : 0 < second.completions key := Nat.lt_of_lt_of_le effect late.completions
    subst post
    cases reply with
    | error error => exact released error (Or.inr remains)
    | ok body =>
      refine Owns.await (replies_complete remains) fun reply left third _ post => ?_
      cases reply with
      | error error => exact released error (Or.inr post)
      | ok _ => trivial

/-- A request of the key that arrives after the effect is answered with a conflict or the
stored response. -/
theorem safely_command (own : orText request.idempotencyKey none = some key)
    (hashed : computeRequestHash sha256 request = hash) :
    Safely sha256 key hash (executeIdempotentCommand sha256 request) 0 seen
      fun outcome _ world => 0 < seen.completions key → validKey key = true →
        Replayed key world outcome := by
  unfold executeIdempotentCommand
  rw [own, hashed]
  simp only
  split
  · rename_i valid
    refine Owns.call (safely_claimOrGet valid) fun result left after late claimed => ?_
    cases result with
    | error error => exact absurd claimed id
    | ok status =>
      cases status with
      | claimed =>
        obtain ⟨rfl, untouched⟩ := claimed
        exact safely_executeClaimed.weaken fun _ _ _ _ _ effect => absurd untouched effect.ne'
      | completed code body =>
        obtain ⟨_, record, found, stored, rfl, rfl⟩ := claimed
        exact fun _ _ => Or.inr ⟨record, found, stored, rfl⟩
      | inProgress => exact fun _ _ => Or.inl rfl
      | mismatch => exact absurd claimed id
  · rename_i invalid
    exact fun _ valid => absurd valid invalid

/-! ### Runs -/

theorem safely_serve (hashed : orText request.idempotencyKey none = some key → computeRequestHash
      sha256 request = hash) :
    Safely sha256 key hash (serve sha256 request) 0 seen fun _ _ _ => True := by
  refine Owns.await replies_arrive ?_
  rintro reply left first _ ⟨rfl, arrived⟩
  cases reply with
  | error error => trivial
  | ok late =>
    refine Owns.bind (Owns.catching ?_)
    have answer : ∀ {outcome : Except CommandError CommandResponse} {left : Credit}
        {world : Gateway}, (orText request.idempotencyKey none = some key → late = true →
          Replayed key world outcome) →
        Safely sha256 key hash (ask (.respond ⟨orText request.idempotencyKey none, late, outcome⟩))
          left world fun _ _ _ => True :=
      fun replayed => Owns.perform_last (replies_respond replayed)
    by_cases own : orText request.idempotencyKey none = some key
    · refine Owns.call (safely_command own (hashed own)) fun outcome left second _ replayed => ?_
      have late_replayed : orText request.idempotencyKey none = some key → late = true →
          Replayed key second outcome := fun _ isLate =>
        replayed (arrived late rfl isLate own).1 (arrived late rfl isLate own).2
      cases outcome with
      | ok | error => exact answer late_replayed
    · refine Owns.call (safely_command_other own) fun outcome left second _ _ => ?_
      cases outcome with
      | ok | error => exact answer fun same => absurd same own

theorem safely_cleanupExpired : Safely sha256 key hash cleanupExpired 0 seen fun _ _ _ => True := by
  refine Owns.await replies_now ?_
  rintro reply left first _ ⟨rfl, now, rfl, passed⟩
  exact Owns.perform_last (replies_cleanup passed)

theorem sound (sha256 : String → String) (key hash : String) :
    Sound (Gateway.system sha256) (condition sha256 key hash) (discipline key hash) where
  start world total kind task next safe met started := by
    have empty : Safe key hash world (0 + total) := by rwa [zero_add]
    cases kind with
    | request request =>
      cases started
      exact ⟨(discipline key hash).refl _, 0, empty, safely_serve (of_decide_eq_true met)⟩
    | cleanup =>
      cases started
      exact ⟨(discipline key hash).refl _, 0, empty, safely_cleanupExpired⟩
  disturb world total cause next safe met disturbed := by
    cases cause with
    | tick seconds =>
      cases disturbed
      have later : Later key world { world with clock := world.clock + seconds } :=
        ⟨by simp, le_rfl, fun _ found _ => found⟩
      exact ⟨later, safe.free, safe.once, safe.storing, safe.hashed, safe.stored,
        fun answered member own late => (safe.answers answered member own late).later later⟩
  restart world total safe _ :=
    ⟨fun vacant => ⟨rfl, (safe.free vacant).2⟩,
      (Nat.add_le_add_right (Nat.zero_le total.1) _).trans safe.once, Nat.zero_le _, safe.hashed,
      fun _ _ _ => ⟨rfl, rfl⟩, safe.answers⟩

theorem safe_initial : Safe key hash Gateway.initial 0 :=
  ⟨fun _ => ⟨rfl, rfl⟩, Nat.zero_le _, Nat.zero_le _, nofun, nofun, nofun⟩

end

end CommandOnce

open CommandOnce in
/-- In every run in which a claim finds its key free, and no claim is released once its command
has taken effect, over any interleaving of requests, retries, failures, cancellations and
restarts, a command takes effect at most once under its key. Requests that arrive later are
answered with a conflict or the stored response. -/
theorem executeIdempotentCommand_executes_once (sha256 : String → String) (key hash : String)
    (config : Config GatewayOp GatewayReply CommandError Gateway)
    (reaches : (Gateway.system sha256).Reaches (condition sha256 key hash)
      (Gateway.idle .initial) config) : Once key config.world := by
  have start : Owned (Gateway.system sha256) (condition sha256 key hash) (discipline key hash)
      (Gateway.idle .initial) := owned_idle safe_initial
  obtain ⟨credits, safe, -⟩ := start.reaches (sound sha256 key hash) reaches
  exact ⟨(Nat.le_add_left _ _).trans safe.once, safe.answers⟩

namespace CommandOnce

/-! ### Runs of one key -/

/-- The cancellation of an order, under an idempotency key. -/
def cancelOrder : CommandRequest where
  idempotencyKey := some "cancel-order-1"
  userId := "trader"
  method := "POST"
  path := "/api/v1/orders/order-1/cancel"
  body := "\x7b\"order_id\": \"order-1\"\x7d"
  ttlSeconds := 86400

/-- The digest of the cancellation. -/
def cancelOrderHash : String :=
  "0c13d561511731124f0ae05fe38454fb24abe2b82b137b3d2dc092bc113b9f8a"

/-- A request arrives, reads the clock and finds its key free. -/
def free (task : Nat) : List (Event GatewayAnswer GatewayStart GatewayDisturbance) :=
  [.start (.request cancelOrder), .resume task .ok, .resume task .ok, .resume task .ok]

/-- A request claims the key, executes its command, stores the response and answers it. -/
def executed (task : Nat) : List (Event GatewayAnswer GatewayStart GatewayDisturbance) :=
  [.resume task .ok, .resume task (.completes "cancelled"), .resume task (.encoded "\"cancelled\""),
    .resume task .ok, .resume task .ok]

/-- A request arrives, reads the clock and the stored response, and answers it. -/
def replayed (task : Nat) : List (Event GatewayAnswer GatewayStart GatewayDisturbance) :=
  [.start (.request cancelOrder), .resume task .ok, .resume task .ok, .resume task .ok,
    .resume task .ok]

end CommandOnce

open CommandOnce in
/-- Without the condition a command takes effect twice: two requests find the key free before
either has claimed it. -/
theorem executeIdempotentCommand_executes_twice :
    ¬ ∀ (sha256 : String → String) (key hash : String)
      (config : Config GatewayOp GatewayReply CommandError Gateway),
      (Gateway.system sha256).Reaches (claimed sha256 key hash) (Gateway.idle .initial) config →
      Once key config.world := by
  intro once
  have twice : ((Gateway.system fun _ => cancelOrderHash).run
      (claimed (fun _ => cancelOrderHash) "cancel-order-1" cancelOrderHash)
      (Gateway.idle .initial) (free 0 ++ free 1 ++ executed 0 ++ executed 1)).map
      (fun config => config.world.completions "cancel-order-1") = some 2 := by decide +kernel
  obtain ⟨config, reaches, completions⟩ := System.reaches_of_map twice
  have bound := (once (fun _ => cancelOrderHash) "cancel-order-1" cancelOrderHash config
    reaches).effect
  omega

open CommandOnce in
/-- A run that meets the condition: the command takes effect, and a retry is answered with its
stored response. -/
theorem executeIdempotentCommand_replays :
    ∃ config, (Gateway.system fun _ => cancelOrderHash).Reaches
        (condition (fun _ => cancelOrderHash) "cancel-order-1" cancelOrderHash)
        (Gateway.idle .initial) config ∧
      config.world.completions "cancel-order-1" = 1 ∧
      config.world.answers.length = 2 ∧ Once "cancel-order-1" config.world := by
  have replay : ((Gateway.system fun _ => cancelOrderHash).run
      (condition (fun _ => cancelOrderHash) "cancel-order-1" cancelOrderHash)
      (Gateway.idle .initial) (free 0 ++ executed 0 ++ replayed 1)).map
      (fun config => (config.world.completions "cancel-order-1",
        config.world.answers.length)) = some (1, 2) := by decide +kernel
  obtain ⟨config, reaches, counts⟩ := System.reaches_of_map replay
  exact ⟨config, reaches, congrArg Prod.fst counts, congrArg Prod.snd counts,
    executeIdempotentCommand_executes_once (fun _ => cancelOrderHash) "cancel-order-1"
      cancelOrderHash config reaches⟩

end BreezeTrading
