/-
This file defines cooperative coroutines and the systems that run them. A coroutine is a result,
an error, or an operation it awaits with what it does with the reply, so an await is exactly a
point at which another coroutine may run. A system answers operations on a shared world, starts,
cancels and disturbs tasks, and restarts, which loses every task. A condition on runs is one on
the world of each event.
-/

import Mathlib.Logic.Relation
import Mathlib.Data.List.Basic

namespace Async

/-! ### Coroutines -/

/-- A coroutine over the operations `Op`: finished with a result, stopped by an error, or
suspended at an operation. The reply to an operation is a value or an error of its own. -/
inductive Coroutine (Op : Type) (Reply : Op → Type) (Error Result : Type) : Type where
  | done (result : Result)
  | raised (error : Error)
  | await (op : Op) (resume : Except Error (Reply op) → Coroutine Op Reply Error Result)

namespace Coroutine

variable {Op : Type} {Reply : Op → Type} {Error First Second Third : Type}

/-- Run the first coroutine to its result, then the one the result selects. -/
def bind : Coroutine Op Reply Error First → (First → Coroutine Op Reply Error Second) →
    Coroutine Op Reply Error Second
  | done result, next => next result
  | raised error, _ => raised error
  | await op resume, next => await op fun reply => (resume reply).bind next

/-- Run a coroutine; an error it raises is handled. -/
def catching : Coroutine Op Reply Error First → (Error → Coroutine Op Reply Error First) →
    Coroutine Op Reply Error First
  | done result, _ => done result
  | raised error, handler => handler error
  | await op resume, handler => await op fun reply => (resume reply).catching handler

/-- A reply as a finished coroutine. -/
def ofExcept : Except Error First → Coroutine Op Reply Error First
  | .ok result => done result
  | .error error => raised error

/-- Await one operation; return its value or raise its error. -/
def perform (op : Op) : Coroutine Op Reply Error (Reply op) := await op ofExcept

instance : Monad (Coroutine Op Reply Error) where
  pure := done
  bind := bind

instance : MonadExcept Error (Coroutine Op Reply Error) where
  throw := raised
  tryCatch := catching

variable (result : First) (next : First → Coroutine Op Reply Error Second)

@[simp] theorem raised_bind (error : Error) (next : First → Coroutine Op Reply Error Second) :
    (raised error : Coroutine Op Reply Error First) >>= next = raised error := rfl

@[simp] theorem pure_eq_done : (pure result : Coroutine Op Reply Error First) = done result := rfl

theorem bind_done (task : Coroutine Op Reply Error First) : task >>= done = task := by
  induction task with
  | done result => rfl
  | raised error => rfl
  | await op resume inductionHypothesis =>
    exact congrArg (await op) (funext inductionHypothesis)

theorem bind_assoc (task : Coroutine Op Reply Error First)
    (next : First → Coroutine Op Reply Error Second)
    (last : Second → Coroutine Op Reply Error Third) :
    task >>= next >>= last = task >>= fun result => next result >>= last := by
  induction task with
  | done result => rfl
  | raised error => rfl
  | await op resume inductionHypothesis =>
    exact congrArg (await op) (funext inductionHypothesis)

instance : LawfulMonad (Coroutine Op Reply Error) where
  map_const := rfl
  id_map := bind_done
  seqLeft_eq first second := by
    show first >>= (fun result => second >>= fun _ => done result) =
      (first >>= fun result => done (Function.const _ result)) >>= fun f => second >>= fun value =>
        done (f value)
    rw [bind_assoc]
    rfl
  seqRight_eq first second := by
    show first >>= (fun _ => second) =
      (first >>= fun result => done (Function.const _ id result)) >>= fun f =>
        second >>= fun value => done (f value)
    rw [bind_assoc]
    exact congrArg (first >>= ·) (funext fun _ => (bind_done second).symm)
  pure_seq f task := rfl
  bind_pure_comp f task := rfl
  bind_map f task := rfl
  pure_bind result next := rfl
  bind_assoc := bind_assoc

/-- Read a coroutine over the operations of a larger system: its errors are wrapped, and the
errors it is answered are unwrapped. -/
def embed {Larger : Type} {LargerReply : Larger → Type} {LargerError : Type} (into : Op → Larger)
    (value : ∀ op, LargerReply (into op) → Reply op) (wrap : Error → LargerError)
    (unwrap : LargerError → Error) :
    Coroutine Op Reply Error First → Coroutine Larger LargerReply LargerError First
  | done result => done result
  | raised error => raised (wrap error)
  | await op resume => await (into op) fun reply =>
      (resume (match reply with
        | .ok reply => .ok (value op reply)
        | .error error => .error (unwrap error))).embed into value wrap unwrap

/-- Run a coroutine alone against a world that answers every operation deterministically:
the sequential reading of the same code. -/
def eval {World : Type}
    (answer : World → (op : Op) → Except Error (Reply op) × World) :
    Coroutine Op Reply Error First → World → Except Error First × World
  | done result, world => (.ok result, world)
  | raised error, world => (.error error, world)
  | await op resume, world =>
      (resume (answer world op).1).eval answer (answer world op).2

section Eval

variable {World : Type} (answer : World → (op : Op) → Except Error (Reply op) × World)

@[simp] theorem eval_done (result : First) (world : World) :
    (done result : Coroutine Op Reply Error First).eval answer world = (.ok result, world) := rfl

@[simp] theorem eval_await (op : Op)
    (resume : Except Error (Reply op) → Coroutine Op Reply Error First) (world : World) :
    (await op resume).eval answer world =
      (resume (answer world op).1).eval answer (answer world op).2 := rfl

/-- Sequential evaluation of a sequence: the second part runs from where the first one
finished, and an error ends both. -/
theorem eval_bind (task : Coroutine Op Reply Error First)
    (next : First → Coroutine Op Reply Error Second) (world : World) :
    (task >>= next).eval answer world =
      match task.eval answer world with
      | (.ok result, after) => (next result).eval answer after
      | (.error error, after) => (.error error, after) := by
  induction task generalizing world with
  | done result => rfl
  | raised error => rfl
  | await op resume inductionHypothesis => exact inductionHypothesis _ _

/-- Sequential evaluation of a handled coroutine: an error goes on in the handler. -/
theorem eval_catching (task : Coroutine Op Reply Error First)
    (handler : Error → Coroutine Op Reply Error First) (world : World) :
    (task.catching handler).eval answer world =
      match task.eval answer world with
      | (.ok result, after) => (.ok result, after)
      | (.error error, after) => (handler error).eval answer after := by
  induction task generalizing world with
  | done result => rfl
  | raised error => rfl
  | await op resume inductionHypothesis => exact inductionHypothesis _ _

/-- Sequential evaluation of an operation returns its answer. -/
theorem eval_perform (op : Op) (world : World) :
    (perform op : Coroutine Op Reply Error (Reply op)).eval answer world = answer world op := by
  show (ofExcept (answer world op).1 : Coroutine Op Reply Error (Reply op)).eval answer
    (answer world op).2 = answer world op
  cases first : (answer world op).1 with
  | ok | error => exact Prod.ext first.symm rfl

/-- Sequential evaluation of an operation and what follows it. -/
theorem eval_perform_bind (op : Op) (next : Reply op → Coroutine Op Reply Error First)
    (world : World) :
    (perform op >>= next).eval answer world =
      match answer world op with
      | (.ok value, after) => (next value).eval answer after
      | (.error error, after) => (.error error, after) := by
  rw [eval_bind, eval_perform]
  rcases answer world op with ⟨reply | reply, after⟩ <;> rfl

/-- A computed result goes on, its error ends the evaluation. -/
theorem eval_ofExcept_bind (computed : Except Error First)
    (next : First → Coroutine Op Reply Error Second) (world : World) :
    (ofExcept computed >>= next).eval answer world =
      match computed with
      | .ok value => (next value).eval answer world
      | .error error => (.error error, world) := by
  cases computed <;> rfl

/-- The operations that sequential evaluation awaits, in their order. -/
def trace {World : Type}
    (answer : World → (op : Op) → Except Error (Reply op) × World) :
    Coroutine Op Reply Error First → World → List Op
  | done _, _ => []
  | raised _, _ => []
  | await op resume, world =>
      op :: (resume (answer world op).1).trace answer (answer world op).2

/-- A sequence awaits what its first part awaits, and goes on from its result. -/
theorem trace_bind (task : Coroutine Op Reply Error First)
    (next : First → Coroutine Op Reply Error Second) (world : World) :
    (task >>= next).trace answer world = task.trace answer world ++
      match task.eval answer world with
      | (.ok result, after) => (next result).trace answer after
      | (.error _, _) => [] := by
  induction task generalizing world with
  | done result => rfl
  | raised error => rfl
  | await op resume inductionHypothesis =>
    exact congrArg (op :: ·) (inductionHypothesis _ _)

/-- A handled coroutine awaits what it awaits, and goes on in the handler after an error. -/
theorem trace_catching (task : Coroutine Op Reply Error First)
    (handler : Error → Coroutine Op Reply Error First) (world : World) :
    (task.catching handler).trace answer world = task.trace answer world ++
      match task.eval answer world with
      | (.ok _, _) => []
      | (.error error, after) => (handler error).trace answer after := by
  induction task generalizing world with
  | done result => rfl
  | raised error => rfl
  | await op resume inductionHypothesis =>
    exact congrArg (op :: ·) (inductionHypothesis _ _)

/-- An operation awaits itself. -/
theorem trace_perform (op : Op) (world : World) :
    (perform op : Coroutine Op Reply Error (Reply op)).trace answer world = [op] := by
  show op :: (ofExcept (answer world op).1 : Coroutine Op Reply Error (Reply op)).trace answer
    (answer world op).2 = [op]
  cases (answer world op).1 <;> rfl

/-- An operation and what follows it. -/
theorem trace_perform_bind (op : Op) (next : Reply op → Coroutine Op Reply Error First)
    (world : World) :
    (perform op >>= next).trace answer world = op ::
      match answer world op with
      | (.ok value, after) => (next value).trace answer after
      | (.error _, _) => [] := by
  rw [trace_bind, trace_perform, eval_perform]
  rcases answer world op with ⟨reply | reply, after⟩ <;> rfl

end Eval

/-- A coroutine awaits only operations of a kind, whatever it is answered. -/
def Within (kind : Op → Prop) : Coroutine Op Reply Error First → Prop
  | done _ => True
  | raised _ => True
  | await op resume => kind op ∧ ∀ reply, (resume reply).Within kind

section Within

variable {kind : Op → Prop}

theorem within_perform {op : Op} (fits : kind op) :
    (perform op : Coroutine Op Reply Error (Reply op)).Within kind :=
  ⟨fits, fun reply => by cases reply <;> trivial⟩

variable {task : Coroutine Op Reply Error First}

theorem Within.bind {next : First → Coroutine Op Reply Error Second} (first : task.Within kind)
    (second : ∀ result, (next result).Within kind) : (task >>= next).Within kind := by
  induction task with
  | done result => exact second result
  | raised error => trivial
  | await op resume inductionHypothesis =>
    exact ⟨first.1, fun reply => inductionHypothesis reply (first.2 reply)⟩

theorem Within.catching {handler : Error → Coroutine Op Reply Error First}
    (first : task.Within kind) (second : ∀ error, (handler error).Within kind) :
    (task.catching handler).Within kind := by
  induction task with
  | done result => trivial
  | raised error => exact second error
  | await op resume inductionHypothesis =>
    exact ⟨first.1, fun reply => inductionHypothesis reply (first.2 reply)⟩

theorem within_ofExcept (computed : Except Error First) :
    (ofExcept computed : Coroutine Op Reply Error First).Within kind := by
  cases computed <;> trivial

theorem within_any (task : Coroutine Op Reply Error First) : task.Within fun _ => True := by
  induction task with
  | done | raised => trivial
  | await op resume inductionHypothesis => exact ⟨trivial, inductionHypothesis⟩

/-- What sequential evaluation awaits is of the kind. -/
theorem Within.of_mem_trace {World : Type}
    {answer : World → (op : Op) → Except Error (Reply op) × World} (within : task.Within kind)
    {world : World} {op : Op} (awaited : op ∈ task.trace answer world) : kind op := by
  induction task generalizing world with
  | done | raised => cases awaited
  | await head resume inductionHypothesis =>
    rcases List.mem_cons.mp awaited with rfl | later
    · exact within.1
    · exact inductionHypothesis _ (within.2 _) later

/-- A coroutine within a kind is within every larger one. -/
theorem Within.mono {larger : Op → Prop} (includes : ∀ op, kind op → larger op)
    (within : task.Within kind) : task.Within larger := by
  induction task with
  | done result => trivial
  | raised error => trivial
  | await op resume inductionHypothesis =>
    exact ⟨includes op within.1, fun reply => inductionHypothesis reply (within.2 reply)⟩

/-- Where two worlds answer the operations of a kind alike, a coroutine within it evaluates
alike. -/
theorem Within.eval_congr {World : Type}
    {answer other : World → (op : Op) → Except Error (Reply op) × World}
    (same : ∀ world op, kind op → answer world op = other world op) (within : task.Within kind)
    (world : World) : task.eval answer world = task.eval other world := by
  induction task generalizing world with
  | done result => rfl
  | raised error => rfl
  | await op resume inductionHypothesis =>
    rw [eval_await, eval_await, same world op within.1]
    exact inductionHypothesis _ (within.2 _) _

end Within

/-- A coroutine finishes only with results that satisfy the postcondition, whatever it is
answered. -/
def Yields (post : First → Prop) : Coroutine Op Reply Error First → Prop
  | done result => post result
  | raised _ => True
  | await _ resume => ∀ reply, (resume reply).Yields post

section Yields

variable {middle : First → Prop} {post : Second → Prop}

theorem yields_of_all {task : Coroutine Op Reply Error First} (all : ∀ result, middle result) :
    task.Yields middle := by
  induction task with
  | done result => exact all result
  | raised error => trivial
  | await op resume inductionHypothesis => exact inductionHypothesis

theorem Yields.bind {task : Coroutine Op Reply Error First}
    {next : First → Coroutine Op Reply Error Second} (first : task.Yields middle)
    (second : ∀ result, middle result → (next result).Yields post) :
    (task >>= next).Yields post := by
  induction task with
  | done result => exact second result first
  | raised error => trivial
  | await op resume inductionHypothesis =>
    exact fun reply => inductionHypothesis reply (first reply)

end Yields

/-- A coroutine awaits only operations of a kind, and finishes only with results that satisfy the
postcondition, whatever it is answered. -/
def Stays (kind : Op → Prop) (post : First → Prop) : Coroutine Op Reply Error First → Prop
  | done result => post result
  | raised _ => True
  | await op resume => kind op ∧ ∀ reply, (resume reply).Stays kind post

section Stays

variable {kind : Op → Prop} {middle : First → Prop} {post : Second → Prop}

theorem stays_perform {op : Op} (fits : kind op) :
    (perform op : Coroutine Op Reply Error (Reply op)).Stays kind fun _ => True :=
  ⟨fits, fun reply => by cases reply <;> trivial⟩

variable {task : Coroutine Op Reply Error First}

theorem Stays.bind {next : First → Coroutine Op Reply Error Second} (first : task.Stays kind middle)
    (second : ∀ result, middle result → (next result).Stays kind post) :
    (task >>= next).Stays kind post := by
  induction task with
  | done result => exact second result first
  | raised error => trivial
  | await op resume inductionHypothesis =>
    exact ⟨first.1, fun reply => inductionHypothesis reply (first.2 reply)⟩

/-- An operation and what follows it. -/
theorem Stays.perform_bind {op : Op} {next : Reply op → Coroutine Op Reply Error Second}
    (fits : kind op) (second : ∀ value, (next value).Stays kind post) :
    (perform op >>= next).Stays kind post :=
  (stays_perform fits).bind fun value _ => second value

theorem Stays.catching {handler : Error → Coroutine Op Reply Error First}
    (first : task.Stays kind middle) (second : ∀ error, (handler error).Stays kind middle) :
    (task.catching handler).Stays kind middle := by
  induction task with
  | done result => exact first
  | raised error => exact second error
  | await op resume inductionHypothesis =>
    exact ⟨first.1, fun reply => inductionHypothesis reply (first.2 reply)⟩

theorem Stays.within (stays : task.Stays kind middle) : task.Within kind := by
  induction task with
  | done result => trivial
  | raised error => trivial
  | await op resume inductionHypothesis =>
    exact ⟨stays.1, fun reply => inductionHypothesis reply (stays.2 reply)⟩

/-- A coroutine within a kind stays within it, whatever it finishes with. -/
theorem Within.stays (within : task.Within kind) : task.Stays kind fun _ => True := by
  induction task with
  | done result => trivial
  | raised error => trivial
  | await op resume inductionHypothesis =>
    exact ⟨within.1, fun reply => inductionHypothesis reply (within.2 reply)⟩

theorem Stays.yields (stays : task.Stays kind middle) : task.Yields middle := by
  induction task with
  | done result => exact stays
  | raised error => trivial
  | await op resume inductionHypothesis =>
    exact fun reply => inductionHypothesis reply (stays.2 reply)

theorem Stays.mono {larger : Op → Prop} {weaker : First → Prop} (stays : task.Stays kind middle)
    (includes : ∀ op, kind op → larger op) (implies : ∀ result, middle result → weaker result) :
    task.Stays larger weaker := by
  induction task with
  | done result => exact implies result stays
  | raised error => trivial
  | await op resume inductionHypothesis =>
    exact ⟨includes op stays.1, fun reply => inductionHypothesis reply (stays.2 reply)⟩

end Stays

/-- A coroutine finishes without an error, as long as only operations of a kind raise. -/
def Steady (may : Op → Prop) : Coroutine Op Reply Error First → Prop
  | done _ => True
  | raised _ => False
  | await op resume => (∀ value, (resume (.ok value)).Steady may) ∧
      (may op → ∀ error, (resume (.error error)).Steady may)

section Steady

variable {may : Op → Prop}

theorem steady_perform {op : Op} (sure : ¬ may op) :
    (perform op : Coroutine Op Reply Error (Reply op)).Steady may :=
  ⟨fun _ => True.intro, fun raises => absurd raises sure⟩

theorem Steady.bind {task : Coroutine Op Reply Error First}
    {next : First → Coroutine Op Reply Error Second} (first : task.Steady may)
    (second : ∀ result, (next result).Steady may) : (task >>= next).Steady may := by
  induction task with
  | done result => exact second result
  | raised error => exact first.elim
  | await op resume inductionHypothesis =>
    exact ⟨fun value => inductionHypothesis _ (first.1 value),
      fun raises error => inductionHypothesis _ (first.2 raises error)⟩

end Steady

end Coroutine

/-! ### Systems -/

/-- How a world runs coroutines. `answer` resolves one operation, given what the
environment decides; `start` says which tasks may start and what they begin with;
`disturb` is a step of the environment outside every task; `restart` keeps what is
durable of the world. -/
structure System (Op : Type) (Reply : Op → Type) (Error World Answer Start Disturbance : Type)
    where
  answer : World → (op : Op) → Answer → Option (Except Error (Reply op) × World)
  start : World → Start → Option (Coroutine Op Reply Error Unit × World)
  disturb : World → Disturbance → Option World
  restart : World → World

/-- A world with the tasks running over it. -/
structure Config (Op : Type) (Reply : Op → Type) (Error World : Type) where
  world : World
  tasks : List (Coroutine Op Reply Error Unit)

/-- One scheduling decision. -/
inductive Event (Answer Start Disturbance : Type) where
  | resume (task : Nat) (choice : Answer)
  | start (kind : Start)
  | disturb (cause : Disturbance)
  | cancel (task : Nat)
  | restart

/-- What the steps of a run must meet: for each kind of event, a condition on the world
before the step. The default condition admits every step. -/
structure Condition (Op World Answer Start Disturbance : Type) where
  answer : World → Op → Answer → Bool := fun _ _ _ => true
  start : World → Start → Bool := fun _ _ => true
  disturb : World → Disturbance → Bool := fun _ _ => true
  cancel : World → Bool := fun _ => true
  restart : World → Bool := fun _ => true

namespace Condition

variable {Op : Type} {Reply : Op → Type} {Error World Answer Start Disturbance : Type}

/-- One event meets the condition in the configuration it happens in. -/
def met (condition : Condition Op World Answer Start Disturbance)
    (config : Config Op Reply Error World) : Event Answer Start Disturbance → Bool
  | .resume task choice =>
      match config.tasks[task]? with
      | some (.await op _) => condition.answer config.world op choice
      | _ => true
  | .start kind => condition.start config.world kind
  | .disturb cause => condition.disturb config.world cause
  | .cancel _ => condition.cancel config.world
  | .restart => condition.restart config.world

/-- The condition that every step meets. -/
def unrestricted : Condition Op World Answer Start Disturbance := {}

end Condition

namespace System

variable {Op : Type} {Reply : Op → Type} {Error World Answer Start Disturbance : Type}

/-- One step of a configuration. -/
def step (system : System Op Reply Error World Answer Start Disturbance)
    (config : Config Op Reply Error World) :
    Event Answer Start Disturbance → Option (Config Op Reply Error World)
  | .resume task choice =>
      match config.tasks[task]? with
      | some (.await op resume) =>
          (system.answer config.world op choice).map fun pair =>
            ⟨pair.2, config.tasks.set task (resume pair.1)⟩
      | _ => none
  | .start kind =>
      (system.start config.world kind).map fun pair => ⟨pair.2, config.tasks ++ [pair.1]⟩
  | .disturb cause => (system.disturb config.world cause).map fun next => ⟨next, config.tasks⟩
  | .cancel task => some ⟨config.world, config.tasks.set task (.done ())⟩
  | .restart => some ⟨system.restart config.world, []⟩

/-- `Reaches condition first last`: some run from `first` ends in `last`, and each of its
steps meets the condition. -/
def Reaches (system : System Op Reply Error World Answer Start Disturbance)
    (condition : Condition Op World Answer Start Disturbance)
    (first last : Config Op Reply Error World) : Prop :=
  Relation.ReflTransGen
    (fun before after => ∃ event, condition.met before event = true ∧
      system.step before event = some after) first last

/-- Run a list of events, as long as each of them meets the condition. -/
def run (system : System Op Reply Error World Answer Start Disturbance)
    (condition : Condition Op World Answer Start Disturbance)
    (config : Config Op Reply Error World) :
    List (Event Answer Start Disturbance) → Option (Config Op Reply Error World)
  | [] => some config
  | event :: rest =>
      if condition.met config event then
        (system.step config event).bind fun next => system.run condition next rest
      else none

variable {system : System Op Reply Error World Answer Start Disturbance}
  {condition : Condition Op World Answer Start Disturbance}

/-- A computed run is a run. -/
theorem reaches_of_run
    {events : List (Event Answer Start Disturbance)} (first last : Config Op Reply Error World)
    (runs : system.run condition first events = some last) :
    system.Reaches condition first last := by
  induction events generalizing first with
  | nil =>
    obtain rfl : first = last := Option.some.inj runs
    exact Relation.ReflTransGen.refl
  | cons event rest inductionHypothesis =>
    unfold run at runs
    split at runs
    · rename_i met
      obtain ⟨next, stepped, remaining⟩ := Option.bind_eq_some_iff.mp runs
      exact Relation.ReflTransGen.head ⟨event, met, stepped⟩
        (inductionHypothesis next remaining)
    · cases runs

/-- What a computed run ends with is what a run ends with. -/
theorem reaches_of_map
    {events : List (Event Answer Start Disturbance)} {first : Config Op Reply Error World}
    {Shown : Type*} {view : Config Op Reply Error World → Shown} {shown : Shown}
    (runs : (system.run condition first events).map view = some shown) :
    ∃ last, system.Reaches condition first last ∧ view last = shown := by
  obtain ⟨last, ran, isShown⟩ := Option.map_eq_some_iff.mp runs
  exact ⟨last, reaches_of_run first last ran, isShown⟩

/-- The rule of invariants without credits: where every operation of a kind keeps an invariant of
the world, and only tasks within the kind start, the invariant holds in every configuration
reached, and its tasks are within the kind. -/
theorem Reaches.invariant {kind : Op → Prop}
    {holds : World → Prop}
    (answers : ∀ world op choice reply next, holds world → kind op →
      condition.answer world op choice = true →
      system.answer world op choice = some (reply, next) → holds next)
    (starts : ∀ world kindOfStart task next, holds world →
      condition.start world kindOfStart = true →
      system.start world kindOfStart = some (task, next) → holds next ∧ task.Within kind)
    (disturbs : ∀ world cause next, holds world → condition.disturb world cause = true →
      system.disturb world cause = some next → holds next)
    (restarts : ∀ world, holds world → condition.restart world = true →
      holds (system.restart world))
    {first last : Config Op Reply Error World} (held : holds first.world)
    (within : ∀ task ∈ first.tasks, task.Within kind)
    (reaches : system.Reaches condition first last) :
    holds last.world ∧ ∀ task ∈ last.tasks, task.Within kind := by
  induction reaches with
  | refl => exact ⟨held, within⟩
  | @tail before after _ stepped inductionHypothesis =>
    obtain ⟨held, within⟩ := inductionHypothesis
    obtain ⟨event, met, steps⟩ := stepped
    cases event with
    | resume task choice =>
      simp only [System.step] at steps
      simp only [Condition.met] at met
      split at steps
      · rename_i op resume found
        rw [found] at met
        obtain ⟨⟨reply, next⟩, answered, rfl⟩ := Option.map_eq_some_iff.mp steps
        have suspended := within _ (List.mem_of_getElem? found)
        refine ⟨answers _ op choice reply next held suspended.1 met answered, ?_⟩
        intro other member
        rcases List.mem_or_eq_of_mem_set member with before | rfl
        · exact within other before
        · exact suspended.2 reply
      · cases steps
    | start kindOfStart =>
      obtain ⟨⟨task, next⟩, started, rfl⟩ := Option.map_eq_some_iff.mp steps
      obtain ⟨heldNext, taskWithin⟩ := starts _ kindOfStart task next held met started
      refine ⟨heldNext, fun other member => ?_⟩
      rcases List.mem_append.mp member with before | last
      · exact within other before
      · exact List.mem_singleton.mp last ▸ taskWithin
    | disturb cause =>
      obtain ⟨next, disturbed, rfl⟩ := Option.map_eq_some_iff.mp steps
      exact ⟨disturbs _ cause next held met disturbed, within⟩
    | cancel task =>
      cases steps
      refine ⟨held, fun other member => ?_⟩
      rcases List.mem_or_eq_of_mem_set member with before | rfl
      · exact within other before
      · trivial
    | restart =>
      cases steps
      exact ⟨restarts _ held met, fun other member => absurd member List.not_mem_nil⟩

/-- A preorder that every step keeps relates the first world of a run to its last. -/
theorem Reaches.related {related : World → World → Prop} (refl : ∀ world, related world world)
    (trans : ∀ {first second third}, related first second → related second third →
      related first third)
    (answers : ∀ {world op choice reply next},
      system.answer world op choice = some (reply, next) → related world next)
    (starts : ∀ {world kindOfStart task next},
      system.start world kindOfStart = some (task, next) → related world next)
    (disturbs : ∀ {world cause next}, system.disturb world cause = some next → related world next)
    (restarts : ∀ world, related world (system.restart world))
    {first last : Config Op Reply Error World} (reaches : system.Reaches condition first last) :
    related first.world last.world :=
  (Reaches.invariant (fun _ _ _ _ _ held _ _ answered => trans held (answers answered))
    (fun _ _ _ _ held _ started => ⟨trans held (starts started), Coroutine.within_any _⟩)
    (fun _ _ _ held _ disturbed => trans held (disturbs disturbed))
    (fun _ held _ => trans held (restarts _)) (refl first.world)
    (fun _ _ => Coroutine.within_any _) reaches).1

end System

end Async
