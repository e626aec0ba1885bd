/-
This file proves invariants of cooperative concurrency task by task. Every task owns a credit, an
element of a commutative monoid; the invariant relates the world to the sum of all credits. `Owns
task credit seen post` walks a task operation by operation: other tasks may have taken the world
to any later one, and the operation may exchange the task's credit against what remains.
-/

import BreezeTrading.Lib.Coroutine
import Mathlib.Algebra.BigOperators.Group.List.Basic
import Mathlib.Algebra.Order.Group.Multiset

namespace Async

/-! ### Disciplines -/

/-- A credit discipline of a system: `later` is what no step undoes, `holds` is the invariant
between a world and the credits of all tasks. -/
structure Discipline (World Credit : Type) where
  later : World → World → Prop
  refl : ∀ world, later world world
  trans : ∀ {first second third}, later first second → later second third → later first third
  holds : World → Credit → Prop

/-- What is left is this credit. -/
abbrev leaving {Result Credit World : Type} (credit : Credit) : Result → Credit → World → Prop :=
  fun _ left _ => left = credit

section Owns

variable {Op : Type} {Reply : Op → Type} {Error World Answer Start Disturbance Credit : Type}
  [AddCommMonoid Credit]

/-- Every answer the operation may get, in every world later than the one last seen, keeps
the invariant against what the other tasks own, and leaves the task a credit and a reply
that meet the postcondition. -/
def Answers (system : System Op Reply Error World Answer Start Disturbance)
    (condition : Condition Op World Answer Start Disturbance)
    (discipline : Discipline World Credit) (op : Op) (credit : Credit) (seen : World)
    (post : Except Error (Reply op) → Credit → World → Prop) : Prop :=
  ∀ world rest choice reply next, discipline.later seen world →
    discipline.holds world (credit + rest) → condition.answer world op choice = true →
    system.answer world op choice = some (reply, next) →
    ∃ left, discipline.later world next ∧ discipline.holds next (left + rest) ∧
      post reply left next

/-- The task owns the credit: it keeps the invariant at every operation, and finishes in the
postcondition. -/
def Owns (system : System Op Reply Error World Answer Start Disturbance)
    (condition : Condition Op World Answer Start Disturbance)
    (discipline : Discipline World Credit) {Result : Type} :
    Coroutine Op Reply Error Result → Credit → World →
      (Except Error Result → Credit → World → Prop) → Prop
  | .done result, credit, seen, post => post (.ok result) credit seen
  | .raised error, credit, seen, post => post (.error error) credit seen
  | .await op resume, credit, seen, post =>
      Answers system condition discipline op credit seen fun reply left next =>
        Owns system condition discipline (resume reply) left next post

variable {system : System Op Reply Error World Answer Start Disturbance}
  {condition : Condition Op World Answer Start Disturbance}
  {discipline : Discipline World Credit} {First Second : Type}

variable {op : Op} {credit : Credit} {seen : World} {task : Coroutine Op Reply Error First}
  {next : First → Coroutine Op Reply Error Second}

theorem Answers.weaken {post weaker : Except Error (Reply op) → Credit → World → Prop}
    (answers : Answers system condition discipline op credit seen post)
    (implies : ∀ reply left next, discipline.later seen next → post reply left next →
      weaker reply left next) :
    Answers system condition discipline op credit seen weaker := by
  intro world rest choice reply next late held met answered
  obtain ⟨left, later, heldNext, final⟩ :=
    answers world rest choice reply next late held met answered
  exact ⟨left, later, heldNext, implies reply left next (discipline.trans late later) final⟩

/-- What an operation guarantees in the world last seen it guarantees in every later one. -/
theorem Answers.later {world : World} {post : Except Error (Reply op) → Credit → World → Prop}
    (late : discipline.later seen world)
    (answers : Answers system condition discipline op credit seen post) :
    Answers system condition discipline op credit world post :=
  fun later rest choice reply next latter =>
    answers later rest choice reply next (discipline.trans late latter)

/-- The consequence rule. The weaker postcondition may use that the final world is later. -/
theorem Owns.weaken {post weaker : Except Error First → Credit → World → Prop}
    (owns : Owns system condition discipline task credit seen post)
    (implies : ∀ result left next, discipline.later seen next → post result left next →
      weaker result left next) :
    Owns system condition discipline task credit seen weaker := by
  induction task generalizing credit seen with
  | done | raised => exact implies _ _ _ (discipline.refl _) owns
  | await op resume inductionHypothesis =>
    exact Answers.weaken owns fun reply left next late remaining =>
      inductionHypothesis reply remaining fun result left' last latter =>
        implies result left' last (discipline.trans late latter)

/-- A task that owns its credit still owns it after other tasks have moved the world. -/
theorem Owns.later {world : World} (late : discipline.later seen world)
    (owns : Owns system condition discipline task credit seen fun _ _ _ => True) :
    Owns system condition discipline task credit world fun _ _ _ => True := by
  cases task with
  | done result => trivial
  | raised error => trivial
  | await op resume => exact Answers.later late owns

variable {post : Except Error Second → Credit → World → Prop}

/-- The sequence rule: an error of the first part ends the whole. -/
theorem Owns.bind
    (owns : Owns system condition discipline task credit seen fun result left world =>
      match result with
      | .ok value => Owns system condition discipline (next value) left world post
      | .error error => post (.error error) left world) :
    Owns system condition discipline (task >>= next) credit seen post := by
  induction task generalizing credit seen with
  | done result => exact owns
  | raised error => exact owns
  | await op resume inductionHypothesis =>
    exact Answers.weaken owns fun reply left last _ remaining =>
      inductionHypothesis reply remaining

/-- The handler rule: a finished task is left alone, a raised error is handled. -/
theorem Owns.catching {handler : Error → Coroutine Op Reply Error First}
    {post : Except Error First → Credit → World → Prop}
    (owns : Owns system condition discipline task credit seen fun result left world =>
      match result with
      | .ok value => post (.ok value) left world
      | .error error => Owns system condition discipline (handler error) left world post) :
    Owns system condition discipline (task.catching handler) credit seen post := by
  induction task generalizing credit seen with
  | done result => exact owns
  | raised error => exact owns
  | await op resume inductionHypothesis =>
    exact Answers.weaken owns fun reply left last _ remaining =>
      inductionHypothesis reply remaining

/-- The operation rule. -/
theorem Owns.perform {next : Reply op → Coroutine Op Reply Error Second}
    (answers : Answers system condition discipline op credit seen fun reply left world =>
      match reply with
      | .ok value => Owns system condition discipline (next value) left world post
      | .error error => post (.error error) left world) :
    Owns system condition discipline (Coroutine.perform op >>= next) credit seen post := by
  refine Answers.weaken answers fun reply left last _ remaining => ?_
  cases reply with
  | ok | error => exact remaining

/-- The sequence rule, from what the first part establishes. -/
theorem Owns.call {middle : Except Error First → Credit → World → Prop}
    (owns : Owns system condition discipline task credit seen middle)
    (rest : ∀ result left world, discipline.later seen world → middle result left world →
      match result with
      | .ok value => Owns system condition discipline (next value) left world post
      | .error error => post (.error error) left world) :
    Owns system condition discipline (task >>= next) credit seen post :=
  Owns.bind (Owns.weaken owns rest)

/-- The operation rule, from what is known of the answers. -/
theorem Owns.await {next : Reply op → Coroutine Op Reply Error Second}
    {read : Except Error (Reply op) → Credit → World → Prop}
    (answers : Answers system condition discipline op credit seen read)
    (rest : ∀ reply left world, discipline.later seen world → read reply left world →
      match reply with
      | .ok value => Owns system condition discipline (next value) left world post
      | .error error => post (.error error) left world) :
    Owns system condition discipline (Coroutine.perform op >>= next) credit seen post :=
  Owns.perform (Answers.weaken answers rest)

/-- The operation rule at the end of a task. -/
theorem Owns.perform_last {post : Except Error (Reply op) → Credit → World → Prop}
    (answers : Answers system condition discipline op credit seen post) :
    Owns system condition discipline (Coroutine.perform op) credit seen post := by
  refine Answers.weaken answers fun reply left last _ remaining => ?_
  cases reply with
  | ok | error => exact remaining

/-- The frame rule: what a task does not need it leaves alone. -/
theorem Owns.frame {post : Except Error First → Credit → World → Prop}
    (owns : Owns system condition discipline task credit seen post) (kept : Credit) :
    Owns system condition discipline task (credit + kept) seen
      fun result left world => ∃ own, left = own + kept ∧ post result own world := by
  induction task generalizing credit seen with
  | done | raised => exact ⟨credit, rfl, owns⟩
  | await op resume inductionHypothesis =>
    intro world rest choice reply next late held met answered
    rw [add_assoc] at held
    obtain ⟨left, later, heldNext, remaining⟩ :=
      owns world (kept + rest) choice reply next late held met answered
    rw [← add_assoc] at heldNext
    exact ⟨left + kept, later, heldNext, inductionHypothesis reply remaining⟩

/-- A computed result is used at once, or its error ends the task. -/
theorem Owns.ofExcept {computed : Except Error First}
    (ok : ∀ value, computed = .ok value →
      Owns system condition discipline (next value) credit seen post)
    (error : ∀ error, computed = .error error → post (.error error) credit seen) :
    Owns system condition discipline (Coroutine.ofExcept computed >>= next) credit seen post := by
  cases computed with
  | ok value => exact ok value rfl
  | error failure => exact error failure rfl

/-- A task that awaits only operations that leave the credit alone leaves it alone. -/
theorem Owns.of_within {kind : Op → Prop} (seen : World)
    (keeps : ∀ op next, discipline.later seen next → kind op →
      Answers system condition discipline op credit next fun _ left _ => left = credit)
    (within : task.Within kind) :
    Owns system condition discipline task credit seen fun _ left _ => left = credit := by
  induction task generalizing seen with
  | done result => exact rfl
  | raised error => exact rfl
  | await op resume inductionHypothesis =>
    refine Answers.weaken (keeps op seen (discipline.refl seen) within.1) ?_
    rintro reply left next late rfl
    exact inductionHypothesis reply next
      (fun op last latter => keeps op last (discipline.trans late latter)) (within.2 reply)

/-- A task that awaits only operations that leave the credit alone leaves it alone, and its result
satisfies what it yields. -/
theorem Owns.of_within_yields {kind : Op → Prop} {yielded : First → Prop}
    (keeps : ∀ op seen, kind op →
      Answers system condition discipline op credit seen fun _ left _ => left = credit)
    (within : task.Within kind)
    (yields : task.Yields yielded) (seen : World) :
    Owns system condition discipline task credit seen fun result left _ =>
      left = credit ∧ ∀ value, result = .ok value → yielded value := by
  induction task generalizing seen with
  | done result => exact ⟨rfl, fun value same => Except.ok.inj same ▸ yields⟩
  | raised error => exact ⟨rfl, nofun⟩
  | await op resume inductionHypothesis =>
    refine Answers.weaken (keeps op seen within.1) ?_
    rintro reply left next _ rfl
    exact inductionHypothesis reply (within.2 reply) (yields reply) next

/-- A task that awaits only operations that leave the credit alone, and handles the errors they
may raise, leaves it alone and finishes without an error. -/
theorem Owns.of_within_steady {kind may : Op → Prop} (keeps : ∀ op seen, kind op →
      Answers system condition discipline op credit seen fun reply left _ =>
        left = credit ∧ ∀ error, reply = .error error → may op)
    (within : task.Within kind)
    (steady : task.Steady may) (seen : World) :
    Owns system condition discipline task credit seen fun result left _ =>
      left = credit ∧ ∃ value, result = .ok value := by
  induction task generalizing seen with
  | done result => exact ⟨rfl, result, rfl⟩
  | raised error => exact steady.elim
  | await op resume inductionHypothesis =>
    refine Answers.weaken (keeps op seen within.1) ?_
    rintro reply left next _ ⟨rfl, raises⟩
    cases reply with
    | ok value => exact inductionHypothesis _ (within.2 _) (steady.1 value) next
    | error error =>
      exact inductionHypothesis _ (within.2 _) (steady.2 (raises error rfl) error) next

/-- The embedding rule: a task that owns its credit in the part of a system its operations
reach owns it in the whole. -/
theorem Owns.embed {Larger : Type} {LargerReply : Larger → Type} {LargerError : Type}
    {whole : System Larger LargerReply LargerError World Answer Start Disturbance}
    {wholeCondition : Condition Larger World Answer Start Disturbance} {into : Op → Larger}
    {value : ∀ op, LargerReply (into op) → Reply op} {wrap : Error → LargerError}
    {unwrap : LargerError → Error}
    (answers : ∀ world op choice reply next,
      whole.answer world (into op) choice = some (reply, next) →
      system.answer world op choice = some (match reply with
        | .ok reply => .ok (value op reply)
        | .error error => .error (unwrap error), next))
    (conditions : ∀ world op choice, wholeCondition.answer world (into op) choice = true →
      condition.answer world op choice = true)
    {post : Except LargerError First → Credit → World → Prop}
    (owns : Owns system condition discipline task credit seen fun result left world =>
      match result with
      | .ok value => post (.ok value) left world
      | .error error => post (.error (wrap error)) left world) :
    Owns whole wholeCondition discipline (task.embed into value wrap unwrap) credit seen post := by
  induction task generalizing credit seen with
  | done result => exact owns
  | raised error => exact owns
  | await op resume inductionHypothesis =>
    intro world rest choice reply next late held met answered
    obtain ⟨left, later, heldNext, remaining⟩ := owns world rest choice _ next late held
      (conditions world op choice met) (answers world op choice reply next answered)
    exact ⟨left, later, heldNext, inductionHypothesis _ remaining⟩

end Owns

/-! ### Unique tokens -/

section Token

variable {Token : Type}

/-- At most one token is out: the one the world names. -/
def unique (held : Option Token) : Multiset Token := held.elim 0 fun token => {token}

/-- A task that owns a token owns the one the world names, and no other task owns one. -/
theorem eq_of_unique {held : Option Token} {token : Token} {rest : Multiset Token}
    (tokens : {token} + rest = unique held) : held = some token ∧ rest = 0 := by
  cases held with
  | none => exact absurd tokens Multiset.cons_ne_zero
  | some other =>
    obtain ⟨rfl, rest⟩ := (Multiset.singleton_eq_cons_iff _).mp tokens.symm
    exact ⟨rfl, rest⟩

/-- Where the world names no token, no task owns one. -/
@[simp] theorem unique_none : unique (none : Option Token) = 0 := rfl

end Token

/-! ### The invariant of a run -/

section Soundness

variable {Op : Type} {Reply : Op → Type} {Error World Answer Start Disturbance Credit : Type}
  [AddCommMonoid Credit]

/-- The invariant of a configuration: the tasks own credits whose sum the world holds. -/
def Owned (system : System Op Reply Error World Answer Start Disturbance)
    (condition : Condition Op World Answer Start Disturbance)
    (discipline : Discipline World Credit) (config : Config Op Reply Error World) : Prop :=
  ∃ credits : List Credit, discipline.holds config.world credits.sum ∧
    List.Forall₂
      (fun task credit =>
        Owns system condition discipline task credit config.world fun _ _ _ => True)
      config.tasks credits

/-- What a discipline must show of a system: a task that starts is given a credit it owns,
and what happens outside the tasks keeps the invariant. -/
structure Sound (system : System Op Reply Error World Answer Start Disturbance)
    (condition : Condition Op World Answer Start Disturbance)
    (discipline : Discipline World Credit) : Prop where
  start : ∀ world total kind task next, discipline.holds world total →
    condition.start world kind = true → system.start world kind = some (task, next) →
    discipline.later world next ∧ ∃ credit, discipline.holds next (credit + total) ∧
      Owns system condition discipline task credit next fun _ _ _ => True
  disturb : ∀ world total cause next, discipline.holds world total →
    condition.disturb world cause = true → system.disturb world cause = some next →
    discipline.later world next ∧ discipline.holds next total
  restart : ∀ world total, discipline.holds world total → condition.restart world = true →
    discipline.holds (system.restart world) 0

variable {system : System Op Reply Error World Answer Start Disturbance}
  {condition : Condition Op World Answer Start Disturbance}
  {discipline : Discipline World Credit}

/-- Tasks keep their credits while the world moves on. -/
theorem forall₂_owns_later {tasks : List (Coroutine Op Reply Error Unit)}
    {credits : List Credit} {world next : World} (late : discipline.later world next)
    (owned : List.Forall₂ (fun task credit =>
      Owns system condition discipline task credit world fun _ _ _ => True) tasks credits) :
    List.Forall₂ (fun task credit =>
      Owns system condition discipline task credit next fun _ _ _ => True) tasks credits :=
  owned.imp fun _ _ owns => owns.later late

/-- One task among many, with its credit and what the others own. -/
theorem forall₂_split {Task : Type} {relation : Task → Credit → Prop} {tasks : List Task}
    {credits : List Credit} (related : List.Forall₂ relation tasks credits) {index : Nat}
    {task : Task} (found : tasks[index]? = some task) :
    ∃ credit rest, relation task credit ∧ credits.sum = credit + rest ∧
      ∀ (replaced : Task) (left : Credit) (after : Task → Credit → Prop),
        after replaced left → (∀ task credit, relation task credit → after task credit) →
        ∃ renewed : List Credit, renewed.sum = left + rest ∧
          List.Forall₂ after (tasks.set index replaced) renewed := by
  induction related generalizing index with
  | nil => simp at found
  | @cons head owned tail others headRelated tailRelated inductionHypothesis =>
    cases index with
    | zero =>
      obtain rfl : head = task := by simpa using found
      refine ⟨owned, others.sum, headRelated, List.sum_cons, ?_⟩
      intro replaced left after renewedHead rest
      exact ⟨left :: others, List.sum_cons, .cons renewedHead (tailRelated.imp rest)⟩
    | succ index =>
      have foundTail : tail[index]? = some task := by simpa using found
      obtain ⟨credit, rest, taskRelated, total, replace⟩ := inductionHypothesis foundTail
      refine ⟨credit, owned + rest, taskRelated, ?_, ?_⟩
      · rw [List.sum_cons, total, add_left_comm]
      · intro replaced left after renewedTask others
        obtain ⟨renewed, renewedTotal, renewedAll⟩ := replace replaced left after renewedTask others
        refine ⟨owned :: renewed, ?_, .cons (others head owned headRelated) renewedAll⟩
        rw [List.sum_cons, renewedTotal, add_left_comm]

/-- A task replaced by a finished one leaves its credit behind. -/
theorem forall₂_cancel {tasks : List (Coroutine Op Reply Error Unit)} {credits : List Credit}
    {world : World} (index : Nat)
    (owned : List.Forall₂ (fun task credit =>
      Owns system condition discipline task credit world fun _ _ _ => True) tasks credits) :
    List.Forall₂ (fun task credit =>
      Owns system condition discipline task credit world fun _ _ _ => True)
      (tasks.set index (.done ())) credits := by
  induction owned generalizing index with
  | nil => exact .nil
  | cons headOwned tailOwned inductionHypothesis =>
    cases index with
    | zero => exact .cons trivial tailOwned
    | succ index => exact .cons headOwned (inductionHypothesis index)

/-- One step of a sound system keeps every task within its credit. -/
theorem Owned.step (sound : Sound system condition discipline)
    {before after : Config Op Reply Error World}
    (owned : Owned system condition discipline before) (event : Event Answer Start Disturbance)
    (met : condition.met before event = true) (stepped : system.step before event = some after) :
    Owned system condition discipline after := by
  obtain ⟨credits, held, tasks⟩ := owned
  cases event with
  | resume task choice =>
    simp only [System.step] at stepped
    simp only [Condition.met] at met
    split at stepped
    · rename_i op resume found
      rw [found] at met
      obtain ⟨⟨reply, next⟩, answered, rfl⟩ := Option.map_eq_some_iff.mp stepped
      obtain ⟨credit, rest, owns, total, replace⟩ := forall₂_split tasks found
      rw [total] at held
      obtain ⟨left, late, heldNext, remaining⟩ :=
        owns before.world rest choice reply next (discipline.refl _) held met answered
      obtain ⟨renewed, renewedTotal, renewedTasks⟩ :=
        replace (resume reply) left
          (fun task credit => Owns system condition discipline task credit next
            fun _ _ _ => True)
          remaining (fun _ _ other => other.later late)
      exact ⟨renewed, renewedTotal ▸ heldNext, renewedTasks⟩
    · cases stepped
  | start kind =>
    obtain ⟨⟨task, next⟩, started, rfl⟩ := Option.map_eq_some_iff.mp stepped
    obtain ⟨late, credit, heldNext, owns⟩ :=
      sound.start before.world credits.sum kind task next held met started
    refine ⟨credits ++ [credit], ?_, ?_⟩
    · rw [List.sum_append, List.sum_singleton, add_comm]
      exact heldNext
    · exact List.rel_append (forall₂_owns_later late tasks) (.cons owns .nil)
  | disturb cause =>
    obtain ⟨next, disturbed, rfl⟩ := Option.map_eq_some_iff.mp stepped
    obtain ⟨late, heldNext⟩ :=
      sound.disturb before.world credits.sum cause next held met disturbed
    exact ⟨credits, heldNext, forall₂_owns_later late tasks⟩
  | cancel task =>
    cases stepped
    exact ⟨credits, held, forall₂_cancel task tasks⟩
  | restart =>
    cases stepped
    exact ⟨[], sound.restart before.world credits.sum held met, .nil⟩

/-- Every configuration a sound system reaches is within its credits. -/
theorem Owned.reaches (sound : Sound system condition discipline)
    {first last : Config Op Reply Error World}
    (owned : Owned system condition discipline first)
    (reaches : system.Reaches condition first last) :
    Owned system condition discipline last := by
  induction reaches with
  | refl => exact owned
  | tail _ stepped inductionHypothesis =>
    obtain ⟨event, met, steps⟩ := stepped
    exact inductionHypothesis.step sound event met steps

/-- A world without tasks is owned when it holds no credit. -/
theorem owned_idle {world : World} (held : discipline.holds world 0) :
    Owned system condition discipline ⟨world, []⟩ :=
  ⟨[], held, .nil⟩

end Soundness

end Async
