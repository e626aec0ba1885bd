/-
This file defines where the failures of a coroutine come from. A plain coroutine raises nothing of
its own and handles no error: it finishes exactly when every operation is answered with a value,
and a loop over plain bodies reaches exactly the elements up to the first whose body fails.
-/

import BreezeTrading.Lib.Coroutine

namespace Async.Coroutine

variable {Op : Type} {Reply : Op → Type} {Error First Second Element World : Type}

/-! ### Plain coroutines -/

/-- A coroutine raises nothing of its own and handles no error. -/
def Plain : Coroutine Op Reply Error First → Prop
  | done _ => True
  | raised _ => False
  | await _ resume => (∀ value, (resume (.ok value)).Plain) ∧
      ∀ error, resume (.error error) = raised error

theorem plain_perform (op : Op) : (perform op : Coroutine Op Reply Error (Reply op)).Plain :=
  ⟨fun _ => trivial, fun _ => rfl⟩

theorem Plain.bind {task : Coroutine Op Reply Error First}
    {next : First → Coroutine Op Reply Error Second} (first : task.Plain)
    (second : ∀ result, (next result).Plain) : (task >>= next).Plain := by
  induction task with
  | done result => exact second result
  | raised error => exact first.elim
  | await op resume inductionHypothesis =>
    refine ⟨fun value => inductionHypothesis _ (first.1 value), fun error => ?_⟩
    show resume (.error error) >>= next = raised error
    rw [first.2 error, raised_bind]

/-- An operation and what follows it. -/
theorem Plain.perform_bind {op : Op} {next : Reply op → Coroutine Op Reply Error Second}
    (second : ∀ value, (next value).Plain) : (perform op >>= next).Plain :=
  (plain_perform op).bind second

section Sequential

variable (answer : World → (op : Op) → Except Error (Reply op) × World)

/-- Every operation that sequential evaluation awaits is answered with a value. -/
def Unfailing : Coroutine Op Reply Error First → World → Prop
  | done _, _ => True
  | raised _, _ => True
  | await op resume, world => (answer world op).1.isOk = true ∧
      (resume (answer world op).1).Unfailing (answer world op).2

/-- A plain coroutine finishes exactly when no operation it awaits fails. -/
theorem Plain.isOk_eval_iff {task : Coroutine Op Reply Error First} (plain : task.Plain)
    (world : World) : (task.eval answer world).1.isOk = true ↔ task.Unfailing answer world := by
  induction task generalizing world with
  | done result => exact ⟨fun _ => trivial, fun _ => rfl⟩
  | raised error => exact plain.elim
  | await op resume inductionHypothesis =>
    rw [eval_await]
    unfold Unfailing
    cases replied : (answer world op).1 with
    | ok value =>
      rw [inductionHypothesis _ (plain.1 value)]
      exact ⟨fun rest => ⟨rfl, rest⟩, And.right⟩
    | error error =>
      rw [plain.2 error]
      exact ⟨(fun impossible => nomatch impossible), fun failing => nomatch failing.1⟩

/-! ### Loops -/

/-- The elements whose body begins, each with the world it begins in. -/
def begun (body : Element → Coroutine Op Reply Error Unit) :
    List Element → World → List (Element × World)
  | [], _ => []
  | element :: rest, world => (element, world) ::
      match (body element).eval answer world with
      | (.ok _, after) => begun body rest after
      | (.error _, _) => []

/-- No operation fails in the body of an element other than the last. -/
def UnfailingButLast (body : Element → Coroutine Op Reply Error Unit) :
    List Element → World → Prop
  | [], _ => True
  | [_], _ => True
  | element :: next :: rest, world => (body element).Unfailing answer world ∧
      UnfailingButLast body (next :: rest) ((body element).eval answer world).2

/-- Every element is begun exactly when nothing fails before the last. -/
theorem begun_eq_iff {body : Element → Coroutine Op Reply Error Unit}
    (plain : ∀ element, (body element).Plain) (elements : List Element) (world : World) :
    (begun answer body elements world).map Prod.fst = elements ↔
      UnfailingButLast answer body elements world := by
  induction elements generalizing world with
  | nil => exact ⟨fun _ => trivial, fun _ => rfl⟩
  | cons element rest inductionHypothesis =>
    have finishes := (plain element).isOk_eval_iff answer world
    cases rest with
    | nil =>
      refine ⟨fun _ => trivial, fun _ => ?_⟩
      unfold begun
      rcases (body element).eval answer world with ⟨_ | _, after⟩ <;> rfl
    | cons next rest =>
      unfold begun UnfailingButLast
      rw [List.map_cons, List.cons.injEq, ← finishes]
      rcases (body element).eval answer world with ⟨error | result, after⟩
      · exact ⟨(fun same => nomatch same.2), fun failing => nomatch failing⟩
      · exact ⟨fun same => ⟨rfl, (inductionHypothesis after).mp same.2⟩,
          fun unfailing => ⟨rfl, (inductionHypothesis after).mpr unfailing.2⟩⟩

end Sequential

end Async.Coroutine
