/-
This file runs a loop whose body may return. The result of a loop that returned does not change
when more items follow; what the body keeps of the state and gives of a result, the loop keeps
and gives; and loops over the same items with related bodies end related.
-/

import Mathlib.Data.List.Basic

namespace EarlyReturn

variable {State Item Result : Type} (body : State → Item → Except Result State)

/-- A loop over items: an error is the result it returns, otherwise the state is carried on. -/
def loop (state : State) (items : List Item) : Except Result State := items.foldlM body state

@[simp] theorem loop_nil (state : State) : loop body state [] = .ok state := rfl

theorem loop_cons (state : State) (item : Item) (items : List Item) :
    loop body state (item :: items) =
      match body state item with
      | .error result => .error result
      | .ok next => loop body next items := by
  unfold loop
  rw [List.foldlM_cons]
  cases body state item with
  | error result => rfl
  | ok next => rfl

/-- A loop over two lists is the loop over the second one where the first one left off. -/
theorem loop_append (state : State) (first second : List Item) :
    loop body state (first ++ second) =
      match loop body state first with
      | .error result => .error result
      | .ok next => loop body next second := by
  unfold loop
  rw [List.foldlM_append]
  cases first.foldlM body state with
  | error result => rfl
  | ok next => rfl

/-- What a loop returned it returns on every longer list. -/
theorem loop_append_of_error {state : State} {first : List Item} {result : Result}
    (returned : loop body state first = .error result) (second : List Item) :
    loop body state (first ++ second) = .error result := by
  rw [loop_append, returned]

/-- The body of the loop, or the loop itself, returns a good result or carries on in a state that
is kept. -/
def Outcome (holds : State → Prop) (gives : Result → Prop) : Except Result State → Prop
  | .error result => gives result
  | .ok state => holds state

theorem Outcome.and {holds after : State → Prop} {gives other : Result → Prop}
    {outcome : Except Result State} (first : Outcome holds gives outcome)
    (second : Outcome after other outcome) :
    Outcome (fun state => holds state ∧ after state) (fun result => gives result ∧ other result)
      outcome := by
  cases outcome with
  | error | ok => exact ⟨first, second⟩

theorem Outcome.imp {holds after : State → Prop} {gives other : Result → Prop}
    {outcome : Except Result State} (first : Outcome holds gives outcome)
    (states : ∀ state, holds state → after state) (results : ∀ result, gives result → other result) :
    Outcome after other outcome := by
  cases outcome with
  | error result => exact results result first
  | ok state => exact states state first

theorem loop_singleton (state : State) (item : Item) : loop body state [item] = body state item := by
  rw [loop_cons]
  cases body state item with
  | error result => rfl
  | ok next => rfl

variable {body}

/-- The rule of invariants of a loop that may return. -/
theorem loop_outcome {holds : State → Prop} {gives : Result → Prop} {items : List Item}
    (step : ∀ item ∈ items, ∀ state, holds state → Outcome holds gives (body state item))
    {state : State} (held : holds state) : Outcome holds gives (loop body state items) := by
  induction items generalizing state with
  | nil => exact held
  | cons item rest inductionHypothesis =>
    have first := step item List.mem_cons_self state held
    rw [loop_cons]
    cases ran : body state item with
    | error result =>
      rw [ran] at first
      exact first
    | ok next =>
      rw [ran] at first
      exact inductionHypothesis (fun later member => step later (List.mem_cons_of_mem _ member))
        first

/-- What one item reaches and the others keep, a loop over all of them reaches. -/
theorem loop_reaches {reached : State → Prop} {items : List Item}
    (keeps : ∀ item ∈ items, ∀ state, reached state →
      Outcome reached (fun _ => True) (body state item))
    {item : Item} (member : item ∈ items)
    (reaches : ∀ state, Outcome reached (fun _ => True) (body state item)) (state : State) :
    Outcome reached (fun _ => True) (loop body state items) := by
  induction items generalizing state with
  | nil => cases member
  | cons head rest inductionHypothesis =>
    have keepsRest := fun later isLater => keeps later (List.mem_cons_of_mem head isLater)
    rw [loop_cons]
    rcases List.mem_cons.mp member with rfl | inRest
    · have first := reaches state
      cases ran : body state item with
      | error result => trivial
      | ok next =>
        rw [ran] at first
        exact loop_outcome keepsRest first
    · cases body state head with
      | error result => trivial
      | ok next => exact inductionHypothesis keepsRest inRest next

/-! ### Two loops -/

section Two

variable {Other Total : Type} {other : Other → Item → Except Total Other}

/-- Two bodies, or two loops, both return, with related results, or both carry on, in related
states. -/
def Related (states : State → Other → Prop) (results : Result → Total → Prop) :
    Except Result State → Except Total Other → Prop
  | .error result, .error total => results result total
  | .ok state, .ok abstract => states state abstract
  | _, _ => False

/-- Loops over the same items with related bodies end related. -/
theorem loop_related {states : State → Other → Prop} {results : Result → Total → Prop}
    {items : List Item}
    (step : ∀ item ∈ items, ∀ state abstract, states state abstract →
      Related states results (body state item) (other abstract item))
    {state : State} {abstract : Other} (start : states state abstract) :
    Related states results (loop body state items) (loop other abstract items) := by
  induction items generalizing state abstract with
  | nil => exact start
  | cons item rest inductionHypothesis =>
    have first := step item List.mem_cons_self state abstract start
    have later := fun next member => step next (List.mem_cons_of_mem item member)
    rw [loop_cons, loop_cons]
    cases ran : body state item with
    | error result =>
      cases ranOther : other abstract item with
      | error total =>
        rw [ran, ranOther] at first
        exact first
      | ok next =>
        rw [ran, ranOther] at first
        exact first.elim
    | ok next =>
      cases ranOther : other abstract item with
      | error total =>
        rw [ran, ranOther] at first
        exact first.elim
      | ok nextOther =>
        rw [ran, ranOther] at first
        exact inductionHypothesis later first

end Two

end EarlyReturn
