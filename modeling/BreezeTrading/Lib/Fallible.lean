/-
This file inverts computations that may fail: what ended with a result went through the results of
its parts.
-/

import Mathlib.Data.Option.Basic

namespace Fallible

variable {Error Value Result : Type} {first : Except Error Value} {result : Result}

/-- A computation that ends with a result began with one. -/
theorem ok_of_bind {next : Value → Except Error Result} (ended : (first >>= next) = .ok result) :
    ∃ value, first = .ok value ∧ next value = .ok result := by
  cases first with
  | error error => cases ended
  | ok value => exact ⟨value, rfl, ended⟩

theorem ok_of_map {image : Value → Result} (ended : first.map image = .ok result) :
    ∃ value, first = .ok value ∧ image value = result := by
  cases first with
  | error error => cases ended
  | ok value => exact ⟨value, rfl, Except.ok.inj ended⟩

theorem ok_of_toOption {value : Value} (isValue : first.toOption = some value) :
    first = .ok value := by
  cases first with
  | error error => cases isValue
  | ok known => rw [Option.some_inj.mp isValue]

/-- A list of computations ends where each of them does. -/
theorem mapM_eq_ok_iff {Item : Type} {compute : Item → Except Error Value} {items : List Item}
    {values : List Value} :
    items.mapM compute = .ok values ↔ items.map compute = values.map .ok := by
  induction items generalizing values with
  | nil => cases values <;> simp [pure, Except.pure]
  | cons item rest inductionHypothesis =>
    rw [List.mapM_cons, List.map_cons]
    cases computed : compute item with
    | error error => cases values <;> simp [bind, Except.bind]
    | ok value =>
      cases values with
      | nil => cases restComputed : rest.mapM compute <;> simp [bind, Except.bind, pure, Except.pure]
      | cons head tail =>
        rw [List.map_cons, List.cons.injEq, ← inductionHypothesis]
        cases restComputed : rest.mapM compute with
        | error error => simp [bind, Except.bind]
        | ok others => simp [bind, Except.bind, pure, Except.pure]

end Fallible
