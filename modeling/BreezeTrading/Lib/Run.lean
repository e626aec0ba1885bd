/-
This file runs a deterministic machine on a list of operations. `Along` says that each
operation meets a condition in the state it is applied to; what every admitted step
keeps of a state, and what it gives in such a state, holds along the whole run.
-/

import Mathlib.Data.List.Basic

namespace Run

variable {State Op : Type} (step : State → Op → State)

/-- Each operation of a run meets a condition in the state it is applied to. -/
def Along (meets : State → Op → Prop) : State → List Op → Prop
  | _, [] => True
  | state, op :: rest => meets state op ∧ Along meets (step state op) rest

variable {step}

instance decidableAlong (meets : State → Op → Prop) [∀ state op, Decidable (meets state op)] :
    ∀ state ops, Decidable (Along step meets state ops)
  | _, [] => inferInstanceAs (Decidable True)
  | state, op :: rest =>
      have := decidableAlong meets (step state op) rest
      inferInstanceAs (Decidable (meets state op ∧ Along step meets (step state op) rest))

/-- What every operation meets in every state holds along every run. -/
theorem along_of_forall {meets : State → Op → Prop} (always : ∀ state op, meets state op)
    (state : State) (ops : List Op) : Along step meets state ops := by
  induction ops generalizing state with
  | nil => trivial
  | cons op rest inductionHypothesis => exact ⟨always state op, inductionHypothesis (step state op)⟩

variable {ops : List Op} {state : State}

/-- What the operations of a run meet in every state holds along it. -/
theorem along_of_mem {meets : State → Op → Prop} (each : ∀ op ∈ ops, ∀ state, meets state op)
    (state : State) : Along step meets state ops := by
  induction ops generalizing state with
  | nil => trivial
  | cons op rest inductionHypothesis =>
    exact ⟨each op List.mem_cons_self state,
      inductionHypothesis (fun later member => each later (List.mem_cons_of_mem op member))
        (step state op)⟩

theorem Along.and {meets other : State → Op → Prop} (first : Along step meets state ops)
    (second : Along step other state ops) :
    Along step (fun state op => meets state op ∧ other state op) state ops := by
  induction ops generalizing state with
  | nil => trivial
  | cons op rest inductionHypothesis =>
    exact ⟨⟨first.1, second.1⟩, inductionHypothesis first.2 second.2⟩

/-- Equivalent conditions on the steps are equivalent along a run. -/
theorem along_congr {meets other : State → Op → Prop}
    (same : ∀ state op, meets state op ↔ other state op) (state : State) (ops : List Op) :
    Along step meets state ops ↔ Along step other state ops := by
  induction ops generalizing state with
  | nil => exact Iff.rfl
  | cons op rest inductionHypothesis =>
    exact and_congr (same state op) (inductionHypothesis (step state op))

section

variable {admitted : State → Op → Prop} {holds : State → Prop}
  (keeps : ∀ state op, holds state → admitted state op → holds (step state op))

include keeps

/-- The rule of invariants: what admitted steps keep holds at each of them, and so does what they
give where it holds. -/
theorem Along.of_invariant {gives : State → Op → Prop}
    (follows : ∀ state op, holds state → admitted state op → gives state op) (held : holds state)
    (along : Along step admitted state ops) : Along step gives state ops := by
  induction ops generalizing state with
  | nil => trivial
  | cons op rest inductionHypothesis =>
    obtain ⟨isAdmitted, later⟩ := along
    exact ⟨follows state op held isAdmitted,
      inductionHypothesis (keeps state op held isAdmitted) later⟩

/-- An invariant holds after a run of admitted steps. -/
theorem Along.holds_final (held : holds state) (along : Along step admitted state ops) :
    holds (ops.foldl step state) := by
  induction ops generalizing state with
  | nil => exact held
  | cons op rest inductionHypothesis =>
    exact inductionHypothesis (keeps state op held along.1) along.2

end

/-! ### Outputs -/

section Outputs

variable {Out : Type} (emit : State → Op → Option Out)

variable (step) in
/-- What the operations of a run give, in their order. -/
def outputs : State → List Op → List Out
  | _, [] => []
  | state, op :: rest => (emit state op).toList ++ outputs (step state op) rest

variable {emit}

theorem outputs_append (state : State) (first second : List Op) :
    outputs step emit state (first ++ second) =
      outputs step emit state first ++ outputs step emit (first.foldl step state) second := by
  induction first generalizing state with
  | nil => rfl
  | cons op rest inductionHypothesis =>
    rw [List.cons_append, outputs, outputs, inductionHypothesis, List.append_assoc]
    rfl

theorem outputs_singleton (state : State) (op : Op) :
    outputs step emit state [op] = (emit state op).toList := List.append_nil _

variable {admitted : State → Op → Prop} {behind : State → Out → Prop}
  {related : Out → Out → Prop}

/-- What stays behind the states of a run is related to everything the run gives. -/
theorem Along.related_outputs
    (keeps : ∀ state op out, admitted state op → behind state out → behind (step state op) out)
    (gives : ∀ state op out, admitted state op → behind state out →
      ∀ later ∈ emit state op, related out later)
    (along : Along step admitted state ops) {out : Out}
    (isBehind : behind state out) : ∀ later ∈ outputs step emit state ops, related out later := by
  induction ops generalizing state with
  | nil => exact fun later none => by cases none
  | cons op rest inductionHypothesis =>
    intro later member
    rcases List.mem_append.mp member with isFirst | inRest
    · exact gives state op out along.1 isBehind later (Option.mem_toList.mp isFirst)
    · exact inductionHypothesis along.2 (keeps state op out along.1 isBehind) later inRest

/-- What falls behind with its own step is related to everything the run gives after it. -/
theorem Along.pairwise_outputs
    (keeps : ∀ state op out, admitted state op → behind state out → behind (step state op) out)
    (gives : ∀ state op out, admitted state op → behind state out →
      ∀ later ∈ emit state op, related out later)
    (falls : ∀ state op, admitted state op → ∀ out ∈ emit state op, behind (step state op) out)
    (along : Along step admitted state ops) :
    (outputs step emit state ops).Pairwise related := by
  induction ops generalizing state with
  | nil => exact .nil
  | cons op rest inductionHypothesis =>
    refine List.pairwise_append.mpr ⟨?_, inductionHypothesis along.2, ?_⟩
    · cases emit state op with
      | none => exact .nil
      | some out => exact List.pairwise_singleton related out
    · intro out isFirst later inRest
      exact along.2.related_outputs keeps gives
        (falls state op along.1 out (Option.mem_toList.mp isFirst)) later inRest

end Outputs

end Run
