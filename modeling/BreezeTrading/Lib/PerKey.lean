/-
This file runs a machine for each key of a dictionary: an operation changes the state under its own
key. What a run leaves under a key, and what it gives of a key, is what the machine leaves and gives
on the operations of the key alone, however they are interleaved with others.
-/

import BreezeTrading.Lib.Run

namespace PerKey

open Run

variable {Key State Op Out : Type} [DecidableEq Key] (key : Op → Key) (step : State → Op → State)
  (emit : State → Op → Option Out)

/-- An operation steps the machine of its key. -/
def keyedStep (states : Key → State) (op : Op) : Key → State :=
  Function.update states (key op) (step (states (key op)) op)

def keyedEmit (states : Key → State) (op : Op) : Option Out := emit (states (key op)) op

/-- The operations of a key. -/
def opsOf (wanted : Key) (ops : List Op) : List Op :=
  ops.filter fun op => decide (key op = wanted)

variable {key step emit}

theorem opsOf_cons_self {wanted : Key} {op : Op} (own : key op = wanted) (rest : List Op) :
    opsOf key wanted (op :: rest) = op :: opsOf key wanted rest :=
  List.filter_cons_of_pos (decide_eq_true own)

theorem opsOf_cons_other {wanted : Key} {op : Op} (other : key op ≠ wanted) (rest : List Op) :
    opsOf key wanted (op :: rest) = opsOf key wanted rest :=
  List.filter_cons_of_neg (by simpa using other)

/-- A run leaves under a key what the operations of the key leave. -/
theorem foldl_keyedStep (wanted : Key) (states : Key → State) (ops : List Op) :
    ops.foldl (keyedStep key step) states wanted =
      (opsOf key wanted ops).foldl step (states wanted) := by
  induction ops generalizing states with
  | nil => rfl
  | cons op rest inductionHypothesis =>
    rw [List.foldl_cons, inductionHypothesis]
    by_cases own : key op = wanted
    · rw [opsOf_cons_self own, List.foldl_cons]
      subst own
      rw [keyedStep, Function.update_self]
    · rw [opsOf_cons_other own, keyedStep, Function.update_of_ne (Ne.symm own)]

/-- What a run gives of a key is what the operations of the key give. -/
theorem outputs_keyedStep {keyOut : Out → Key}
    (labelled : ∀ state op, ∀ out ∈ emit state op, keyOut out = key op)
    (wanted : Key) (states : Key → State) (ops : List Op) :
    (outputs (keyedStep key step) (keyedEmit key emit) states ops).filter
        (fun out => decide (keyOut out = wanted)) =
      outputs step emit (states wanted) (opsOf key wanted ops) := by
  induction ops generalizing states with
  | nil => rfl
  | cons op rest inductionHypothesis =>
    rw [outputs, List.filter_append, inductionHypothesis, keyedEmit]
    by_cases own : key op = wanted
    · have kept : ((emit (states (key op)) op).toList).filter
          (fun out => decide (keyOut out = wanted)) = (emit (states (key op)) op).toList := by
        refine List.filter_eq_self.mpr fun out member => decide_eq_true ?_
        rw [labelled _ _ out (Option.mem_toList.mp member), own]
      rw [kept, opsOf_cons_self own]
      subst own
      rw [outputs, keyedStep, Function.update_self]
    · have dropped : ((emit (states (key op)) op).toList).filter
          (fun out => decide (keyOut out = wanted)) = [] := by
        refine List.filter_eq_nil_iff.mpr fun out member same => own ?_
        rw [← labelled _ _ out (Option.mem_toList.mp member), of_decide_eq_true same]
      rw [dropped, List.nil_append, opsOf_cons_other own, keyedStep,
        Function.update_of_ne (Ne.symm own)]

end PerKey
