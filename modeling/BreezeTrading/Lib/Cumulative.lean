/-
This file defines ledgers of increments of a cumulative counter. A producer sends the increment
since what it believes is recorded, under a key made from the counter; the ledger records each key
once. It is a chain as long as every increment sent is known already or starts at the total of all
sent before; then nothing is counted twice and nothing is lost.
-/

import Mathlib.Algebra.BigOperators.Group.List.Basic
import Mathlib.Algebra.Order.Group.Int
import Mathlib.Algebra.Ring.Int.Defs

namespace Cumulative

/-- An increment, under the key it is deduplicated by. -/
structure Delta (Key : Type) where
  key : Key
  quantity : Int
  deriving DecidableEq

section Ledger

variable {Key : Type} [DecidableEq Key]

/-- The keys a ledger knows. -/
def keys (ledger : List (Delta Key)) : List Key := ledger.map Delta.key

/-- What a ledger holds in total. -/
def total (ledger : List (Delta Key)) : Int := (ledger.map Delta.quantity).sum

/-- Record an increment unless its key is known. -/
def record (ledger : List (Delta Key)) (delta : Delta Key) : List (Delta Key) :=
  if delta.key ∈ keys ledger then ledger else ledger ++ [delta]

/-- Record what waits in the queue, in order. -/
def deliver (ledger queue : List (Delta Key)) : List (Delta Key) := queue.foldl record ledger

variable {ledger queue : List (Delta Key)} {delta : Delta Key}

omit [DecidableEq Key] in
theorem total_append (first second : List (Delta Key)) :
    total (first ++ second) = total first + total second := by
  unfold total
  rw [List.map_append, List.sum_append]

theorem record_of_known (known : delta.key ∈ keys ledger) : record ledger delta = ledger :=
  if_pos known

theorem record_of_unknown (unknown : delta.key ∉ keys ledger) :
    record ledger delta = ledger ++ [delta] := if_neg unknown

/-- A recorded increment is known. -/
theorem key_mem_record (ledger : List (Delta Key)) (delta : Delta Key) :
    delta.key ∈ keys (record ledger delta) := by
  unfold record
  split
  · assumption
  · unfold keys
    rw [List.map_append]
    exact List.mem_concat_self

/-- Recording forgets nothing. -/
theorem prefix_record (ledger : List (Delta Key)) (delta : Delta Key) :
    ledger <+: record ledger delta := by
  unfold record
  split
  · exact List.prefix_refl ledger
  · exact List.prefix_append ledger [delta]

theorem prefix_deliver (ledger queue : List (Delta Key)) : ledger <+: deliver ledger queue := by
  induction queue generalizing ledger with
  | nil => exact List.prefix_refl ledger
  | cons delta rest inductionHypothesis =>
    exact (prefix_record ledger delta).trans (inductionHypothesis (record ledger delta))

theorem deliver_cons (ledger : List (Delta Key)) (delta : Delta Key) (rest : List (Delta Key)) :
    deliver ledger (delta :: rest) = deliver (record ledger delta) rest := rfl

theorem deliver_append (ledger first second : List (Delta Key)) :
    deliver ledger (first ++ second) = deliver (deliver ledger first) second :=
  List.foldl_append

/-- Sending one more increment records it after everything sent before it. -/
theorem deliver_concat (ledger queue : List (Delta Key)) (delta : Delta Key) :
    deliver ledger (queue ++ [delta]) = record (deliver ledger queue) delta :=
  deliver_append ledger queue [delta]

/-- Recording the head of the queue early changes nothing of what will be delivered. -/
theorem deliver_record (ledger : List (Delta Key)) (delta : Delta Key) (rest : List (Delta Key)) :
    deliver (record ledger delta) (delta :: rest) = deliver ledger (delta :: rest) := by
  rw [deliver_cons, deliver_cons, record_of_known (key_mem_record ledger delta)]

/-- A head that is known can be dropped. -/
theorem deliver_of_known (known : delta.key ∈ keys ledger) (rest : List (Delta Key)) :
    deliver ledger (delta :: rest) = deliver ledger rest := by
  rw [deliver_cons, record_of_known known]

omit [DecidableEq Key] in
/-- A key that is known stays known. -/
theorem keys_subset_of_prefix {first second : List (Delta Key)} (sub : first <+: second) :
    keys first ⊆ keys second :=
  List.map_subset _ sub.subset

end Ledger

/-! ### Chains -/

section Chain

variable {Key : Type}

/-- A chain of increments: each one starts at the total before it and is named by the counter
it ends at. -/
inductive Chained (name : Int → Key) : List (Delta Key) → Prop where
  | nil : Chained name []
  | concat {ledger : List (Delta Key)} (counter : Int) (chained : Chained name ledger)
      (grows : total ledger < counter) :
      Chained name (ledger ++ [⟨name counter, counter - total ledger⟩])

variable {name : Int → Key} {ledger queue : List (Delta Key)}

/-- The total of a chain extended by one increment is the counter it ends at. -/
theorem total_concat (ledger : List (Delta Key)) (name : Int → Key) (counter : Int) :
    total (ledger ++ [⟨name counter, counter - total ledger⟩]) = counter := by
  rw [total_append]
  show total ledger + (counter - total ledger + 0) = counter
  omega

theorem Chained.total_nonneg (chained : Chained name ledger) : 0 ≤ total ledger := by
  induction chained with
  | nil => exact le_rfl
  | concat counter chained grows inductionHypothesis =>
    rw [total_concat]
    omega

/-- Every key of a chain names a counter that its total has reached. -/
theorem Chained.name_of_mem (chained : Chained name ledger) {key : Key}
    (known : key ∈ keys ledger) : ∃ counter, key = name counter ∧ 0 < counter ∧
      counter ≤ total ledger := by
  induction chained with
  | nil => cases known
  | concat counter chained grows inductionHypothesis =>
    have nonneg := chained.total_nonneg
    rw [total_concat]
    unfold keys at known
    rw [List.map_append] at known
    rcases List.mem_append.mp known with old | new
    · obtain ⟨reached, named, positive, bound⟩ := inductionHypothesis old
      exact ⟨reached, named, positive, by omega⟩
    · exact ⟨counter, List.mem_singleton.mp new, by omega, le_rfl⟩

/-- What is recorded of a chain is a chain. -/
theorem Chained.of_prefix {first second : List (Delta Key)} (chained : Chained name second)
    (sub : first <+: second) : Chained name first := by
  induction chained with
  | nil =>
    rw [List.prefix_nil.mp sub]
    exact .nil
  | concat counter chained grows inductionHypothesis =>
    rcases List.prefix_concat_iff.mp sub with whole | part
    · rw [whole]
      exact .concat counter chained grows
    · exact inductionHypothesis part

/-- A part of a chain holds no more than the whole. -/
theorem Chained.total_le {first second : List (Delta Key)} (chained : Chained name second)
    (sub : first <+: second) : total first ≤ total second := by
  induction chained with
  | nil =>
    rw [List.prefix_nil.mp sub]
  | concat counter chained grows inductionHypothesis =>
    rcases List.prefix_concat_iff.mp sub with whole | part
    · rw [whole]
    · rw [total_concat]
      have := inductionHypothesis part
      omega

/-- An increment that is known, or starts at the total, keeps the chain. -/
theorem Chained.record [DecidableEq Key] (chained : Chained name ledger) {counter quantity : Int}
    (positive : 0 < quantity)
    (fits : name counter ∈ keys ledger ∨ counter - quantity = total ledger) :
    Chained name (record ledger ⟨name counter, quantity⟩) := by
  by_cases known : name counter ∈ keys ledger
  · rw [record_of_known known]
    exact chained
  · rw [record_of_unknown known]
    have start := fits.resolve_left known
    have same : quantity = counter - total ledger := by omega
    rw [same]
    exact .concat counter chained (by omega)

/-- After it is recorded, the total has reached the counter of the increment. -/
theorem Chained.counter_le_total_record [DecidableEq Key] (chained : Chained name ledger)
    {counter quantity : Int} (positive : 0 < quantity)
    (distinct : ∀ first second, 0 < first → 0 < second → name first = name second →
      first = second)
    (reached : 0 < counter)
    (fits : name counter ∈ keys ledger ∨ counter - quantity = total ledger) :
    counter ≤ total (Cumulative.record ledger ⟨name counter, quantity⟩) := by
  obtain ⟨other, named, otherPositive, bound⟩ :=
    (chained.record positive fits).name_of_mem (key_mem_record ledger ⟨name counter, quantity⟩)
  have same := distinct counter other reached otherPositive named
  omega

/-- The total after an increment is the total before, or the counter it ends at. -/
theorem total_record_le [DecidableEq Key] {counter quantity bound : Int}
    (fits : name counter ∈ keys ledger ∨ counter - quantity = total ledger)
    (before : total ledger ≤ bound) (reached : counter ≤ bound) :
    total (Cumulative.record ledger ⟨name counter, quantity⟩) ≤ bound := by
  by_cases known : name counter ∈ keys ledger
  · rw [record_of_known known]
    exact before
  · rw [record_of_unknown known, total_append]
    have start := fits.resolve_left known
    show total ledger + (quantity + 0) ≤ bound
    omega

end Chain

end Cumulative
