/-
This file defines dictionaries of counters: a key that was never counted has
the count zero, and counting a key adds one to its count and to the total.
-/

import BreezeTrading.Lib.Dictionary
import Mathlib.Algebra.BigOperators.Group.List.Basic
import Mathlib.Algebra.GroupWithZero.Nat

namespace Stored

/-- A dictionary of counters. -/
structure Tally (Key : Type) where
  entries : List (Key × Nat)
  unique : (entries.map Prod.fst).Nodup

namespace Tally

variable {Key : Type}

def empty : Tally Key := ⟨[], List.nodup_nil⟩

/-- The sum of the counts. -/
def total (tally : Tally Key) : Nat := (tally.entries.map Prod.snd).sum

variable [DecidableEq Key]

/-- `counts.get(key, 0)`. -/
def get (tally : Tally Key) (key : Key) : Nat :=
  ((tally.entries.find? fun entry => decide (entry.1 = key)).map Prod.snd).getD 0

/-- `counts[key] = counts.get(key, 0) + 1`. -/
def increment (tally : Tally Key) (key : Key) : Tally Key where
  entries := upsertRows Prod.fst (fun old new => (old.1, new.2)) (key, tally.get key + 1)
    tally.entries
  unique := nodup_key_upsertRows (fun _ => rfl) tally.unique

@[simp] theorem get_increment (tally : Tally Key) (key other : Key) :
    (tally.increment key).get other = tally.get other + if key = other then 1 else 0 := by
  have found := Dictionary.get_set ⟨tally.entries, tally.unique⟩ key (tally.get key + 1) other
  have counted : (tally.increment key).get other = _ := congrArg (Option.getD · 0) found
  rw [counted]
  by_cases same : key = other
  · subst same
    rw [if_pos rfl, if_pos rfl, Option.getD_some]
  · rw [if_neg same, if_neg same]
    rfl

/-- Counting in a list of entries that has the key adds to its entry alone. -/
theorem sum_upsertRows {key : Key} {count : Nat} :
    ∀ {entries : List (Key × Nat)}, (entries.map Prod.fst).Nodup →
      ((entries.find? fun entry => decide (entry.1 = key)).map Prod.snd).getD 0 = count →
      ((upsertRows Prod.fst (fun old new => (old.1, new.2)) (key, count + 1) entries).map
        Prod.snd).sum = (entries.map Prod.snd).sum + 1
  | [], _, counted => by
      rw [← counted]
      rfl
  | (head, held) :: rest, unique, counted => by
      rw [List.map_cons, List.nodup_cons] at unique
      by_cases same : head = key
      · rw [List.find?_cons_of_pos (by simpa using same)] at counted
        have heldCount : held = count := counted
        simp only [upsertRows, if_pos same, List.map_cons, List.sum_cons, heldCount]
        omega
      · rw [List.find?_cons_of_neg (by simpa using same)] at counted
        simp only [upsertRows, if_neg same, List.map_cons, List.sum_cons,
          sum_upsertRows unique.2 counted]
        omega

@[simp] theorem total_increment (tally : Tally Key) (key : Key) :
    (tally.increment key).total = tally.total + 1 :=
  sum_upsertRows tally.unique rfl

end Tally

end Stored
