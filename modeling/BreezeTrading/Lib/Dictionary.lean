/-
This file defines dictionaries that keep their keys in the order in which they were first set. To
set a key that is there replaces its value where it stands.
-/

import BreezeTrading.Lib.Table
import Mathlib.Data.List.Induction

namespace Stored

/-- A dictionary, in the order of its keys. -/
structure Dictionary (Key Value : Type) where
  entries : List (Key × Value)
  unique : (entries.map Prod.fst).Nodup

namespace Dictionary

variable {Key Value : Type}

def empty : Dictionary Key Value := ⟨[], List.nodup_nil⟩

variable [DecidableEq Key]

/-- `dictionary.get(key)`. -/
def get (dictionary : Dictionary Key Value) (key : Key) : Option Value :=
  (dictionary.entries.find? fun entry => decide (entry.1 = key)).map Prod.snd

/-- `dictionary[key] = value`. -/
def set (dictionary : Dictionary Key Value) (key : Key) (value : Value) :
    Dictionary Key Value where
  entries := upsertRows Prod.fst (fun old new => (old.1, new.2)) (key, value) dictionary.entries
  unique := nodup_key_upsertRows (fun _ => rfl) dictionary.unique

@[simp] theorem get_set (dictionary : Dictionary Key Value) (key : Key) (value : Value)
    (other : Key) :
    (dictionary.set key value).get other = if key = other then some value
      else dictionary.get other := by
  have found := find?_upsertRows (fun old new : Key × Value => (old.1, new.2)) (key, value)
    (fun _ => rfl) dictionary.unique other
  rw [get, set, found]
  split
  · rw [merged]
    split <;> rfl
  · rfl

/-! ### Comprehensions -/

/-- `dictionary.values()`. -/
def values (dictionary : Dictionary Key Value) : List Value := dictionary.entries.map Prod.snd

/-- `{key(item): item for item in items}`. -/
def collect (key : Value → Key) (items : List Value) : Dictionary Key Value :=
  items.foldl (fun dictionary item => dictionary.set (key item) item) empty

variable {key : Value → Key} {items : List Value} {item : Value}

/-- A key has the last of its items. -/
theorem get_collect (items : List Value) (wanted : Key) :
    (collect key items).get wanted =
      items.reverse.find? fun item => decide (key item = wanted) := by
  induction items using List.reverseRecOn with
  | nil => rfl
  | append_singleton items last inductionHypothesis =>
    rw [collect, List.foldl_concat, get_set, List.reverse_concat, List.find?_cons, ← collect,
      inductionHypothesis]
    by_cases own : key last = wanted
    · rw [if_pos own, decide_eq_true own]
    · rw [if_neg own, decide_eq_false own]

theorem of_mem_entries_collect {entry : Key × Value} (inside : entry ∈ (collect key items).entries) :
    entry.2 ∈ items ∧ key entry.2 = entry.1 := by
  have got : (collect key items).get entry.1 = some entry.2 := by
    rw [get, find?_eq_some_of_mem (collect key items).unique inside rfl]
    rfl
  rw [get_collect] at got
  obtain ⟨inItems, named⟩ := mem_of_find? got
  exact ⟨List.mem_reverse.mp inItems, named⟩

theorem mem_of_mem_values_collect (member : item ∈ (collect key items).values) : item ∈ items := by
  obtain ⟨entry, inside, rfl⟩ := List.mem_map.mp member
  exact (of_mem_entries_collect inside).1

theorem nodup_values_collect (key : Value → Key) (items : List Value) :
    ((collect key items).values.map key).Nodup := by
  have keys : (collect key items).values.map key = (collect key items).entries.map Prod.fst := by
    rw [values, List.map_map]
    exact List.map_congr_left fun entry inside => (of_mem_entries_collect inside).2
  rw [keys]
  exact (collect key items).unique

/-- The values have the keys of the items. -/
theorem mem_map_values_collect {wanted : Key} :
    wanted ∈ (collect key items).values.map key ↔ wanted ∈ items.map key := by
  constructor <;> intro inside
  · obtain ⟨value, isValue, rfl⟩ := List.mem_map.mp inside
    exact List.mem_map_of_mem (mem_of_mem_values_collect isValue)
  · obtain ⟨item, member, rfl⟩ := List.mem_map.mp inside
    have isSome : ((collect key items).get (key item)).isSome := by
      rw [get_collect, List.find?_isSome]
      exact ⟨item, List.mem_reverse.mpr member, decide_eq_true rfl⟩
    rw [get, Option.isSome_map, List.find?_isSome] at isSome
    obtain ⟨entry, found, own⟩ := isSome
    exact List.mem_map.mpr ⟨entry.2, List.mem_map_of_mem found,
      (of_mem_entries_collect found).2.trans (of_decide_eq_true own)⟩

end Dictionary

end Stored
