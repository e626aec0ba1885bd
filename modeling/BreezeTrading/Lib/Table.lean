/-
This file defines keyed tables: lists of rows in which no two rows share a key,
so a key finds at most one row. `upsert` is `INSERT ... ON CONFLICT (key) DO
UPDATE`: the row with the key is merged with the new one, or the new row is
appended. The facts about a table after an upsert are stated by membership.
-/

import Mathlib.Data.List.Nodup

namespace Stored

theorem mem_concat {Item : Type*} {item last : Item} {items : List Item} :
    item ∈ items ++ [last] ↔ item ∈ items ∨ item = last := by
  rw [List.mem_append, List.mem_singleton]

theorem nodup_map_concat {Item Column : Type*} {items : List Item} {last : Item}
    {column : Item → Column} (unique : (items.map column).Nodup)
    (fresh : column last ∉ items.map column) : ((items ++ [last]).map column).Nodup := by
  rw [List.map_append, List.map_singleton]
  exact List.Nodup.append unique (List.nodup_singleton _) (List.disjoint_singleton.mpr fresh)

/-- One item takes the place of those with its key. -/
theorem nodup_map_replaced {Item Column : Type*} [DecidableEq Column] {items : List Item}
    {column : Item → Column} (unique : (items.map column).Nodup) (last : Item) :
    (((items.filter fun item => decide (column item ≠ column last)) ++ [last]).map
      column).Nodup := by
  refine nodup_map_concat (unique.sublist (List.filter_sublist.map _)) fun member => ?_
  obtain ⟨item, kept, same⟩ := List.mem_map.mp member
  exact of_decide_eq_true (List.mem_filter.mp kept).2 same

/-! ### Upsert on rows -/

section Rows

variable {Row Key Column : Type} [DecidableEq Key]

/-- Merge the row into the first row with its key, or append it. -/
def upsertRows (key : Row → Key) (merge : Row → Row → Row) (row : Row) : List Row → List Row
  | [] => [row]
  | old :: rest =>
      if key old = key row then merge old row :: rest else old :: upsertRows key merge row rest

/-- The row an upsert leaves under its key. -/
def merged (key : Row → Key) (merge : Row → Row → Row) (row : Row) (rows : List Row) : Row :=
  match rows.find? fun old => decide (key old = key row) with
  | some old => merge old row
  | none => row

variable {key : Row → Key} {merge : Row → Row → Row} {row : Row}

variable {rows : List Row}

/-- With unique keys, an upsert replaces exactly the row with its key. -/
theorem mem_upsertRows (unique : (rows.map key).Nodup) (other : Row) :
    other ∈ upsertRows key merge row rows ↔
      other = merged key merge row rows ∨ (other ∈ rows ∧ key other ≠ key row) := by
  induction rows with
  | nil => simp [upsertRows, merged]
  | cons old rest inductionHypothesis =>
    rw [List.map_cons, List.nodup_cons] at unique
    by_cases same : key old = key row
    · have foreign : ∀ row' ∈ rest, key row' ≠ key row := fun row' member equal =>
        unique.1 (List.mem_map.mpr ⟨row', member, equal.trans same.symm⟩)
      rw [upsertRows, if_pos same, merged, List.find?_cons_of_pos (by simpa using same)]
      simp only [List.mem_cons]
      constructor
      · rintro (rfl | member)
        · exact Or.inl rfl
        · exact Or.inr ⟨Or.inr member, foreign other member⟩
      · rintro (rfl | ⟨rfl | member, different⟩)
        · exact Or.inl rfl
        · exact absurd same different
        · exact Or.inr member
    · rw [upsertRows, if_neg same, List.mem_cons, inductionHypothesis unique.2, merged, merged,
        List.find?_cons_of_neg (by simpa using same), List.mem_cons]
      constructor
      · rintro (rfl | rfl | ⟨member, different⟩)
        · exact Or.inr ⟨Or.inl rfl, same⟩
        · exact Or.inl rfl
        · exact Or.inr ⟨Or.inr member, different⟩
      · rintro (rfl | ⟨rfl | member, different⟩)
        · exact Or.inr (Or.inl rfl)
        · exact Or.inl rfl
        · exact Or.inr (Or.inr ⟨member, different⟩)

/-- A column that merging leaves alone is unchanged, but for the entry of a new row. -/
theorem map_upsertRows {column : Row → Column} (keeps : ∀ old, column (merge old row) = column old)
    (rows : List Row) :
    (upsertRows key merge row rows).map column =
      if ∃ old ∈ rows, key old = key row then rows.map column
      else rows.map column ++ [column row] := by
  induction rows with
  | nil => simp [upsertRows]
  | cons old rest inductionHypothesis =>
    by_cases same : key old = key row
    · rw [upsertRows, if_pos same, if_pos ⟨old, List.mem_cons_self, same⟩, List.map_cons,
        List.map_cons, keeps]
    · rw [upsertRows, if_neg same, List.map_cons, inductionHypothesis]
      by_cases present : ∃ old ∈ rest, key old = key row
      · obtain ⟨found, member, equal⟩ := present
        rw [if_pos ⟨found, member, equal⟩, if_pos ⟨found, List.mem_cons_of_mem _ member, equal⟩]
        rfl
      · rw [if_neg present, if_neg]
        · rfl
        · rintro ⟨found, member, equal⟩
          rcases List.mem_cons.mp member with rfl | member
          · exact same equal
          · exact present ⟨found, member, equal⟩

/-- A unique column that merging leaves alone stays unique, when a new row brings a new
entry. -/
theorem nodup_upsertRows {column : Row → Column}
    (keeps : ∀ old, column (merge old row) = column old) (unique : (rows.map column).Nodup)
    (fresh : (∃ old ∈ rows, key old = key row) ∨ column row ∉ rows.map column) :
    ((upsertRows key merge row rows).map column).Nodup := by
  rw [map_upsertRows keeps]
  split
  · exact unique
  · rename_i absent
    exact List.Nodup.append unique (List.nodup_singleton _)
      (List.disjoint_singleton.mpr (fresh.resolve_left absent))

/-- The key itself stays unique. -/
theorem nodup_key_upsertRows (keeps : ∀ old, key (merge old row) = key old)
    (unique : (rows.map key).Nodup) : ((upsertRows key merge row rows).map key).Nodup := by
  refine nodup_upsertRows keeps unique ?_
  by_cases present : ∃ old ∈ rows, key old = key row
  · exact Or.inl present
  · refine Or.inr fun member => present ?_
    obtain ⟨old, inRows, equal⟩ := List.mem_map.mp member
    exact ⟨old, inRows, equal⟩

end Rows

/-! ### Finding a row by a unique column -/

section Find

variable {Row Column : Type} [DecidableEq Column] {column : Row → Column}

variable {rows : List Row} {entry : Column}

/-- In a unique column, a row is found by its own entry. -/
theorem find?_eq_some_of_mem (unique : (rows.map column).Nodup) {row : Row} (member : row ∈ rows)
    (named : column row = entry) :
    rows.find? (fun row' => decide (column row' = entry)) = some row := by
  induction rows with
  | nil => cases member
  | cons head rest inductionHypothesis =>
    rw [List.map_cons, List.nodup_cons] at unique
    rcases List.mem_cons.mp member with rfl | member
    · exact List.find?_cons_of_pos (by simpa using named)
    · have different : column head ≠ entry := fun equal =>
        unique.1 (List.mem_map.mpr ⟨row, member, named.trans equal.symm⟩)
      rw [List.find?_cons_of_neg (by simpa using different)]
      exact inductionHypothesis unique.2 member

/-- A row that is found is in the table, under the entry searched for. -/
theorem mem_of_find? {row : Row}
    (found : rows.find? (fun row' => decide (column row' = entry)) = some row) :
    row ∈ rows ∧ column row = entry :=
  ⟨List.mem_of_find?_eq_some found, by simpa using List.find?_some found⟩

/-- An entry that is not found belongs to no row. -/
theorem ne_of_find?_none (missing : rows.find? (fun row' => decide (column row' = entry)) = none) :
    ∀ row ∈ rows, column row ≠ entry := fun row member equal =>
  absurd (decide_eq_true equal) (List.find?_eq_none.mp missing row member)

/-- In a unique column two rows with one entry are one row. -/
theorem eq_of_mem (unique : (rows.map column).Nodup) {first second : Row} (inFirst : first ∈ rows)
    (inSecond : second ∈ rows) (same : column first = column second) : first = second :=
  Option.some.inj ((find?_eq_some_of_mem unique inFirst same).symm.trans
    (find?_eq_some_of_mem unique inSecond rfl))

end Find

/-! ### Finding a row after an upsert -/

section FindUpsert

variable {Row Key : Type} [DecidableEq Key] {key : Row → Key} {merge : Row → Row → Row}
  {row : Row}

/-- The row an upsert leaves has the key of the new row. -/
theorem key_merged (keeps : ∀ old, key (merge old row) = key old) (rows : List Row) :
    key (merged key merge row rows) = key row := by
  unfold merged
  split
  · rename_i old found
    exact (keeps old).trans (mem_of_find? found).2
  · rfl

/-- An upsert changes what is found under the key of the new row, and nothing else. -/
theorem find?_upsertRows (merge : Row → Row → Row) (row : Row)
    (keeps : ∀ old, key (merge old row) = key old) {rows : List Row}
    (unique : (rows.map key).Nodup) (entry : Key) :
    (upsertRows key merge row rows).find? (fun old => decide (key old = entry)) =
      if key row = entry then some (merged key merge row rows)
      else rows.find? fun old => decide (key old = entry) := by
  have uniqueToo := nodup_key_upsertRows keeps unique
  split
  · rename_i same
    exact find?_eq_some_of_mem uniqueToo ((mem_upsertRows unique _).mpr (Or.inl rfl))
      ((key_merged keeps rows).trans same)
  · rename_i different
    cases found : rows.find? fun old => decide (key old = entry) with
    | some old =>
      obtain ⟨member, named⟩ := mem_of_find? found
      have other : key old ≠ key row := fun same => different (same.symm.trans named)
      exact find?_eq_some_of_mem uniqueToo ((mem_upsertRows unique _).mpr
        (Or.inr ⟨member, other⟩)) named
    | none =>
      refine List.find?_eq_none.mpr fun old member => ?_
      rw [decide_eq_true_eq]
      rcases (mem_upsertRows unique old).mp member with rfl | ⟨inside, -⟩
      · rw [key_merged keeps]
        exact different
      · exact ne_of_find?_none found old inside

end FindUpsert

end Stored
