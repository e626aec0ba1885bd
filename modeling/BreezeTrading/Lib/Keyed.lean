/-
This file defines tables that carry their primary key: a list of rows with a proof
that no two of them share it. An insert is refused when the key is taken, and an
update changes rows in place without touching their keys, so a key finds the same
row before and after either of them.
-/

import BreezeTrading.Lib.Table

namespace Stored

variable {Row Key : Type} [DecidableEq Key]

/-- A table with a primary key. -/
structure Keyed (key : Row → Key) where
  rows : List Row
  unique : (rows.map key).Nodup

namespace Keyed

variable {key : Row → Key}

def empty : Keyed key := ⟨[], List.nodup_nil⟩

/-- The row under a key. -/
def find (table : Keyed key) (entry : Key) : Option Row :=
  table.rows.find? fun row => decide (key row = entry)

/-- `INSERT`: a taken key violates the constraint. -/
def insert (table : Keyed key) (row : Row) : Option (Keyed key) :=
  if fresh : key row ∈ table.rows.map key then none
  else some
    ⟨table.rows ++ [row], by
      rw [List.map_append]
      exact table.unique.append (List.nodup_singleton _) (List.disjoint_singleton.mpr fresh)⟩

/-- `UPDATE ... SET ... WHERE ...`: the rows that match are changed. -/
def update (table : Keyed key) (matching : Row → Bool) (change : Row → Row)
    (keeps : ∀ row, key (change row) = key row) : Keyed key where
  rows := table.rows.map fun row => if matching row then change row else row
  unique := by
    have same : (table.rows.map fun row => if matching row then change row else row).map key =
        table.rows.map key := by
      rw [List.map_map]
      refine List.map_congr_left fun row _ => ?_
      show key (if matching row then change row else row) = key row
      split
      · exact keeps row
      · rfl
    rw [same]
    exact table.unique

/-- A row of the table is found under its key. -/
theorem find_of_mem {table : Keyed key} {row : Row} (member : row ∈ table.rows) :
    table.find (key row) = some row := find?_eq_some_of_mem table.unique member rfl

/-- A row that is found is in the table, under the key searched for. -/
theorem mem_of_find {table : Keyed key} {entry : Key} {row : Row}
    (found : table.find entry = some row) : row ∈ table.rows ∧ key row = entry :=
  mem_of_find? found

/-- An insert is refused exactly when its key is taken. -/
theorem insert_eq_none {table : Keyed key} {row : Row} :
    table.insert row = none ↔ key row ∈ table.rows.map key := by
  unfold insert
  split <;> simp_all

/-- An insert appends the row. -/
theorem rows_insert {table next : Keyed key} {row : Row} (inserted : table.insert row = some next) :
    next.rows = table.rows ++ [row] := by
  unfold insert at inserted
  split at inserted
  · cases inserted
  · exact congrArg rows (Option.some.inj inserted).symm

/-- What was found before an insert is found after it. -/
theorem find_insert {table next : Keyed key} {row : Row} (inserted : table.insert row = some next)
    {entry : Key} {old : Row} (found : table.find entry = some old) :
    next.find entry = some old := by
  unfold insert at inserted
  split at inserted
  · cases inserted
  · cases inserted
    show (table.rows ++ [row]).find? _ = some old
    rw [List.find?_append]
    show (table.find entry).or _ = some old
    rw [found]
    rfl

/-- After an update a key finds the row it found before, changed if it matched. -/
@[simp] theorem find_update (table : Keyed key) (matching : Row → Bool) (change : Row → Row)
    (keeps : ∀ row, key (change row) = key row) (entry : Key) :
    (table.update matching change keeps).find entry =
      (table.find entry).map fun row => if matching row then change row else row := by
  show (table.rows.map fun row => if matching row then change row else row).find? _ = _
  rw [List.find?_map]
  refine congrArg (Option.map _) (congrArg (fun named => table.rows.find? named) (funext fun row => ?_))
  show decide (key (if matching row then change row else row) = entry) = _
  split
  · rw [keeps row]
  · rfl

end Keyed

end Stored
