import SchemaTypes.Proofs.Catalog.Sqlite
import SchemaTypes.Proofs.Mapping.Sqlite

set_option autoImplicit false

/-! # Row numbers of SQLite tables

A column is another name of the row number only if it is the one column in the primary key of its
table. The size of the key is counted over the rows of the table, and the column's own row is one of
those that count (`key_of_rowidAlias`), so no other row of the table is (`isTruthy_key_iff`).

The main statement is `rowid_of_tables`: whatever rows a catalog answers with, a table has at most
one column that counts by itself; that column is never null and is an integer, and the key of the
table is that column alone.
-/

namespace SchemaTypes

/-- Only zero is the same number as zero. -/
theorem Numeral.ne_zero_of_sameDyadic {a p b q : Int} (ha : a ≠ 0)
    (h : sameDyadic a p b q = true) : b ≠ 0 := by
  rintro rfl
  rw [sameDyadic, beq_iff_eq, Int.zero_mul, Int.mul_eq_zero] at h
  rcases h with h | h
  · exact ha h
  · have hpos : 0 < Nat.pow 2 (p - min p q).toNat := Nat.pow_pos (by decide)
    omega

/-- A number other than zero counts as true. -/
theorem Cell.isTruthy_of_isNumber {n : Int} (hn : n ≠ 0) {cell : Cell}
    (h : cell.isNumber n = true) :
    cell.isTruthy = true := by
  cases cell with
  | bool value =>
    have hne : (if value then 1 else 0 : Int) ≠ 0 := Numeral.ne_zero_of_sameDyadic hn h
    simpa [isTruthy] using hne
  | integer value =>
    have hne : value ≠ 0 := Numeral.ne_zero_of_sameDyadic hn h
    simpa [isTruthy] using hne
  | real value =>
    cases value with
    | finite negative significand exponent =>
      have hne : (if negative then -significand else significand : Int) ≠ 0 :=
        Numeral.ne_zero_of_sameDyadic hn h
      have hsignificand : significand ≠ 0 := by
        rintro rfl
        simp at hne
      simpa [isTruthy] using hsignificand
    | _ => rfl
  | _ => cases h

/-- In a list in which at most one value counts, the values that do stand at one position. -/
theorem eq_of_countP_le_one {α : Type} {p : α → Bool} {l : List α} (h : l.countP p ≤ 1)
    {i j : Nat} {a b : α} (hi : l[i]? = some a) (ha : p a = true) (hj : l[j]? = some b)
    (hb : p b = true) : i = j := by
  induction l generalizing i j with
  | nil => simp at hi
  | cons c rest ih =>
    -- a later value that counts leaves no room for the first one
    have hrest : ∀ {k : Nat} {d : α}, rest[k]? = some d → p d = true → p c = false := by
      intro k d hk hd
      have hpos : 0 < rest.countP p := List.countP_pos_iff.2 ⟨d, List.mem_of_getElem? hk, hd⟩
      rw [List.countP_cons] at h
      by_contra hc
      rw [if_pos (Bool.not_eq_false _ ▸ hc)] at h
      omega
    cases i with
    | zero =>
      cases j with
      | zero => rfl
      | succ j =>
        cases hi
        rw [hrest hj hb] at ha
        cases ha
    | succ i =>
      cases j with
      | zero =>
        cases hj
        rw [hrest hi ha] at hb
        cases hb
      | succ j =>
        have hcount : rest.countP p ≤ (c :: rest).countP p :=
          (List.sublist_cons_self c rest).countP_le
        rw [ih (Nat.le_trans hcount h) hi hj]

namespace Sqlite

open Grouping

variable {row : Row} {rows : List Row}

/-- The declared type that a row number needs has the affinity of integers. -/
theorem affinity_of_isInteger (h : isInteger row = true) :
    affinity (row.text "column_type") = "INTEGER" := by
  rw [isInteger, beq_iff_eq] at h
  simp only [affinity, h]
  decide

/-! ## The rows of one table -/

/-- The row of a row number counts for the key of its table, and the key has no other column. -/
theorem key_of_rowidAlias {size : Nat} (h : rowidAlias size row = true) :
    (row.cell "pk").isTruthy = true ∧ size = 1 := by
  rw [rowidAlias, isOnlyKey] at h
  simp only [Bool.and_eq_true, beq_iff_eq] at h
  obtain ⟨⟨⟨⟨_, hkey⟩, hsize⟩, _⟩, _⟩ := h
  exact ⟨Cell.isTruthy_of_isNumber (by decide) hkey, hsize⟩

theorem isInteger_of_rowidAlias {size : Nat} (h : rowidAlias size row = true) :
    isInteger row = true := by
  rw [rowidAlias, Bool.and_eq_true, Bool.and_eq_true] at h
  exact h.1.2

/-- At most one column counts by itself. -/
theorem countP_isAutoIncrementing_le_one :
    (rows.map (columnOf (keySize rows))).countP (·.isAutoIncrementing) ≤ 1 := by
  rw [List.countP_map]
  -- with one column in the key that is the most there can be, otherwise there is none at all
  by_cases hsize : keySize rows = 1
  · calc rows.countP (rowidAlias (keySize rows))
        ≤ rows.countP fun row => (row.cell "pk").isTruthy :=
          List.countP_mono_left fun row _ h => (key_of_rowidAlias h).1
      _ ≤ 1 := Nat.le_of_eq hsize
  · have hzero : rows.countP (rowidAlias (keySize rows)) = 0 :=
      List.countP_eq_zero.2 fun row _ h => hsize (key_of_rowidAlias h).2
    exact Nat.le_trans (Nat.le_of_eq hzero) (Nat.zero_le 1)

/-- The row of a column that counts by itself is the only one in the key. -/
theorem isTruthy_key_iff {i j : Nat} {other : Row} (hrow : rows[i]? = some row)
    (h : rowidAlias (keySize rows) row = true) (hother : rows[j]? = some other) :
    (other.cell "pk").isTruthy = true ↔ j = i := by
  obtain ⟨hkey, hsize⟩ := key_of_rowidAlias h
  constructor
  · intro hotherKey
    exact eq_of_countP_le_one (Nat.le_of_eq hsize) hother hotherKey hrow hkey
  · rintro rfl
    cases hrow.symm.trans hother
    exact hkey

/-- In every table that a catalog describes at most one column counts by itself. Such a column
admits no null, has the affinity of integers, and its row is the one row of the table's columns that
is part of the key. The affinity of every column is one that has a type. -/
theorem rowid_of_tables {server : Server} (hrows : server.rows catalogQuery = .ok rows)
    (htyped : ∀ row ∈ rows, WellTyped row) :
    ∃ result, (tables (client server)).outcome = .ok result ∧
      ∀ table ∈ result, ∃ name, table.name = .text name ∧
        let own := ofKey Row.tableName name (rows.filter isCounted)
        table.columns.map (·.name) = own.map (fun row => .text (row.text "column_name")) ∧
        table.columns.countP (·.isAutoIncrementing) ≤ 1 ∧
        ∀ (i : Nat) (column : Column), table.columns[i]? = some column →
          (∀ config, ∃ type, baseType? config column.dataType = some type) ∧
          (column.isAutoIncrementing = true →
            column.isNullable = false ∧ column.dataType = .text "INTEGER" ∧
            ∀ (j : Nat) (row : Row), own[j]? = some row →
              ((row.cell "pk").isTruthy = true ↔ j = i)) := by
  refine ⟨_, outcome_tables hrows htyped, ?_⟩
  intro table htable
  obtain ⟨group, hgroup, rfl⟩ := List.mem_map.1 htable
  obtain ⟨name, _, rfl⟩ := List.mem_map.1 hgroup
  refine ⟨name, rfl, ?_, ?_, ?_⟩
  · rw [tableOfGroup, List.map_map]
    rfl
  · exact countP_isAutoIncrementing_le_one
  · intro i column hcolumn
    obtain ⟨row, hrow, rfl⟩ : ∃ row,
        (ofKey Row.tableName name (rows.filter isCounted))[i]? = some row ∧
        columnOf (keySize (ofKey Row.tableName name (rows.filter isCounted))) row = column := by
      simpa [tableOfGroup] using hcolumn
    refine ⟨?_, ?_⟩
    · intro config
      exact Option.ne_none_iff_exists'.1 (baseType?_ne_none (affinity_mem_affinities _))
    · intro h
      have halias :
          rowidAlias (keySize (ofKey Row.tableName name (rows.filter isCounted))) row = true := h
      refine ⟨?_, ?_, fun j other => isTruthy_key_iff hrow halias⟩
      · rw [columnOf, halias, Bool.not_true, Bool.and_false]
      · exact congrArg Cell.text (affinity_of_isInteger (isInteger_of_rowidAlias halias))

/-- A row of a catalog for a column that is declared to admit null. -/
def nullableColumn (table column columnType : String) (key : Cell) (hidden : Int) : Row :=
  [("table_name", table), ("table_type", "table"), ("table_sql", .null), ("column_name", column),
   ("column_type", columnType), ("not_null", .integer 0), ("column_default", .null), ("pk", key),
   ("hidden", .integer hidden)]

/-- Rows of `users`, among them one of a hidden key column, and rows of `members`, whose key has two
columns of the same number. -/
def keyRows : List Row :=
  [nullableColumn "users" "id" " integer" (.integer 1) 0,
   nullableColumn "members" "user" "INTEGER" (.integer 1) 0,
   nullableColumn "users" "rank" "INTEGER" (.integer 2) 1,
   nullableColumn "users" "age" "BIGINT" (.integer 0) 0,
   nullableColumn "members" "group" "INTEGER" (.bool true) 0]

/-- A database with the rows above. -/
def keyServer : Server := .answering keyRows

theorem rowid_of_tables_keys :
    (keyServer.rows catalogQuery = .ok keyRows ∧ ∀ row ∈ keyRows, WellTyped row) ∧
    (tables (client keyServer)).outcome.map
        (fun result => result.map fun table => table.columns.map (·.isAutoIncrementing))
      = .ok [[true, false], [false, false]] ∧
    ∃ result, (tables (client keyServer)).outcome = .ok result ∧
      ∀ table ∈ result, table.columns.countP (·.isAutoIncrementing) ≤ 1 ∧
        ∀ (i : Nat) (column : Column), table.columns[i]? = some column →
          column.isAutoIncrementing = true →
          column.isNullable = false ∧ column.dataType = .text "INTEGER" := by
  have htyped : ∀ row ∈ keyRows, WellTyped row := by
    decide +kernel
  have hrows : keyServer.rows catalogQuery = .ok keyRows := rfl
  refine ⟨⟨hrows, htyped⟩, by decide +kernel, ?_⟩
  obtain ⟨result, houtcome, htables⟩ := rowid_of_tables hrows htyped
  refine ⟨result, houtcome, fun table htable => ?_⟩
  obtain ⟨_, _, _, hcount, hcolumns⟩ := htables table htable
  refine ⟨hcount, fun i column hcolumn hincrements => ?_⟩
  obtain ⟨hnull, htype, _⟩ := (hcolumns i column hcolumn).2 hincrements
  exact ⟨hnull, htype⟩

end Sqlite

end SchemaTypes
