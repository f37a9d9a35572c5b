import Mathlib.Tactic.MkIffOfInductiveProp
import SchemaTypes.Catalog.Sqlite
import SchemaTypes.Proofs.Catalog.Groups
import SchemaTypes.Proofs.Catalog.Rows
import SchemaTypes.Proofs.Outcome

set_option autoImplicit false

/-! # The tables of a SQLite catalog

The rows that count, which are those of columns that are not hidden, describe one table for each
table name, in whatever order they come: `tableOfGroup` is the table of the rows of one name and
`columnOf` the column of one row, which depends on the size of the table's primary key. Filing one
row more is extending the groups (`addToGroup_groups`).
-/

namespace SchemaTypes.Sqlite

open Grouping

/-- The row is not that of a hidden column. -/
def isCounted (row : Row) : Bool := !(row.cell "hidden").isNumber hiddenColumn

/-- The row has the fields that are read of a column, with texts where they are needed. -/
@[mk_iff]
structure HasFields (row : Row) : Prop where
  tableName : row.HasText "table_name"
  tableType : row.Has "table_type"
  tableSql : row.HasTextOrNull "table_sql"
  columnName : row.HasText "column_name"
  columnType : row.HasTextOrNull "column_type"
  notNull : row.Has "not_null"
  columnDefault : row.Has "column_default"
  key : row.Has "pk"
  hidden : row.Has "hidden"

/-- The row has the fields that are read. Of a hidden column only one is. -/
def WellTyped (row : Row) : Prop := row.Has "hidden" ∧ (isCounted row = true → HasFields row)

instance (row : Row) : Decidable (HasFields row) := decidable_of_iff' _ (hasFields_iff row)

instance (row : Row) : Decidable (WellTyped row) := inferInstanceAs (Decidable (_ ∧ _))

/-- The column alone is the primary key of a table. -/
def isOnlyKey (keySize : Nat) (row : Row) : Bool :=
  row.cell "table_type" == .text "table" && (row.cell "pk").isNumber 1 && keySize == 1

/-- The column is declared `INTEGER`. -/
def isInteger (row : Row) : Bool := normalizedType (row.text "column_type") == "INTEGER".toList

/-- The table is declared to have no row numbers. -/
def lacksRowid (row : Row) : Bool :=
  Text.contains "without rowid".toList (Text.lower (row.text "table_sql").toList)

/-- The column is another name of the row number. -/
def rowidAlias (keySize : Nat) (row : Row) : Bool :=
  isOnlyKey keySize row && isInteger row && !lacksRowid row

/-- The column that a row describes, the primary key of the table having `keySize` columns. -/
def columnOf (keySize : Nat) (row : Row) : Column where
  name := row.text "column_name"
  columnType := row.text "column_type"
  dataType := affinity (row.text "column_type")
  isNullable := !(row.cell "not_null").isTruthy && !rowidAlias keySize row
  hasDefault := row.cell "column_default" != .null
  isAutoIncrementing := rowidAlias keySize row
  isVirtual := generatedColumns.any (row.cell "hidden").isNumber

/-- The size of the primary key of the table that rows describe. -/
def keySize (rows : List Row) : Nat := rows.countP fun row => (row.cell "pk").isTruthy

/-- The table that a group of rows describes. -/
def tableOfGroup (group : String × List Row) : Table where
  name := group.1
  schema := schemaName
  isView := (group.2.headD []).cell "table_type" == .text "view"
  columns := group.2.map (columnOf (keySize group.2))

variable {row : Row} {rows : List Row}

/-! ## The rows of one table -/

theorem HasFields.isRowidAlias_eq (h : HasFields row) (keySize : Nat) :
    isRowidAlias row keySize = .ok (rowidAlias keySize row) := by
  have hkey : (row.cell "table_type" != .text "table" || !(row.cell "pk").isNumber 1
      || keySize != 1) = !isOnlyKey keySize row := by
    simp [isOnlyKey, bne, Bool.not_and]
  have hinteger : isIntegerType (.text (row.text "column_type")) = .ok (isInteger row) := rfl
  rw [isRowidAlias, h.tableType.field, h.key.field, h.columnType.fieldOrEmpty,
    h.tableSql.fieldOrEmpty]
  simp only [ok_bind, hkey, hinteger, Cell.asText_text, rowidAlias]
  cases isOnlyKey keySize row <;> cases isInteger row <;> rfl

theorem HasFields.readColumn_eq (h : HasFields row) (keySize : Nat) :
    readColumn keySize row = .ok (columnOf keySize row) := by
  rw [readColumn, h.isRowidAlias_eq, h.columnType.fieldOrEmpty, h.columnName.field, h.notNull.field,
    h.columnDefault.isPresent, h.hidden.field]
  rfl

theorem readTable_eq (name : String) (h : ∀ row ∈ rows, HasFields row) :
    readTable name rows = .ok (tableOfGroup (name, rows)) := by
  have hkeys :
      rows.mapM (fun row => do return (← row.field "pk").isTruthy : Row → Except Failure Bool)
      = .ok (rows.map fun row => (row.cell "pk").isTruthy) := by
    refine mapM_eq_ok ?_
    intro row hrow
    rw [(h row hrow).key.field]
    rfl
  have htype : (rows.head?.map (·.field "table_type")).getD (.ok .null)
      = .ok ((rows.headD []).cell "table_type") := by
    cases rows with
    | nil => rfl
    | cons first _ => exact (h first (by simp)).tableType.field
  have hcolumns : rows.mapM (readColumn (keySize rows))
      = .ok (rows.map (columnOf (keySize rows))) :=
    mapM_eq_ok fun row hrow => (h row hrow).readColumn_eq _
  have hsize : (rows.map fun row => (row.cell "pk").isTruthy).count true = keySize rows := by
    rw [List.count, List.countP_map, keySize]
    refine List.countP_congr ?_
    simp
  rw [readTable, hkeys, ok_bind, htype, ok_bind, hsize, hcolumns]
  rfl

/-! ## All rows -/

/-- A group of rows under the key that the reader files it by. -/
def filed (group : String × List Row) : Cell × List Row := (.text group.1, group.2)

theorem addToGroup_of_not_mem {name : String} {gs : List (String × List Row)}
    (h : name ∉ gs.map Prod.fst) :
    addToGroup name row (gs.map filed) = gs.map filed ++ [(.text name, [row])] := by
  induction gs with
  | nil => rfl
  | cons group rest ih =>
    obtain ⟨k, values⟩ := group
    rw [List.map_cons, List.mem_cons, not_or] at h
    have hne : ¬ k = name := fun heq => h.1 heq.symm
    rw [List.map_cons, filed, addToGroup, Cell.same_text, if_neg (by simpa using hne), ih h.2,
      List.cons_append]

theorem addToGroup_of_mem {name : String} {gs : List (String × List Row)}
    (hnodup : (gs.map Prod.fst).Nodup) (h : name ∈ gs.map Prod.fst) :
    addToGroup name row (gs.map filed) = (gs.map (extend name row)).map filed := by
  induction gs with
  | nil => cases h
  | cons group rest ih =>
    obtain ⟨k, values⟩ := group
    rw [List.map_cons, List.nodup_cons] at hnodup
    rw [List.map_cons, List.map_cons, List.map_cons, extend, filed, addToGroup, Cell.same_text]
    by_cases hk : k = name
    · -- names are different, so that no group after this one is extended
      subst hk
      rw [if_pos (decide_eq_true rfl), if_pos rfl, map_extend_of_not_mem hnodup.1]
      rfl
    · have hrest : name ∈ rest.map Prod.fst :=
        (List.mem_cons.1 h).resolve_left fun heq => hk heq.symm
      rw [if_neg (by simpa using hk), if_neg hk, ih hnodup.2 hrest]
      rfl

/-- Filing one row more extends the groups of rows. -/
theorem addToGroup_groups :
    addToGroup row.tableName row ((groups Row.tableName rows).map filed)
      = (groups Row.tableName (rows ++ [row])).map filed := by
  by_cases hmem : row.tableName ∈ keys Row.tableName rows
  · rw [groups_concat_of_mem hmem]
    rw [← map_fst_groups] at hmem
    refine addToGroup_of_mem ?_ hmem
    rw [map_fst_groups]
    exact nodup_keys _ _
  · rw [groups_concat_of_not_mem hmem, List.map_append]
    rw [← map_fst_groups] at hmem
    exact addToGroup_of_not_mem hmem

theorem group_eq (rows : List Row) :
    group (rows.map fun row => (Cell.text row.tableName, row))
      = (groups Row.tableName rows).map filed := by
  induction rows using List.reverseRecOn with
  | nil => rfl
  | append_singleton rows row ih =>
    rw [group, List.map_append, List.foldl_append, ← group, ih]
    exact addToGroup_groups

theorem WellTyped.tableOf_eq (h : WellTyped row) :
    tableOf row = .ok (if isCounted row then some (.text row.tableName) else none) := by
  rw [tableOf, h.1.field, ok_bind]
  by_cases hcounted : isCounted row = true
  · have hname : row.field "table_name" = .ok (.text row.tableName) :=
      (h.2 hcounted).tableName.field
    rw [if_pos hcounted, if_neg (by simpa [isCounted] using hcounted), hname]
    rfl
  · rw [if_neg hcounted, if_pos (by simpa [isCounted] using hcounted)]
    rfl

theorem groupRows_eq (h : ∀ row ∈ rows, WellTyped row) :
    groupRows rows = .ok ((groups Row.tableName (rows.filter isCounted)).map filed) := by
  have hpairs : rows.mapM (fun row => do return (← tableOf row).map (·, row))
      = .ok (rows.map fun row => if isCounted row then some (Cell.text row.tableName, row)
        else none) := by
    refine mapM_eq_ok ?_
    intro row hrow
    rw [(h row hrow).tableOf_eq]
    cases isCounted row <;> rfl
  have hcounted : (rows.map fun row =>
      if isCounted row then some (Cell.text row.tableName, row) else none).reduceOption
      = (rows.filter isCounted).map fun row => (Cell.text row.tableName, row) := by
    show List.filterMap id (rows.map _) = _
    rw [List.filterMap_map, ← List.filterMap_eq_map, List.filterMap_filter]
    rfl
  rw [groupRows, hpairs, ok_bind, hcounted, group_eq]
  rfl

/-- Well-typed rows describe the tables of the groups of those that count. -/
theorem readTables_eq (h : ∀ row ∈ rows, WellTyped row) :
    readTables rows = .ok ((groups Row.tableName (rows.filter isCounted)).map tableOfGroup) := by
  rw [readTables, groupRows_eq h, ok_bind, List.mapM_map]
  refine mapM_eq_ok ?_
  intro group hgroup
  refine readTable_eq group.1 ?_
  intro row hrow
  obtain ⟨hmem, hcounted⟩ := List.mem_filter.1 (mem_of_mem_groups hgroup hrow).1
  exact (h row hmem).2 hcounted

/-- The tables in the catalog of a database whose query succeeds. -/
theorem outcome_tables {server : Server} (hrows : server.rows catalogQuery = .ok rows)
    (htyped : ∀ row ∈ rows, WellTyped row) :
    (tables (client server)).outcome
      = .ok ((groups Row.tableName (rows.filter isCounted)).map tableOfGroup) := by
  have hfetch : ((client server).fetch 0 catalogQuery excludedCells).outcome = .ok rows := by
    rw [outcome_fetch, hrows]
    rfl
  rw [tables, Session.outcome_bind, hfetch]
  exact readTables_eq htyped

end SchemaTypes.Sqlite
