import Mathlib.Tactic.MkIffOfInductiveProp
import SchemaTypes.Proofs.Catalog.Enumerations
import SchemaTypes.Proofs.Catalog.Groups
import SchemaTypes.Proofs.Catalog.Rows
import SchemaTypes.Proofs.Connection.Turns

set_option autoImplicit false

/-! # The tables of a MySQL catalog

Rows of well-typed fields describe one table for each table name, in whatever order the rows of
different tables come: `tableOfGroup` is the table of the rows of one name and `columnOf` the column
of one row. One row more changes the tables as it changes the groups of rows (`addRow_groups`),
hence reading all of them yields the tables of their groups. The members of enumerations are
assigned afterwards, by position (`assignMembers_openTableOf`).
-/

namespace SchemaTypes.Mysql

open Grouping

/-- The row has the fields that are read, with texts where they are needed. -/
@[mk_iff]
structure WellTyped (row : Row) : Prop where
  tableName : row.HasText "table_name"
  schema : row.Has "table_schema"
  tableType : row.Has "table_type"
  tableComment : row.HasTextOrNull "table_comment"
  columnName : row.HasText "column_name"
  columnType : row.HasText "column_type"
  dataType : row.HasText "data_type"
  isNullable : row.Has "is_nullable"
  columnDefault : row.Has "column_default"
  extra : row.HasTextOrNull "extra"
  columnComment : row.HasTextOrNull "column_comment"

instance (row : Row) : Decidable (WellTyped row) := decidable_of_iff' _ (wellTyped_iff row)

/-- A text in lower case. -/
def lowerText (s : String) : String := String.ofList (Text.lower s.toList)

/-- The column that a row describes, its members left open. -/
def columnOf (row : Row) : Column where
  name := row.text "column_name"
  columnType := row.text "column_type"
  dataType := lowerText (row.text "data_type")
  isNullable := row.cell "is_nullable" == .text "YES"
  hasDefault := row.cell "column_default" != .null
  isAutoIncrementing := mentions (lowerText (row.text "extra")) "auto_increment"
  isVirtual := mentions (lowerText (row.text "extra")) "virtual generated"
    || mentions (lowerText (row.text "extra")) "stored generated"
  comment := (row.cell "column_comment").orNull

/-- The table that a group of rows describes. What is said of the table itself, the first row
says. -/
def tableOfGroup (group : String × List Row) : Table where
  name := group.1
  schema := (group.2.headD []).cell "table_schema"
  comment := ((group.2.headD []).cell "table_comment").orNull
  isView := (group.2.headD []).cell "table_type" != .text "BASE TABLE"
  columns := group.2.map columnOf

variable {row : Row} {rows : List Row}

/-! ## One row -/

theorem WellTyped.readColumn_eq (h : WellTyped row) : readColumn row = .ok (columnOf row) := by
  rw [readColumn, h.extra.fieldOrEmpty, h.columnName.field, h.columnType.field, h.dataType.field,
    h.isNullable.field, h.columnDefault.isPresent, h.columnComment.has.field]
  rfl

/-- A table gets its first row. -/
theorem WellTyped.readTable_eq (h : WellTyped row) (name : String) :
    readTable name row = .ok { tableOfGroup (name, [row]) with columns := [] } := by
  rw [readTable, h.schema.field, h.tableComment.has.field, h.tableType.field]
  rfl

/-- One more column is one more row in the group, unless the group had none. -/
theorem addColumn_tableOfGroup {name : String} {group : String × List Row} (h : group.2 ≠ []) :
    addColumn name (columnOf row) (tableOfGroup group) = tableOfGroup (extend name row group) := by
  obtain ⟨k, _ | ⟨first, rest⟩⟩ := group
  · exact absurd rfl h
  · have hsame : (tableOfGroup (k, first :: rest)).name.same name = decide (k = name) :=
      Cell.same_text k name
    rw [addColumn, extend, hsame]
    by_cases hk : k = name
    · rw [if_pos (decide_eq_true hk), if_pos hk]
      simp [tableOfGroup]
    · rw [if_neg (by simpa using hk), if_neg hk]

/-- The column of the first row of a table. -/
theorem addColumn_first (name : String) (row : Row) :
    addColumn name (columnOf row) { tableOfGroup (name, [row]) with columns := [] }
      = tableOfGroup (name, [row]) := by
  have hsame : (Cell.text name).same (.text name) = true := by
    rw [Cell.same_text]
    exact decide_eq_true rfl
  exact if_pos hsame

/-- The table of a row is there already if a row before has its name. -/
theorem any_same_tableOfGroup {name : String} :
    ((groups Row.tableName rows).map tableOfGroup).any (·.name.same name)
      = decide (name ∈ keys Row.tableName rows) := by
  rw [Bool.eq_iff_iff, List.any_map, List.any_eq_true, decide_eq_true_iff,
    ← map_fst_groups, List.mem_map]
  simp [tableOfGroup, Cell.same_text]

/-! ## All rows -/

/-- Reading one row more changes the tables as it changes the groups of rows. -/
theorem addRow_groups (h : WellTyped row) :
    addRow ((groups Row.tableName rows).map tableOfGroup) row
      = .ok ((groups Row.tableName (rows ++ [row])).map tableOfGroup) := by
  have hname : row.field "table_name" = .ok (.text row.tableName) := h.tableName.field
  have hcolumns : ((groups Row.tableName rows).map tableOfGroup).map
      (addColumn row.tableName (columnOf row))
      = ((groups Row.tableName rows).map (extend row.tableName row)).map tableOfGroup := by
    rw [List.map_map, List.map_map]
    refine List.map_congr_left ?_
    intro group hgroup
    exact addColumn_tableOfGroup (ne_nil_of_mem_groups hgroup)
  rw [addRow, hname, ok_bind, addTable, any_same_tableOfGroup, h.readColumn_eq]
  -- the table of the row is there already, or it is put at the end before it gets the column
  by_cases hmem : row.tableName ∈ keys Row.tableName rows
  · rw [if_pos (decide_eq_true hmem), groups_concat_of_mem hmem, ← hcolumns]
    rfl
  · rw [if_neg (by simpa using hmem), h.readTable_eq, groups_concat_of_not_mem hmem]
    show Except.ok (List.map _ (_ ++ [_])) = _
    rw [← map_fst_groups] at hmem
    rw [List.map_append, hcolumns, map_extend_of_not_mem hmem, List.map_append,
      List.map_singleton, addColumn_first, List.map_singleton]

/-- Well-typed rows describe the tables of their groups. -/
theorem readTables_eq (h : ∀ row ∈ rows, WellTyped row) :
    readTables rows = .ok ((groups Row.tableName rows).map tableOfGroup) := by
  -- the reader goes from left to right, so the last row is its last step
  induction rows using List.reverseRecOn with
  | nil => rfl
  | append_singleton rows row ih =>
    have hrows : readTables rows = .ok ((groups Row.tableName rows).map tableOfGroup) :=
      ih fun r hr => h r (List.mem_append_left _ hr)
    have hrow : WellTyped row := h row (by simp)
    rw [readTables, List.foldlM_append, ← readTables, hrows, ok_bind, List.foldlM_cons,
      addRow_groups hrow]
    rfl

/-! ## Members of enumerations -/

/-- The row is that of an enumeration. -/
def OfEnumeration (row : Row) : Prop := lowerText (row.text "data_type") ∈ ["enum", "set"]

instance : DecidablePred OfEnumeration := fun _ => inferInstanceAs (Decidable (_ ∈ _))

theorem isEnumeration_columnOf_iff :
    isEnumeration (columnOf row).dataType = true ↔ OfEnumeration row := by
  simp [isEnumeration, columnOf, OfEnumeration]

/-- The enumerations among the columns of entries. -/
theorem filter_isEnumeration (entries : List Entry) :
    (entries.map (columnOf ·.row)).filter (fun column => isEnumeration column.dataType)
      = (entries.filter (OfEnumeration ·.row)).map (columnOf ·.row) := by
  rw [List.filter_map]
  refine congrArg _ (List.filter_congr fun entry _ => ?_)
  rw [Bool.eq_iff_iff, decide_eq_true_iff, ← isEnumeration_columnOf_iff]
  rfl

/-- The column that an entry describes, with its members if it is an enumeration. -/
def resolvedColumnOf (entry : Entry) : Column :=
  { columnOf entry.row with
    members := if OfEnumeration entry.row then some entry.members else none }

/-- The table that a group of entries describes, its members left open. -/
def openTableOf (group : String × List Entry) : Table :=
  tableOfGroup (group.1, group.2.map Entry.row)

/-- The table that a group of entries describes. -/
def resolvedTableOf (group : String × List Entry) : Table :=
  { openTableOf group with columns := group.2.map resolvedColumnOf }

/-- The entries of enumerations, table by table in the order of the columns. -/
def enumerationEntries (entries : List Entry) : List Entry :=
  ((groups Entry.tableName entries).flatMap Prod.snd).filter (OfEnumeration ·.row)

variable {server : Server} {entries : List Entry}

theorem resolvedColumnOf_of_enumeration {entry : Entry} (h : OfEnumeration entry.row) :
    resolvedColumnOf entry = { columnOf entry.row with members := some entry.members } := by
  rw [resolvedColumnOf, if_pos h]

theorem resolvedColumnOf_of_not_enumeration {entry : Entry} (h : ¬ OfEnumeration entry.row) :
    resolvedColumnOf entry = columnOf entry.row := by
  have hopen : (columnOf entry.row).members = none := rfl
  rw [resolvedColumnOf, if_neg h, ← hopen]

/-- The answers for the enumerations among some columns make up their members. -/
theorem assignColumns_columnOf (entries : List Entry) :
    assignColumns (entries.map (columnOf ·.row))
        ((entries.filter (OfEnumeration ·.row)).map Entry.members)
      = entries.map resolvedColumnOf := by
  induction entries with
  | nil =>
    show assignColumns [] [] = []
    rfl
  | cons entry entries ih =>
    rw [List.map_cons, List.map_cons, List.filter_cons]
    by_cases h : OfEnumeration entry.row
    · rw [if_pos (decide_eq_true h), List.map_cons, resolvedColumnOf_of_enumeration h,
        assignColumns_cons_of_enumeration (isEnumeration_columnOf_iff.2 h), ih]
    · rw [if_neg (by simpa using h), resolvedColumnOf_of_not_enumeration h,
        assignColumns_cons_of_not_enumeration (mt isEnumeration_columnOf_iff.1 h), ih]

/-- A table has as many enumerations as entries of enumerations. -/
theorem length_enumerationsOf_openTableOf (group : String × List Entry) :
    (enumerationsOf 0 (openTableOf group).columns).length
      = (group.2.filter (OfEnumeration ·.row)).length := by
  have hcolumns : (openTableOf group).columns = group.2.map (columnOf ·.row) := List.map_map
  have htypes := congrArg List.length (columnType_enumerationsOf 0 (openTableOf group).columns)
  rwa [List.length_map, List.length_map, hcolumns, filter_isEnumeration, List.length_map,
    ← hcolumns] at htypes

/-- The answers for all enumerations make up the members of the columns for which they were
asked. -/
theorem assignMembers_openTableOf (gs : List (String × List Entry)) :
    assignMembers (gs.map openTableOf)
        (((gs.flatMap Prod.snd).filter (OfEnumeration ·.row)).map Entry.members)
      = gs.map resolvedTableOf := by
  induction gs with
  | nil =>
    show assignMembers [] [] = []
    rfl
  | cons group gs ih =>
    have hcolumns : (openTableOf group).columns = group.2.map (columnOf ·.row) := List.map_map
    rw [List.map_cons, List.map_cons, List.flatMap_cons, List.filter_append, List.map_append,
      assignMembers_cons (by rw [length_enumerationsOf_openTableOf, List.length_map]), ih, hcolumns,
      assignColumns_columnOf]
    rfl

/-- Well-typed rows describe the tables of the groups of their entries, the members left open. -/
theorem readTables_entries (h : ∀ entry ∈ entries, WellTyped entry.row) :
    readTables (entries.map Entry.row)
      = .ok ((groups Entry.tableName entries).map openTableOf) := by
  rw [readTables_eq (List.forall_mem_map.2 h), groups_map, List.map_map]
  rfl

/-- The queries for the members of the tables of a catalog, numbered in the order of their
entries. -/
theorem memberQueries_entries (client : Client) (entries : List Entry) :
    memberQueries client ((groups Entry.tableName entries).map openTableOf)
      = ((enumerationEntries entries).zipIdx 1).map
        fun numbered => members client numbered.2 (columnOf numbered.1.row).columnType := by
  have hcolumns : ((groups Entry.tableName entries).map openTableOf).flatMap Table.columns
      = ((groups Entry.tableName entries).flatMap Prod.snd).map (columnOf ·.row) := by
    rw [List.flatMap_map, List.map_flatMap]
    exact List.flatMap_congr fun group _ => List.map_map
  rw [memberQueries_eq, hcolumns, filter_isEnumeration, List.zipIdx_map, List.map_map]
  rfl

/-- The query for the members of each enumeration, which has the number of its entry, is answered
with the members of that entry. -/
def AnswersMembers (server : Server) (entries : List Entry) : Prop :=
  ∀ numbered ∈ (enumerationEntries entries).zipIdx 1,
    (members (client server) numbered.2 (columnOf numbered.1.row).columnType).outcome
      = .ok numbered.1.members

/-- The outcomes of queries that are all answered. -/
theorem AnswersMembers.outcome_memberQueries (h : AnswersMembers server entries) :
    (memberQueries (client server) ((groups Entry.tableName entries).map openTableOf)).map
        Session.outcome
      = ((enumerationEntries entries).map Entry.members).map .ok := by
  rw [memberQueries_entries, ← map_zipIdx_fst Entry.members _ 1, List.map_map, List.map_map]
  exact List.map_congr_left h

/-- The tables in the catalog of a database whose queries all succeed. -/
theorem outcome_tables (hrows : server.rows catalogQuery = .ok (entries.map Entry.row))
    (htyped : ∀ entry ∈ entries, WellTyped entry.row) (hmembers : AnswersMembers server entries) :
    (tables (client server)).outcome
      = .ok ((groups Entry.tableName entries).map resolvedTableOf) := by
  have hfetch : ((client server).fetch 0 catalogQuery excludedCells).outcome
      = .ok (entries.map Entry.row) := by
    rw [outcome_fetch, hrows]
    rfl
  have hgather := Session.outcome_gather (client server).turns hmembers.outcome_memberQueries
  rw [tables, Session.outcome_bind, hfetch, ok_bind, Session.outcome_bind, Session.outcome_ofExcept,
    readTables_entries htyped, ok_bind, resolveMembers, Session.outcome_bind, hgather, ok_bind,
    Session.outcome_pure]
  exact congrArg Except.ok (assignMembers_openTableOf _)

end SchemaTypes.Mysql
