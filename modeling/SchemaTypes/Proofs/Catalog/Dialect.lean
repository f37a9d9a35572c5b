import SchemaTypes.Generation
import SchemaTypes.Proofs.Catalog.Mysql
import SchemaTypes.Proofs.Catalog.Sqlite

set_option autoImplicit false

/-! # The tables of any catalog

What the rows of a catalog describe, for both dialects: which rows count, which are the rows of a
table and which column a row describes, given the members that the database says it has.
`outcome_collect` says that the tables with types are those of the groups of rows that count, each
with one column for every row.
-/

namespace SchemaTypes

open Grouping

namespace Dialect

/-- The row describes a column; those of hidden columns do not. -/
def isCounted : Dialect → Row → Bool
  | .mysql, _ => true
  | .sqlite, row => Sqlite.isCounted row

/-- The row has the fields that are read, with texts where they are needed. -/
def WellTyped : Dialect → Row → Prop
  | .mysql, row => Mysql.WellTyped row
  | .sqlite, row => Sqlite.WellTyped row

/-- The queries for members are answered with those of the entries, where there are such queries. -/
def AnswersMembers (server : Server) (entries : List Entry) : Dialect → Prop
  | .mysql => Mysql.AnswersMembers server entries
  | .sqlite => True

/-- The names of tables, each once, in the order in which the entries that count first mention
them. -/
def tableNames (dialect : Dialect) (entries : List Entry) : List String :=
  keys Entry.tableName (entries.filter (dialect.isCounted ·.row))

/-- The entries that count of the table with a name. -/
def entriesOf (dialect : Dialect) (entries : List Entry) (name : String) : List Entry :=
  ofKey Entry.tableName name (entries.filter (dialect.isCounted ·.row))

/-- The column that one of the entries of a table describes. -/
def columnOf : Dialect → List Entry → Entry → Column
  | .mysql, _, entry => Mysql.resolvedColumnOf entry
  | .sqlite, siblings, entry =>
    Sqlite.columnOf (Sqlite.keySize (siblings.map Entry.row)) entry.row

/-- The table that a group of entries describes. -/
def tableOfGroup : Dialect → String × List Entry → Table
  | .mysql, group => Mysql.resolvedTableOf group
  | .sqlite, group => Sqlite.tableOfGroup (group.1, group.2.map Entry.row)

/-- The comment on the column of a row. SQLite has none. -/
def columnComment : Dialect → Row → Option String
  | .mysql, row => row.nonempty? "column_comment"
  | .sqlite, _ => none

/-- The comment on the table that entries describe. SQLite has none. -/
def tableComment : Dialect → List Entry → Option String
  | .mysql, entries => entries.head?.bind (·.row.nonempty? "table_comment")
  | .sqlite, _ => none

section

variable {dialect : Dialect} {entries : List Entry}

theorem mem_tableNames_iff {name : String} :
    name ∈ dialect.tableNames entries ↔
      ∃ entry ∈ entries, dialect.isCounted entry.row = true ∧ entry.tableName = name := by
  rw [tableNames, mem_keys_iff]
  simp only [List.mem_filter, and_assoc]

theorem mem_entriesOf_iff {name : String} {entry : Entry} :
    entry ∈ dialect.entriesOf entries name ↔
      entry ∈ entries ∧ dialect.isCounted entry.row = true ∧ entry.tableName = name := by
  rw [entriesOf, ofKey, List.mem_filter, List.mem_filter, decide_eq_true_iff, and_assoc]

theorem name_tableOfGroup (group : String × List Entry) :
    (dialect.tableOfGroup group).name = .text group.1 := by
  cases dialect <;> rfl

theorem columns_tableOfGroup (group : String × List Entry) :
    (dialect.tableOfGroup group).columns = group.2.map (dialect.columnOf group.2) := by
  cases dialect with
  | mysql => rfl
  | sqlite => exact List.map_map

theorem name_columnOf (siblings : List Entry) (entry : Entry) :
    (dialect.columnOf siblings entry).name = .text (entry.row.text "column_name") := by
  cases dialect <;> rfl

theorem outcome_tables {server : Server}
    (hrows : server.rows dialect.catalogQuery = .ok (entries.map Entry.row))
    (htyped : ∀ entry ∈ entries, dialect.WellTyped entry.row)
    (hmembers : dialect.AnswersMembers server entries) :
    (dialect.tables (dialect.client server)).outcome
      = .ok ((groups Entry.tableName (entries.filter (dialect.isCounted ·.row))).map
        dialect.tableOfGroup) := by
  cases dialect with
  | mysql =>
    have hall : entries.filter (Dialect.mysql.isCounted ·.row) = entries :=
      List.filter_eq_self.2 fun _ _ => rfl
    rw [hall]
    exact Mysql.outcome_tables hrows htyped hmembers
  | sqlite =>
    have hcounted : (entries.map Entry.row).filter Sqlite.isCounted
        = (entries.filter (Sqlite.isCounted ·.row)).map Entry.row := List.filter_map
    have houtcome := Sqlite.outcome_tables hrows (List.forall_mem_map.2 htyped)
    rw [hcounted, groups_map, List.map_map] at houtcome
    exact houtcome

end

/-! ## Types -/

/-- The table that a group of entries describes, with the types of its columns. -/
def typedTableOf (dialect : Dialect) (type : Entry → TypeExpr) (group : String × List Entry) :
    TypedTable where
  name := group.1
  schema := (dialect.tableOfGroup group).schema
  comment := (dialect.tableOfGroup group).comment
  columns := group.2.map fun entry =>
    { name := entry.row.text "column_name"
      type := type entry
      comment := (dialect.columnOf group.2 entry).comment }

theorem mapTable_tableOfGroup {dialect : Dialect} {rules : ColumnRules} {type : Entry → TypeExpr}
    {group : String × List Entry}
    (htypes : ∀ entry ∈ group.2,
      rules.map (.text group.1) (dialect.columnOf group.2 entry) = .ok (type entry)) :
    rules.mapTable (dialect.tableOfGroup group) = .ok (dialect.typedTableOf type group) := by
  have hcolumns : (group.2.map (dialect.columnOf group.2)).mapM (fun column => do
      return ({ name := column.name, type := ← rules.map (.text group.1) column,
                comment := column.comment } : TypedColumn))
      = .ok (dialect.typedTableOf type group).columns := by
    rw [List.mapM_map]
    refine mapM_eq_ok ?_
    intro entry hentry
    rw [Function.comp, htypes entry hentry, name_columnOf]
    rfl
  rw [ColumnRules.mapTable, name_tableOfGroup, columns_tableOfGroup, hcolumns]
  rfl

end Dialect

/-- The tables that are collected for a catalog whose rows are well typed, whose enumerations have
members and whose columns have types. -/
theorem Generation.outcome_collect {dialect : Dialect} {config : GeneratorConfig} {server : Server}
    {entries : List Entry} {type : Entry → TypeExpr}
    (hrows : server.rows dialect.catalogQuery = .ok (entries.map Entry.row))
    (htyped : ∀ entry ∈ entries, dialect.WellTyped entry.row)
    (hmembers : dialect.AnswersMembers server entries)
    (htypes : ∀ entry ∈ entries, dialect.isCounted entry.row = true →
      (dialect.columnRules config).map entry.tableName
        (dialect.columnOf (dialect.entriesOf entries entry.tableName) entry) = .ok (type entry)) :
    (collect dialect config (dialect.client server)).outcome
      = .ok ((groups Entry.tableName (entries.filter (dialect.isCounted ·.row))).map
        (dialect.typedTableOf type)) := by
  rw [collect, Session.outcome_bind, Dialect.outcome_tables hrows htyped hmembers, ok_bind,
    Session.outcome_ofExcept, ColumnRules.mapTables, List.mapM_map]
  refine mapM_eq_ok ?_
  intro group hgroup
  obtain ⟨name, _, rfl⟩ := List.mem_map.1 hgroup
  refine Dialect.mapTable_tableOfGroup ?_
  intro entry hentry
  obtain ⟨hmem, hcounted, rfl⟩ := Dialect.mem_entriesOf_iff.1 hentry
  exact htypes entry hmem hcounted

end SchemaTypes
