import SchemaTypes.Proofs.Catalog.Dialect
import SchemaTypes.Proofs.Mapping.Mysql
import SchemaTypes.Proofs.Mapping.Sqlite

set_option autoImplicit false

/-! # Which columns of a catalog have types

The columns that the rows of a catalog describe have a type or lack one for a reason that their
dialect gives: those of SQLite have one whatever is declared, those of MySQL lack one if there is
neither a cast nor a data type that is known (`mapTables_eq_error`, `exists_mapTables_eq_ok`).
-/

namespace SchemaTypes.Dialect

/-- Neither a cast nor a rule gives the column a type. That does not happen to columns of SQLite. -/
def LacksType (config : GeneratorConfig) : Dialect → Column → Prop
  | .mysql, column => Mysql.LacksType config.mysql column
  | .sqlite, _ => False

instance (config : GeneratorConfig) (dialect : Dialect) :
    DecidablePred (dialect.LacksType config) :=
  match dialect with
  | .mysql => inferInstanceAs (DecidablePred (Mysql.LacksType config.mysql))
  | .sqlite => fun _ => isFalse id

/-- The first column without a type, table by table, with its table. -/
def firstUntyped? (dialect : Dialect) (config : GeneratorConfig) (tables : List Table) :
    Option (Table × Column) :=
  (columnsOf tables).find? fun entry => decide (dialect.LacksType config entry.2)

variable {dialect : Dialect} {config : GeneratorConfig}

theorem firstUntyped?_eq_none_iff {tables : List Table} :
    dialect.firstUntyped? config tables = none ↔
      ∀ table ∈ tables, ∀ column ∈ table.columns, ¬ dialect.LacksType config column := by
  rw [firstUntyped?, List.find?_eq_none]
  simp only [decide_eq_true_eq, Prod.forall, mem_columnsOf_iff]
  exact ⟨fun h table htable column hcolumn => h table column ⟨htable, hcolumn⟩,
    fun h table column hmem => h table hmem.1 column hmem.2⟩

theorem map_eq_error {table : Cell} {column : Column} (h : dialect.LacksType config column) :
    (dialect.columnRules config).map table column
      = .error (.generator (.unknownDataType column.dataType table column.name)) := by
  cases dialect with
  | mysql =>
    show (Mysql.select config.mysql table column).map _ = _
    rw [Mysql.select_eq_error h]
    rfl
  | sqlite => exact h.elim

/-- The column that an entry describes has a type unless it lacks one. -/
theorem exists_map_columnOf_eq_ok {table : Cell} {siblings : List Entry} {entry : Entry}
    (h : ¬ dialect.LacksType config (dialect.columnOf siblings entry)) :
    ∃ type, (dialect.columnRules config).map table (dialect.columnOf siblings entry)
      = .ok type := by
  refine ColumnRules.exists_map_eq_ok ?_
  cases dialect with
  | mysql => exact Mysql.exists_select_eq_ok ⟨entry.row.text "column_type", rfl⟩ h
  | sqlite =>
    have haffinity := Sqlite.affinity_mem_affinities (entry.row.text "column_type")
    exact Sqlite.exists_select_eq_ok_of_affinity rfl haffinity

/-- The tables that groups of entries describe. -/
def tablesOfGroups (dialect : Dialect) (groups : List (String × List Entry)) : List Table :=
  groups.map dialect.tableOfGroup

variable {groups : List (String × List Entry)}

theorem exists_map_eq_ok_of_mem {table : Table} {column : Column}
    (htable : table ∈ dialect.tablesOfGroups groups) (hcolumn : column ∈ table.columns)
    (h : ¬ dialect.LacksType config column) :
    ∃ type, (dialect.columnRules config).map table.name column = .ok type := by
  obtain ⟨group, _, rfl⟩ := List.mem_map.1 htable
  rw [columns_tableOfGroup] at hcolumn
  obtain ⟨entry, _, rfl⟩ := List.mem_map.1 hcolumn
  exact exists_map_columnOf_eq_ok h

/-- Without a type for one of the columns there are no types for any; the first one is reported. -/
theorem mapTables_eq_error {table : Table} {column : Column}
    (h : dialect.firstUntyped? config (dialect.tablesOfGroups groups) = some (table, column)) :
    (dialect.columnRules config).mapTables (dialect.tablesOfGroups groups)
      = .error (.generator (.unknownDataType column.dataType table.name column.name)) := by
  have hlacks : dialect.LacksType config column := by
    have hfound := List.find?_some h
    rwa [decide_eq_true_eq] at hfound
  refine ColumnRules.mapTables_eq_error (fun column => decide (dialect.LacksType config column)) h
    (map_eq_error hlacks) ?_
  intro table htable column hcolumn hnot
  refine exists_map_eq_ok_of_mem htable hcolumn ?_
  rwa [decide_eq_true_eq] at hnot

/-- If no column lacks a type, all tables get types for their columns, and their names are texts. -/
theorem exists_mapTables_eq_ok
    (h : dialect.firstUntyped? config (dialect.tablesOfGroups groups) = none) :
    ∃ typed, (dialect.columnRules config).mapTables (dialect.tablesOfGroups groups) = .ok typed ∧
      ∀ table ∈ typed, ∃ name, table.name = .text name := by
  rw [firstUntyped?_eq_none_iff] at h
  obtain ⟨typed, htyped, hnames⟩ :=
    ColumnRules.exists_mapTables_eq_ok fun table htable column hcolumn =>
    exists_map_eq_ok_of_mem htable hcolumn (h table htable column hcolumn)
  refine ⟨typed, htyped, ?_⟩
  intro t ht
  obtain ⟨table, htable, hname⟩ := hnames t ht
  obtain ⟨group, _, rfl⟩ := List.mem_map.1 htable
  exact ⟨group.1, by rw [hname, name_tableOfGroup]⟩

end SchemaTypes.Dialect
