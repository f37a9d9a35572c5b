import SchemaTypes.Dialect
import SchemaTypes.Proofs.Outcome

set_option autoImplicit false

/-! # Tables whose columns have types

The look-ups of a column fail together or not at all, and tables get their types together or not at
all: the first column without a type, table by table, is the one that is reported
(`mapTables_eq_error`).
-/

namespace SchemaTypes

namespace Selection

/-- Casts have nothing to say of a key exactly if it is the key of none of them. -/
theorem cast?_eq_none_iff {casts : Casts} {key : Cell} :
    cast? casts key = none ↔ ∀ cast ∈ casts, key ≠ .text cast.1 := by
  cases key with
  | text key =>
    rw [cast?, Option.map_eq_none_iff, List.lookup_eq_none_iff]
    simp
  | _ => simp [cast?]

theorem first?_eq_none_iff {lookups : List (Option Selection)} :
    first? lookups = none ↔ ∀ lookup ∈ lookups, lookup = none := by
  simp [first?, List.findSome?_eq_none_iff]

end Selection

/-- The columns of tables, each with its table, in their order. -/
def columnsOf (tables : List Table) : List (Table × Column) :=
  tables.flatMap fun table => table.columns.map (table, ·)

theorem mem_columnsOf_iff {tables : List Table} {table : Table} {column : Column} :
    (table, column) ∈ columnsOf tables ↔ table ∈ tables ∧ column ∈ table.columns := by
  simp [columnsOf]

namespace ColumnRules

variable {rules : ColumnRules}

/-- What a column selects is refined to its type. -/
theorem exists_map_eq_ok {table : Cell} {column : Column}
    (h : ∃ selection, rules.select table column = .ok selection) :
    ∃ type, rules.map table column = .ok type := by
  obtain ⟨selection, hselect⟩ := h
  refine ⟨refine selection.type column (rules.isJson column && !selection.fromCast), ?_⟩
  rw [map, hselect]
  rfl

theorem exists_mapTable_eq_ok {table : Table}
    (h : ∀ column ∈ table.columns, ∃ type, rules.map table.name column = .ok type) :
    ∃ typed, rules.mapTable table = .ok typed ∧ typed.name = table.name := by
  have hcolumns : ∀ column ∈ table.columns, ∃ typed : TypedColumn, (do
      return { name := column.name, type := ← rules.map table.name column,
               comment := column.comment } : Except Failure TypedColumn) = .ok typed := by
    intro column hcolumn
    obtain ⟨type, htype⟩ := h column hcolumn
    rw [htype]
    exact ⟨_, rfl⟩
  obtain ⟨columns, heq, _⟩ := exists_mapM_eq_ok hcolumns
  rw [mapTable, heq]
  exact ⟨_, rfl, rfl⟩

theorem mapTable_eq_error {table : Table} {lacks : Column → Bool} {column : Column} {e : Failure}
    (hfind : table.columns.find? lacks = some column)
    (herror : rules.map table.name column = .error e)
    (hok : ∀ column ∈ table.columns, ¬ lacks column = true →
      ∃ type, rules.map table.name column = .ok type) :
    rules.mapTable table = .error e := by
  have hcolumns : table.columns.mapM (fun column => do
      return ({ name := column.name, type := ← rules.map table.name column,
                comment := column.comment } : TypedColumn)) = .error e := by
    refine mapM_eq_error hfind ?_ ?_
    · rw [herror]
      rfl
    · intro column hcolumn hlacks
      obtain ⟨type, htype⟩ := hok column hcolumn hlacks
      rw [htype]
      exact ⟨_, rfl⟩
  rw [mapTable, hcolumns]
  rfl

/-- Tables all of whose columns have types get them, and keep their names. -/
theorem exists_mapTables_eq_ok {tables : List Table}
    (h : ∀ table ∈ tables, ∀ column ∈ table.columns,
      ∃ type, rules.map table.name column = .ok type) :
    ∃ typed, rules.mapTables tables = .ok typed ∧
      ∀ t ∈ typed, ∃ table ∈ tables, t.name = table.name := by
  have htables : ∀ table ∈ tables, ∃ typed, rules.mapTable table = .ok typed := by
    intro table htable
    obtain ⟨typed, htyped, _⟩ := exists_mapTable_eq_ok (h table htable)
    exact ⟨typed, htyped⟩
  obtain ⟨typed, heq, hfrom⟩ := exists_mapM_eq_ok htables
  refine ⟨typed, heq, ?_⟩
  intro t ht
  obtain ⟨table, htable, hmap⟩ := hfrom t ht
  obtain ⟨typed', htyped', hname⟩ := exists_mapTable_eq_ok (h table htable)
  rw [hmap] at htyped'
  cases htyped'
  exact ⟨table, htable, hname⟩

/-- The first column that lacks a type is the one that is reported. -/
theorem mapTables_eq_error (lacks : Column → Bool) {tables : List Table} {table : Table}
    {column : Column} {e : Failure}
    (hfind : (columnsOf tables).find? (fun entry => lacks entry.2) = some (table, column))
    (herror : rules.map table.name column = .error e)
    (hok : ∀ table ∈ tables, ∀ column ∈ table.columns, ¬ lacks column = true →
      ∃ type, rules.map table.name column = .ok type) :
    rules.mapTables tables = .error e := by
  -- the table is the first one that has a column without a type
  have hcolumns : ∀ t : Table, (t.columns.map (t, ·)).find? (fun entry => lacks entry.2)
      = (t.columns.find? lacks).map (t, ·) := fun t => List.find?_map
  induction tables with
  | nil => cases hfind
  | cons first rest ih =>
    rw [List.forall_mem_cons] at hok
    rw [columnsOf, List.flatMap_cons, ← columnsOf, List.find?_append, hcolumns] at hfind
    rw [mapTables, List.mapM_cons, ← mapTables]
    cases hfirst : first.columns.find? lacks with
    | some c =>
      rw [hfirst] at hfind
      cases hfind
      rw [mapTable_eq_error hfirst herror hok.1]
      rfl
    | none =>
      rw [hfirst] at hfind
      obtain ⟨typed, htyped, _⟩ := exists_mapTable_eq_ok fun column hcolumn =>
        hok.1 column hcolumn (List.find?_eq_none.1 hfirst column hcolumn)
      rw [htyped, ok_bind, ih hfind hok.2]
      rfl

end ColumnRules

end SchemaTypes
