import Mathlib.Data.List.Basic
import SchemaTypes.Catalog.Mysql

set_option autoImplicit false

/-! # Enumerations by position

The enumerations of all tables are put in one list, and the answers to their queries go back to
where the enumerations stand. Both lists are made up table by table, and within a table column by
column (`enumerations_cons`, `enumerationsOf_cons`), so the answers for a table are as many as it
has enumerations and come after those for the tables before it (`assignMembers_cons`), and likewise
for its columns (`assignColumns_cons_of_enumeration`).
-/

namespace SchemaTypes.Mysql

/-- The enumeration one column further. -/
def Enumeration.nextColumn (enumeration : Enumeration) : Enumeration :=
  { enumeration with column := enumeration.column + 1 }

/-- The enumeration one table further. -/
def Enumeration.nextTable (enumeration : Enumeration) : Enumeration :=
  { enumeration with table := enumeration.table + 1 }

/-! ## Collecting -/

theorem enumerationsOf_cons (table : Nat) (column : Column) (columns : List Column) :
    enumerationsOf table (column :: columns)
      = (if isEnumeration column.dataType then [⟨table, 0, column.columnType⟩] else [])
        ++ (enumerationsOf table columns).map Enumeration.nextColumn := by
  have hrest : (columns.zipIdx 1).filterMap (fun numbered =>
      if isEnumeration numbered.1.dataType then
        some (Enumeration.mk table numbered.2 numbered.1.columnType)
      else none)
      = (enumerationsOf table columns).map Enumeration.nextColumn := by
    rw [enumerationsOf, List.map_filterMap, List.zipIdx_succ, List.filterMap_map]
    refine List.filterMap_congr ?_
    rintro ⟨column, i⟩ _
    by_cases h : isEnumeration column.dataType = true <;> simp [h, Enumeration.nextColumn]
  rw [← hrest, enumerationsOf, List.zipIdx_cons, List.filterMap_cons]
  by_cases h : isEnumeration column.dataType = true <;> simp [h]

theorem enumerationsOf_succ (table : Nat) (columns : List Column) :
    enumerationsOf (table + 1) columns
      = (enumerationsOf table columns).map Enumeration.nextTable := by
  rw [enumerationsOf, enumerationsOf, List.map_filterMap]
  refine List.filterMap_congr ?_
  rintro ⟨column, i⟩ _
  by_cases h : isEnumeration column.dataType = true <;> simp [h, Enumeration.nextTable]

theorem enumerations_cons (table : Table) (tables : List Table) :
    enumerations (table :: tables)
      = enumerationsOf 0 table.columns ++ (enumerations tables).map Enumeration.nextTable := by
  have hrest : (tables.zipIdx 1).flatMap
      (fun numbered => enumerationsOf numbered.2 numbered.1.columns)
      = (enumerations tables).map Enumeration.nextTable := by
    rw [enumerations, List.map_flatMap, List.zipIdx_succ, List.flatMap_map]
    exact List.flatMap_congr fun numbered _ => enumerationsOf_succ numbered.2 numbered.1.columns
  rw [← hrest]
  rfl

/-- The types of the enumerations of a table, without their positions. -/
theorem columnType_enumerationsOf (table : Nat) (columns : List Column) :
    (enumerationsOf table columns).map Enumeration.columnType
      = (columns.filter fun column => isEnumeration column.dataType).map Column.columnType := by
  induction columns with
  | nil => rfl
  | cons column columns ih =>
    rw [enumerationsOf_cons, List.map_append, List.map_map, List.filter_cons]
    show _ ++ (enumerationsOf table columns).map Enumeration.columnType = _
    rw [ih]
    cases isEnumeration column.dataType <;> rfl

/-- The types of all enumerations, without their positions. -/
theorem columnType_enumerations (tables : List Table) :
    (enumerations tables).map Enumeration.columnType
      = ((tables.flatMap Table.columns).filter fun column => isEnumeration column.dataType).map
        Column.columnType := by
  induction tables with
  | nil => rfl
  | cons table tables ih =>
    rw [enumerations_cons, List.map_append, List.map_map, columnType_enumerationsOf,
      List.flatMap_cons, List.filter_append, List.map_append, ← ih]
    rfl

/-- Numbers that are not looked at do not matter. -/
theorem map_zipIdx_fst {α β : Type} (f : α → β) (l : List α) (n : Nat) :
    ((l.zipIdx n).map fun numbered => f numbered.1) = l.map f := by
  conv_rhs => rw [← List.zipIdx_map_fst n l, List.map_map]
  rfl

/-- The queries by the types of the enumerations. -/
theorem memberQueries_eq (client : Client) (tables : List Table) :
    memberQueries client tables
      = (((tables.flatMap Table.columns).filter
            fun column => isEnumeration column.dataType).zipIdx 1).map
          fun numbered => members client numbered.2 numbered.1.columnType := by
  have hqueries : memberQueries client tables
      = (((enumerations tables).map Enumeration.columnType).zipIdx 1).map
        fun numbered => members client numbered.2 numbered.1 := by
    rw [List.zipIdx_map, List.map_map]
    rfl
  rw [hqueries, columnType_enumerations, List.zipIdx_map, List.map_map]
  rfl

/-! ## Assigning -/

/-- What is done with the rest of a list leaves its head as it is. -/
theorem foldl_cons_of_next {α β : Type} {f : List α → β → List α} {next : β → β}
    (h : ∀ a l b, f (a :: l) (next b) = a :: f l b) (a : α) (l : List α) (bs : List β) :
    (bs.map next).foldl f (a :: l) = a :: bs.foldl f l := by
  induction bs generalizing l with
  | nil => rfl
  | cons b bs ih => rw [List.map_cons, List.foldl_cons, h, ih, List.foldl_cons]

/-- The columns of one table with the answers for them. -/
def assignColumns (columns : List Column) (answers : List (List String)) : List Column :=
  ((enumerationsOf 0 columns).zip answers).foldl setColumnMembers columns

/-- An enumeration gets the first answer. -/
theorem assignColumns_cons_of_enumeration {column : Column}
    (h : isEnumeration column.dataType = true)
    (columns : List Column) (answer : List String) (answers : List (List String)) :
    assignColumns (column :: columns) (answer :: answers)
      = { column with members := some answer } :: assignColumns columns answers := by
  rw [assignColumns, enumerationsOf_cons, if_pos h, List.singleton_append, List.zip_cons_cons,
    List.foldl_cons, List.zip_map_left]
  exact foldl_cons_of_next (fun _ _ _ => rfl) _ _ _

/-- Any other column gets none. -/
theorem assignColumns_cons_of_not_enumeration {column : Column}
    (h : ¬ isEnumeration column.dataType = true) (columns : List Column)
    (answers : List (List String)) :
    assignColumns (column :: columns) answers = column :: assignColumns columns answers := by
  rw [assignColumns, enumerationsOf_cons, if_neg h, List.nil_append, List.zip_map_left]
  exact foldl_cons_of_next (fun _ _ _ => rfl) _ _ _

/-- Answers for the first table are assigned within its columns. -/
theorem foldl_setMembers_of_first {table : Table} {tables : List Table}
    {answers : List (Enumeration × List String)} (h : ∀ answer ∈ answers, answer.1.table = 0) :
    answers.foldl setMembers (table :: tables)
      = { table with columns := answers.foldl setColumnMembers table.columns } :: tables := by
  induction answers generalizing table with
  | nil => rfl
  | cons answer answers ih =>
    rw [List.forall_mem_cons] at h
    have hfirst : setMembers (table :: tables) answer
        = { table with columns := setColumnMembers table.columns answer } :: tables := by
      rw [setMembers, h.1]
      rfl
    rw [List.foldl_cons, hfirst, ih h.2]
    rfl

theorem table_of_mem_enumerationsOf {table : Nat} {columns : List Column}
    {enumeration : Enumeration} (h : enumeration ∈ enumerationsOf table columns) :
    enumeration.table = table := by
  obtain ⟨⟨column, i⟩, _, hsome⟩ := List.mem_filterMap.1 h
  simp only [Option.ite_none_right_eq_some, Option.some.injEq] at hsome
  rw [← hsome.2]

/-- The first table gets as many answers as it has enumerations, and the other tables get the
others. -/
theorem assignMembers_cons {table : Table} {first : List (List String)}
    (hlength : first.length = (enumerationsOf 0 table.columns).length) (tables : List Table)
    (rest : List (List String)) :
    assignMembers (table :: tables) (first ++ rest)
      = { table with columns := assignColumns table.columns first }
        :: assignMembers tables rest := by
  have hfirst : ∀ answer ∈ (enumerationsOf 0 table.columns).zip first, answer.1.table = 0 :=
    fun answer hmem => table_of_mem_enumerationsOf (List.of_mem_zip hmem).1
  rw [assignMembers, enumerations_cons, List.zip_append hlength.symm, List.foldl_append,
    foldl_setMembers_of_first hfirst, List.zip_map_left]
  exact foldl_cons_of_next (fun _ _ _ => rfl) _ _ _

end SchemaTypes.Mysql
