import SchemaTypes.Naming.Singular
import SchemaTypes.Proofs.Printer.Properties
import SchemaTypes.Proofs.Printer.Tables
import SchemaTypes.Proofs.Text.PropertyName

set_option autoImplicit false

/-! # The keys of a printed module

The names of tables and columns are printed as they are. Where a name is an identifier, its line
shows a key that denotes it; where it is none, no reading of its line gives such a key
(`shows_printProperty_iff`). Lines of columns are told apart as long as no name has a colon with a
space after it and no type has a line break.

The main statement is `keys_of_print`, about every module that is assembled from tables and printed.
-/

namespace SchemaTypes

open Text

namespace PrinterOptions

variable (options : PrinterOptions)

/-- The line can be read as one of a property whose key denotes the name. -/
def Shows (alphabet : Alphabet) (line name : String) : Prop :=
  ∃ key type, Denotes alphabet key name ∧
    line = options.indent ++ key ++ ": " ++ type ++ options.terminator ++ "\n"

theorem shows_printProperty_iff (alphabet : Alphabet) (property : Property) :
    options.Shows alphabet (options.printProperty property) property.name ↔
      alphabet.IsIdentifier property.name := by
  have hcolon : (": " : String) = ":" ++ " " := rfl
  constructor
  · rintro ⟨key, type, hkey, hline⟩
    unfold printProperty at hline
    simp only [String.append_assoc, String.append_right_inj, hcolon] at hline
    exact isIdentifier_of_denotes hkey hline
  · intro h
    exact ⟨property.name, property.type, Or.inl ⟨h, rfl⟩, rfl⟩

/-! ## Lines of columns -/

/-- The lines of columns show their names. -/
theorem names_eq_of_body_eq {table other : TypedTable}
    (h : ∀ column ∈ table.columns ++ other.columns,
      LacksColon column.name.shown ∧ IsLine column.type.text)
    (heq : options.body table = options.body other) :
    table.columns.map (·.name.shown) = other.columns.map (·.name.shown) := by
  have hlines : Separates (listing options.printProperty) (List.map Property.withoutComment)
      (fun properties => ∀ property ∈ properties, property.IsLegible LacksColon) (· = "") := by
    refine (options.separates_property endsAtColon_lacksColon).join (fun _ _ _ => trivial)
      (fun _ _ => trivial) ?_
    rintro property _ s t rfl hempty
    unfold printProperty at hempty
    simp at hempty
  have hlegible : ∀ columns : List TypedColumn,
      (∀ column ∈ columns, LacksColon column.name.shown ∧ IsLine column.type.text) →
      ∀ property ∈ columns.map Assembly.columnProperty, property.IsLegible LacksColon := by
    intro columns hcolumns property hproperty
    obtain ⟨column, hcolumn, rfl⟩ := List.mem_map.1 hproperty
    exact hcolumns column hcolumn
  obtain ⟨htable, hother⟩ := List.forall_mem_append.1 h
  have hbody : listing options.printProperty (table.columns.map Assembly.columnProperty) ++ ""
      = listing options.printProperty (other.columns.map Assembly.columnProperty) ++ "" := by
    rw [listing_map, listing_map]
    exact congrArg (· ++ "") heq
  obtain ⟨hproperties, _⟩ :=
    hlines _ _ (hlegible _ htable) (hlegible _ hother) "" "" rfl rfl hbody
  have hnames := congrArg (List.map Property.name) hproperties
  simpa [Function.comp_def, Property.withoutComment, Assembly.columnProperty] using hnames

end PrinterOptions

/-- A module that is assembled from tables is printed with the names of tables and columns in front
of colons, where a key that denotes the name can be read exactly if the name is an identifier.
Tables with the same lines have the same names of columns, if no name has a colon with a space after
it and no type has a line break. -/
theorem keys_of_print (alphabet : Alphabet) (options : PrinterOptions)
    (className : String → String) {tables : List TypedTable}
    (hnames : ∀ table ∈ tables, ∃ name, table.name = .text name) :
    (∃ declarations clauses, Assembly.assemble className tables = .ok declarations ∧
      options.print declarations = .ok (options.printImports clauses
        ++ (PrinterOptions.block "Database" (listing (options.tableLine className) tables)
          ++ listing (options.tableText className) tables))) ∧
    (∀ table ∈ tables,
      (options.Shows alphabet (options.tableLine className table) table.name.shown ↔
        alphabet.IsIdentifier table.name.shown) ∧
      ∀ column ∈ table.columns,
        (options.Shows alphabet (options.columnLine column) column.name.shown ↔
          alphabet.IsIdentifier column.name.shown)) ∧
    ∀ table other : TypedTable,
      (∀ column ∈ table.columns ++ other.columns,
        LacksColon column.name.shown ∧ IsLine column.type.text) →
      options.body table = options.body other →
      table.columns.map (·.name.shown) = other.columns.map (·.name.shown) := by
  refine ⟨options.exists_print_assemble className hnames, ?_,
    fun _ _ => options.names_eq_of_body_eq⟩
  intro table _
  exact ⟨options.shows_printProperty_iff alphabet _,
    fun column _ => options.shows_printProperty_iff alphabet (Assembly.columnProperty column)⟩

/-- Identifiers of ASCII characters alone. -/
def asciiAlphabet : Alphabet where
  starts := fun _ => false
  continues := fun _ => false

/-- A table with a column whose name is no identifier. -/
def peopleTable : TypedTable where
  name := "people"
  columns :=
    [{ name := "id", type := TypeExpr.number }, { name := "first-name", type := TypeExpr.string }]

/-- Of the columns of that table one has a key that denotes its name, going by ASCII alone. -/
theorem keys_of_print_people :
    (∀ table ∈ [peopleTable], ∃ name, table.name = .text name) ∧
    PrinterOptions.Shows {} asciiAlphabet "  id: number;\n" "id" ∧
    ¬ PrinterOptions.Shows {} asciiAlphabet "  first-name: string;\n" "first-name" := by
  have hnames : ∀ table ∈ [peopleTable], ∃ name, table.name = .text name := by
    simp [peopleTable]
  obtain ⟨_, hshows, _⟩ := keys_of_print asciiAlphabet {} Naming.classify hnames
  obtain ⟨_, hcolumns⟩ := hshows peopleTable List.mem_cons_self
  have hid := hcolumns _ List.mem_cons_self
  have hfirst := hcolumns _ (List.mem_cons_of_mem _ List.mem_cons_self)
  exact ⟨hnames, hid.2 (by decide), fun h => absurd (hfirst.1 h) (by decide)⟩

/-- Not every line shows a key that denotes the name of its column, and the same lines can be those
of one column and of two columns. -/
theorem not_forall_shows_and_names_eq :
    (¬ ∃ alphabet : Alphabet, ∀ (options : PrinterOptions) (column : TypedColumn),
      column.name.shown ≠ "" → options.Shows alphabet
        (options.columnLine column) column.name.shown) ∧
    ¬ ∀ (options : PrinterOptions) (table other : TypedTable),
      options.body table = options.body other →
        table.columns.map (·.name.shown) = other.columns.map (·.name.shown) := by
  constructor
  · rintro ⟨alphabet, h⟩
    have hshows := h {} { name := "first-name", type := TypeExpr.string } (by decide)
    obtain ⟨_, hparts⟩ := (PrinterOptions.shows_printProperty_iff {} alphabet _).1 hshows
    have hhyphen := List.all_eq_true.1 hparts '-' (by decide)
    exact absurd hhyphen (by simp [Alphabet.isPart])
  · intro h
    have hnames := h {} { name := "people", columns :=
        [{ name := "a: string;\n  b", type := TypeExpr.string }] }
      { name := "people", columns :=
        [{ name := "a", type := TypeExpr.string }, { name := "b", type := TypeExpr.string }] }
      (by decide +kernel)
    exact absurd hnames (by decide)

end SchemaTypes
