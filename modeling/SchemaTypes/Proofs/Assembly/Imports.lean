import SchemaTypes.Assembly
import SchemaTypes.Proofs.Import.Bindings
import SchemaTypes.Proofs.Outcome
import SchemaTypes.Proofs.TypeExpr.Occurrence

set_option autoImplicit false

/-! # The imports of an assembled module

Tables ask for single names of modules: those that the types of their columns require and, for the
declarations of a row, three of Kysely's. No such request can fail. What a collection is after any
number of them is the invariant `Collects`; one request keeps it (`Collects.addOne`), hence a list
of requests does (`Collects.add`).

The main statement is `bound_imports_of_assemble`: an assembled module imports the names that its
tables need, each of them once, and nothing else.
-/

namespace SchemaTypes

/-- Nothing is imported by default and no name is changed. -/
def ModuleImport.IsPlain (e : ModuleImport) : Prop :=
  e.default = none ∧ ∀ b ∈ e.bindings, b.renamed = none

namespace ImportCollection

/-- What a collection is after some requests for single names. -/
structure Collects (c : ImportCollection) (requests : List ModuleImport) : Prop where
  wellFormed : c.WellFormed
  plain : ∀ e ∈ c.entries, e.IsPlain
  mem_names_iff : ∀ specifier name,
    name ∈ (c.entry specifier).names ↔ .named specifier name ∈ requests

theorem collects_empty : empty.Collects [] where
  wellFormed := wellFormed_empty
  plain := fun _ h => by cases h
  mem_names_iff := fun _ _ => by simp [entry, empty, ModuleImport.names]

theorem named_inj {s s' n n' : String} :
    ModuleImport.named s n = .named s' n' ↔ s = s' ∧ n = n' := by
  simp [ModuleImport.named]

theorem isPlain_insertBinding {e : ModuleImport} (h : e.IsPlain) (name : String) :
    ModuleImport.IsPlain { e with bindings := insertBinding e.bindings { name } } := by
  refine ⟨h.1, ?_⟩
  intro b hb
  change b ∈ insertBinding e.bindings { name } at hb
  unfold insertBinding at hb
  split at hb
  · exact h.2 b hb
  · rcases List.mem_append.1 hb with hb | hb
    · exact h.2 b hb
    · rw [List.mem_singleton.1 hb]

/-- One more request. -/
theorem Collects.addOne {c : ImportCollection} {done : List ModuleImport} (h : c.Collects done)
    (specifier name : String) :
    ∃ next, c.addOne (.named specifier name) = .ok next ∧
      next.Collects (done ++ [.named specifier name]) := by
  refine ⟨c.addNamed specifier [{ name }], rfl, ?_, ?_, ?_⟩
  · exact h.wellFormed.addNamed specifier [{ name }]
  · exact forall_mem_updateEntry specifier h.plain (fun e he => isPlain_insertBinding he name)
      ⟨rfl, fun _ hb => by cases hb⟩
  · intro s n
    rw [mem_names_entry_addNamed, h.mem_names_iff, List.mem_append, List.mem_singleton, named_inj]
    simp

/-- Any number of requests for single names: none of them fails. -/
theorem Collects.add {c : ImportCollection} {done requests : List ModuleImport}
    (h : c.Collects done)
    (hnamed : ∀ request ∈ requests, ∃ specifier name, request = .named specifier name) :
    ∃ last, c.add requests = (last, none) ∧ last.Collects (done ++ requests) := by
  induction requests generalizing c done with
  | nil => exact ⟨c, rfl, by rwa [List.append_nil]⟩
  | cons request rest ih =>
    rw [List.forall_mem_cons] at hnamed
    obtain ⟨⟨specifier, name, rfl⟩, hrest⟩ := hnamed
    obtain ⟨next, hnext, hcollects⟩ := h.addOne specifier name
    obtain ⟨last, hlast, hdone⟩ := ih hcollects hrest
    refine ⟨last, ?_, ?_⟩
    · rw [ImportCollection.add, hnext]
      exact hlast
    · rwa [List.append_assoc] at hdone

theorem Collects.isPlain_of_mem_values {c : ImportCollection} {requests : List ModuleImport}
    (h : c.Collects requests) {clause : ModuleImport} (hclause : clause ∈ c.values) :
    clause.IsPlain := by
  obtain ⟨e, he, _, rfl⟩ := mem_values_iff.1 hclause
  obtain ⟨hdefault, hrenamed⟩ := h.plain e he
  exact ⟨hdefault, fun b hb => hrenamed b (mem_sortBy.1 hb)⟩

end ImportCollection

namespace Assembly

/-- The types of rows that Kysely exports. -/
def rowTypeNames : List String := ["Selectable", "Insertable", "Updateable"]

/-- The name has to be imported from the module for the tables to be declared: the type of a column
requires it, or there is a table and it is the name of a type of rows. -/
def Needs (tables : List TypedTable) (specifier name : String) : Prop :=
  (∃ table ∈ tables, ∃ column ∈ table.columns, column.type.Requires specifier name) ∨
    tables ≠ [] ∧ specifier = kyselyModule ∧ name ∈ rowTypeNames

/-! ## The requests of tables -/

theorem exists_named_of_mem_tableImports {table : TypedTable} {request : ModuleImport}
    (h : request ∈ tableImports table) : ∃ specifier name, request = .named specifier name := by
  rcases List.mem_append.1 h with h | h
  · obtain ⟨column, _, hcolumn⟩ := List.mem_flatMap.1 h
    exact TypeExpr.exists_named_of_mem_imports hcolumn
  · obtain ⟨⟨operation, _⟩, _, rfl⟩ := List.mem_map.1 h
    exact ⟨kyselyModule, operation, rfl⟩

theorem named_mem_tableImports_iff {table : TypedTable} {specifier name : String} :
    .named specifier name ∈ tableImports table ↔
      (∃ column ∈ table.columns, column.type.Requires specifier name) ∨
        specifier = kyselyModule ∧ name ∈ rowTypeNames := by
  rw [tableImports, List.mem_append, List.mem_flatMap]
  refine or_congr ?_ ?_
  · simp only [TypeExpr.named_mem_imports_iff]
  · simp only [rowTypes, rowTypeNames, TypeExpr.kysely, List.map_cons, List.map_nil,
      List.mem_cons, ImportCollection.named_inj, List.not_mem_nil, or_false, and_or_left]

/-- The requests of the tables ask for what the tables need. -/
theorem named_mem_flatMap_tableImports_iff {tables : List TypedTable} {specifier name : String} :
    .named specifier name ∈ tables.flatMap tableImports ↔ Needs tables specifier name := by
  simp only [List.mem_flatMap, named_mem_tableImports_iff, Needs]
  constructor
  · rintro ⟨table, htable, ⟨column, hcolumn, h⟩ | h⟩
    · exact Or.inl ⟨table, htable, column, hcolumn, h⟩
    · exact Or.inr ⟨List.ne_nil_of_mem htable, h⟩
  · rintro (⟨table, htable, column, hcolumn, h⟩ | ⟨hne, h⟩)
    · exact ⟨table, htable, Or.inl ⟨column, hcolumn, h⟩⟩
    · obtain ⟨table, htable⟩ := List.exists_mem_of_ne_nil tables hne
      exact ⟨table, htable, Or.inr h⟩

instance (tables : List TypedTable) (specifier name : String) :
    Decidable (Needs tables specifier name) :=
  decidable_of_iff _ named_mem_flatMap_tableImports_iff

theorem exists_collectImports (tables : List TypedTable) :
    ∃ c, collectImports tables = (c, none) ∧ c.Collects (tables.flatMap tableImports) := by
  refine ImportCollection.collects_empty.add ?_
  intro request hrequest
  obtain ⟨table, _, htable⟩ := List.mem_flatMap.1 hrequest
  exact exists_named_of_mem_tableImports htable

/-! ## The declarations of a module -/

/-- The declarations of a module other than imports. -/
def tablesDeclarations (className : String → String) (tables : List TypedTable) :
    List Declaration :=
  .interface (databaseInterface className tables) :: tables.flatMap (tableDeclarations className)

theorem split_append {clauses : List ModuleImport} {others : List Declaration}
    (h : ∀ d ∈ others, d.isImport = false) :
    Declaration.split (clauses.map Declaration.moduleImport ++ others) = (clauses, others) := by
  have hnone : ∀ d ∈ others, d.import? = none := by
    intro d hd
    simpa [Declaration.isImport] using h d hd
  have himports : (clauses.map Declaration.moduleImport).filterMap Declaration.import?
      = clauses := by
    rw [List.filterMap_map]
    exact List.filterMap_some
  have hothers : (clauses.map Declaration.moduleImport).filter (fun d => !d.isImport) = [] := by
    simp [Declaration.isImport, Declaration.import?]
  rw [Declaration.split, List.filterMap_append, List.filter_append, himports, hothers,
    List.filterMap_eq_nil_iff.2 hnone, List.filter_eq_self.2 fun d hd => by simp [h d hd],
    List.append_nil, List.nil_append]

/-- Tables are declared by interfaces and type aliases. -/
theorem cases_of_mem_tablesDeclarations {className : String → String} {tables : List TypedTable}
    {d : Declaration} (h : d ∈ tablesDeclarations className tables) :
    (∃ declaration, d = .interface declaration) ∨ ∃ declaration, d = .typeAlias declaration := by
  rcases List.mem_cons.1 h with rfl | h
  · exact Or.inl ⟨_, rfl⟩
  · obtain ⟨table, _, hd⟩ := List.mem_flatMap.1 h
    rcases List.mem_cons.1 hd with rfl | hd
    · exact Or.inl ⟨_, rfl⟩
    · obtain ⟨_, _, rfl⟩ := List.mem_map.1 hd
      exact Or.inr ⟨_, rfl⟩

theorem not_isImport_of_mem_tablesDeclarations {className : String → String}
    {tables : List TypedTable} {d : Declaration} (h : d ∈ tablesDeclarations className tables) :
    d.isImport = false := by
  rcases cases_of_mem_tablesDeclarations h with ⟨declaration, rfl⟩ | ⟨declaration, rfl⟩ <;> rfl

/-- Tables whose names are texts can be assembled: the imports that were collected come first, then
the declarations of the database and of its tables. -/
theorem exists_assemble (className : String → String) {tables : List TypedTable}
    (hnames : ∀ table ∈ tables, ∃ name, table.name = .text name) :
    ∃ (declarations : List Declaration) (c : ImportCollection),
      assemble className tables = .ok declarations ∧ c.Collects (tables.flatMap tableImports) ∧
      Declaration.split declarations = (c.values, tablesDeclarations className tables) := by
  obtain ⟨c, hc, hcollects⟩ := exists_collectImports tables
  refine ⟨c.values.map .moduleImport ++ tablesDeclarations className tables, c, ?_, hcollects,
    split_append fun _ => not_isImport_of_mem_tablesDeclarations⟩
  have htexts : tables.mapM (fun table => table.name.asText)
      = .ok (tables.map fun table => table.name.shown) := by
    refine mapM_eq_ok fun table htable => ?_
    obtain ⟨name, hname⟩ := hnames table htable
    rw [hname]
    rfl
  rw [assemble, htexts, hc]
  rfl

/-- What has been collected for tables binds what they need. -/
theorem mem_bound_values_iff_needs {c : ImportCollection} {tables : List TypedTable}
    (h : c.Collects (tables.flatMap tableImports)) {specifier name : String} :
    (specifier, name) ∈ c.values.flatMap ModuleImport.bound ↔ Needs tables specifier name := by
  rw [ImportCollection.mem_bound_values_iff h.wellFormed, h.mem_names_iff,
    named_mem_flatMap_tableImports_iff]

/-- An assembled module imports the names that its tables need and nothing else, each name once,
under its own name, modules and names in increasing order. -/
theorem bound_imports_of_assemble (className : String → String) {tables : List TypedTable}
    (hnames : ∀ table ∈ tables, ∃ name, table.name = .text name) :
    ∃ declarations, assemble className tables = .ok declarations ∧
      (∀ specifier name,
        (specifier, name) ∈ (Declaration.split declarations).1.flatMap ModuleImport.bound ↔
          Needs tables specifier name) ∧
      ((Declaration.split declarations).1.flatMap ModuleImport.bound).Nodup ∧
      (∀ clause ∈ (Declaration.split declarations).1, clause.IsPlain) ∧
      ((Declaration.split declarations).1.map (·.specifier)).Pairwise (· < ·) ∧
      ∀ clause ∈ (Declaration.split declarations).1, clause.names.Pairwise (· < ·) := by
  obtain ⟨declarations, c, hassemble, hcollects, hsplit⟩ := exists_assemble className hnames
  refine ⟨declarations, hassemble, ?_⟩
  rw [hsplit]
  refine ⟨?_, ?_, ?_, ?_, ?_⟩
  · exact fun specifier name => mem_bound_values_iff_needs hcollects
  · exact ImportCollection.nodup_bound_values hcollects.wellFormed
  · exact fun _ => hcollects.isPlain_of_mem_values
  · exact ImportCollection.pairwise_specifiers_values hcollects.wellFormed
  · exact fun _ => ImportCollection.pairwise_names_of_mem_values hcollects.wellFormed

/-- An array of JSON, with no insert type and an update type of its own. -/
def fileList : TypeExpr :=
  .array (.jsonColumnType (.imported "FileMeta" "./meta") none (some .buffer))

/-- The array and the `string` that fills the gap ask for no import. -/
theorem bound_imports_of_assemble_files :
    (∀ table ∈
        [({ name := "files", columns := [{ name := "meta", type := fileList }] } : TypedTable)],
      ∃ name, table.name = .text name) ∧
    ∃ declarations,
      assemble Naming.classify
          [{ name := "files", columns := [{ name := "meta", type := fileList }] }]
        = .ok declarations ∧
      ("./meta", "FileMeta") ∈ (Declaration.split declarations).1.flatMap ModuleImport.bound ∧
      ("kysely", "JSONColumnType") ∈ (Declaration.split declarations).1.flatMap ModuleImport.bound ∧
      ("kysely", "Generated") ∉ (Declaration.split declarations).1.flatMap ModuleImport.bound := by
  have hnames : ∀ table ∈
      [({ name := "files", columns := [{ name := "meta", type := fileList }] } : TypedTable)],
      ∃ name, table.name = .text name := by
    simp
  obtain ⟨declarations, hassemble, hbound, _⟩ := bound_imports_of_assemble Naming.classify hnames
  refine ⟨hnames, declarations, hassemble, ?_, ?_, ?_⟩
  · exact (hbound _ _).2 (by decide)
  · exact (hbound _ _).2 (by decide)
  · exact fun h => absurd ((hbound _ _).1 h) (by decide)

end Assembly

end SchemaTypes
