import SchemaTypes.Proofs.Assembly.Names

set_option autoImplicit false

/-! # What the names of an assembled module stand for

Names are imported as they are and declared as tables suggest, without a look at each other: two
modules can export the same name, and a table can have a class that is called like an imported type.
Nothing else goes wrong: `namesResolve_assemble_iff` says that the imported names of a module are
unambiguous exactly if its tables do not need one name of two modules and declare no name that they
need.
-/

namespace SchemaTypes

/-- The name by which a binding is known in the module that imports it. -/
def Binding.localName (b : Binding) : String :=
  match b.renamed with
  | some renamed => if renamed = "" then b.name else renamed
  | none => b.name

/-- The names by which an import makes something known. -/
def ModuleImport.localNames (e : ModuleImport) : List String :=
  (if isGiven e.default then e.default.toList else []) ++ e.bindings.map (·.localName)

/-- No name is imported from two modules, and no imported name is declared as well. -/
def NamesResolve (declarations : List Declaration) : Prop :=
  (∀ d ∈ (Declaration.split declarations).1, ∀ e ∈ (Declaration.split declarations).1,
    ∀ name ∈ d.localNames, name ∈ e.localNames → d.specifier = e.specifier) ∧
  ∀ d ∈ (Declaration.split declarations).1, ∀ name ∈ d.localNames,
    name ∉ declaredNames declarations

/-- Where nothing is renamed and there is no default, names are known by themselves. -/
theorem ModuleImport.IsPlain.localNames_eq {e : ModuleImport} (h : e.IsPlain) :
    e.localNames = e.names := by
  rw [localNames, h.1, names]
  refine List.map_congr_left fun b hb => ?_
  rw [Binding.localName, h.2 b hb]

/-- Plain imports resolve if the names they bind have one module each and are not declared. -/
theorem namesResolve_iff_of_isPlain {declarations : List Declaration}
    (hplain : ∀ d ∈ (Declaration.split declarations).1, d.IsPlain) :
    NamesResolve declarations ↔
      (∀ s s' name,
        (s, name) ∈ (Declaration.split declarations).1.flatMap ModuleImport.bound →
        (s', name) ∈ (Declaration.split declarations).1.flatMap ModuleImport.bound → s = s') ∧
      ∀ s name, (s, name) ∈ (Declaration.split declarations).1.flatMap ModuleImport.bound →
        name ∉ declaredNames declarations := by
  simp only [ImportCollection.mem_bound_iff]
  constructor
  · rintro ⟨hone, hnew⟩
    refine ⟨?_, ?_⟩
    · rintro s s' name ⟨d, hd, rfl, hname⟩ ⟨e, he, rfl, hname'⟩
      rw [← (hplain d hd).localNames_eq] at hname
      rw [← (hplain e he).localNames_eq] at hname'
      exact hone d hd e he name hname hname'
    · rintro s name ⟨d, hd, rfl, hname⟩
      rw [← (hplain d hd).localNames_eq] at hname
      exact hnew d hd name hname
  · rintro ⟨hone, hnew⟩
    refine ⟨?_, ?_⟩
    · intro d hd e he name hname hname'
      rw [(hplain d hd).localNames_eq] at hname
      rw [(hplain e he).localNames_eq] at hname'
      exact hone d.specifier e.specifier name ⟨d, hd, rfl, hname⟩ ⟨e, he, rfl, hname'⟩
    · intro d hd name hname
      rw [(hplain d hd).localNames_eq] at hname
      exact hnew d.specifier name ⟨d, hd, rfl, hname⟩

namespace Assembly

/-- What an assembled module binds and what it declares. -/
theorem exists_bound_declaredNames (className : String → String) {tables : List TypedTable}
    (hnames : ∀ table ∈ tables, ∃ name, table.name = .text name) :
    ∃ declarations, assemble className tables = .ok declarations ∧
      (∀ d ∈ (Declaration.split declarations).1, d.IsPlain) ∧
      (∀ s name, (s, name) ∈ (Declaration.split declarations).1.flatMap ModuleImport.bound ↔
        Needs tables s name) ∧
      declaredNames declarations =
        databaseName :: tables.flatMap fun table => classNames (className table.name.shown) := by
  obtain ⟨declarations, c, hassemble, hcollects, hsplit⟩ := exists_assemble className hnames
  refine ⟨declarations, hassemble, ?_, ?_, declaredNames_of_split hsplit⟩
  · rw [hsplit]
    exact fun _ => hcollects.isPlain_of_mem_values
  · intro s name
    rw [hsplit]
    exact mem_bound_values_iff_needs hcollects

/-- A table with one column, which holds bytes. -/
def bytesTable (name : String) : TypedTable :=
  { name := name, columns := [{ name := "data", type := .buffer }] }

/-- The names that such a table needs, with their modules. -/
def bytesImports : List (String × String) :=
  [("node:buffer", "Buffer"), (kyselyModule, "Selectable"), (kyselyModule, "Insertable"),
   (kyselyModule, "Updateable")]

theorem needs_bytesTable_iff {tableName s name : String} :
    Needs [bytesTable tableName] s name ↔ (s, name) ∈ bytesImports := by
  rw [← named_mem_flatMap_tableImports_iff]
  simp [bytesTable, bytesImports, tableImports, rowTypes, TypeExpr.buffer, TypeExpr.imports,
    TypeExpr.kysely, ImportCollection.named_inj]

/-- A table `buffers` with a column of bytes: `Buffer` is both imported and declared. -/
theorem not_forall_namesResolve :
    ¬ ∀ tables declarations, assemble Naming.classify tables = .ok declarations →
      NamesResolve declarations := by
  intro hall
  have hnames : ∀ table ∈ [bytesTable "buffers"], ∃ name, table.name = .text name := by
    simp [bytesTable]
  obtain ⟨declarations, hassemble, hplain, hbound, hdeclared⟩ :=
    exists_bound_declaredNames Naming.classify hnames
  have hresolve := (namesResolve_iff_of_isPlain hplain).1 (hall _ declarations hassemble)
  have hneeds : Needs [bytesTable "buffers"] "node:buffer" "Buffer" :=
    needs_bytesTable_iff.2 List.mem_cons_self
  have hnew := hresolve.2 _ _ ((hbound _ _).2 hneeds)
  rw [hdeclared] at hnew
  exact hnew (by decide +kernel)

/-- The imported names of a module are unambiguous exactly if no name is needed of two modules and
no name that is needed is called like the database or like something that is declared for a
table. -/
theorem namesResolve_assemble_iff (className : String → String) {tables : List TypedTable}
    (hnames : ∀ table ∈ tables, ∃ name, table.name = .text name) :
    ∃ declarations, assemble className tables = .ok declarations ∧
      (NamesResolve declarations ↔
        (∀ s s' name, Needs tables s name → Needs tables s' name → s = s') ∧
        ∀ s name, Needs tables s name → name ≠ "Database" ∧
          ∀ table ∈ tables, name ∉ classNames (className table.name.shown)) := by
  obtain ⟨declarations, hassemble, hplain, hbound, hdeclared⟩ :=
    exists_bound_declaredNames className hnames
  refine ⟨declarations, hassemble, ?_⟩
  rw [namesResolve_iff_of_isPlain hplain]
  simp only [hbound, hdeclared]
  refine and_congr_right fun _ => forall_congr' fun s => forall_congr' fun name => ?_
  refine imp_congr_right fun _ => ?_
  rw [List.mem_cons, List.mem_flatMap, not_or]
  exact and_congr_right fun _ => by simp

/-- A table `files` with a column of bytes: nothing that is declared for it is called `Buffer`. -/
theorem namesResolve_files :
    (∀ table ∈ [bytesTable "files"], ∃ name, table.name = .text name) ∧
    ∃ declarations, assemble Naming.classify [bytesTable "files"] = .ok declarations ∧
      NamesResolve declarations := by
  have hnames : ∀ table ∈ [bytesTable "files"], ∃ name, table.name = .text name := by
    simp [bytesTable]
  have hone : ∀ p ∈ bytesImports, ∀ q ∈ bytesImports, p.2 = q.2 → p.1 = q.1 := by
    decide
  have hnew : ∀ p ∈ bytesImports, p.2 ≠ "Database" ∧
      ∀ table ∈ [bytesTable "files"], p.2 ∉ classNames (Naming.classify table.name.shown) := by
    decide +kernel
  obtain ⟨declarations, hassemble, hiff⟩ := namesResolve_assemble_iff Naming.classify hnames
  refine ⟨hnames, declarations, hassemble, hiff.2 ⟨?_, ?_⟩⟩
  · intro s s' name h h'
    exact hone _ (needs_bytesTable_iff.1 h) _ (needs_bytesTable_iff.1 h') rfl
  · intro s name h
    exact hnew _ (needs_bytesTable_iff.1 h)

end Assembly

end SchemaTypes
