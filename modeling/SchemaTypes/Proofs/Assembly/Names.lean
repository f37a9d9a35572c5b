import SchemaTypes.Proofs.Assembly.Imports

set_option autoImplicit false

/-! # The names that an assembled module declares

A module declares `Database` and, for every table, four names that are made from the name of its
class. Classes of different tables can have the same name, and a name made from one class can be one
made from another. `Clash` lists the ways in which this happens.

The main statement is `nodup_declaredNames_assemble_iff`: the names of a module are distinct exactly
if no class is called `Database` and no two classes clash.
-/

namespace SchemaTypes

/-- The name that a declaration declares. -/
def Declaration.name? : Declaration → Option String
  | .typeAlias declaration => some declaration.name
  | .interface declaration => some declaration.name
  | _ => none

/-- The names that a module declares itself, in the order of its declarations. -/
def declaredNames (declarations : List Declaration) : List String :=
  declarations.filterMap Declaration.name?

/-- Imports declare nothing themselves. -/
theorem declaredNames_split (declarations : List Declaration) :
    declaredNames (Declaration.split declarations).2 = declaredNames declarations := by
  unfold declaredNames
  induction declarations with
  | nil => rfl
  | cons d rest ih =>
    cases d with
    | moduleImport _ => exact ih
    | typeAlias declaration => exact congrArg (declaration.name :: ·) ih
    | interface declaration => exact congrArg (declaration.name :: ·) ih
    | foreign _ => exact ih

namespace Assembly

/-- The names that are declared for a class. -/
def classNames (c : String) : List String := [c ++ "Table", c, "New" ++ c, c ++ "Update"]

/-- The names of the classes of tables, as they are named by default. -/
def classesOf (tables : List TypedTable) : List String :=
  tables.map fun table => Naming.classify table.name.shown

/-- One class is named like another one with `New` in front or with `Table` or `Update` behind. -/
def Extends (c d : String) : Prop := c = d ++ "Table" ∨ c = "New" ++ d ∨ c = d ++ "Update"

/-- The classes are `New` and `Table`, or `New` and `Update`, about the same name. -/
def Crosses (c d : String) : Prop := ∃ x, c = "New" ++ x ∧ (d = x ++ "Table" ∨ d = x ++ "Update")

/-- Two classes share one of the names that are declared for them. -/
def Clash (c d : String) : Prop :=
  c = d ∨ Extends c d ∨ Extends d c ∨ Crosses c d ∨ Crosses d c

theorem declaredNames_tablesDeclarations (className : String → String) (tables : List TypedTable) :
    declaredNames (tablesDeclarations className tables) =
      databaseName :: tables.flatMap fun table => classNames (className table.name.shown) := by
  have htable : ∀ table : TypedTable, declaredNames (tableDeclarations className table)
      = classNames (className table.name.shown) := fun _ => rfl
  have htables : declaredNames (tables.flatMap (tableDeclarations className))
      = tables.flatMap fun table => classNames (className table.name.shown) := by
    rw [declaredNames, List.filterMap_flatMap]
    exact List.flatMap_congr fun table _ => htable table
  exact congrArg (databaseName :: ·) htables

/-- Imports do not add to the names. -/
theorem declaredNames_of_split {className : String → String} {tables : List TypedTable}
    {declarations : List Declaration} {clauses : List ModuleImport}
    (h : Declaration.split declarations = (clauses, tablesDeclarations className tables)) :
    declaredNames declarations =
      databaseName :: tables.flatMap fun table => classNames (className table.name.shown) := by
  rw [← declaredNames_split, h, declaredNames_tablesDeclarations]

/-! ## When names meet -/

theorem append_table_ne_append_update (c d : String) : c ++ "Table" ≠ d ++ "Update" := by
  intro h
  have hrev := congrArg (fun s => s.toList.reverse) h
  simp at hrev

/-- A text with `New` at the front and a word at the end has both of them one after the other,
unless the word starts with a letter of `New`. -/
theorem new_append_eq_append_iff {word : String}
    (hword : ∀ a, word.toList.head? = some a → a ∉ "New".toList) (c d : String) :
    "New" ++ c = d ++ word ↔ ∃ x, d = "New" ++ x ∧ c = x ++ word := by
  constructor
  · intro h
    -- either `New` ends inside of `d`, or `word` starts inside of `New`
    rw [← String.toList_inj, String.toList_append, String.toList_append,
      List.append_eq_append_iff] at h
    rcases h with ⟨x, hd, hc⟩ | ⟨x, hnew, hrest⟩
    · refine ⟨String.ofList x, ?_, ?_⟩
      · rw [← String.toList_inj, hd]
        simp
      · rw [← String.toList_inj, hc]
        simp
    · cases x with
      | nil =>
        refine ⟨"", ?_, ?_⟩
        · rw [← String.toList_inj, String.append_empty, hnew, List.append_nil]
        · rw [← String.toList_inj, String.empty_append, hrest, List.nil_append]
      | cons a x =>
        have hmem : a ∈ "New".toList := by
          rw [hnew]
          exact List.mem_append_right _ List.mem_cons_self
        exact absurd hmem (hword a (by rw [hrest]; rfl))
  · rintro ⟨x, rfl, rfl⟩
    rw [String.append_assoc]

theorem new_append_eq_append_table_iff (c d : String) :
    "New" ++ c = d ++ "Table" ↔ ∃ x, d = "New" ++ x ∧ c = x ++ "Table" :=
  new_append_eq_append_iff (by simp) c d

theorem new_append_eq_append_update_iff (c d : String) :
    "New" ++ c = d ++ "Update" ↔ ∃ x, d = "New" ++ x ∧ c = x ++ "Update" :=
  new_append_eq_append_iff (by simp) c d

theorem mem_classNames_iff {name c : String} : name ∈ classNames c ↔ name = c ∨ Extends name c := by
  simp only [classNames, Extends, List.mem_cons, List.not_mem_nil, or_false]
  exact or_left_comm

/-- A name made from two classes. -/
theorem eq_or_crosses_of_extends {name c d : String} (hc : Extends name c) (hd : Extends name d) :
    c = d ∨ Crosses c d ∨ Crosses d c := by
  rcases hc with hc | hc | hc <;> rcases hd with hd | hd | hd <;> rw [hc] at hd
  -- `Table` behind the first class
  · exact Or.inl ((String.append_left_inj _).1 hd)
  · obtain ⟨x, hx, hy⟩ := (new_append_eq_append_table_iff _ _).1 hd.symm
    exact Or.inr (Or.inl ⟨x, hx, Or.inl hy⟩)
  · exact absurd hd (append_table_ne_append_update c d)
  -- `New` in front of it
  · obtain ⟨x, hx, hy⟩ := (new_append_eq_append_table_iff _ _).1 hd
    exact Or.inr (Or.inr ⟨x, hx, Or.inl hy⟩)
  · exact Or.inl ((String.append_right_inj _).1 hd)
  · obtain ⟨x, hx, hy⟩ := (new_append_eq_append_update_iff _ _).1 hd
    exact Or.inr (Or.inr ⟨x, hx, Or.inr hy⟩)
  -- `Update` behind it
  · exact absurd hd.symm (append_table_ne_append_update d c)
  · obtain ⟨x, hx, hy⟩ := (new_append_eq_append_update_iff _ _).1 hd.symm
    exact Or.inr (Or.inl ⟨x, hx, Or.inr hy⟩)
  · exact Or.inl ((String.append_left_inj _).1 hd)

/-- Crossing classes share a name. -/
theorem Crosses.exists_extends {c d : String} (h : Crosses c d) :
    ∃ name, Extends name c ∧ Extends name d := by
  obtain ⟨x, rfl, rfl | rfl⟩ := h
  · exact ⟨"New" ++ (x ++ "Table"), Or.inl (String.append_assoc).symm, Or.inr (Or.inl rfl)⟩
  · exact ⟨"New" ++ (x ++ "Update"), Or.inr (Or.inr (String.append_assoc).symm),
      Or.inr (Or.inl rfl)⟩

/-- Classes clash exactly if they share a name. -/
theorem clash_iff {c d : String} : Clash c d ↔ ∃ name ∈ classNames c, name ∈ classNames d := by
  simp only [mem_classNames_iff]
  constructor
  · rintro (rfl | h | h | h | h)
    · exact ⟨c, Or.inl rfl, Or.inl rfl⟩
    · exact ⟨c, Or.inl rfl, Or.inr h⟩
    · exact ⟨d, Or.inr h, Or.inl rfl⟩
    · obtain ⟨name, hc, hd⟩ := h.exists_extends
      exact ⟨name, Or.inr hc, Or.inr hd⟩
    · obtain ⟨name, hd, hc⟩ := h.exists_extends
      exact ⟨name, Or.inr hc, Or.inr hd⟩
  · rintro ⟨name, rfl | hc, rfl | hd⟩
    · exact Or.inl rfl
    · exact Or.inr (Or.inl hd)
    · exact Or.inr (Or.inr (Or.inl hc))
    · rcases eq_or_crosses_of_extends hc hd with h | h | h
      · exact Or.inl h
      · exact Or.inr (Or.inr (Or.inr (Or.inl h)))
      · exact Or.inr (Or.inr (Or.inr (Or.inr h)))

instance : DecidableRel Clash := fun _ _ => decidable_of_iff _ clash_iff.symm

/-- The names of one class are distinct: they have different lengths. -/
theorem nodup_classNames (c : String) : (classNames c).Nodup := by
  refine List.Nodup.of_map String.length ?_
  have hlengths : (classNames c).map String.length
      = [c.length + 5, c.length, 3 + c.length, c.length + 6] := by
    simp only [classNames, List.map_cons, List.map_nil, String.length_append]
    rfl
  rw [hlengths]
  simp
  omega

/-- The names of the database and of classes are distinct exactly if no class is called like the
database and no two classes clash. -/
theorem nodup_database_classNames_iff (classes : List String) :
    (databaseName :: classes.flatMap classNames).Nodup ↔
      databaseName ∉ classes ∧ classes.Pairwise fun c d => ¬ Clash c d := by
  have hdatabase : ∀ c, databaseName ∈ classNames c ↔ databaseName = c := by
    intro c
    rw [mem_classNames_iff]
    refine or_iff_left ?_
    -- `Database` has none of the endings and does not start with `New`
    rintro (h | h | h) <;> have hrev := congrArg (fun s => s.toList.reverse) h
    · simp [databaseName] at hrev
    · have hlist := congrArg String.toList h
      simp [databaseName] at hlist
    · simp [databaseName] at hrev
  rw [List.nodup_cons, List.nodup_flatMap]
  refine and_congr ?_ ?_
  · simp only [List.mem_flatMap, hdatabase, exists_eq_right']
  · rw [and_iff_right fun c _ => nodup_classNames c]
    refine List.Pairwise.iff fun c d => ?_
    rw [clash_iff, not_exists]
    exact forall_congr' fun name => not_and.symm

/-! ## The names of a module -/

theorem exists_declaredNames (className : String → String) {tables : List TypedTable}
    (hnames : ∀ table ∈ tables, ∃ name, table.name = .text name) :
    ∃ declarations, assemble className tables = .ok declarations ∧
      declaredNames declarations =
        databaseName :: tables.flatMap fun table => classNames (className table.name.shown) := by
  obtain ⟨declarations, _, hassemble, _, hsplit⟩ := exists_assemble className hnames
  exact ⟨declarations, hassemble, declaredNames_of_split hsplit⟩

/-- Tables of different names can have classes of the same name. -/
theorem not_forall_nodup_declaredNames :
    ¬ ∀ tables declarations, (tables.map (·.name)).Nodup →
      assemble Naming.classify tables = .ok declarations → (declaredNames declarations).Nodup := by
  intro hall
  have hnames : ∀ table ∈ [({ name := "user" } : TypedTable), { name := "users" }],
      ∃ name, table.name = .text name := by
    simp
  obtain ⟨declarations, hassemble, hdeclared⟩ := exists_declaredNames Naming.classify hnames
  have hnodup := hall _ declarations (by decide) hassemble
  rw [hdeclared] at hnodup
  exact absurd hnodup (by decide +kernel)

/-- The names that a module declares are distinct exactly if no table has a class that is called
like the database and no two tables have classes that clash. -/
theorem nodup_declaredNames_assemble_iff {tables : List TypedTable}
    (hnames : ∀ table ∈ tables, ∃ name, table.name = .text name) :
    ∃ declarations, assemble Naming.classify tables = .ok declarations ∧
      ((declaredNames declarations).Nodup ↔
        "Database" ∉ classesOf tables ∧ (classesOf tables).Pairwise fun c d => ¬ Clash c d) := by
  obtain ⟨declarations, hassemble, hdeclared⟩ := exists_declaredNames Naming.classify hnames
  refine ⟨declarations, hassemble, ?_⟩
  have hclasses : tables.flatMap (fun table => classNames (Naming.classify table.name.shown))
      = (classesOf tables).flatMap classNames := by
    rw [classesOf, List.flatMap_map]
  rw [hdeclared, hclasses]
  exact nodup_database_classNames_iff (classesOf tables)

/-- The tables `user_roles` and `new_users` share no name; with `users` they would. -/
theorem nodup_declaredNames_user_roles_new_users :
    (∀ table ∈ [({ name := "user_roles" } : TypedTable), { name := "new_users" }],
      ∃ name, table.name = .text name) ∧
    ∃ declarations, assemble Naming.classify [{ name := "user_roles" }, { name := "new_users" }]
        = .ok declarations ∧ (declaredNames declarations).Nodup := by
  have hnames : ∀ table ∈ [({ name := "user_roles" } : TypedTable), { name := "new_users" }],
      ∃ name, table.name = .text name := by
    simp
  obtain ⟨declarations, hassemble, hiff⟩ := nodup_declaredNames_assemble_iff hnames
  exact ⟨hnames, declarations, hassemble, hiff.2 (by decide +kernel)⟩

end Assembly

end SchemaTypes
