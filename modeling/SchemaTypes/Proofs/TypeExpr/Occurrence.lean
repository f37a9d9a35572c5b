import SchemaTypes.TypeExpr.Imports

set_option autoImplicit false

/-! # Occurrences in a type

The text of a type is put together from the texts of its parts: the element of an array, the members
of a compound, the parameters of a wrapper with its gaps filled. A type occurs in another one if it
is reached by going from a type to a part of it any number of times.

The main statement is `named_mem_imports_iff`: the imports of a type ask for exactly the names that
occurrences of imported types and of wrappers in it stand for.
-/

namespace SchemaTypes.TypeExpr

/-- The types whose texts stand in the text of a type. -/
def parts : TypeExpr → List TypeExpr
  | .array element => [element]
  | .compound _ members => members
  | t => t.parameters

/-- `t` is written somewhere in `u`, at any depth. -/
inductive Occurs (t : TypeExpr) : TypeExpr → Prop
  | whole : Occurs t t
  | inside {part u : TypeExpr} (hpart : part ∈ u.parts) (h : Occurs t part) : Occurs t u

/-- What a type needs to have imported by itself, whatever its parts need. -/
def ownImport? : TypeExpr → Option ModuleImport
  | .imported name specifier => some (.named specifier name)
  | t => t.wrapperName?.map kysely

/-- The name has to be imported from the module for the type to be written: it is the name of an
imported type or of a wrapper that occurs in it. -/
def Requires (t : TypeExpr) (specifier name : String) : Prop :=
  Occurs (.imported name specifier) t ∨
    specifier = kyselyModule ∧ ∃ u, Occurs u t ∧ u.wrapperName? = some name

/-! ## Induction over the parts -/

/-- The parameters of a wrapper are its default and what it was given. -/
theorem mem_wrapperParameters {α : Type} {default first a : α} {second third : Option α}
    (h : a ∈ wrapperParameters default first second third) :
    a = default ∨ a = first ∨ a ∈ second ∨ a ∈ third := by
  cases second <;> cases third <;> simp [wrapperParameters] at h <;> grind

section Induction

variable {motive : TypeExpr → Prop}

mutual

/-- Induction over the parts of a type. A part need not be a subterm: the default of a wrapper fills
its gaps, which is the select type or `string`. -/
theorem parts_induction (step : ∀ t, (∀ u ∈ t.parts, motive u) → motive t) : ∀ t, motive t
  | .primitive _ => step _ fun _ hu => by cases hu
  | .stringLiteral _ => step _ fun _ hu => by cases hu
  | .numericLiteral _ => step _ fun _ hu => by cases hu
  | .imported _ _ => step _ fun _ hu => by cases hu
  | .array element => step _ fun u hu => by
      rw [List.mem_singleton.1 hu]
      exact parts_induction step element
  | .compound _ members => step _ fun u hu => parts_induction_list step members u hu
  | .columnType select insert update => step _ fun u hu => by
      rcases mem_wrapperParameters hu with h | h | h | h
      · rw [h]; exact parts_induction step select
      · rw [h]; exact parts_induction step select
      · exact parts_induction_option step insert u h
      · exact parts_induction_option step update u h
  | .jsonColumnType select insert update => step _ fun u hu => by
      rcases mem_wrapperParameters hu with h | h | h | h
      · -- the default is no subterm but has no parts either
        rw [h]
        exact step _ fun _ hv => by cases hv
      · rw [h]; exact parts_induction step select
      · exact parts_induction_option step insert u h
      · exact parts_induction_option step update u h
  | .generated select => step _ fun u hu => by
      rw [List.mem_singleton.1 hu]
      exact parts_induction step select
  | .generatedAlways select => step _ fun u hu => by
      rw [List.mem_singleton.1 hu]
      exact parts_induction step select

private theorem parts_induction_list (step : ∀ t, (∀ u ∈ t.parts, motive u) → motive t) :
    ∀ ts : List TypeExpr, ∀ u ∈ ts, motive u
  | [], _, hu => by cases hu
  | t :: rest, u, hu => by
      rcases List.mem_cons.1 hu with h | h
      · rw [h]; exact parts_induction step t
      · exact parts_induction_list step rest u h

private theorem parts_induction_option (step : ∀ t, (∀ u ∈ t.parts, motive u) → motive t) :
    ∀ o : Option TypeExpr, ∀ u ∈ o, motive u
  | none, _, hu => by cases hu
  | some t, u, hu => by
      rw [← Option.mem_some.1 hu]
      exact parts_induction step t

end

end Induction

/-! ## Imports -/

/-- Each type has the imports of its parts and its own. -/
theorem imports_eq (t : TypeExpr) :
    t.imports = t.parts.flatMap imports ++ t.ownImport?.toList := by
  cases t with
  | primitive _ => rfl
  | stringLiteral _ => rfl
  | numericLiteral _ => rfl
  | imported _ _ => rfl
  | array element => simp [imports, parts, ownImport?, wrapperName?]
  | compound _ members =>
    simp [imports, parts, ownImport?, wrapperName?, importLists_eq_map, List.flatMap_def]
  | columnType _ _ _ => exact imports_of_wrapperName? rfl
  | jsonColumnType _ _ _ => exact imports_of_wrapperName? rfl
  | generated _ => exact imports_of_wrapperName? rfl
  | generatedAlways _ => exact imports_of_wrapperName? rfl

theorem mem_imports_iff {request : ModuleImport} {t : TypeExpr} :
    request ∈ t.imports ↔ ∃ u, Occurs u t ∧ u.ownImport? = some request := by
  induction t using parts_induction with
  | step t ih =>
    rw [imports_eq, List.mem_append, List.mem_flatMap, Option.mem_toList]
    constructor
    · rintro (⟨part, hpart, hmem⟩ | hown)
      · obtain ⟨u, hu, hrequest⟩ := (ih part hpart).1 hmem
        exact ⟨u, .inside hpart hu, hrequest⟩
      · exact ⟨t, .whole, hown⟩
    · rintro ⟨u, hu, hrequest⟩
      cases hu with
      | whole => exact Or.inr hrequest
      | inside hpart hu => exact Or.inl ⟨_, hpart, (ih _ hpart).2 ⟨u, hu, hrequest⟩⟩

/-- Types only ask for single names. -/
theorem exists_named_of_mem_imports {request : ModuleImport} {t : TypeExpr}
    (h : request ∈ t.imports) : ∃ specifier name, request = .named specifier name := by
  obtain ⟨u, _, hu⟩ := mem_imports_iff.1 h
  cases u <;> simp only [ownImport?, wrapperName?, Option.map_some, Option.map_none, kysely,
    Option.some.injEq, reduceCtorEq] at hu <;> exact ⟨_, _, hu.symm⟩

theorem ownImport?_eq_named_iff {u : TypeExpr} {specifier name : String} :
    u.ownImport? = some (.named specifier name) ↔
      u = .imported name specifier ∨ specifier = kyselyModule ∧ u.wrapperName? = some name := by
  cases u <;> simp [ownImport?, wrapperName?, kysely, ModuleImport.named] <;> grind

/-- The imports of a type ask for the names that it requires, and for nothing else. -/
theorem named_mem_imports_iff {t : TypeExpr} {specifier name : String} :
    .named specifier name ∈ t.imports ↔ t.Requires specifier name := by
  rw [mem_imports_iff]
  simp only [ownImport?_eq_named_iff]
  constructor
  · rintro ⟨u, hu, rfl | ⟨hspecifier, hname⟩⟩
    · exact Or.inl hu
    · exact Or.inr ⟨hspecifier, u, hu, hname⟩
  · rintro (hu | ⟨hspecifier, u, hu, hname⟩)
    · exact ⟨_, hu, Or.inl rfl⟩
    · exact ⟨u, hu, Or.inr ⟨hspecifier, hname⟩⟩

end SchemaTypes.TypeExpr
