import SchemaTypes.Proofs.Printer.Basic

set_option autoImplicit false

/-! # Arranging declarations

A module is printed unless it has a declaration of a foreign kind, and it is the first such
declaration that is reported: imports are told apart from the rest beforehand, and the rest is gone
through in its order (`mapM_printOther`). What is printed hangs on the order of the imports and on
that of the other declarations but not on how the two are mixed.

The main statement is `print_arrangement`.
-/

namespace SchemaTypes

open Text

namespace Declaration

/-! ## Imports among other declarations -/

/-- The last list is the imports mixed with the other declarations, both in their order. -/
inductive Interleaves : List ModuleImport → List Declaration → List Declaration → Prop where
  | nil : Interleaves [] [] []
  | moduleImport {clauses : List ModuleImport} {others mixed : List Declaration}
      (clause : ModuleImport)
      (h : Interleaves clauses others mixed) :
      Interleaves (clause :: clauses) others (.moduleImport clause :: mixed)
  | other {clauses : List ModuleImport} {others mixed : List Declaration}
      {declaration : Declaration}
      (hother : declaration.isImport = false) (h : Interleaves clauses others mixed) :
      Interleaves clauses (declaration :: others) (declaration :: mixed)

theorem split_cons_moduleImport (clause : ModuleImport) (declarations : List Declaration) :
    split (.moduleImport clause :: declarations)
      = (clause :: (split declarations).1, (split declarations).2) := rfl

theorem split_cons_other {declaration : Declaration} (h : declaration.isImport = false)
    (declarations : List Declaration) :
    split (declaration :: declarations)
      = ((split declarations).1, declaration :: (split declarations).2) := by
  have hnone : declaration.import? = none := by simpa [isImport] using h
  simp [split, hnone, h]

/-- Splitting undoes the mixing, however it was done. -/
theorem Interleaves.split_eq {clauses : List ModuleImport} {others mixed : List Declaration}
    (h : Interleaves clauses others mixed) : split mixed = (clauses, others) := by
  induction h with
  | nil => rfl
  | moduleImport clause _ ih => rw [split_cons_moduleImport, ih]
  | other hother _ ih => rw [split_cons_other hother, ih]

theorem mem_split {declaration : Declaration} {declarations : List Declaration}
    (h : declaration ∈ (split declarations).2) :
    declaration ∈ declarations ∧ declaration.isImport = false := by
  simpa [split] using h

theorem split_of_not_isImport {declarations : List Declaration}
    (h : ∀ d ∈ declarations, d.isImport = false) :
    split declarations = ([], declarations) := by
  induction declarations with
  | nil => rfl
  | cons declaration rest ih =>
    rw [List.forall_mem_cons] at h
    rw [split_cons_other h.1, ih h.2]

theorem filter_isImport (declarations : List Declaration) :
    declarations.filter isImport = (split declarations).1.map moduleImport := by
  induction declarations with
  | nil => rfl
  | cons declaration rest ih =>
    cases declaration with
    | moduleImport clause => exact congrArg _ ih
    | _ => exact ih

theorem any_isImport (declarations : List Declaration) :
    declarations.any isImport = !(split declarations).1.isEmpty := by
  induction declarations with
  | nil => rfl
  | cons declaration rest ih =>
    cases declaration with
    | moduleImport clause => rfl
    | _ => exact ih

/-! ## The first foreign declaration -/

def foreignKind? : Declaration → Option String
  | .foreign kind => some kind
  | _ => none

theorem foreignKind?_eq_some_iff {declaration : Declaration} {kind : String} :
    declaration.foreignKind? = some kind ↔ declaration = .foreign kind := by
  cases declaration <;> simp [foreignKind?]

theorem foreignKind?_eq_none_iff {declaration : Declaration} :
    declaration.foreignKind? = none ↔ declaration.isForeign = false := by
  cases declaration <;> simp [foreignKind?, isForeign]

/-- The kind of the first foreign declaration. -/
def firstForeign? (declarations : List Declaration) : Option String :=
  declarations.findSome? foreignKind?

theorem firstForeign?_eq_some_iff {declarations : List Declaration} {kind : String} :
    firstForeign? declarations = some kind ↔
      ∃ before after, declarations = before ++ .foreign kind :: after ∧
        ∀ d ∈ before, d.isForeign = false := by
  simp only [firstForeign?, List.findSome?_eq_some_iff, foreignKind?_eq_some_iff,
    foreignKind?_eq_none_iff]
  constructor
  · rintro ⟨before, _, after, hlist, rfl, hbefore⟩
    exact ⟨before, after, hlist, hbefore⟩
  · rintro ⟨before, after, hlist, hbefore⟩
    exact ⟨before, _, after, hlist, rfl, hbefore⟩

theorem firstForeign?_eq_none_iff {declarations : List Declaration} :
    firstForeign? declarations = none ↔ ∀ d ∈ declarations, d.isForeign = false := by
  simp only [firstForeign?, List.findSome?_eq_none_iff, foreignKind?_eq_none_iff]

/-- Taking the imports away leaves the same first foreign declaration. -/
theorem firstForeign?_split (declarations : List Declaration) :
    firstForeign? (split declarations).2 = firstForeign? declarations := by
  induction declarations with
  | nil => rfl
  | cons declaration rest ih =>
    cases himport : declaration.isImport with
    | true =>
      cases declaration with
      | moduleImport clause => exact ih
      | _ => cases himport
    | false =>
      rw [split_cons_other himport, firstForeign?, firstForeign?, List.findSome?_cons,
        List.findSome?_cons]
      rw [firstForeign?, firstForeign?] at ih
      rw [ih]

end Declaration

/-! ## Printing -/

namespace PrinterOptions

variable (options : PrinterOptions)

/-- The text of a declaration by itself. -/
def ownText : Declaration → String
  | .moduleImport clause => options.printImport clause
  | .typeAlias declaration => options.printTypeAlias declaration
  | .interface declaration => options.printInterface declaration
  | .foreign _ => ""

/-- The texts of the imports with a line break after them if there are any, and those of all other
declarations with a line break after each. -/
def layout (declarations : List Declaration) : String :=
  listing options.ownText (declarations.filter Declaration.isImport)
    ++ (if declarations.any Declaration.isImport then "\n" else "")
    ++ listing (fun declaration => options.ownText declaration ++ "\n")
      (declarations.filter fun declaration => !declaration.isImport)

/-- Declarations are printed one after the other, up to the first one of a foreign kind. -/
theorem mapM_printOther (others : List Declaration) :
    others.mapM options.printOther = match Declaration.firstForeign? others with
      | some kind => .error (.unknownDeclarationKind kind)
      | none => .ok (others.map options.otherText) := by
  induction others with
  | nil => rfl
  | cons declaration rest ih =>
    rw [List.mapM_cons, ih, Declaration.firstForeign?, Declaration.firstForeign?,
      List.findSome?_cons]
    cases declaration with
    | foreign kind => rfl
    | moduleImport clause => cases rest.findSome? Declaration.foreignKind? <;> rfl
    | typeAlias declaration => cases rest.findSome? Declaration.foreignKind? <;> rfl
    | interface declaration => cases rest.findSome? Declaration.foreignKind? <;> rfl

/-- The outcome of printing, by the first foreign declaration. -/
theorem print_eq (declarations : List Declaration) :
    options.print declarations = match Declaration.firstForeign? declarations with
      | some kind => .error (.unknownDeclarationKind kind)
      | none => .ok (options.printImports (Declaration.split declarations).1
          ++ listing options.otherText (Declaration.split declarations).2) := by
  rw [print]
  show ((Declaration.split declarations).2.mapM options.printOther >>= _) = _
  rw [mapM_printOther, Declaration.firstForeign?_split]
  cases Declaration.firstForeign? declarations <;> rfl

theorem otherText_eq {declaration : Declaration} (himport : declaration.isImport = false)
    (hforeign : declaration.isForeign = false) :
    options.otherText declaration = options.ownText declaration ++ "\n" := by
  cases declaration with
  | moduleImport clause => cases himport
  | foreign kind => cases hforeign
  | _ => rfl

/-- What is printed for a module, told by the declarations themselves. -/
theorem layout_eq {declarations : List Declaration} (h : ∀ d ∈ declarations, d.isForeign = false) :
    options.layout declarations = options.printImports (Declaration.split declarations).1
      ++ listing options.otherText (Declaration.split declarations).2 := by
  have hothers : listing options.otherText (Declaration.split declarations).2
      = listing (fun declaration => options.ownText declaration ++ "\n")
        (declarations.filter fun declaration => !declaration.isImport) := by
    refine congrArg String.join (List.map_congr_left fun declaration hmem => ?_)
    obtain ⟨hmem, himport⟩ := Declaration.mem_split hmem
    exact options.otherText_eq himport (h declaration hmem)
  rw [layout, ← hothers, Declaration.filter_isImport, Declaration.any_isImport, listing_map,
    printImports]
  cases (Declaration.split declarations).1 <;> rfl

/-- Without a foreign declaration the whole module is printed. -/
theorem print_eq_layout {declarations : List Declaration}
    (h : ∀ d ∈ declarations, d.isForeign = false) :
    options.print declarations = .ok (options.layout declarations) := by
  rw [print_eq, Declaration.firstForeign?_eq_none_iff.2 h, options.layout_eq h]

/-- Declarations after others are printed after them. -/
theorem print_append {first second : List Declaration} (hfirst : ∀ d ∈ first, d.isImport = false)
    (hsecond : ∀ d ∈ second, d.isImport = false) :
    options.print (first ++ second)
      = (do return (← options.print first) ++ (← options.print second)) := by
  have hboth : ∀ d ∈ first ++ second, d.isImport = false :=
    List.forall_mem_append.2 ⟨hfirst, hsecond⟩
  rw [print_eq, print_eq, print_eq, Declaration.split_of_not_isImport hfirst,
    Declaration.split_of_not_isImport hsecond, Declaration.split_of_not_isImport hboth,
    Declaration.firstForeign?, List.findSome?_append, ← Declaration.firstForeign?,
      ← Declaration.firstForeign?]
  cases Declaration.firstForeign? first with
  | some kind => rfl
  | none =>
    cases Declaration.firstForeign? second with
    | some kind => rfl
    | none =>
      have hnone : options.printImports [] = "" := rfl
      simp [ok_bind, hnone, listing, String.join_append]

end PrinterOptions

/-- Printing fails exactly where a declaration is foreign, and reports the first one. Otherwise the
imports come first, with an empty line after them if there are any, and then all others, each with
an empty line after it. How imports are mixed with other declarations is not seen, and declarations
without imports are printed one after the other. -/
theorem print_arrangement (options : PrinterOptions) :
    (∀ declarations error, options.print declarations = .error error ↔
      ∃ before kind after, declarations = before ++ .foreign kind :: after ∧
        (∀ d ∈ before, d.isForeign = false) ∧ error = .unknownDeclarationKind kind) ∧
    (∀ declarations, (∀ d ∈ declarations, d.isForeign = false) →
      options.print declarations = .ok (options.layout declarations)) ∧
    (∀ clauses others mixed mixed', Declaration.Interleaves clauses others mixed →
      Declaration.Interleaves clauses others mixed' → options.print mixed = options.print mixed') ∧
    ∀ first second, (∀ d ∈ first, d.isImport = false) → (∀ d ∈ second, d.isImport = false) →
      options.print (first ++ second)
        = do return (← options.print first) ++ (← options.print second) := by
  refine ⟨fun declarations error => ?_, fun declarations => options.print_eq_layout,
    fun clauses others mixed mixed' h h' => ?_, fun first second => options.print_append⟩
  · rw [options.print_eq]
    constructor
    · intro h
      cases hforeign : Declaration.firstForeign? declarations with
      | none =>
        rw [hforeign] at h
        cases h
      | some kind =>
        rw [hforeign] at h
        obtain ⟨before, after, hlist, hbefore⟩ := Declaration.firstForeign?_eq_some_iff.1 hforeign
        exact ⟨before, kind, after, hlist, hbefore, (Except.error.inj h).symm⟩
    · rintro ⟨before, kind, after, hlist, hbefore, rfl⟩
      rw [Declaration.firstForeign?_eq_some_iff.2 ⟨before, after, hlist, hbefore⟩]
  · -- what is printed is found from the two parts alone
    rw [PrinterOptions.print, h.split_eq, PrinterOptions.print, h'.split_eq]

/-- The import of one name. -/
def generatedImport : ModuleImport := .named "kysely" "Generated"

/-- A type with a name of its own. -/
def idAlias : Declaration := .typeAlias { name := "Id", type := "number" }

open Declaration in
/-- An import behind a foreign declaration and one behind a type; foreign declarations in both of
two lists. -/
theorem print_arrangement_mixed :
    ({} : PrinterOptions).print
        [idAlias, .foreign "enum", .moduleImport generatedImport, .foreign "class"]
      = .error (.unknownDeclarationKind "enum") ∧
    (∀ d ∈ [idAlias, .moduleImport generatedImport], d.isForeign = false) ∧
    ({} : PrinterOptions).print [idAlias, .moduleImport generatedImport]
      = .ok "import type \x7b Generated \x7d from \"kysely\";\n\nexport type Id = number;\n\n" ∧
    Interleaves [generatedImport] [idAlias] [idAlias, .moduleImport generatedImport] ∧
    Interleaves [generatedImport] [idAlias] [.moduleImport generatedImport, idAlias] ∧
    ({} : PrinterOptions).print [idAlias, .moduleImport generatedImport]
      = ({} : PrinterOptions).print [.moduleImport generatedImport, idAlias] ∧
    (∀ d ∈ [idAlias, .foreign "enum"], d.isImport = false) ∧
    (∀ d ∈ [foreign "class"], d.isImport = false) ∧
    ({} : PrinterOptions).print ([idAlias, .foreign "enum"] ++ [.foreign "class"])
      = .error (.unknownDeclarationKind "enum") := by
  obtain ⟨hfails, hprints, hmixed, happend⟩ := print_arrangement {}
  have hforeign : ∀ d ∈ [idAlias, .moduleImport generatedImport], d.isForeign = false := by decide
  have hbehind : Interleaves [generatedImport] [idAlias] [idAlias, .moduleImport generatedImport] :=
    .other rfl (.moduleImport _ .nil)
  have hbefore : Interleaves [generatedImport] [idAlias] [.moduleImport generatedImport, idAlias] :=
    .moduleImport _ (.other rfl .nil)
  have hfirst : ∀ d ∈ [idAlias, .foreign "enum"], d.isImport = false := by decide
  have hsecond : ∀ d ∈ [foreign "class"], d.isImport = false := by decide
  refine ⟨(hfails _ _).2 ⟨[idAlias], "enum", _, rfl, by decide, rfl⟩, hforeign, ?_, hbehind,
    hbefore, hmixed _ _ _ _ hbehind hbefore, hfirst, hsecond,
    (happend _ _ hfirst hsecond).trans rfl⟩
  rw [hprints _ hforeign]
  decide +kernel

end SchemaTypes
