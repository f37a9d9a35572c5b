import SchemaTypes.Proofs.Printer.Imports

set_option autoImplicit false

/-! # Reading a printed module back

In a module whose names are words, whose specifiers hold no quote and whose types stay on one line,
each declaration shows its content and its end, whatever is printed after it.

The main statement is `split_eq_of_print_eq`: modules with the same text have the same imports and,
but for the comments, which are not printed, the same other declarations.
-/

namespace SchemaTypes

open Text

/-- The names of a declaration are words, and its types stay on their lines. -/
def Declaration.IsLegible : Declaration → Prop
  | .moduleImport clause => clause.IsLegible
  | .typeAlias declaration => IsWord declaration.name ∧ IsLine declaration.type
  | .interface declaration =>
    IsWord declaration.name ∧ ∀ property ∈ declaration.properties, property.IsLegible IsWord
  | .foreign _ => False

instance : DecidablePred Declaration.IsLegible
  | .moduleImport clause => inferInstanceAs (Decidable clause.IsLegible)
  | .typeAlias _ => inferInstanceAs (Decidable (_ ∧ _))
  | .interface _ => inferInstanceAs (Decidable (_ ∧ _))
  | .foreign _ => inferInstanceAs (Decidable False)

/-- A declaration but for its comments. -/
def Declaration.withoutComments : Declaration → Declaration
  | .typeAlias declaration => .typeAlias { declaration with comment := none }
  | .interface declaration =>
    .interface { declaration with
      properties := declaration.properties.map Property.withoutComment, comment := none }
  | declaration => declaration

namespace PrinterOptions

variable (options : PrinterOptions)

/-! ## Interfaces and type aliases -/

theorem endsAtColon_isWord : EndsAtColon IsWord :=
  (endsAtColon_of_consists (by decide)).mono fun _ h => h.2

/-- The lines of an interface show its properties if a closing brace follows. -/
theorem separates_properties :
    Separates (listing options.printProperty) (List.map Property.withoutComment)
      (fun properties => ∀ property ∈ properties, property.IsLegible IsWord)
      (fun s => ∃ u, s = "\x7d\n" ++ u) := by
  refine (options.separates_property endsAtColon_isWord).join (fun _ _ _ => trivial)
    (fun _ _ => trivial) ?_
  -- neither an indent nor a word has a brace
  rintro property hproperty s t ⟨u, rfl⟩
  have hindent : Consists (· != '\x7d') options.indent := by
    intro c hc
    rw [indent, String.toList_ofList] at hc
    rw [List.eq_of_mem_replicate hc]
    cases options.indentStyle <;> rfl
  have hname : Consists (· != '\x7d') property.name := by
    intro c hc
    have hword := hproperty.1.2 c hc
    refine bne_iff_ne.2 ?_
    rintro rfl
    exact absurd hword (by decide)
  have hne : options.indent ++ property.name ≠ "" := by
    intro h
    exact hproperty.1.1 (String.append_eq_empty_iff.1 h).2
  have hstops : Stops (· != '\x7d') ("\x7d\n" ++ u) := Stops.append (by decide) (by decide) u
  rw [printProperty, String.append_assoc, String.append_assoc, String.append_assoc,
    String.append_assoc]
  exact hstops.ne_append (hindent.append hname) hne _

theorem printInterface_eq (declaration : Interface) :
    options.printInterface declaration = "export interface " ++ (declaration.name
      ++ (" \x7b\n" ++ (listing options.printProperty declaration.properties ++ "\x7d\n"))) := by
  unfold printInterface listing
  simp only [String.append_assoc]

theorem printTypeAlias_eq (declaration : TypeAlias) :
    options.printTypeAlias declaration = "export type " ++ (declaration.name
      ++ (" = " ++ (declaration.type ++ (options.terminator ++ "\n")))) := by
  unfold printTypeAlias
  simp only [String.append_assoc]

theorem separates_interface {declaration other : Interface} {s t : String}
    (h : (Declaration.interface declaration).IsLegible)
    (h' : (Declaration.interface other).IsLegible)
    (heq : options.printInterface declaration ++ s = options.printInterface other ++ t) :
    (Declaration.interface declaration).withoutComments
        = (Declaration.interface other).withoutComments ∧ s = t := by
  rw [printInterface_eq, printInterface_eq] at heq
  simp only [String.append_assoc, String.append_right_inj] at heq
  obtain ⟨hname, hbody⟩ := cut_eq h.1.2 h'.1.2 (Stops.append (by decide) (by decide) _)
    (Stops.append (by decide) (by decide) _) heq
  obtain ⟨hproperties, hend⟩ := options.separates_properties _ _ h.2 h'.2 _ _
    ⟨s, rfl⟩ ⟨t, rfl⟩ ((String.append_right_inj _).1 hbody)
  refine ⟨?_, (String.append_right_inj _).1 hend⟩
  rw [Declaration.withoutComments, Declaration.withoutComments, hname, hproperties]

theorem separates_typeAlias {declaration other : TypeAlias} {s t : String}
    (h : (Declaration.typeAlias declaration).IsLegible)
    (h' : (Declaration.typeAlias other).IsLegible)
    (heq : options.printTypeAlias declaration ++ s = options.printTypeAlias other ++ t) :
    (Declaration.typeAlias declaration).withoutComments
        = (Declaration.typeAlias other).withoutComments ∧ s = t := by
  rw [printTypeAlias_eq, printTypeAlias_eq] at heq
  simp only [String.append_assoc, String.append_right_inj] at heq
  obtain ⟨hname, htype⟩ := cut_eq h.1.2 h'.1.2 (Stops.append (by decide) (by decide) _)
    (Stops.append (by decide) (by decide) _) heq
  obtain ⟨htype, hend⟩ := options.separates_line h.2 h'.2 ((String.append_right_inj _).1 htype)
  exact ⟨by rw [Declaration.withoutComments, Declaration.withoutComments, hname, htype], hend⟩

/-- An interface and a type alias differ before their names. -/
theorem printInterface_ne_printTypeAlias (declaration : Interface) (other : TypeAlias)
    (s t : String) :
    options.printInterface declaration ++ s ≠ options.printTypeAlias other ++ t := by
  intro h
  rw [printInterface_eq, printTypeAlias_eq] at h
  simp only [String.append_assoc] at h
  have hchars := congrArg String.toList h
  simp at hchars

/-- A legible declaration that is printed after the imports. -/
def IsLegibleOther (d : Declaration) : Prop := d.IsLegible ∧ d.isImport = false

theorem IsLegibleOther.cases {d : Declaration} (h : IsLegibleOther d) :
    (∃ declaration, d = .typeAlias declaration) ∨ ∃ declaration, d = .interface declaration := by
  obtain ⟨hd, himport⟩ := h
  cases d with
  | moduleImport => cases himport
  | foreign => exact hd.elim
  | typeAlias declaration => exact Or.inl ⟨declaration, rfl⟩
  | interface declaration => exact Or.inr ⟨declaration, rfl⟩

theorem exists_otherText_eq {d : Declaration} (h : IsLegibleOther d) :
    ∃ rest, options.otherText d = "export " ++ rest := by
  have htype : ("export type " : String) = "export " ++ "type " := rfl
  have hinterface : ("export interface " : String) = "export " ++ "interface " := rfl
  obtain ⟨declaration, rfl⟩ | ⟨declaration, rfl⟩ := h.cases
  · rw [otherText, printTypeAlias_eq, htype]
    simp only [String.append_assoc]
    exact ⟨_, rfl⟩
  · rw [otherText, printInterface_eq, hinterface]
    simp only [String.append_assoc]
    exact ⟨_, rfl⟩

theorem separates_other :
    Separates options.otherText Declaration.withoutComments IsLegibleOther (fun _ => True) := by
  intro d e hd he s t _ _ h
  obtain ⟨declaration, rfl⟩ | ⟨declaration, rfl⟩ := hd.cases <;>
    obtain ⟨other, rfl⟩ | ⟨other, rfl⟩ := he.cases <;>
    rw [otherText, otherText, String.append_assoc, String.append_assoc] at h
  · obtain ⟨heq, hend⟩ := options.separates_typeAlias hd.1 he.1 h
    exact ⟨heq, (String.append_right_inj _).1 hend⟩
  · exact absurd h.symm (options.printInterface_ne_printTypeAlias other declaration _ _)
  · exact absurd h (options.printInterface_ne_printTypeAlias declaration other _ _)
  · obtain ⟨heq, hend⟩ := options.separates_interface hd.1 he.1 h
    exact ⟨heq, (String.append_right_inj _).1 hend⟩

/-! ## Modules -/

/-- The pieces of a legible module are legible. -/
theorem isLegible_of_split {declarations others : List Declaration} {clauses : List ModuleImport}
    (hsplit : Declaration.split declarations = (clauses, others))
    (h : ∀ d ∈ declarations, d.IsLegible) :
    (∀ clause ∈ clauses, clause.IsLegible) ∧ ∀ d ∈ others, IsLegibleOther d := by
  obtain ⟨rfl, rfl⟩ := Prod.mk.inj hsplit
  constructor
  · intro clause hclause
    obtain ⟨d, hd, himport⟩ := List.mem_filterMap.1 hclause
    cases d with
    | moduleImport =>
      cases himport
      exact h _ hd
    | _ => cases himport
  · intro d hd
    obtain ⟨hmem, hother⟩ := List.mem_filter.1 hd
    exact ⟨h d hmem, by simpa using hother⟩

theorem print_eq_of_isLegible {declarations others : List Declaration} {clauses : List ModuleImport}
    (hsplit : Declaration.split declarations = (clauses, others))
    (h : ∀ d ∈ declarations, d.IsLegible) :
    options.print declarations = .ok (listing options.printImport clauses
      ++ ((if clauses.isEmpty then "" else "\n") ++ listing options.otherText others)) := by
  have hforeign : ∀ d ∈ others, d.isForeign = false := by
    intro d hd
    obtain ⟨declaration, rfl⟩ | ⟨declaration, rfl⟩ :=
      ((isLegible_of_split hsplit h).2 d hd).cases <;> rfl
  rw [print_eq_ok hsplit hforeign, printImports, String.append_assoc]
  rfl

/-- What comes after the imports does not start like an import. -/
theorem stops_afterImports {others : List Declaration} (h : ∀ d ∈ others, IsLegibleOther d)
    (clauses : List ModuleImport) :
    Stops (· == 'i')
      ((if clauses.isEmpty then "" else "\n") ++ listing options.otherText others) := by
  split
  · rw [String.empty_append]
    cases others with
    | nil => exact fun c hc => by cases hc
    | cons d rest =>
      obtain ⟨text, htext⟩ := options.exists_otherText_eq (h d List.mem_cons_self)
      rw [listing_cons, htext, String.append_assoc]
      exact Stops.append (by decide) (by decide) _
  · exact Stops.append (by decide) (by decide) _

theorem separates_imports :
    Separates (listing options.printImport) (List.map id)
      (fun clauses => ∀ clause ∈ clauses, clause.IsLegible) (Stops (· == 'i')) := by
  refine options.separates_import.join (fun _ _ _ => trivial) (fun _ _ => trivial) ?_
  intro clause _ s t ht
  have himport : ("import type " : String) = "i" ++ "mport type " := rfl
  rw [printImport_eq, himport, String.append_assoc, String.append_assoc]
  exact ht.ne_append (by decide) (by decide) _

theorem separates_others :
    Separates (listing options.otherText) (List.map Declaration.withoutComments)
      (fun others => ∀ d ∈ others, IsLegibleOther d) (· = "") := by
  refine options.separates_other.join (fun _ _ _ => trivial) (fun _ _ => trivial) ?_
  rintro d hd s t rfl h
  obtain ⟨rest, hrest⟩ := options.exists_otherText_eq hd
  rw [hrest, String.append_assoc] at h
  exact absurd (String.append_eq_empty_iff.1 h).1 (by decide)

end PrinterOptions

/-- Two legible modules that are printed alike have the same imports and, comments apart, the same
other declarations, both in the same order. -/
theorem split_eq_of_print_eq (options : PrinterOptions) {declarations others : List Declaration}
    (h : ∀ d ∈ declarations, d.IsLegible) (h' : ∀ d ∈ others, d.IsLegible)
    (hprint : options.print declarations = options.print others) :
    declarations.filterMap Declaration.import? = others.filterMap Declaration.import? ∧
      (declarations.filter fun d => !d.isImport).map Declaration.withoutComments
        = (others.filter fun d => !d.isImport).map Declaration.withoutComments := by
  obtain ⟨clauses, ds, hsplit⟩ : ∃ clauses ds, Declaration.split declarations = (clauses, ds) :=
    ⟨_, _, rfl⟩
  obtain ⟨clauses', es, hsplit'⟩ : ∃ clauses es, Declaration.split others = (clauses, es) :=
    ⟨_, _, rfl⟩
  obtain ⟨hclauses, hds⟩ := PrinterOptions.isLegible_of_split hsplit h
  obtain ⟨hclauses', hes⟩ := PrinterOptions.isLegible_of_split hsplit' h'
  rw [options.print_eq_of_isLegible hsplit h, options.print_eq_of_isLegible hsplit' h',
    Except.ok.injEq] at hprint
  show (Declaration.split declarations).1 = (Declaration.split others).1 ∧
    (Declaration.split declarations).2.map _ = (Declaration.split others).2.map _
  rw [hsplit, hsplit']
  obtain ⟨heq, hrest⟩ := options.separates_imports clauses clauses' hclauses hclauses' _ _
    (options.stops_afterImports hds clauses) (options.stops_afterImports hes clauses') hprint
  rw [List.map_id, List.map_id] at heq
  subst heq
  have hothers := (String.append_right_inj _).1 hrest
  obtain ⟨hdeclarations, _⟩ := options.separates_others ds es hds hes "" "" rfl rfl
    (by rw [hothers])
  exact ⟨rfl, hdeclarations⟩

/-- An import with a default and a new name. -/
def decimalImport : ModuleImport where
  specifier := "decimal.js"
  default := some "Decimal"
  bindings := [{ name := "Numeric", renamed := some "DecimalNumeric" }]

/-- An interface whose types hold what ends types and interfaces elsewhere, with a comment or
without. -/
def bracesInterface (comment : Option String) : Interface where
  name := "PersonTable"
  properties :=
    [{ name := "id", type := "\x7b n: number; \x7d;", comment }, { name := "from", type := "\x7d" }]

/-- Two modules that differ in a comment and in where the import stands are printed alike, also
without indents and semicolons. -/
theorem split_eq_of_print_eq_decimal :
    ({ indentWidth := 0, semicolons := false } : PrinterOptions).print
        [.interface (bracesInterface (some "key")), .moduleImport decimalImport]
      = ({ indentWidth := 0, semicolons := false } : PrinterOptions).print
        [.moduleImport decimalImport, .interface (bracesInterface none)] ∧
    [.interface (bracesInterface (some "key")), .moduleImport decimalImport].filterMap
        Declaration.import?
      = [.moduleImport decimalImport, .interface (bracesInterface none)].filterMap
        Declaration.import? := by
  have hprint : ({ indentWidth := 0, semicolons := false } : PrinterOptions).print
      [.interface (bracesInterface (some "key")), .moduleImport decimalImport]
      = ({ indentWidth := 0, semicolons := false } : PrinterOptions).print
        [.moduleImport decimalImport, .interface (bracesInterface none)] := rfl
  exact ⟨hprint, (split_eq_of_print_eq _ (by decide +kernel) (by decide +kernel) hprint).1⟩

end SchemaTypes
