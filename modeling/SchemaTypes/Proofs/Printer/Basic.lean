import SchemaTypes.Printer
import SchemaTypes.Proofs.Outcome
import SchemaTypes.Proofs.Text.Cutting

set_option autoImplicit false

/-! # Which declarations are printed

Every declaration but a foreign one has a text, so a module without foreign declarations is printed:
the texts of its imports come first, then those of its other declarations (`print_eq_ok`).
-/

namespace SchemaTypes

namespace Declaration

/-- The declaration is of a kind that no module has. -/
def isForeign : Declaration → Bool
  | .foreign _ => true
  | _ => false

end Declaration

namespace PrinterOptions

variable {options : PrinterOptions}

/-- The text of a module is that of its imports with those of the other declarations after it. -/
theorem print_eq_of_split {declarations others : List Declaration} {clauses : List ModuleImport}
    {texts : List String} (hsplit : Declaration.split declarations = (clauses, others))
    (htexts : others.mapM options.printOther = .ok texts) :
    options.print declarations = .ok (options.printImports clauses ++ String.join texts) := by
  rw [print, hsplit]
  show (others.mapM options.printOther >>= _) = _
  rw [htexts]
  rfl

/-- The text of a declaration that is printed. -/
def otherText (options : PrinterOptions) : Declaration → String
  | .moduleImport clause => options.printImport clause
  | .typeAlias declaration => options.printTypeAlias declaration ++ "\n"
  | .interface declaration => options.printInterface declaration ++ "\n"
  | .foreign _ => ""

theorem printOther_eq_ok {declaration : Declaration} (h : declaration.isForeign = false) :
    options.printOther declaration = .ok (options.otherText declaration) := by
  cases declaration with
  | foreign kind => cases h
  | _ => rfl

/-- The whole text of a module. -/
theorem print_eq_ok {declarations others : List Declaration} {clauses : List ModuleImport}
    (hsplit : Declaration.split declarations = (clauses, others))
    (h : ∀ declaration ∈ others, declaration.isForeign = false) :
    options.print declarations
      = .ok (options.printImports clauses ++ Text.listing options.otherText others) :=
  print_eq_of_split hsplit (mapM_eq_ok fun declaration hmem =>
    printOther_eq_ok (h declaration hmem))

end PrinterOptions

end SchemaTypes
