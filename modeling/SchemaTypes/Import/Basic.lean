set_option autoImplicit false

/-! # Imports

What is imported from one module: at most a default import and any number of named bindings. A
default or a new name that is the empty text counts as none.
-/

namespace SchemaTypes

/-- A named import, possibly under a new name. -/
structure Binding where
  name : String
  renamed : Option String := none
  deriving DecidableEq, Repr

/-- A text that is there and not empty. -/
def isGiven : Option String → Bool
  | none => false
  | some s => s != ""

/-- What is imported from the module with the given specifier. -/
structure ModuleImport where
  specifier : String
  default : Option String := none
  bindings : List Binding := []
  deriving DecidableEq, Repr

namespace ModuleImport

/-- The import of one name of a module. -/
def named (specifier name : String) : ModuleImport := { specifier, bindings := [{ name }] }

end ModuleImport

end SchemaTypes
