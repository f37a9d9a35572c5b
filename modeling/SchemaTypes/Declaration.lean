import SchemaTypes.Import.Basic

set_option autoImplicit false

/-! # Declarations

The top-level declarations of a TypeScript module of types. The set of kinds is closed for the
printer; a declaration of another kind can be in a list of declarations and is refused when it gets
printed.
-/

namespace SchemaTypes

/-- A property of an interface, its type being a text. -/
structure Property where
  name : String
  type : String
  comment : Option String := none
  deriving DecidableEq, Repr

/-- `export type Name = Type` -/
structure TypeAlias where
  name : String
  type : String
  comment : Option String := none
  deriving DecidableEq, Repr

/-- `export interface Name { … }` -/
structure Interface where
  name : String
  properties : List Property := []
  comment : Option String := none
  deriving DecidableEq, Repr

/-- A declaration at the top level of a module. -/
inductive Declaration where
  | moduleImport (clause : ModuleImport)
  | typeAlias (declaration : TypeAlias)
  | interface (declaration : Interface)
  /-- A declaration of a kind that no module has, told by the text by which the kind is reported. A
  kind that is given as a plain text is none of these if it is the text `type` or `interface`. -/
  | foreign (kind : String)
  deriving DecidableEq, Repr

namespace Declaration

def import? : Declaration → Option ModuleImport
  | .moduleImport clause => some clause
  | _ => none

def isImport (declaration : Declaration) : Bool := declaration.import?.isSome

/-- The import declarations and the other ones, both in their order. -/
def split (declarations : List Declaration) : List ModuleImport × List Declaration :=
  (declarations.filterMap import?, declarations.filter fun d => !d.isImport)

end Declaration

end SchemaTypes
