import SchemaTypes.Declaration
import SchemaTypes.GeneratorError

set_option autoImplicit false

/-! # Printing a module

Imports come first, one a line, and an empty line after them; every other declaration follows in its
order with an empty line after each.
-/

namespace SchemaTypes

inductive IndentStyle where
  | tab
  | space
  deriving DecidableEq, Repr

/-- How a module is laid out. -/
structure PrinterOptions where
  indentStyle : IndentStyle := .space
  /-- Number of tabs or spaces in front of a property. -/
  indentWidth : Nat := 2
  semicolons : Bool := true
  deriving DecidableEq, Repr

namespace Binding

def text (binding : Binding) : String :=
  match binding.renamed with
  | some renamed => if renamed = "" then binding.name else binding.name ++ " as " ++ renamed
  | none => binding.name

end Binding

namespace PrinterOptions

/-- What stands in front of a property. -/
def indent (options : PrinterOptions) : String :=
  String.ofList (List.replicate options.indentWidth
    (match options.indentStyle with | .tab => '\t' | .space => ' '))

/-- What ends a statement. -/
def terminator (options : PrinterOptions) : String := if options.semicolons then ";" else ""

/-- The default import of a clause; none if it is the empty text. -/
def defaultText (clause : ModuleImport) : String := clause.default.getD ""

/-- The bindings between braces; nothing if there are none. -/
def bindingsText (bindings : List Binding) : String :=
  if bindings.isEmpty then ""
  else "\x7b " ++ String.intercalate ", " (bindings.map Binding.text) ++ " \x7d"

def printImport (options : PrinterOptions) (clause : ModuleImport) : String :=
  let comma := if isGiven clause.default && !clause.bindings.isEmpty then ", " else ""
  "import type " ++ defaultText clause ++ comma ++ bindingsText clause.bindings
    ++ " from \"" ++ clause.specifier ++ "\"" ++ options.terminator ++ "\n"

def printTypeAlias (options : PrinterOptions) (declaration : TypeAlias) : String :=
  "export type " ++ declaration.name ++ " = " ++ declaration.type ++ options.terminator ++ "\n"

def printProperty (options : PrinterOptions) (property : Property) : String :=
  options.indent ++ property.name ++ ": " ++ property.type ++ options.terminator ++ "\n"

def printInterface (options : PrinterOptions) (declaration : Interface) : String :=
  "export interface " ++ declaration.name ++ " \x7b\n"
    ++ String.join (declaration.properties.map options.printProperty) ++ "\x7d\n"

/-- A declaration that is no import, with an empty line after it. -/
def printOther (options : PrinterOptions) : Declaration → Except GeneratorError String
  | .moduleImport clause => .ok (options.printImport clause)
  | .typeAlias declaration => .ok (options.printTypeAlias declaration ++ "\n")
  | .interface declaration => .ok (options.printInterface declaration ++ "\n")
  | .foreign kind => .error (.unknownDeclarationKind kind)

/-- The imports of a module, with an empty line after them if there are any. -/
def printImports (options : PrinterOptions) (clauses : List ModuleImport) : String :=
  String.join (clauses.map options.printImport) ++ (if clauses.isEmpty then "" else "\n")

/-- The text of a module. -/
def print (options : PrinterOptions) (declarations : List Declaration) :
    Except GeneratorError String := do
  let (imports, others) := Declaration.split declarations
  let texts ← others.mapM options.printOther
  return options.printImports imports ++ String.join texts

end PrinterOptions

end SchemaTypes
