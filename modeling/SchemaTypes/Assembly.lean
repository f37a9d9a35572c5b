import SchemaTypes.Catalog.Row
import SchemaTypes.Declaration
import SchemaTypes.Import.Collection
import SchemaTypes.Naming.Pascal
import SchemaTypes.TypeExpr.Imports
import SchemaTypes.TypedTable

set_option autoImplicit false

/-! # Assembling a module

The declarations of a module from its tables: the imports, the interface of the database, and four
declarations for every table, which are its interface and the types of a row that is selected,
inserted or updated.
-/

namespace SchemaTypes.Assembly

/-- The name of the interface that lists the tables. -/
def databaseName : String := "Database"

/-- The name of the interface of a class. -/
def tableTypeName (className : String) : String := className ++ "Table"

/-- The operations on rows, each with Kysely's type for them and the name of the alias. -/
def rowTypes (className : String) : List (String × String) :=
  [("Selectable", className), ("Insertable", "New" ++ className),
   ("Updateable", className ++ "Update")]

/-- The comment that a catalog gives, as a text. -/
def commentText (comment : Cell) : Option String :=
  if comment = .null then none else some comment.shown

/-- The property of a column in the interface of its table. -/
def columnProperty (column : TypedColumn) : Property :=
  { name := column.name.shown, type := column.type.text, comment := commentText column.comment }

/-- The interface of a table. -/
def tableInterface (className : String) (table : TypedTable) : Interface :=
  { name := tableTypeName className
    properties := table.columns.map columnProperty
    comment := commentText table.comment }

/-- The four declarations of a table. -/
def tableDeclarations (className : String → String) (table : TypedTable) : List Declaration :=
  let name := className table.name.shown
  .interface (tableInterface name table) :: (rowTypes name).map fun (operation, aliasName) =>
    .typeAlias { name := aliasName, type := TypeExpr.applied operation [tableTypeName name] }

/-- The interface of the database, with a property for each table. -/
def databaseInterface (className : String → String) (tables : List TypedTable) : Interface :=
  { name := databaseName
    properties := tables.map fun table =>
      { name := table.name.shown, type := tableTypeName (className table.name.shown) } }

/-- What the declarations of a table need: the imports of its columns' types and the types of
rows. -/
def tableImports (table : TypedTable) : List ModuleImport :=
  table.columns.flatMap (·.type.imports)
    ++ (rowTypes "").map fun (operation, _) => TypeExpr.kysely operation

/-- The imports of a module, collected. -/
def collectImports (tables : List TypedTable) : ImportCollection × Option GeneratorError :=
  ImportCollection.empty.add (tables.flatMap tableImports)

/-- The declarations of a module. Classes are named after tables, whose names have to be texts. -/
def assemble (className : String → String) (tables : List TypedTable) :
    Except Failure (List Declaration) := do
  let _ ← tables.mapM fun table => table.name.asText
  match collectImports tables with
  | (_, some e) => .error (.generator e)
  | (imports, none) =>
    return imports.values.map Declaration.moduleImport
      ++ .interface (databaseInterface className tables)
      :: tables.flatMap (tableDeclarations className)

end SchemaTypes.Assembly
