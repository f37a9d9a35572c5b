import SchemaTypes.Proofs.Assembly.Imports
import SchemaTypes.Proofs.Printer.Basic

set_option autoImplicit false

/-! # What is printed for tables

A module that is assembled from tables is printed as its imports, a block for the database with a
line for each table, and for each table a block with a line for each column and the types of its
rows. The main statement is `exists_print_assemble`.
-/

namespace SchemaTypes

open Text

theorem Assembly.isForeign_of_mem_tablesDeclarations {className : String → String}
    {tables : List TypedTable} {d : Declaration} (h : d ∈ tablesDeclarations className tables) :
    d.isForeign = false := by
  rcases cases_of_mem_tablesDeclarations h with ⟨declaration, rfl⟩ | ⟨declaration, rfl⟩ <;> rfl

namespace PrinterOptions

variable (options : PrinterOptions)

/-- The line of a table in the interface of the database. -/
def tableLine (className : String → String) (table : TypedTable) : String :=
  options.printProperty
    { name := table.name.shown, type := Assembly.tableTypeName (className table.name.shown) }

/-- The line of a column in the interface of its table. -/
def columnLine (column : TypedColumn) : String :=
  options.printProperty (Assembly.columnProperty column)

/-- The lines of the columns of a table. -/
def body (table : TypedTable) : String := listing options.columnLine table.columns

/-- An interface with the given lines and an empty line after it. -/
def block (name lines : String) : String :=
  "export interface " ++ name ++ " \x7b\n" ++ lines ++ "\x7d\n\n"

/-- The types of rows of a table, each with an empty line after it. -/
def rowTypesText (className : String → String) (table : TypedTable) : String :=
  let name := className table.name.shown
  listing (fun (operation, aliasName) => options.printTypeAlias
    { name := aliasName, type := TypeExpr.applied operation [Assembly.tableTypeName name] } ++ "\n")
    (Assembly.rowTypes name)

/-- What is printed for a table. -/
def tableText (className : String → String) (table : TypedTable) : String :=
  block (Assembly.tableTypeName (className table.name.shown)) (options.body table)
    ++ options.rowTypesText className table

theorem otherText_interface (name : String) (properties : List Property) (comment : Option String) :
    options.otherText (.interface { name, properties, comment })
      = block name (listing options.printProperty properties) := by
  have hend : ("\x7d\n\n" : String) = "\x7d\n" ++ "\n" := rfl
  unfold otherText printInterface block listing
  simp only [String.append_assoc, hend]

theorem listing_tableDeclarations (className : String → String) (table : TypedTable) :
    listing options.otherText (Assembly.tableDeclarations className table)
      = options.tableText className table := by
  rw [Assembly.tableDeclarations, listing_cons, Assembly.tableInterface, otherText_interface,
    listing_map, listing_map]
  rfl

/-- What is printed for the tables of a module. -/
theorem listing_tablesDeclarations (className : String → String) (tables : List TypedTable) :
    listing options.otherText (Assembly.tablesDeclarations className tables)
      = block Assembly.databaseName (listing (options.tableLine className) tables)
        ++ listing (options.tableText className) tables := by
  have htables : listing options.otherText (tables.flatMap (Assembly.tableDeclarations className))
      = listing (options.tableText className) tables := by
    rw [listing_flatMap]
    exact congrArg (listing · tables) (funext (options.listing_tableDeclarations className))
  rw [Assembly.tablesDeclarations, listing_cons, htables, Assembly.databaseInterface,
    otherText_interface, listing_map]
  rfl

/-- The text of a module that is assembled from tables whose names are texts. -/
theorem exists_print_assemble (className : String → String) {tables : List TypedTable}
    (hnames : ∀ table ∈ tables, ∃ name, table.name = .text name) :
    ∃ declarations clauses, Assembly.assemble className tables = .ok declarations ∧
      options.print declarations = .ok (options.printImports clauses
        ++ (block "Database" (listing (options.tableLine className) tables)
          ++ listing (options.tableText className) tables)) := by
  obtain ⟨declarations, c, hassemble, _, hsplit⟩ := Assembly.exists_assemble className hnames
  refine ⟨declarations, c.values, hassemble, ?_⟩
  rw [print_eq_ok hsplit fun _ => Assembly.isForeign_of_mem_tablesDeclarations,
    listing_tablesDeclarations]
  rfl

end PrinterOptions

end SchemaTypes
