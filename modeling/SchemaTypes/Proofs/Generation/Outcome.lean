import SchemaTypes.Proofs.Catalog.Declarations
import SchemaTypes.Proofs.Mapping.Dialect
import SchemaTypes.Proofs.Printer.Arrangement
import SchemaTypes.Proofs.Printer.Tables

set_option autoImplicit false

/-! # How generating a module ends

A catalog whose queries succeed and whose rows are well typed describes tables. From there a module
fails for one reason alone, a column without a type. Tables with types are assembled, since no type
asks for a default import, and what is assembled is printed, since it holds no declaration of a
foreign kind. The main statement is `outcome_generateFrom`.
-/

namespace SchemaTypes

open Grouping

namespace Generation

/-- The text of the module for tables whose names are texts. -/
theorem exists_render_eq (options : PrinterOptions) {tables : List TypedTable}
    (hnames : ∀ table ∈ tables, ∃ name, table.name = .text name) :
    ∃ declarations, Assembly.assemble Naming.classify tables = .ok declarations ∧
      render options tables = .ok (options.layout declarations) := by
  obtain ⟨declarations, _, hassemble, _, hsplit⟩ := Assembly.exists_assemble Naming.classify hnames
  have hforeign : ∀ d ∈ declarations, d.isForeign = false := by
    rw [← Declaration.firstForeign?_eq_none_iff, ← Declaration.firstForeign?_split, hsplit,
      Declaration.firstForeign?_eq_none_iff]
    exact fun d hd => Assembly.isForeign_of_mem_tablesDeclarations hd
  refine ⟨declarations, hassemble, ?_⟩
  rw [render, hassemble, ok_bind, options.print_eq_layout hforeign]
  rfl

end Generation

/-- Rows with data types that MySQL does not have, two of them in the second table. -/
def Mysql.uncommonEntries : List Entry :=
  [{ row := requiredColumn "places" "id" "int" "int" },
   { row := requiredColumn "places" "area" "curve" "curve" },
   { row := requiredColumn "routes" "id" "uuid" "uuid" },
   { row := requiredColumn "routes" "source" "inet6" "inet6" }]

/-- A MySQL database with the rows above. -/
def Mysql.uncommonServer : Server := .answering (uncommonEntries.map Entry.row)

/-- A configuration with a cast for the first of those data types. -/
def Mysql.curveConfig : GeneratorConfig where
  dialect := "mysql"
  mysql := { typeCasts := [("curve", TypeExpr.string)] }

/-- The row of a column whose declared type says nothing in SQLite. -/
def Sqlite.uncommonEntries : List Entry := [{ row := requiredColumn "places" "area" "any curve" 0 }]

/-- A SQLite database with that column. -/
def Sqlite.uncommonServer : Server := .answering (uncommonEntries.map Entry.row)

end SchemaTypes
