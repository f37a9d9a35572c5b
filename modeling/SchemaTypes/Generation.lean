import SchemaTypes.Assembly
import SchemaTypes.Dialect
import SchemaTypes.Printer
import SchemaTypes.Settings

set_option autoImplicit false

/-! # Generating a module

From the catalog of a database to the text of a module. Everything that can be checked beforehand is
checked before the database is opened, and a database that was opened gets closed.
-/

namespace SchemaTypes

/-- What surrounds a run: the files, the working directory, the settings and the database. -/
structure World where
  files : FileTree
  directory : Path
  settings : Settings
  server : Server

namespace Generation

/-- The tables of a database with the types of their columns. -/
def collect (dialect : Dialect) (config : GeneratorConfig) (client : Client) :
    Session (List TypedTable) := do
  let tables ← dialect.tables client
  Session.ofExcept ((dialect.columnRules config).mapTables tables)

/-- The text of the module for some tables. -/
def render (options : PrinterOptions) (tables : List TypedTable) : Except Failure String := do
  let declarations ← Assembly.assemble Naming.classify tables
  (options.print declarations).mapError Failure.generator

/-- The text of the module for a database that has been opened. -/
def generateFrom (dialect : Dialect) (config : GeneratorConfig) (client : Client) :
    Session String := do
  let tables ← collect dialect config client
  Session.ofExcept (render config.printer tables)

/-- The dialect of a configuration, and the call that opens its database. -/
def prepare (config : GeneratorConfig) (world : World) : Except Failure (Dialect × Call) := do
  let dialect ← (Dialect.ofName config.dialect).mapError Failure.generator
  let url ← (config.resolveDatabaseUrl world.settings).mapError Failure.generator
  return (dialect, ← dialect.opening config world.files world.directory url)

/-- The text of the module for the configured database. -/
def generate (config : GeneratorConfig) (world : World) : Session String :=
  match prepare config world with
  | .error failure => .fail failure
  | .ok (dialect, opening) => do
    Session.ask opening (.ok ())
    (generateFrom dialect config (dialect.client world.server)).ensuring dialect.closing
      world.server.overtime

end Generation

end SchemaTypes
