import SchemaTypes.Catalog.Mysql
import SchemaTypes.Catalog.Sqlite
import SchemaTypes.Connection.MysqlUrl
import SchemaTypes.Connection.SqliteUrl
import SchemaTypes.Mapping.Mysql
import SchemaTypes.Mapping.Sqlite
import SchemaTypes.TypedTable

set_option autoImplicit false

/-! # Dialects

The engines whose databases can be read. A dialect knows how to open and close a database, how to
read its catalog and which rules its columns follow.
-/

namespace SchemaTypes

inductive Dialect where
  | mysql
  | sqlite
  deriving DecidableEq, Repr

namespace Dialect

def name : Dialect → String
  | .mysql => "mysql"
  | .sqlite => "sqlite"

/-- The dialect with a name, in any case. -/
def ofName (name : String) : Except GeneratorError Dialect :=
  let lowered := String.ofList (Text.lower name.toList)
  if lowered = Dialect.mysql.name then .ok .mysql
  else if lowered = Dialect.sqlite.name then .ok .sqlite
  else .error (.unsupportedDialect name)

/-- The statement that reads the catalog. -/
def catalogQuery : Dialect → String
  | .mysql => Mysql.catalogQuery
  | .sqlite => Sqlite.catalogQuery

/-- The call that opens a database. -/
def opening (dialect : Dialect) (config : GeneratorConfig) (files : FileTree) (directory : Path)
    (url : String) : Except Failure Call :=
  match dialect with
  | .mysql =>
    ((MysqlUrl.parse url).mapError Failure.url).map (Call.createPool config.mysql.poolSize)
  | .sqlite => SqliteUrl.opening files directory (SqliteUrl.path url)

/-- The calls that close a database. -/
def closing : Dialect → List Call
  | .mysql => [.close, .waitClosed]
  | .sqlite => [.close]

def client (dialect : Dialect) (server : Server) : Client :=
  match dialect with
  | .mysql => Mysql.client server
  | .sqlite => Sqlite.client server

/-- The tables in the catalog of a database. -/
def tables (dialect : Dialect) (client : Client) : Session (List Table) :=
  match dialect with
  | .mysql => Mysql.tables client
  | .sqlite => Sqlite.tables client

/-- The rules for the types of columns. -/
def columnRules (dialect : Dialect) (config : GeneratorConfig) : ColumnRules :=
  match dialect with
  | .mysql => Mysql.columnRules config.mysql
  | .sqlite => Sqlite.columnRules config.sqlite

end Dialect

namespace ColumnRules

/-- A table with the types of its columns. -/
def mapTable (rules : ColumnRules) (table : Table) : Except Failure TypedTable := do
  let columns ← table.columns.mapM fun column => do
    return { name := column.name, type := ← rules.map table.name column, comment := column.comment }
  return { name := table.name, schema := table.schema, comment := table.comment, columns }

/-- Tables with the types of their columns. The first column without a type is reported. -/
def mapTables (rules : ColumnRules) (tables : List Table) : Except Failure (List TypedTable) :=
  tables.mapM rules.mapTable

end ColumnRules

end SchemaTypes
