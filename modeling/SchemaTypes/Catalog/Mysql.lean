import SchemaTypes.Catalog.Migration
import SchemaTypes.Catalog.MysqlType
import SchemaTypes.Catalog.Row
import SchemaTypes.Catalog.Table
import SchemaTypes.Connection.Session
import SchemaTypes.Text.Case

set_option autoImplicit false

/-! # The catalog of MySQL

The tables of a MySQL database from the rows of its information schema, one row for each column. The
members of enumerations are selected from the database: the enumerations of all tables are
collected, queried side by side, and the answers go back to where the enumerations stand.
-/

namespace SchemaTypes.Mysql

/-- The columns of all tables, ordered by table and position. -/
def catalogQuery : String := String.intercalate "\n"
  ["",
   "    SELECT",
   "        TABLES.TABLE_SCHEMA AS table_schema,",
   "        TABLES.TABLE_NAME AS table_name,",
   "        TABLES.TABLE_TYPE AS table_type,",
   "        TABLES.TABLE_COMMENT AS table_comment,",
   "        COLUMNS.COLUMN_NAME AS column_name,",
   "        COLUMNS.COLUMN_TYPE AS column_type,",
   "        COLUMNS.DATA_TYPE AS data_type,",
   "        COLUMNS.IS_NULLABLE AS is_nullable,",
   "        COLUMNS.COLUMN_DEFAULT AS column_default,",
   "        COLUMNS.EXTRA AS extra,",
   "        COLUMNS.COLUMN_COMMENT AS column_comment",
   "    FROM INFORMATION_SCHEMA.COLUMNS AS COLUMNS",
   "    INNER JOIN INFORMATION_SCHEMA.TABLES AS TABLES",
   "        ON COLUMNS.TABLE_SCHEMA = TABLES.TABLE_SCHEMA",
   "        AND COLUMNS.TABLE_NAME = TABLES.TABLE_NAME",
   "    WHERE COLUMNS.TABLE_SCHEMA = DATABASE()",
   "      AND COLUMNS.TABLE_NAME NOT IN (%s, %s)",
   "    ORDER BY COLUMNS.TABLE_NAME, COLUMNS.ORDINAL_POSITION",
   ""]

/-- A word in the lower-cased extra information of a column. -/
def mentions (extra word : String) : Bool := Text.contains word.toList extra.toList

/-- A text in lower case. Of bytes the letters of ASCII are. -/
def lowered : Cell → Except Failure Cell
  | .text value => .ok (.text (String.ofList (Text.lower value.toList)))
  | .bytes value =>
    .ok (.bytes (value.map fun byte => if 65 ≤ byte && byte ≤ 90 then byte + 32 else byte))
  | cell => .error (.notText cell)

/-- What a row says of its table. -/
def readTable (name : Cell) (row : Row) : Except Failure Table := do
  let schema ← row.field "table_schema"
  let comment ← row.field "table_comment"
  let type ← row.field "table_type"
  return { name, schema, comment := comment.orNull, isView := type != .text "BASE TABLE" }

/-- What a row says of its column. -/
def readColumn (row : Row) : Except Failure Column := do
  let extra ← lowered (← row.fieldOrEmpty "extra")
  let name ← row.field "column_name"
  let columnType ← row.field "column_type"
  let dataType ← lowered (← row.field "data_type")
  let isNullable := (← row.field "is_nullable") == .text "YES"
  let hasDefault ← row.isPresent "column_default"
  let extra ← extra.asText
  let comment ← row.field "column_comment"
  return {
    name
    columnType
    dataType
    isNullable
    hasDefault
    isAutoIncrementing := mentions extra "auto_increment"
    isVirtual := mentions extra "virtual generated" || mentions extra "stored generated"
    comment := comment.orNull }

/-- A table with one more column if it has the given name. -/
def addColumn (name : Cell) (column : Column) (table : Table) : Table :=
  if table.name.same name then { table with columns := table.columns ++ [column] } else table

/-- The tables with the one of a row, which is asked for it only if the table is new. -/
def addTable (name : Cell) (row : Row) (tables : List Table) : Except Failure (List Table) :=
  if tables.any (·.name.same name) then .ok tables
  else (readTable name row).map fun table => tables ++ [table]

/-- Adds what a row says of its table and its column. -/
def addRow (tables : List Table) (row : Row) : Except Failure (List Table) := do
  let name ← row.field "table_name"
  let tables ← addTable name row tables
  let column ← readColumn row
  return tables.map (addColumn name column)

/-- The tables that rows describe, in the order of their first rows. -/
def readTables (rows : List Row) : Except Failure (List Table) := rows.foldlM addRow []

/-- The statement that selects the members of an enumeration with the given type. -/
def memberStatement (columnType : Cell) : Except Failure String := do
  match memberQuery? (← columnType.asText) with
  | some sql => return sql
  | none => .error .noMemberList

/-- The members of an enumeration: the values of the first row that its query yields. -/
def members (client : Client) (number : Nat) (columnType : Cell) : Session (List String) := do
  let sql ← Session.ofExcept (memberStatement columnType)
  match ← client.fetchValues number sql [] with
  | [] => return []
  | row :: _ => Session.ofExcept (row.mapM Cell.memberText)

/-- Where an enumeration stands among the tables and among the columns of its table, and its
type. -/
structure Enumeration where
  table : Nat
  column : Nat
  columnType : Cell

/-- The enumerations among the columns of a table. -/
def enumerationsOf (table : Nat) (columns : List Column) : List Enumeration :=
  columns.zipIdx.filterMap fun (column, i) =>
    if isEnumeration column.dataType then some ⟨table, i, column.columnType⟩ else none

/-- The enumerations of all tables, table by table in the order of the columns. -/
def enumerations (tables : List Table) : List Enumeration :=
  tables.zipIdx.flatMap fun (table, i) => enumerationsOf i table.columns

/-- The queries for the members of the enumerations, numbered in their order. The catalog has been
read under the number zero. -/
def memberQueries (client : Client) (tables : List Table) : List (Session (List String)) :=
  ((enumerations tables).zipIdx 1).map fun (enumeration, number) =>
    members client number enumeration.columnType

/-- Columns, one of them with the members that are the answer for it. -/
def setColumnMembers (columns : List Column) (answer : Enumeration × List String) : List Column :=
  columns.modify answer.1.column fun column => { column with members := some answer.2 }

/-- Tables, one of their columns with the members that are the answer for it. -/
def setMembers (tables : List Table) (answer : Enumeration × List String) : List Table :=
  tables.modify answer.1.table fun table =>
    { table with columns := setColumnMembers table.columns answer }

/-- Tables with the members of their enumerations, the answers being in the order of the
enumerations. -/
def assignMembers (tables : List Table) (answers : List (List String)) : List Table :=
  ((enumerations tables).zip answers).foldl setMembers tables

/-- Tables with the members that the database says their enumerations have. -/
def resolveMembers (client : Client) (tables : List Table) : Session (List Table) := do
  let answers ← Session.gather client.turns (memberQueries client tables)
  return assignMembers tables answers

/-- The tables of a database. -/
def tables (client : Client) : Session (List Table) := do
  let rows ← client.fetch 0 catalogQuery excludedCells
  let tables ← Session.ofExcept (readTables rows)
  resolveMembers client tables

end SchemaTypes.Mysql
