import SchemaTypes.Catalog.Affinity
import SchemaTypes.Catalog.Migration
import SchemaTypes.Catalog.Row
import SchemaTypes.Catalog.Table
import SchemaTypes.Connection.Session

set_option autoImplicit false

/-! # The catalog of SQLite

The tables of a SQLite database from its master table and the descriptions of its tables, one row
for each column. The hidden columns of virtual tables are left out.
-/

namespace SchemaTypes.Sqlite

/-- The columns of all tables and views, ordered by table and position. -/
def catalogQuery : String := String.intercalate "\n"
  ["",
   "    SELECT",
   "        m.name AS table_name,",
   "        m.type AS table_type,",
   "        m.sql AS table_sql,",
   "        p.name AS column_name,",
   "        p.type AS column_type,",
   "        p.\"notnull\" AS not_null,",
   "        p.dflt_value AS column_default,",
   "        p.pk AS pk,",
   "        p.hidden AS hidden",
   "    FROM sqlite_master AS m",
   "    JOIN pragma_table_xinfo(m.name) AS p",
   "    WHERE m.type IN ('table', 'view')",
   "      AND substr(m.name, 1, 7) != 'sqlite_'",
   "      AND m.name NOT IN (?, ?)",
   "    ORDER BY m.name, p.cid",
   ""]

/-- The value of `hidden` for a hidden column of a virtual table. -/
def hiddenColumn : Int := 1

/-- The values of `hidden` for columns that are computed from others. -/
def generatedColumns : List Int := [2, 3]

/-- The schema of every table. -/
def schemaName : String := "main"

/-- Appends a value to the group of a key, a new group at the end if there is none. -/
def addToGroup {α : Type} (key : Cell) (value : α) : List (Cell × List α) → List (Cell × List α)
  | [] => [(key, [value])]
  | (k, values) :: rest =>
    if k.same key then (k, values ++ [value]) :: rest else (k, values) :: addToGroup key value rest

/-- The values with equal keys together, in the order of the first values. -/
def group {α : Type} (pairs : List (Cell × α)) : List (Cell × List α) :=
  pairs.foldl (fun groups (key, value) => addToGroup key value groups) []

/-- The name of the table to which a row belongs; none for a hidden column. -/
def tableOf (row : Row) : Except Failure (Option Cell) := do
  if (← row.field "hidden").isNumber hiddenColumn then return none
  else return some (← row.field "table_name")

/-- The rows of every table, hidden columns left out. -/
def groupRows (rows : List Row) : Except Failure (List (Cell × List Row)) := do
  let pairs ← rows.mapM fun row => do return (← tableOf row).map (·, row)
  return group pairs.reduceOption

/-- The declared type of a column is `INTEGER`. Bytes are no such type, whatever they hold. -/
def isIntegerType : Cell → Except Failure Bool
  | .bytes _ => .ok false
  | cell => cell.asText.map fun declared => normalizedType declared == "INTEGER".toList

/-- The column is another name of the row number: the one column of the primary key of a table with
row numbers, declared `INTEGER`. -/
def isRowidAlias (row : Row) (keySize : Nat) : Except Failure Bool := do
  let type ← row.field "table_type"
  let key ← row.field "pk"
  if type != .text "table" || !key.isNumber 1 || keySize != 1 then return false
  else if !(← isIntegerType (← row.fieldOrEmpty "column_type")) then return false
  else
    let sql ← (← row.fieldOrEmpty "table_sql").asText
    return !Text.contains "without rowid".toList (Text.lower sql.toList)

/-- What a row says of its column, the primary key having `keySize` columns. -/
def readColumn (keySize : Nat) (row : Row) : Except Failure Column := do
  let rowidAlias ← isRowidAlias row keySize
  let declared ← row.fieldOrEmpty "column_type"
  let name ← row.field "column_name"
  let dataType := affinity (← declared.asText)
  let notNull := (← row.field "not_null").isTruthy
  let hasDefault ← row.isPresent "column_default"
  let hidden ← row.field "hidden"
  return {
    name
    columnType := declared
    dataType
    isNullable := !notNull && !rowidAlias
    hasDefault
    isAutoIncrementing := rowidAlias
    isVirtual := generatedColumns.any hidden.isNumber }

/-- The table that rows describe; whether it is a view is told by the first one. -/
def readTable (name : Cell) (rows : List Row) : Except Failure Table := do
  let keys ← rows.mapM fun row => do return (← row.field "pk").isTruthy
  let type ← (rows.head?.map (·.field "table_type")).getD (.ok .null)
  let columns ← rows.mapM (readColumn (keys.count true))
  return { name, schema := schemaName, isView := type == .text "view", columns }

/-- The tables that rows describe, in the order of their first rows. -/
def readTables (rows : List Row) : Except Failure (List Table) := do
  (← groupRows rows).mapM fun (name, rows) => readTable name rows

/-- The tables of a database. -/
def tables (client : Client) : Session (List Table) := do
  Session.ofExcept (readTables (← client.fetch 0 catalogQuery excludedCells))

end SchemaTypes.Sqlite
