import SchemaTypes.Mapping.Basic

set_option autoImplicit false

/-! # Types of SQLite columns

The type of a SQLite column depends on its affinity alone.
-/

namespace SchemaTypes.Sqlite

/-- The type of an affinity; none if it is no affinity. -/
def baseType? (config : SqliteConfig) (affinity : Cell) : Option TypeExpr :=
  if affinity = .text "INTEGER" then
    some (if config.defaultSafeIntegers then TypeExpr.bigint else TypeExpr.number)
  else if affinity = .text "TEXT" then some TypeExpr.string
  else if affinity = .text "BLOB" then some TypeExpr.buffer
  else if affinity = .text "REAL" || affinity = .text "NUMERIC" then some TypeExpr.number
  else none

/-- The declared type, and the affinity if it is another text. -/
def castKeys (column : Column) : List Cell :=
  column.columnType
    :: (if column.dataType.same column.columnType then [] else [column.dataType])

/-- The look-ups for a column, the one with the highest precedence first. -/
def lookups (config : SqliteConfig) (table : Cell) (column : Column) :
    List (Option Selection) :=
  Selection.cast? config.columnCasts (qualifiedName table column)
    :: (castKeys column).map (Selection.cast? config.typeCasts)
    ++ [(baseType? config column.dataType).map .found]

/-- The type that a column selects. -/
def select (config : SqliteConfig) (table : Cell) (column : Column) : Except Failure Selection :=
  match Selection.first? (lookups config table column) with
  | some selection => .ok selection
  | none => .error (.generator (.unknownDataType column.dataType table column.name))

/-- The rules for a SQLite database. -/
def columnRules (config : SqliteConfig) : ColumnRules where
  castKeys := fun column => .ok (castKeys column)
  isJson := fun _ => false
  select := select config

end SchemaTypes.Sqlite
