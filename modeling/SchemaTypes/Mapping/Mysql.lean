import SchemaTypes.Catalog.MysqlType
import SchemaTypes.Catalog.Row
import SchemaTypes.Mapping.Basic
import SchemaTypes.Text.Case

set_option autoImplicit false

/-! # Types of MySQL columns

Every data type of MySQL has a type of its own or one that depends on the options of the driver.
Columns of enumerations have the union of their members.
-/

namespace SchemaTypes.Mysql

/-- Date and time types are dates unless the driver yields them as texts. -/
def dateType (pool : PoolConfig) (dataType : String) : TypeExpr :=
  let asText := match pool.dateStrings with
    | .all enabled => enabled
    | .only names => names.any fun name => String.ofList (Text.lower name.toList) == dataType
  if asText then TypeExpr.string else TypeExpr.date

/-- JSON is whatever was stored unless the driver yields it as text. -/
def jsonType (pool : PoolConfig) : TypeExpr :=
  if pool.jsonStrings then TypeExpr.string else TypeExpr.unknown

/-- Integers beyond the safe range are numbers, texts, or texts only where they have to be. -/
def bigNumberType (pool : PoolConfig) : TypeExpr :=
  if !pool.supportBigNumbers then TypeExpr.number
  else if pool.bigNumberStrings then TypeExpr.string
  else .union [TypeExpr.number, TypeExpr.string]

/-- Decimals are like big integers unless the driver yields them as numbers. -/
def decimalType (pool : PoolConfig) : TypeExpr :=
  if pool.decimalNumbers then TypeExpr.number else bigNumberType pool

/-- Data types whose values are numbers. -/
def numberTypes : List String :=
  ["tinyint", "smallint", "int", "mediumint", "float", "double", "year"]

/-- Data types whose values are bytes. -/
def bufferTypes : List String :=
  ["bit", "binary", "varbinary", "tinyblob", "blob", "mediumblob", "longblob"]

/-- Data types whose values are texts. -/
def stringTypes : List String :=
  ["time", "char", "varchar", "tinytext", "text", "mediumtext", "longtext", "enum", "set", "vector",
   "geometry", "point", "linestring", "polygon", "multipoint", "multilinestring", "multipolygon",
   "geomcollection", "geometrycollection"]

/-- Data types whose values are dates. -/
def dateTypes : List String := ["date", "datetime", "timestamp"]

/-- The type of a data type; none if it is not a data type of MySQL. -/
def dataTypeRule? (pool : PoolConfig) (dataType : String) : Option TypeExpr :=
  if numberTypes.contains dataType then some TypeExpr.number
  else if bufferTypes.contains dataType then some TypeExpr.buffer
  else if stringTypes.contains dataType then some TypeExpr.string
  else if dateTypes.contains dataType then some (dateType pool dataType)
  else if dataType = "bigint" then some (bigNumberType pool)
  else if dataType = "decimal" then some (decimalType pool)
  else if dataType = "json" then some (jsonType pool)
  else none

/-- The type of a data type as the catalog gives it. -/
def baseType? (pool : PoolConfig) : Cell → Option TypeExpr
  | .text dataType => dataTypeRule? pool dataType
  | _ => none

def isJson (column : Column) : Bool := column.dataType = .text "json"

/-- The full column type, the type without attributes if it has any, the data type. -/
def castKeys (column : Column) : Except Failure (List Cell) := do
  let full ← column.columnType.asText
  let stripped := stripAttributes full
  return .text full :: (if stripped = full then [] else [.text stripped]) ++ [column.dataType]

/-- What the configuration says that a JSON column holds. -/
def jsonPayload? (config : MysqlConfig) (table : Cell) (column : Column) : Option TypeExpr :=
  if isJson column then config.jsonColumns.lookup (qualifiedName table column) else none

/-- The union of the members of an enumeration, if it has any. -/
def memberUnion? (column : Column) : Option TypeExpr :=
  match column.members with
  | some (m :: ms) =>
    if isEnumeration column.dataType then some (.union ((m :: ms).map TypeExpr.stringLiteral))
    else none
  | _ => none

/-- The look-ups for a column with the given keys, the one with the highest precedence first. -/
def lookups (config : MysqlConfig) (keys : List Cell) (table : Cell) (column : Column) :
    List (Option Selection) :=
  keys.map (Selection.cast? config.typeCasts)
    ++ [(jsonPayload? config table column).map .found, (memberUnion? column).map .found,
        (baseType? config.pool column.dataType).map .found]

/-- The type that a column selects. -/
def select (config : MysqlConfig) (table : Cell) (column : Column) : Except Failure Selection := do
  let keys ← castKeys column
  match Selection.first? (lookups config keys table column) with
  | some selection => return selection
  | none => .error (.generator (.unknownDataType column.dataType table column.name))

/-- The rules for a MySQL database. -/
def columnRules (config : MysqlConfig) : ColumnRules where
  castKeys := castKeys
  isJson := isJson
  select := select config

end SchemaTypes.Mysql
