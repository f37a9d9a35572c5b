import SchemaTypes.Catalog.Table
import SchemaTypes.Config.Basic
import SchemaTypes.Failure

set_option autoImplicit false

/-! # From columns to types

The type of a column is found in two steps. A list of look-ups is walked until one succeeds; the
first ones consult explicit casts. The type found is then refined by what the column admits: null, a
default, a computed value.
-/

namespace SchemaTypes

/-- The name by which a configuration speaks of one column. -/
def qualifiedName (table : Cell) (column : Column) : String :=
  table.shown ++ "." ++ column.name.shown

/-- The type a column selects. -/
structure Selection where
  type : TypeExpr
  /-- The type was given by an explicit cast. -/
  fromCast : Bool

namespace Selection

/-- The first look-up that succeeds. -/
def first? (lookups : List (Option Selection)) : Option Selection := lookups.findSome? id

/-- Looks a key up among explicit casts. Only texts are keys of casts. -/
def cast? (casts : Casts) : Cell → Option Selection
  | .text key => (casts.lookup key).map fun type => { type, fromCast := true }
  | _ => none

/-- A type that is found but not by an explicit cast. -/
def found (type : TypeExpr) : Selection := { type, fromCast := false }

end Selection

/-- The type of a column from the type it selects: null is admitted if the column admits it; what is
a wrapper already stays as it is; then a computed column, one that holds JSON, and one that gets a
value by itself are wrapped, the first of these that applies. -/
def refine (select : TypeExpr) (column : Column) (isJson : Bool) : TypeExpr :=
  let result := if column.isNullable then select.nullable else select
  if result.isWrapper then result
  else if column.isVirtual then .generatedAlways result
  else if isJson then
    .jsonColumnType result (if column.hasDefault then some TypeExpr.string.optional else none) none
  else if column.isAutoIncrementing || column.hasDefault then .generated result
  else result

/-- The rules of one dialect for the types of columns. -/
structure ColumnRules where
  /-- The keys under which casts are looked up, the most specific one first. -/
  castKeys : Column → Except Failure (List Cell)
  /-- The column holds JSON that the driver parses. -/
  isJson : Column → Bool
  /-- The type that a column of a table selects. -/
  select : Cell → Column → Except Failure Selection

namespace ColumnRules

/-- The type of a column. A cast takes the place of all that is known of JSON. -/
def map (rules : ColumnRules) (table : Cell) (column : Column) : Except Failure TypeExpr :=
  (rules.select table column).map fun selection =>
    refine selection.type column (rules.isJson column && !selection.fromCast)

end ColumnRules

end SchemaTypes
