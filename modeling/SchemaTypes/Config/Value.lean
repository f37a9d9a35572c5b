import SchemaTypes.Text.SingleQuoted
import SchemaTypes.TypeExpr.Text

set_option autoImplicit false

/-! # Configuration values

The values that a config file can give: plain data with type expressions in it.
-/

namespace SchemaTypes

/-- A value as a config file gives it. -/
inductive Value where
  | null
  | bool (value : Bool)
  | integer (value : Int)
  | real (value : Binary64)
  | text (value : String)
  | list (values : List Value)
  | object (fields : List (String × Value))
  | type (value : TypeExpr)

namespace TypeExpr

/-- What kind of type it is, as messages say it. -/
def typeName (t : TypeExpr) : String :=
  match t.kind with
  | .primitive => "Primitive"
  | .stringLiteral => "StringLiteral"
  | .numericLiteral => "NumericLiteral"
  | .array => "ArrayType"
  | .union => "UnionType"
  | .intersection => "IntersectionType"
  | .imported => "Imported"
  | .columnType => "ColumnType"
  | .jsonColumnType => "JSONColumnType"
  | .generated => "Generated"
  | .generatedAlways => "GeneratedAlways"

end TypeExpr

namespace Value

/-- What kind of value it is, as messages say it. -/
def typeName : Value → String
  | .null => "NoneType"
  | .bool _ => "bool"
  | .integer _ => "int"
  | .real _ => "float"
  | .text _ => "str"
  | .list _ => "list"
  | .object _ => "dict"
  | .type t => t.typeName

/-- The value counts as true: it is there, and neither zero nor empty. -/
def isTruthy : Value → Bool
  | .null => false
  | .bool value => value
  | .integer value => value != 0
  | .real (.finite _ significand _) => significand != 0
  | .real _ => true
  | .text value => value != ""
  | .list values => !values.isEmpty
  | .object fields => !fields.isEmpty
  | .type _ => true

mutual

/-- A value as it is written inside others: texts are quoted. -/
def quoted : Value → String
  | .null => "None"
  | .bool value => if value then "True" else "False"
  | .integer value => toString value
  | .real value => value.text
  | .text value => Text.SingleQuoted.encode value
  | .list values => "[" ++ String.intercalate ", " (quotedItems values) ++ "]"
  | .object fields => "\x7b" ++ String.intercalate ", " (quotedFields fields) ++ "\x7d"
  | .type value => value.text

def quotedItems : List Value → List String
  | [] => []
  | value :: rest => quoted value :: quotedItems rest

def quotedFields : List (String × Value) → List String
  | [] => []
  | (key, value) :: rest =>
    (Text.SingleQuoted.encode key ++ ": " ++ quoted value) :: quotedFields rest

end

/-- A value as it is written in texts. -/
def shown : Value → String
  | .text value => value
  | value => value.quoted

end Value

end SchemaTypes
