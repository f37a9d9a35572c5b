import SchemaTypes.Catalog.Cell
import SchemaTypes.Failure
import SchemaTypes.Text.Utf8

set_option autoImplicit false

/-! # Reading rows

Access to the fields of a row by name. A field that is not there is a failure, as is a value that is
no text where a text is needed.
-/

namespace SchemaTypes.Cell

/-- The text that a value is. -/
def asText : Cell → Except Failure String
  | .text value => .ok value
  | cell => .error (.notText cell)

/-- A value as a member of an enumeration: bytes are UTF-8, other values are written out. -/
def memberText : Cell → Except Failure String
  | .bytes value =>
    match Text.Utf8.decode? value with
    | some s => .ok (String.ofList s)
    | none => .error .notUtf8
  | cell => .ok cell.shown

end SchemaTypes.Cell

namespace SchemaTypes.Row

/-- The value of a field. -/
def field (row : Row) (name : String) : Except Failure Cell :=
  match row.lookup name with
  | some cell => .ok cell
  | none => .error (.missingField name)

/-- A field, the empty text standing for every value that counts as false. -/
def fieldOrEmpty (row : Row) (name : String) : Except Failure Cell :=
  (row.field name).map fun cell => if cell.isTruthy then cell else .text ""

/-- Whether a field holds a value at all. -/
def isPresent (row : Row) (name : String) : Except Failure Bool := do
  return (← row.field name) != .null

end SchemaTypes.Row
