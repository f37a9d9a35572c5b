import SchemaTypes.Numeral
import SchemaTypes.Text.SingleQuoted

set_option autoImplicit false

/-! # Rows of a result

The values a database answers with, and rows of them by column name. What a catalog says of names
and comments is kept as it came, also where it is no text; a text is asked for only where one is
needed.
-/

namespace SchemaTypes

/-- A value in a row of a result. -/
inductive Cell where
  | null
  | bool (value : Bool)
  | integer (value : Int)
  | real (value : Binary64)
  | text (value : String)
  | bytes (value : List UInt8)
  deriving DecidableEq, Repr

instance : Coe String Cell := ⟨Cell.text⟩

namespace Cell

/-- The value counts as true: it is there, and neither zero nor empty. -/
def isTruthy : Cell → Bool
  | .null => false
  | .bool value => value
  | .integer value => value != 0
  | .real (.finite _ significand _) => significand != 0
  | .real _ => true
  | .text value => value != ""
  | .bytes value => !value.isEmpty

/-- The number that a value stands for; truth values count as zero and one. -/
def number? : Cell → Option Numeral
  | .bool value => some (.integer (if value then 1 else 0))
  | .integer value => some (.integer value)
  | .real value => some (.double value)
  | _ => none

/-- The value is the given number. -/
def isNumber (n : Int) (cell : Cell) : Bool := cell.number?.any (Numeral.same (.integer n))

/-- The two values are equal as keys: equal numbers are, whatever kind they are of. -/
def same (x y : Cell) : Bool :=
  match x.number?, y.number? with
  | some m, some n => m.same n
  | _, _ => x == y

/-- How a byte is written between quotes of the given kind. -/
def escapeByte (quote : Char) (byte : UInt8) : List Char :=
  if byte < 128 then Text.SingleQuoted.escape quote (Char.ofNat byte.toNat)
  else ['\\', 'x'] ++ Text.SingleQuoted.hexDigits 2 byte.toNat

/-- The quote that surrounds bytes. -/
def quoteForBytes (bytes : List UInt8) : Char :=
  Text.SingleQuoted.quoteFor (bytes.map fun byte => Char.ofNat byte.toNat)

/-- Bytes as a message shows them. -/
def bytesText (bytes : List UInt8) : String :=
  let quote := quoteForBytes bytes
  String.ofList ('b' :: quote :: bytes.flatMap (escapeByte quote) ++ [quote])

/-- A value as it is written in texts. -/
def shown : Cell → String
  | .null => "None"
  | .bool value => if value then "True" else "False"
  | .integer value => toString value
  | .real value => value.text
  | .text value => value
  | .bytes value => bytesText value

/-- Nothing in place of a value that counts as false. -/
def orNull (cell : Cell) : Cell := if cell.isTruthy then cell else .null

end Cell

/-- A row of a result: its values by column name. -/
abbrev Row := List (String × Cell)

end SchemaTypes
