import SchemaTypes.Binary64.Basic
import SchemaTypes.Text.Split

set_option autoImplicit false

/-! # Reading a double

Decimal notation with an optional sign, point and exponent, and the names of the values that are not
finite. What is read is the double nearest to the decimal.
-/

namespace SchemaTypes.Binary64

/-- The number that decimal digits denote. -/
def digitsValue (digits : List Char) : Nat :=
  digits.foldl (fun n c => 10 * n + (c.toNat - 48)) 0

/-- A sign in front of a text and what follows it; no sign counts as plus. -/
def cutSign : List Char → Bool × List Char
  | '-' :: rest => (true, rest)
  | '+' :: rest => (false, rest)
  | s => (false, s)

/-- A whole number with an optional sign. -/
def readExponent (s : List Char) : Option Int :=
  let (negative, digits) := cutSign s
  if digits.isEmpty || !digits.all Char.isDigit then none
  else some (if negative then -digitsValue digits else digitsValue digits)

/-- Digits with at most one point among them, the value being the digits times a power of ten. -/
def readMantissa (s : List Char) : Option (Nat × Int) :=
  let (whole, fraction) := Text.cutFirst '.' s
  let fraction := fraction.getD []
  if (whole ++ fraction).isEmpty || !(whole ++ fraction).all Char.isDigit then none
  else some (digitsValue (whole ++ fraction), -fraction.length)

/-- The number that a text in decimal notation denotes. -/
def ofText? (text : String) : Option Binary64 :=
  let (negative, body) := cutSign (text.toList.map Char.toLower)
  if body = ['n', 'a', 'n'] then some .nan
  else if body = ['i', 'n', 'f'] || body = "infinity".toList then some (.infinite negative)
  else
    let (mantissa, exponent) := Text.cutFirst 'e' body
    match readMantissa mantissa, exponent with
    | none, _ => none
    | some (digits, e), none => some (ofDecimal negative digits e)
    | some (digits, e), some s => (readExponent s).map fun k => ofDecimal negative digits (e + k)

end SchemaTypes.Binary64
