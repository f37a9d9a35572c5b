import SchemaTypes.Binary64.Text

set_option autoImplicit false

/-! # Numerals

The numbers of numeric literal types: integers of any size and doubles. Two numerals are the same
number if their exact values are, whatever kind they are of; NaN is no number at all.
-/

namespace SchemaTypes

/-- An integer or a double. -/
inductive Numeral where
  | integer (value : Int)
  | double (value : Binary64)
  deriving DecidableEq, Repr

namespace Numeral

/-- A numeral as it stands in a type. An integer is written out whatever the number of its digits
is: a limit that an environment may set for that is left out. -/
def text : Numeral → String
  | .integer value => toString value
  | .double value => value.text

/-- The exact value of a finite numeral as an integer times a power of two. -/
def dyadic? : Numeral → Option (Int × Int)
  | .integer value => some (value, 0)
  | .double (.finite negative significand exponent) =>
    some (if negative then -significand else significand, exponent)
  | .double _ => none

/-- `a * 2 ^ p = b * 2 ^ q` -/
def sameDyadic (a p b q : Int) : Bool :=
  a * Nat.pow 2 (p - min p q).toNat == b * Nat.pow 2 (q - min p q).toNat

/-- The two numerals denote the same number. -/
def same (x y : Numeral) : Bool :=
  match dyadic? x, dyadic? y with
  | some (a, p), some (b, q) => sameDyadic a p b q
  | some _, none => false
  | none, some _ => false
  | none, none =>
    match x, y with
    | .double (.infinite s), .double (.infinite t) => s == t
    | _, _ => false

end Numeral

end SchemaTypes
