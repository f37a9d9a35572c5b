import SchemaTypes.Text.Utf8

set_option autoImplicit false

/-! # Percent encoding

The bytes of characters as `%` and two hexadecimal digits, in UTF-8. Reading takes an escape for a
byte and anything else for itself; a percent sign without two digits after it is no escape. Bytes
that are not UTF-8 are read leniently.
-/

namespace SchemaTypes.Text.Percent

/-- A hexadecimal digit, letters in upper case. -/
def hexDigit (n : Nat) : Char := if n < 10 then Char.ofNat (48 + n) else Char.ofNat (55 + n)

/-- The value of a hexadecimal digit in either case. -/
def hexValue (c : Char) : Option Nat :=
  if c.isDigit then some (c.toNat - 48)
  else if 'a' ≤ c && c ≤ 'f' then some (c.toNat - 87)
  else if 'A' ≤ c && c ≤ 'F' then some (c.toNat - 55)
  else none

/-- The escape of a byte. -/
def escapeByte (b : UInt8) : List Char :=
  ['%', hexDigit (b.toNat / 16), hexDigit (b.toNat % 16)]

/-- A text with everything escaped that is not safe. -/
def encode (safe : Char → Bool) (s : List Char) : List Char :=
  s.flatMap fun c => if safe c then [c] else (String.utf8EncodeChar c).flatMap escapeByte

/-- Letters, digits and the marks that a URL never reserves. -/
def isUnreserved (c : Char) : Bool :=
  c.isAlphanum || c == '-' || c == '.' || c == '_' || c == '~'

/-- A byte, or a character that is no byte because it is not ASCII. -/
inductive Token where
  | byte (value : UInt8)
  | char (value : Char)
  deriving DecidableEq, Repr

/-- A character outside an escape. -/
def Token.ofChar (c : Char) : Token :=
  if c.toNat < 128 then .byte (UInt8.ofNat c.toNat) else .char c

/-- A text with its escapes taken for bytes. -/
def tokens : List Char → List Token
  | [] => []
  | '%' :: a :: b :: rest =>
    match hexValue a, hexValue b with
    | some x, some y => .byte (UInt8.ofNat (16 * x + y)) :: tokens rest
    | _, _ => .byte 37 :: tokens (a :: b :: rest)
  | c :: rest => Token.ofChar c :: tokens rest

/-- What tokens yield from a state of the UTF-8 machine on. A character ends any sequence before
it. -/
def read : Utf8.State → List Token → List (Option Char)
  | state, [] => Utf8.finish state
  | state, .byte b :: rest =>
    let (out, next) := Utf8.step state b.toNat
    out ++ read next rest
  | state, .char c :: rest => Utf8.finish state ++ some c :: read .start rest

/-- The text that a percent-encoded text denotes. -/
def decode (s : List Char) : List Char :=
  (read .start (tokens s)).map fun c => c.getD Utf8.replacement

end SchemaTypes.Text.Percent
