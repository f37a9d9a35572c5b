set_option autoImplicit false

/-! # Double-quoted literals

A text between double quotes as JSON writes it: quote, backslash and control characters are escaped,
everything else stands for itself.
-/

namespace SchemaTypes.Text.Quoted

/-- A hexadecimal digit, letters in lower case. -/
def hexDigit (n : Nat) : Char := if n < 10 then Char.ofNat (48 + n) else Char.ofNat (87 + n)

/-- How a character is written between the quotes. -/
def escape (c : Char) : List Char :=
  if c = '"' then ['\\', '"']
  else if c = '\\' then ['\\', '\\']
  else if c = '\n' then ['\\', 'n']
  else if c = '\r' then ['\\', 'r']
  else if c = '\t' then ['\\', 't']
  else if c.toNat = 8 then ['\\', 'b']
  else if c.toNat = 12 then ['\\', 'f']
  else if c.toNat < 32 then
    ['\\', 'u', '0', '0', hexDigit (c.toNat / 16), hexDigit (c.toNat % 16)]
  else [c]

/-- The literal of a text. -/
def encode (s : List Char) : List Char := '"' :: s.flatMap escape ++ ['"']

end SchemaTypes.Text.Quoted
