set_option autoImplicit false

/-! # Blank characters

White space as names and declared types see it: the white space of Unicode together with the four
information separators of ASCII.
-/

namespace SchemaTypes.Text

/-- A white-space character, or one of the information separators `U+001C` to `U+001F`. -/
def isBlank (c : Char) : Bool :=
  let n := c.toNat
  (9 ≤ n && n ≤ 13) || (28 ≤ n && n ≤ 32) || n == 0x85 || n == 0xA0 || n == 0x1680
    || (0x2000 ≤ n && n ≤ 0x200A) || n == 0x2028 || n == 0x2029 || n == 0x202F || n == 0x205F
    || n == 0x3000

/-- `s` without the characters at its end that satisfy `p`. -/
def dropWhileEnd (p : Char → Bool) (s : List Char) : List Char :=
  (s.reverse.dropWhile p).reverse

/-- `s` without the characters at either end that satisfy `p`. -/
def trim (p : Char → Bool) (s : List Char) : List Char :=
  dropWhileEnd p (s.dropWhile p)

/-- `s` without the blanks at either end. -/
def strip (s : List Char) : List Char := trim isBlank s

end SchemaTypes.Text
