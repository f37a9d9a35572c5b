import SchemaTypes.Text.Percent

set_option autoImplicit false

/-! # Tokens of literals

Literals are made up of numbers, texts between quotes, constants, and the marks that group them.
Blanks and comments stand between tokens and are passed over; the ends of lines are kept, because a
literal that is not inside a group ends with its line.
-/

namespace SchemaTypes.Terminal.Literal

inductive Token where
  | number (isImaginary : Bool)
  | text (isBytes : Bool)
  /-- A name that stands for a value. -/
  | constant
  /-- The name of the function that makes an empty set. -/
  | setName
  | openGroup (isBraces : Bool)
  | closeGroup (isBraces : Bool)
  | comma
  | colon
  | sign
  /-- The end of a line and the indentation of the next one. -/
  | newline (indent : Nat)
  deriving DecidableEq, Repr

/-! ## Numbers -/

/-- A character that cannot stand directly behind a number. -/
def isNameChar (c : Char) : Bool := c.isAlphanum || c == '_' || 127 < c.toNat

/-- The digits that a text starts with, and what follows them. A single underscore may stand in
front of a digit. -/
def digits (isDigit : Char → Bool) : List Char → List Char × List Char
  | '_' :: c :: rest =>
    if isDigit c then
      let (more, after) := digits isDigit rest
      (c :: more, after)
    else ([], '_' :: c :: rest)
  | c :: rest =>
    if isDigit c then
      let (more, after) := digits isDigit rest
      (c :: more, after)
    else ([], c :: rest)
  | [] => ([], [])

/-- The decimal digits that a text starts with, the first of them having no underscore in front of
it. -/
def decimals (s : List Char) : List Char × List Char :=
  if s.head?.any Char.isDigit then digits Char.isDigit s else ([], s)

/-- Whether there is an exponent, and what follows it; none if it has no digits. -/
def exponent? : List Char → Option (Bool × List Char)
  | [] => some (false, [])
  | c :: rest =>
    if c = 'e' || c = 'E' then
      let unsigned := if rest.head? = some '+' || rest.head? = some '-' then rest.drop 1 else rest
      let (found, after) := decimals unsigned
      if found.isEmpty then none else some (true, after)
    else some (false, c :: rest)

/-- The most digits that an integer may have. -/
def integerLimit : Nat := 4300

/-- Decimal digits make up an integer: they do not start with a zero unless it is zero, and there
are not too many of them. -/
def isInteger (whole : List Char) : Bool :=
  if whole.head? = some '0' then whole.all (· == '0') else whole.length ≤ integerLimit

/-- The number in decimal notation that a text starts with: an integer, or one with a point, an
exponent or the mark of imaginary numbers. -/
def decimal? (s : List Char) : Option (Token × List Char) := do
  let (whole, rest) := decimals s
  let hasPoint := rest.head? = some '.'
  let (fraction, rest) := if hasPoint then decimals (rest.drop 1) else ([], rest)
  if whole.isEmpty && fraction.isEmpty then none
  let (hasExponent, rest) ← exponent? rest
  let isImaginary := rest.head? = some 'j' || rest.head? = some 'J'
  let rest := if isImaginary then rest.drop 1 else rest
  if !hasPoint && !hasExponent && !isImaginary && !isInteger whole then none
  else if rest.head?.any isNameChar then none
  else some (.number isImaginary, rest)

/-- The digits of the notation that a letter stands for. -/
def radixDigit? (c : Char) : Option (Char → Bool) :=
  if c = 'x' || c = 'X' then some fun d => (Text.Percent.hexValue d).isSome
  else if c = 'o' || c = 'O' then some fun d => '0' ≤ d && d ≤ '7'
  else if c = 'b' || c = 'B' then some fun d => d == '0' || d == '1'
  else none

/-- The number that a text starts with. -/
def number? : List Char → Option (Token × List Char)
  | '0' :: c :: rest =>
    match radixDigit? c with
    | some isDigit =>
      let (found, after) := digits isDigit rest
      if found.isEmpty || after.head?.any isNameChar then none
      else some (.number false, after)
    | none => decimal? ('0' :: c :: rest)
  | s => decimal? s

/-! ## Texts -/

/-- What stands before the closing quote, and what follows it. A backslash keeps the next character
from closing the text. A long text is closed by three quotes and may go over the end of a line. -/
def quoted? (quote : Char) (isLong : Bool) : List Char → Option (List Char × List Char)
  | [] => none
  | '\\' :: c :: rest =>
    (quoted? quote isLong rest).map fun (body, after) => ('\\' :: c :: body, after)
  | c :: rest =>
    if c = quote && !isLong then some ([], rest)
    else if c = quote && rest.take 2 = [quote, quote] then some ([], rest.drop 2)
    else if c = '\n' && !isLong then none
    else (quoted? quote isLong rest).map fun (body, after) => (c :: body, after)

/-- The text starts with as many hexadecimal digits, and their value is a code point. -/
def startsWithCode (count : Nat) (s : List Char) : Bool :=
  match (s.take count).mapM Text.Percent.hexValue with
  | some values =>
    values.length == count && values.foldl (fun n d => 16 * n + d) 0 ≤ 0x10FFFF
  | none => false

/-- The text starts with the name of a character in braces. -/
def startsWithName : List Char → Bool
  | '\x7b' :: rest =>
    let name := rest.takeWhile (· != '\x7d')
    !name.isEmpty && name.length < rest.length
      && name.all fun c => c.isAlphanum || c == ' ' || c == '-'
  | _ => false

/-- Every escape in a text can be read. Those that nothing is known of stand for themselves. -/
def hasGoodEscapes (isBytes : Bool) : List Char → Bool
  | [] => true
  | '\\' :: c :: rest =>
    let isGood :=
      if c = 'x' then startsWithCode 2 rest
      else if c = 'u' then isBytes || startsWithCode 4 rest
      else if c = 'U' then isBytes || startsWithCode 8 rest
      else if c = 'N' then isBytes || startsWithName rest
      else true
    isGood && hasGoodEscapes isBytes rest
  | _ :: rest => hasGoodEscapes isBytes rest

/-- What a text is by the letters in front of it: whether it is bytes, and whether its backslashes
stand for themselves. -/
def textKind? (letters : List Char) : Option (Bool × Bool) :=
  match letters.map Char.toLower with
  | [] => some (false, false)
  | ['u'] => some (false, false)
  | ['r'] => some (false, true)
  | ['b'] => some (true, false)
  | ['b', 'r'] => some (true, true)
  | ['r', 'b'] => some (true, true)
  | _ => none

/-- The text that starts with the given quote, and what follows it. -/
def text? (letters : List Char) (quote : Char) (rest : List Char) :
    Option (Token × List Char) := do
  let (isBytes, isRaw) ← textKind? letters
  let isLong := rest.take 2 = [quote, quote]
  let (body, after) ← quoted? quote isLong (if isLong then rest.drop 2 else rest)
  if (isRaw || hasGoodEscapes isBytes body) && (!isBytes || body.all (·.toNat < 128)) then
    some (.text isBytes, after)
  else none

/-! ## All tokens -/

/-- What a word stands for. -/
def word? (word : List Char) : Option Token :=
  if ["None".toList, "True".toList, "False".toList].contains word then some .constant
  else if word = "set".toList then some .setName
  else none

/-- The token that a character is by itself. -/
def mark? (c : Char) : Option Token :=
  [('(', Token.openGroup false), (')', .closeGroup false), ('\x7b', .openGroup true),
    ('\x7d', .closeGroup true), (',', .comma), (':', .colon), ('+', .sign), ('-', .sign)].lookup c

/-- The token that a text starts with, and what follows it. -/
def token? (s : List Char) : Option (Token × List Char) :=
  let startsNumber := s.head?.any Char.isDigit
    || (s.head? == some '.' && (s.drop 1).head?.any Char.isDigit)
  if startsNumber then number? s
  else if s.take 3 = ['.', '.', '.'] then some (.constant, s.drop 3)
  else
    let word := s.takeWhile fun c => c.isAlphanum || c == '_'
    match s.drop word.length with
    | [] => (word? word).map (·, [])
    | c :: rest =>
      if c = '\'' || c = '"' then text? word c rest
      else if word.isEmpty then (mark? c).map (·, rest)
      else (word? word).map (·, c :: rest)

/-- How far a line is indented. A form feed starts over, and a backslash at the end of a line goes
on to the next one, unless there is an indentation before it. -/
def indentation (column : Nat) : List Char → Nat
  | ' ' :: rest => indentation (column + 1) rest
  | '\t' :: rest => indentation (8 * (column / 8 + 1)) rest
  | '\x0c' :: rest => indentation 0 rest
  | '\\' :: '\n' :: rest => if column = 0 then indentation 0 rest else column
  | _ => column

/-- The tokens of a text; none if there is something else in it. A backslash at the end of a line
takes the end away. -/
def tokens? (s : List Char) : Option (List Token) :=
  match s with
  | [] => some []
  | c :: rest =>
    if c = ' ' || c = '\t' || c = '\x0c' then tokens? rest
    else if c = '\n' then (tokens? rest).map (Token.newline (indentation 0 rest) :: ·)
    else if c = '#' then
      have : (rest.dropWhile (· != '\n')).length ≤ rest.length :=
        (List.dropWhile_suffix _).length_le
      tokens? (rest.dropWhile (· != '\n'))
    else if c = '\\' then
      match rest with
      | '\n' :: d :: after => tokens? (d :: after)
      | _ => none
    else
      match token? (c :: rest) with
      | some (token, after) =>
        if after.length ≤ rest.length then (tokens? after).map (token :: ·) else none
      | none => none
  termination_by s.length

end SchemaTypes.Terminal.Literal
