import SchemaTypes.Terminal.ColorTable
import SchemaTypes.Text.Blank
import SchemaTypes.Text.Case
import SchemaTypes.Text.Percent
import SchemaTypes.Text.Split
import SchemaTypes.Text.Word

set_option autoImplicit false

/-! # Styles

A style is given by words: effects such as `bold` or `not bold`, a color, a color behind `on`, an
address behind `link`. Every style has one usual name, in which the words have a fixed order; what
is no style goes by its own text in lower case.
-/

namespace SchemaTypes.Terminal

/-- What is wrong with the components of a color. -/
inductive ColorError where
  /-- A component is empty. -/
  | noDigits
  /-- A component has so many digits that it is not even read. -/
  | tooManyDigits (count : Nat)
  deriving DecidableEq, Repr

namespace ColorError

def message : ColorError → String
  | .noDigits => "invalid literal for int() with base 10: ''"
  | .tooManyDigits count =>
    "Exceeds the limit (4300 digits) for integer string conversion: value has " ++ toString count
      ++ " digits; use sys.set_int_max_str_digits() to increase the limit"

end ColorError

namespace Color

/-- How many digits of a component are read. -/
def digitLimit : Nat := 4300

/-- The value of a component of a color. -/
def component (digits : List Char) : Except ColorError Nat :=
  if digits.isEmpty then .error .noDigits
  else if digitLimit < digits.length then .error (.tooManyDigits digits.length)
  else .ok (digits.foldl (fun n c => 10 * n + (Text.decimalValue? c).getD 0) 0)

/-- What stands between the parentheses behind a name. -/
def arguments? (name color : List Char) : Option (List Char) :=
  let rest := color.drop name.length
  if name.isPrefixOf color && rest.head? = some '(' && rest.getLast? = some ')' then
    some (rest.drop 1).dropLast
  else none

/-- Six hexadecimal digits behind a hash sign. -/
def isHex (color : List Char) : Bool :=
  color.head? == some '#' && color.length == 7
    && (color.drop 1).all fun c => c.isDigit || ('a' ≤ c && c ≤ 'f')

/-- The number of a color in the palette. -/
def isNumbered (color : List Char) : Bool :=
  match arguments? "color".toList color with
  | some digits =>
    !digits.isEmpty && digits.length ≤ 3 && digits.all Char.isDigit
      && digits.foldl (fun n c => 10 * n + (c.toNat - 48)) 0 ≤ 255
  | none => false

/-- The components of a color, as far as they are made up of digits. -/
def components? (color : List Char) : Option (List (List Char)) := do
  let arguments ← arguments? "rgb".toList color
  if !arguments.isEmpty && arguments.all fun c => c == ',' || (Text.decimalValue? c).isSome then
    let components := Text.split (· == ',') arguments
    if components.length = 3 then some components else none
  else none

/-- The color that a word stands for, by its name in lower case; none if it is no color. -/
def read (word : List Char) : Except ColorError (Option String) := do
  let color := Text.lower word
  let name := String.ofList color
  if name = "default" || colorNames.contains name || isHex color || isNumbered color then
    return some name
  match components? color with
  | none => return none
  | some components =>
    let values ← components.mapM component
    return if values.all (· ≤ 255) then some name else none

end Color

/-- A style, as far as it tells styles apart. -/
structure Style where
  /-- The effects that are set, the last one first, and whether they are on. -/
  effects : List (String × Bool) := []
  color : Option String := none
  background : Option String := none
  link : Option String := none

namespace Style

/-- The names of effects in their usual order. -/
def effectNames : List String :=
  ["bold", "dim", "italic", "underline", "blink", "blink2", "reverse", "conceal", "strike",
   "underline2", "frame", "encircle", "overline"]

/-- The short names of effects. -/
def shortNames : List (String × String) :=
  [("b", "bold"), ("d", "dim"), ("i", "italic"), ("u", "underline"), ("r", "reverse"),
   ("c", "conceal"), ("s", "strike"), ("uu", "underline2"), ("o", "overline")]

/-- The effect that a word stands for. -/
def effect? (word : String) : Option String :=
  if effectNames.contains word then some word else shortNames.lookup word

/-- The style with one more effect. -/
def set (style : Style) (effect : String) (isOn : Bool) : Style :=
  { style with effects := (effect, isOn) :: style.effects }

/-- A style with what words add to it; none if one of them is out of place. -/
def read (style : Style) : List (List Char) → Except ColorError (Option Style)
  | [] => .ok (some style)
  | word :: rest =>
    match String.ofList (Text.lower word), rest with
    | "on", [] => .ok none
    | "on", next :: rest => do
      match ← Color.read next with
      | some color => read { style with background := some color } rest
      | none => return none
    | "not", [] => .ok none
    | "not", next :: rest =>
      match effect? (String.ofList next) with
      | some effect => read (style.set effect false) rest
      | none => .ok none
    | "link", [] => .ok none
    | "link", next :: rest => read { style with link := some (String.ofList next) } rest
    | lowered, rest =>
      match effect? lowered with
      | some effect => read (style.set effect true) rest
      | none => do
        match ← Color.read word with
        | some color => read { style with color := some color } rest
        | none => return none

/-- The style that a text stands for; none if it is no style. -/
def ofText (text : List Char) : Except ColorError (Option Style) :=
  if Text.strip text = "none".toList then .ok (some {})
  else read {} (Text.words Text.isBlank text)

/-- The usual name of a style. -/
def name (style : Style) : String :=
  let effects := effectNames.filterMap fun name =>
    (style.effects.lookup name).map fun isOn => if isOn then name else "not " ++ name
  let words := effects ++ style.color.toList ++ (style.background.map ("on " ++ ·)).toList
    ++ (style.link.map ("link " ++ ·)).toList
  if words.isEmpty then "none" else String.intercalate " " words

/-- The name that a text goes by: that of its style, or itself in lower case without blanks around
it. -/
def nameOf (text : List Char) : Except ColorError String := do
  match ← ofText text with
  | some style => return style.name
  | none => return String.ofList (Text.lower (Text.strip text))

end Style

end SchemaTypes.Terminal
