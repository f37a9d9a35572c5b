import SchemaTypes.Binary64.Reader
import SchemaTypes.Config.Issue
import SchemaTypes.Config.Value
import SchemaTypes.Text.Blank

set_option autoImplicit false

/-! # Reading scalars of a configuration

Texts have to be texts. Whole numbers and truth values are also taken from values that clearly stand
for one: a whole number from a truth value, a number without a fraction or a text with digits, a
truth value from zero, one, and a few words.
-/

namespace SchemaTypes

/-- A value that is valid, or everything that is wrong with it. -/
abbrev Checked (α : Type) := Except (List Issue) α

namespace Checked

variable {α β : Type}

/-- A value that breaks a rule. -/
def broken (rule : Issue.Rule) : Checked α := .error [{ rule }]

/-- The outcome as seen from one step outside. -/
def within (step : Step) (checked : Checked α) : Checked α :=
  checked.mapError fun issues => issues.map (Issue.within step)

/-- Puts a valid part into a record; what is wrong with either side is wrong with the whole. -/
def apply (f : Checked (α → β)) (a : Checked α) : Checked β :=
  match f, a with
  | .ok f, .ok a => .ok (f a)
  | .ok _, .error issues => .error issues
  | .error issues, .ok _ => .error issues
  | .error issues, .error more => .error (issues ++ more)

/-- All values, or everything that is wrong with any of them. -/
def sequence : List (Checked α) → Checked (List α)
  | [] => .ok []
  | a :: rest => apply (apply (.ok List.cons) a) (sequence rest)

end Checked

namespace Value

def readString : Value → Checked String
  | .text value => .ok value
  | _ => .broken .string

/-- A text or nothing. -/
def readString? : Value → Checked (Option String)
  | .null => .ok none
  | v => v.readString.map some

/-- The integer that a double is equal to; none for infinities and NaN and if there is a
fraction. -/
def wholeNumber? : Binary64 → Option Int
  | .finite negative significand exponent =>
    let magnitude :=
      if 0 ≤ exponent then some (significand * Nat.pow 2 exponent.toNat)
      else
        let unit := Nat.pow 2 (-exponent).toNat
        if significand % unit = 0 then some (significand / unit) else none
    magnitude.map fun (n : Nat) => if negative then -(n : Int) else n
  | _ => none

/-- The bound of signed 64-bit numbers. -/
def wordBound : Nat := Nat.pow 2 63

/-- The integer that a double stands for. It has to be finite, without a fraction, and strictly
within the bounds of signed 64-bit numbers. -/
def readDouble (x : Binary64) : Checked Int :=
  match x with
  | .finite .. =>
    match wholeNumber? x with
    | some n => if n.natAbs < wordBound then .ok n else .broken .integerSize
    | none => .broken .wholeNumber
  | _ => .broken .finiteNumber

/-- White space around a number. The information separators are no white space here. -/
def isNumberSpace (c : Char) : Bool := Text.isBlank c && !(28 ≤ c.toNat && c.toNat ≤ 31)

/-- Digits with single underscores between them. -/
def digitGroups? (s : List Char) : Option Nat :=
  let groups := Text.split (· == '_') s
  if groups.all fun group => !group.isEmpty && group.all Char.isDigit then
    some (Binary64.digitsValue groups.flatten)
  else none

/-- Digits without the zeros in front of them and without the underscores among those zeros. One
zero is kept in front of a point and at the end. -/
def significant? : List Char → Option (List Char)
  | '0' :: rest =>
    let zeros := rest.takeWhile fun c => c == '0' || c == '_'
    let last := zeros.getLast?.getD '0'
    match rest.dropWhile fun c => c == '0' || c == '_' with
    | [] => some [last]
    | '.' :: fraction => some (last :: '.' :: fraction)
    | s => some s
  | s => some s

/-- A text without a fraction of zeros; none if there is another fraction. -/
def cutZeroFraction? (s : List Char) : Option (List Char) :=
  match Text.cutFirst '.' s with
  | (whole, none) => some whole
  | (whole, some fraction) =>
    if !fraction.isEmpty && fraction.all (· == '0') then some whole else none

/-- The whole number that a text denotes: digits with an optional sign in front and a fraction of
zeros after them. -/
def integerText? (text : String) : Option Int := do
  let (negative, body) := Binary64.cutSign (Text.trim isNumberSpace text.toList)
  let n ← digitGroups? (← cutZeroFraction? (← significant? body))
  return if negative then -(n : Int) else n

/-- How many digits a text may start with, a minus sign included. -/
def digitLimit : Nat := 4300

/-- A text starts with more digits than are read. -/
def isTooLong (text : String) : Bool :=
  let body := match text.toList with
    | '-' :: rest => rest
    | s => s
  let sign := text.length - body.length
  body.head? != some '0' && digitLimit < sign + (body.takeWhile Char.isDigit).length

def readInteger : Value → Checked Int
  | .integer n => .ok n
  | .bool b => .ok (if b then 1 else 0)
  | .real x => readDouble x
  | .text s =>
    if isTooLong s then .broken .integerSize
    else match integerText? s with
      | some n => .ok n
      | none => .broken .integerText
  | _ => .broken .integer

/-- A whole number that is not below a minimum. -/
def readAtLeast (minimum : Nat) (v : Value) : Checked Nat :=
  match v.readInteger with
  | .ok n => if n < minimum then .broken (.atLeast minimum) else .ok n.toNat
  | .error issues => .error issues

/-- The words for true. -/
def trueWords : List String := ["1", "on", "t", "true", "y", "yes"]

/-- The words for false. -/
def falseWords : List String := ["0", "off", "f", "false", "n", "no"]

/-- The truth value that a word denotes, in any case. -/
def wordBool? (s : String) : Option Bool :=
  let word := String.ofList (s.toList.map Char.toLower)
  if trueWords.contains word then some true
  else if falseWords.contains word then some false
  else none

/-- The truth value that a number denotes. -/
def numberBool? (n : Int) : Option Bool :=
  if n = 1 then some true else if n = 0 then some false else none

/-- The truth value, or the rule that texts and numbers break which denote none. -/
def orBooleanText : Option Bool → Checked Bool
  | some b => .ok b
  | none => .broken .booleanText

/-- A truth value from a value that stands for one. A number beyond 64 bits breaks the rule for
values of a wrong kind. -/
def readBool : Value → Checked Bool
  | .bool b => .ok b
  | .integer n =>
    if -(wordBound : Int) ≤ n && n < wordBound then orBooleanText (numberBool? n)
    else .broken .boolean
  | .text s => orBooleanText (wordBool? s)
  | .real x =>
    match readDouble x with
    | .ok n => orBooleanText (numberBool? n)
    | .error _ => .broken .boolean
  | _ => .broken .boolean

/-- A list of texts. -/
def readStrings : Value → Checked (List String)
  | .list values =>
    Checked.sequence (values.mapIdx fun i v => v.readString.within (.index i))
  | _ => .broken .list

def readType : Value → Checked TypeExpr
  | .type t => .ok t
  | _ => .broken .typeExpr

end Value

end SchemaTypes
