import SchemaTypes.Terminal.Markup
import SchemaTypes.Terminal.Width
import SchemaTypes.Text.Split

set_option autoImplicit false

/-! # What is sent to an output

Lines with markup become plain lines without control characters and tabs. Other texts are sent to a
terminal as they are; an output that is no terminal gets them without the sequences that would
change colors.
-/

namespace SchemaTypes.Terminal

/-- The width of the steps that tabs advance by. -/
def tabWidth : Nat := 8

/-- The first column from `column` on where a step begins. -/
def stepFrom (column : Nat) : Nat := (column + tabWidth - 1) / tabWidth * tabWidth

/-- The pieces of a line put together again, the first of them starting at `column`. The tab between
two pieces becomes a space, measured with the piece before it, and further spaces up to where a step
begins. -/
def joinAtSteps (column : Nat) : List (List Char) → List Char
  | [] => []
  | [last] => last
  | piece :: pieces =>
    let reached := column + columns (piece ++ [' '])
    piece ++ ' ' :: List.replicate (stepFrom reached - reached) ' '
      ++ joinAtSteps (stepFrom reached) pieces

/-- A text with spaces for its tabs. Every line starts at the first column. -/
def expandTabs (s : List Char) : List Char :=
  List.intercalate ['\n'] ((Text.split (· == '\n') s).map fun line =>
    joinAtSteps 0 (Text.split (· == '\t') line))

/-- A line with markup as it is shown. -/
def line (markup : String) : Except MarkupError String := do
  let plain ← (← StyledText.ofMarkup markup.toList).plain
  return String.ofList (expandTabs plain ++ ['\n'])

/-- What follows the sequence that a text starts with after its escape character: a bracket, digits,
semicolons and question marks, and a letter. -/
def afterSequence? : List Char → Option (List Char)
  | '[' :: rest =>
    match rest.dropWhile fun c => c.isDigit || c == ';' || c == '?' with
    | c :: after => if c.isAlpha then some after else none
    | [] => none
  | _ => none

theorem length_lt_of_afterSequence? {s after : List Char} (h : afterSequence? s = some after) :
    after.length < s.length := by
  unfold afterSequence? at h
  split at h
  · rename_i rest
    split at h
    · rename_i c tail heq
      split at h
      · have hlen := (List.dropWhile_suffix (l := rest)
          fun c => c.isDigit || c == ';' || c == '?').length_le
        simp only [Option.some.injEq] at h
        rw [heq, h] at hlen
        simp only [List.length_cons] at hlen ⊢
        omega
      · exact absurd h (by simp)
    · exact absurd h (by simp)
  · exact absurd h (by simp)

/-- A text without the sequences that change colors or move the cursor. -/
def withoutSequences : List Char → List Char
  | [] => []
  | c :: rest =>
    if c = '\x1b' then
      match h : afterSequence? rest with
      | some after =>
        have := length_lt_of_afterSequence? h
        withoutSequences after
      | none => c :: withoutSequences rest
    else c :: withoutSequences rest
  termination_by s => s.length

end SchemaTypes.Terminal
