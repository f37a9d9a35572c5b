import SchemaTypes.Text.Case

set_option autoImplicit false

/-! # Singular forms

The singular of an English noun: irregular plurals and words without a plural are listed, and the
regular endings are cut off. Endings are looked for without regard to case; what is kept of the
word is kept as it was written.
-/

namespace SchemaTypes.Naming

/-- Words that look like plurals and are not. -/
def uncountable : List String :=
  ["equipment", "information", "metadata", "news", "series", "species", "status"]

/-- Plurals that no rule yields, with their singulars. -/
def irregular : List (String × String) :=
  [("children", "child"), ("people", "person"), ("men", "man"), ("women", "woman"),
   ("mice", "mouse"), ("geese", "goose"), ("teeth", "tooth"), ("feet", "foot"),
   ("data", "datum"), ("criteria", "criterion"), ("analyses", "analysis"),
   ("indices", "index"), ("matrices", "matrix"), ("vertices", "vertex")]

/-- Endings whose last two letters are the plural's. -/
def sibilantEndings : List (List Char) :=
  [['s', 'e', 's'], ['x', 'e', 's'], ['z', 'e', 's'], ['c', 'h', 'e', 's'], ['s', 'h', 'e', 's']]

/-- `s` without its last `n` characters. -/
def dropEnd (n : Nat) (s : List Char) : List Char := s.take (s.length - n)

/-- A regular plural without its ending, `lowered` being the word in lower case. An ending is cut
off only if something stands before it. -/
def cutEnding (lowered word : List Char) : List Char :=
  if ['i', 'e', 's'].isSuffixOf lowered && 3 < word.length then dropEnd 3 word ++ ['y']
  else if sibilantEndings.any fun e => e.isSuffixOf lowered && e.length < word.length then
    dropEnd 2 word
  else if ['s'].isSuffixOf lowered && !(['s', 's'].isSuffixOf lowered) && 1 < word.length then
    dropEnd 1 word
  else word

/-- A word with its first letter in upper case; all entries of `irregular` are ASCII. -/
def capitalized (word : String) : String :=
  match word.toList with
  | [] => word
  | c :: rest => String.ofList (c.toUpper :: rest)

/-- The word starts with a capital letter. Only ASCII letters have the lower case of an entry of
`irregular`, so that other capitals do not matter where this is asked. -/
def startsCapital (word : String) : Bool :=
  match word.toList with
  | [] => false
  | c :: _ => c.isUpper

/-- The singular of a noun; a word that is not recognised as a plural is left alone. -/
def singularize (word : String) : String :=
  let lowered := Text.lower word.toList
  if uncountable.contains (String.ofList lowered) then word
  else match irregular.lookup (String.ofList lowered) with
    | some singular => if startsCapital word then capitalized singular else singular
    | none => String.ofList (cutEnding lowered word.toList)

end SchemaTypes.Naming
