import SchemaTypes.Naming.Singular
import SchemaTypes.Text.Blank
import SchemaTypes.Text.Split

set_option autoImplicit false

/-! # Class names

The name of a class from the name of a table: words are found at separators and at the humps of
camel case, each is capitalized, and the last one is put into the singular.
-/

namespace SchemaTypes.Naming

/-- Blanks, hyphens, underscores and full stops stand between words. -/
def isSeparator (c : Char) : Bool := Text.isBlank c || c == '-' || c == '_' || c == '.'

/-- A lower-case ASCII letter or a digit, after which a capital starts a new word. -/
def endsHump (c : Char) : Bool := c.isLower || c.isDigit

/-- Writes an underscore wherever an ASCII capital follows a lower-case letter or a digit. -/
def markHumps : List Char → List Char
  | [] => []
  | [c] => [c]
  | c :: d :: rest =>
    if endsHump c && d.isUpper then c :: '_' :: markHumps (d :: rest)
    else c :: markHumps (d :: rest)

/-- A word with its first character in upper case and the others in lower case. -/
def capitalizeWord : List Char → List Char
  | [] => []
  | c :: rest => Text.upperChar c ++ Text.lower rest

/-- The words of a name, capitalized and joined. -/
def pascal (name : String) : String :=
  String.ofList ((Text.words isSeparator (markHumps name.toList)).flatMap capitalizeWord)

/-- A list with its last entry replaced by its image. -/
def mapLast {α : Type} (f : α → α) : List α → List α
  | [] => []
  | [a] => [f a]
  | a :: rest => a :: mapLast f rest

/-- The class name of a table: its last word, after the last underscore, is put into the
singular. -/
def classify (table : String) : String :=
  let pieces := (Text.split (· == '_') table.toList).map String.ofList
  pascal (String.intercalate "_" (mapLast singularize pieces))

end SchemaTypes.Naming
