import SchemaTypes.Text.Blank
import SchemaTypes.Text.Case
import SchemaTypes.Text.Split

set_option autoImplicit false

/-! # Affinities

SQLite derives the affinity of a column from words in its declared type, in a fixed order of
precedence.
-/

namespace SchemaTypes.Sqlite

/-- The words of a declared type and the affinity they bring about, first rule first. -/
def affinityRules : List (List String × String) :=
  [(["INT"], "INTEGER"), (["CHAR", "CLOB", "TEXT"], "TEXT"), (["BLOB"], "BLOB"),
   (["REAL", "FLOA", "DOUB"], "REAL")]

/-- A declared type in upper case and without blanks around it. -/
def normalizedType (declared : String) : List Char := Text.strip (Text.upper declared.toList)

/-- The affinity of a declared type. -/
def affinity (declared : String) : String :=
  let type := normalizedType declared
  match affinityRules.find? fun rule => rule.1.any fun word => Text.contains word.toList type with
  | some (_, name) => name
  | none => if type.isEmpty then "BLOB" else "NUMERIC"

end SchemaTypes.Sqlite
