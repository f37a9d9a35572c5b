import SchemaTypes.Text.Percent
import SchemaTypes.Text.Split

set_option autoImplicit false

/-! # Paths

Paths of files, with slashes between the names. Empty names and single dots are dropped when a path
is read; double dots are kept until the path is resolved.
-/

namespace SchemaTypes

/-- Where a path starts. -/
inductive Path.Root where
  /-- At the working directory. -/
  | none
  | slash
  /-- Two slashes, which some systems tell from one. -/
  | twoSlashes
  deriving DecidableEq, Repr

/-- A path: where it starts, and the names on the way. -/
structure Path where
  root : Path.Root := .none
  names : List String := []
  deriving DecidableEq, Repr

namespace Path

/-- The root that a text starts with. -/
def rootOf : List Char → Root
  | '/' :: '/' :: '/' :: _ => .slash
  | '/' :: '/' :: _ => .twoSlashes
  | '/' :: _ => .slash
  | _ => .none

/-- The path that a text denotes. -/
def ofString (text : String) : Path where
  root := rootOf text.toList
  names := ((Text.words (· == '/') text.toList).filter (· != ['.'])).map String.ofList

/-- A path as a text; the empty path is a dot. -/
def text (path : Path) : String :=
  let body := String.intercalate "/" path.names
  match path.root with
  | .none => if path.names.isEmpty then "." else body
  | .slash => "/" ++ body
  | .twoSlashes => "//" ++ body

def isAbsolute (path : Path) : Bool := path.root != .none

/-- A name of the path holds the character that ends texts. -/
def hasNull (path : Path) : Bool := path.names.any fun name => name.toList.contains '\x00'

/-- The path as seen from a directory; an absolute path is the same from everywhere. -/
def under (directory path : Path) : Path :=
  if path.isAbsolute then path else { directory with names := directory.names ++ path.names }

/-- The path with a name after it. -/
def child (path : Path) (name : String) : Path := { path with names := path.names ++ [name] }

/-- The directory that a path lies in. -/
def parent (path : Path) : Path := { path with names := path.names.dropLast }

/-- Names with every double dot taken back with the name before it, last name first. -/
def settle : List String → List String → List String
  | settled, [] => settled
  | settled, name :: rest =>
    settle (if name = ".." then settled.tail else name :: settled) rest

/-- The absolute path without double dots, `directory` being the working directory. -/
def resolve (directory path : Path) : Path where
  root := .slash
  names := (settle [] (directory.under path).names).reverse

/-- The path and the directories above it, from the inside out. -/
def ancestors (path : Path) : List Path :=
  (List.range (path.names.length + 1)).reverse.map fun n => { path with names := path.names.take n }

/-- A path as a `file` URI. -/
def toUri (path : Path) : String :=
  "file://" ++ String.ofList
    (Text.Percent.encode (fun c => Text.Percent.isUnreserved c || c == '/') path.text.toList)

end Path

end SchemaTypes
