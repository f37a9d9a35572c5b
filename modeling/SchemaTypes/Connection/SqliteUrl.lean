import SchemaTypes.Connection.Session
import SchemaTypes.FileTree

set_option autoImplicit false

/-! # URLs of SQLite databases

`sqlite:///path`, `sqlite://path`, a bare path, or a database in memory. A file has to be there
already, and it is opened for reading only.
-/

namespace SchemaTypes.SqliteUrl

/-- The path of a database that lives in memory. -/
def inMemory : String := ":memory:"

/-- `s` without `start` in front of it, if it starts so. -/
def cutStart (start s : List Char) : Option (List Char) :=
  if start.isPrefixOf s then some (s.drop start.length) else none

/-- The path that a URL denotes. -/
def path (url : String) : String :=
  let s := url.toList
  match cutStart "sqlite:///".toList s, cutStart "sqlite://".toList s with
  | some rest, _ => String.ofList rest
  | none, some rest => if rest.isEmpty then inMemory else String.ofList rest
  | none, none => url

/-- The call that opens the database with the given path. -/
def opening (files : FileTree) (directory : Path) (path : String) : Except Failure Call :=
  if path = inMemory then .ok (.connect path false)
  else do
    if ← (files.exists? directory (.ofString path)).mapError Failure.path then
      return .connect ((Path.resolve directory (.ofString path)).toUri ++ "?mode=ro") true
    else .error (.databaseNotFound path)

end SchemaTypes.SqliteUrl
