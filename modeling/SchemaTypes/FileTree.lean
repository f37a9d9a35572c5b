import SchemaTypes.Config.File
import SchemaTypes.Path
import SchemaTypes.PathError

set_option autoImplicit false

/-! # File trees

The files and directories that a run can see. A place in the tree is a list of names from its root.
A path leads to a place through directories that exist: a double dot leads back out of a directory,
and nothing lies inside a file.
-/

namespace SchemaTypes

/-- What is at a place. -/
inductive Node where
  | directory
  | file (content : FileContent)

/-- A place in a tree. -/
abbrev Place := List String

/-- A tree of files; at its root there is a directory. -/
structure FileTree where
  below : Place → Option Node

namespace FileTree

/-- What is at a place. -/
def at? (tree : FileTree) : Place → Option Node
  | [] => some .directory
  | place => tree.below place

def isDirectory (tree : FileTree) (place : Place) : Bool :=
  match tree.at? place with
  | some .directory => true
  | _ => false

/-- The place of a name in a directory. -/
def placeIn (here : Place) (name : String) : Place :=
  if name = ".." then here.dropLast else here ++ [name]

/-- How many bytes a name may have. -/
def nameLimit : Nat := 255

/-- How many bytes a path may have. -/
def pathLimit : Nat := 4095

/-- Follows names from a directory on. A name that is too long is found out where it would be looked
up. -/
def walk (tree : FileTree) (tooLong : PathError) (here : Place) :
    List String → Except PathError (Option Place)
  | [] => .ok (if (tree.at? here).isSome then some here else none)
  | name :: rest =>
    if !tree.isDirectory here then .ok none
    else if nameLimit < name.utf8ByteSize then .error tooLong
    else walk tree tooLong (placeIn here name) rest

/-- The place that a path leads to, `directory` being the working directory; none if there is
nothing. -/
def find? (tree : FileTree) (directory path : Path) : Except PathError (Option Place) :=
  let tooLong := PathError.nameTooLong path.text
  if path.hasNull then .ok none
  else if pathLimit < path.text.utf8ByteSize then .error tooLong
  else tree.walk tooLong [] (directory.under path).names

/-- There is a file or directory at the path. -/
def exists? (tree : FileTree) (directory path : Path) : Except PathError Bool :=
  (tree.find? directory path).map Option.isSome

/-- What the file at a place holds; none if there is no file. -/
def contentAt? (tree : FileTree) (place : Place) : Option FileContent :=
  match tree.at? place with
  | some (.file content) => some content
  | _ => none

/-- What the file at the path holds; none if there is no file. -/
def content? (tree : FileTree) (directory path : Path) : Except PathError (Option FileContent) :=
  (tree.find? directory path).map fun place => place.bind tree.contentAt?

def isFile (tree : FileTree) (directory path : Path) : Except PathError Bool :=
  (tree.content? directory path).map Option.isSome

/-- A tree with something else at a place. -/
def set (tree : FileTree) (place : Place) (node : Node) : FileTree where
  below := fun p => if p = place then some node else tree.below p

/-- Why a file could not be written. -/
inductive WriteError where
  /-- There is a file where a directory should be. -/
  | fileExists
  /-- A path leads through a file. -/
  | notADirectory
  /-- There is a directory where the file should be. -/
  | isADirectory
  | path (error : PathError)
  deriving DecidableEq, Repr

/-- Makes the directories on the way along the names, as far as there are none. `walked` are the
names before those, `here` is where they lead to, and `made` says whether something has been made.
The result is the tree after that and the place that the names lead to. What stands in the way of a
directory is told of that directory alone if it is met at the end of the way, or after something has
been made. -/
def makeDirectories (tree : FileTree) (root : Path.Root) (walked : List String) (here : Place)
    (made : Bool) : List String → FileTree × Except WriteError Place
  | [] => (tree, .ok here)
  | name :: rest =>
    let walkedNow := walked ++ [name]
    if name = ".." then makeDirectories tree root walkedNow here.dropLast made rest
    else if nameLimit < name.utf8ByteSize then
      let names := if made then walkedNow else walkedNow ++ rest
      (tree, .error (.path (.nameTooLong (Path.text { root, names }))))
    else
      let place := here ++ [name]
      match tree.at? place with
      | some .directory => makeDirectories tree root walkedNow place made rest
      | some (.file _) =>
        (tree, .error (if made || rest.isEmpty then .fileExists else .notADirectory))
      | none => makeDirectories (tree.set place .directory) root walkedNow place true rest

/-- Makes a directory and those above it, if they are not there. -/
def makeDirectory (tree : FileTree) (path : Path) : FileTree × Except WriteError Place :=
  if path.hasNull then (tree, .error (.path .nullCharacter))
  else if pathLimit < path.text.utf8ByteSize then
    (tree, .error (.path (.nameTooLong path.text)))
  else tree.makeDirectories path.root [] [] false path.names

/-- Puts a file with the given path into a directory that is there. -/
def writeIn (tree : FileTree) (here : Place) (path : Path) (content : String) :
    FileTree × Except WriteError Place :=
  let name := path.names.getLast?.getD ".."
  let place := placeIn here name
  if path.hasNull then (tree, .error (.path .nullCharacter))
  else if pathLimit < path.text.utf8ByteSize || nameLimit < name.utf8ByteSize then
    (tree, .error (.path (.nameTooLong path.text)))
  else if tree.isDirectory place then (tree, .error .isADirectory)
  else (tree.set place (.file (.text content)), .ok place)

/-- Writes a text to a file. The directories above it are made if they are not there. The result is
the tree after that and the place of the file. -/
def write (tree : FileTree) (directory path : Path) (content : String) :
    FileTree × Except WriteError Place :=
  let path := directory.under path
  match tree.makeDirectory path.parent with
  | (tree, .error e) => (tree, .error e)
  | (tree, .ok here) => tree.writeIn here path content

/-- The tree with the given files and directories and the directories above them. -/
def ofList (nodes : List (Place × Node)) : FileTree where
  below := fun place =>
    match nodes.find? (·.1 == place) with
    | some (_, node) => some node
    | none =>
      if nodes.any fun (p, _) => place.isPrefixOf p then some .directory else none

end FileTree

end SchemaTypes
