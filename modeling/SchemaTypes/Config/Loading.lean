import SchemaTypes.Config.Validation
import SchemaTypes.Failure
import SchemaTypes.FileTree
import SchemaTypes.Text.SingleQuoted

set_option autoImplicit false

/-! # Finding and loading a config file

The config file is searched for from a directory upwards. Loading one runs it and validates what it
defines; whatever goes wrong is an error of the configuration that tells the path. A configuration
is validated where it is built: while the file runs, or after it for one that the file gives as a
value.
-/

namespace SchemaTypes.GeneratorConfig

/-- The config file in a directory or the nearest directory above it, `working` being the working
directory. -/
def locate? (files : FileTree) (working directory : Path) : Except PathError (Option Path) :=
  if directory.hasNull then .error .nullCharacter
  else ((working.resolve directory).ancestors.map (·.child configFileName)).findM?
    (files.isFile working)

/-- How a config file is run. -/
inductive Loader where
  | script
  /-- A script that has been compiled before. -/
  | compiled
  /-- A library of the machine. -/
  | library
  deriving DecidableEq, Repr

/-- The ends of the names of files that can be run. -/
def loaders : List (String × Loader) :=
  [(".so", .library), (".py", .script), (".pyc", .compiled)]

/-- How the file at the path is run, going by its name; none if its name is not that of such a
file. -/
def loader? (path : Path) : Option Loader := do
  let name ← path.names.getLast?
  let (_, loader) ← loaders.find? fun (ending, _) => ending.toList.isSuffixOf name.toList
  return loader

/-- What an exception comes to that the config file with the given path has raised. -/
def raised (path : String) (exception : ScriptException) : Failure :=
  if exception.isInterrupt then .interrupted exception
  else .generator (.config (.failed path exception.name exception.text))

/-- The configuration cannot be used. -/
def refuse {α : Type} (error : ConfigError) : Except Failure α :=
  .error (.generator (.config error))

/-- What a config file has defined once it has run. -/
inductive Defined where
  /-- A configuration that was validated while the file ran. -/
  | config (config : GeneratorConfig)
  /-- A value that is still to be validated; null if nothing is defined. -/
  | value (value : Value)

/-- Why a config file did not run to its end. -/
inductive Interruption where
  /-- The fields of a configuration were refused. -/
  | invalid (issues : List Issue)
  | exception (exception : ScriptException)

/-- Runs a script. -/
def execute : ConfigScript → Except Interruption Defined
  | .absent => .ok (.value .null)
  | .raises name text => .error (.exception (.ofName name text))
  | .define fields => ((ofFields fields).map Defined.config).mapError Interruption.invalid
  | .value value => .ok (.value value)

/-- What is told of a script that did not run to its end. Refused fields are not told as an
exception. -/
def interrupted (path : String) : Interruption → Failure
  | .invalid issues => .generator (.config (.invalid path issues))
  | .exception exception => raised path exception

/-- The configuration that has been defined, validated if it is not yet. -/
def ofDefined (path : String) : Defined → Except Failure GeneratorConfig
  | .config config => .ok config
  | .value .null => refuse (.undefined path)
  | .value (.object fields) =>
    (ofFields fields).mapError fun issues => .generator (.config (.invalid path issues))
  | .value value => refuse (.unexpectedType path value.typeName)

/-- The configuration that a script defines. -/
def run (path : String) (script : ConfigScript) : Except Failure GeneratorConfig := do
  ofDefined path (← (execute script).mapError (interrupted path))

/-- The name by which a config file is run. -/
def moduleName : String := "kysqlgen_user_config"

/-- What is said of a compiled script that starts with the wrong bytes. -/
def wrongStart (bytes : List UInt8) : String :=
  "bad magic number in " ++ Text.SingleQuoted.encode moduleName ++ ": " ++ Cell.bytesText bytes

/-- The configuration that a file with the given path defines. No compiled script has the right
bytes at its start. -/
def loadContent (path : Path) (content : FileContent) : Except Failure GeneratorConfig :=
  match loader? path with
  | none => refuse (.notLoadable path.text)
  | some .library => .error .notLoadable
  | some .compiled => refuse (.failed path.text "ImportError" (wrongStart content.start))
  | some .script => run path.text content.asScript

/-- The configuration that a config file defines. -/
def load (files : FileTree) (directory path : Path) : Except Failure GeneratorConfig := do
  match ← (files.content? directory path).mapError Failure.path with
  | none => refuse (.notFound path.text)
  | some content => loadContent path content

end SchemaTypes.GeneratorConfig
