import SchemaTypes.Config.Validation
import SchemaTypes.GeneratorError
import SchemaTypes.FileTree
import SchemaTypes.Text.Case

set_option autoImplicit false

/-! # Settings

What the environment of a run provides. It fills in what the configuration leaves out; a text that
is empty counts as left out.
-/

namespace SchemaTypes

structure Settings where
  databaseUrl : Option String := none
  /-- The config file to use instead of one that is searched for. -/
  configFile : Option String := none
  outFile : String := "db.d.ts"
  logLevel : String := "WARNING"
  deriving DecidableEq, Repr

namespace Settings

/-- What the names of the variables start with. -/
def variableStart : String := "KYSQLGEN_"

/-- The two texts are the same in lower case. -/
def sameName (x y : String) : Bool := Text.lower x.toList == Text.lower y.toList

/-- The value for a setting: the first one that is given directly under its name, or else that of
the last variable with its name. The case of names does not matter. -/
def valueOf (environment : List (String × String)) (values : List (String × Value))
    (name : String) : Option Value :=
  match values.find? fun entry => sameName entry.1 name with
  | some entry => some entry.2
  | none => (environment.reverse.find? fun entry => sameName entry.1 (variableStart ++ name)).map
    fun entry => .text entry.2

/-- Settings from the variables of an environment and from values given directly. -/
def read (environment : List (String × String)) (values : List (String × Value)) :
    Checked Settings :=
  let fields := ["database_url", "config_file", "out_file", "log_level"].filterMap fun name =>
    (valueOf environment values name).map (name, ·)
  Checked.apply (Checked.apply (Checked.apply (Checked.apply (.ok Settings.mk)
    (Value.optionalField fields "database_url" none Value.readString?))
    (Value.optionalField fields "config_file" none Value.readString?))
    (Value.optionalField fields "out_file" "db.d.ts" Value.readString))
    (Value.optionalField fields "log_level" "WARNING" Value.readString)

/-- The file with further variables: one in the working directory, or else one in a directory of its
own under the home directory. -/
def environmentFile? (files : FileTree) (directory home : Path) :
    Except PathError (Option String) := do
  let here : Path := { names := [".env"] }
  let user := (home.child ".kysqlgen").child ".env"
  if ← files.exists? directory here then return some here.text
  else if ← files.exists? directory user then return some user.text
  else return none

end Settings

namespace GeneratorConfig

/-- A text that is given and not empty, or else another one. -/
def orElse (first : Option String) (second : Option String) : Option String :=
  if isGiven first then first else second

/-- The URL of the database. -/
def resolveDatabaseUrl (config : GeneratorConfig) (settings : Settings) :
    Except GeneratorError String :=
  match orElse config.databaseUrl settings.databaseUrl with
  | some url => if url = "" then .error (.config .noDatabaseUrl) else .ok url
  | none => .error (.config .noDatabaseUrl)

/-- The file that a module is written to. -/
def resolveOutFile (config : GeneratorConfig) (settings : Settings) : String :=
  if isGiven config.outFile then config.outFile.getD settings.outFile else settings.outFile

end GeneratorConfig

end SchemaTypes
