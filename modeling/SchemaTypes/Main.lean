import SchemaTypes.CommandLine.Run

set_option autoImplicit false

/-! # The program

Gathers the world of a run, runs the command that the arguments tell, and puts the outcome into
effect. The config files of the world are texts; no engine is linked in, so that every statement is
refused.
-/

namespace SchemaTypes.CommandLine

/-- A database that refuses every statement. -/
def noServer : Server where
  execute := fun _ _ => .error (.operational "no database engine is linked in")
  fetchRows := fun _ _ => .ok []
  fetchValues := fun _ _ => .ok []

/-- The variables of the environment that are settings. -/
def readEnvironment : IO (List (String × String)) :=
  ["DATABASE_URL", "CONFIG_FILE", "OUT_FILE", "LOG_LEVEL"].filterMapM fun name => do
    let value? ← IO.getEnv (Settings.variableStart ++ name)
    return value?.map fun value => (Settings.variableStart ++ name, value)

/-- The file at an absolute path, if it can be read. -/
def readFileAt (path : Path) : IO (Option (Place × Node)) := do
  try
    let text ← IO.FS.readFile path.text
    return some (path.names, .file (.text text))
  catch _ => return none

/-- The paths at which a run may look for its config file. -/
def configPaths (arguments : List String) (settings : Settings) (directory : Path) : List Path :=
  let options := match Command.parse arguments with
    | .ok (.generate options) => options
    | _ => {}
  let start := directory.resolve ((options.directory.map Path.ofString).getD {})
  let asked := [options.config, settings.configFile].filterMap id
  asked.map (fun text => directory.resolve (start.under (Path.ofString text)))
    ++ start.ancestors.map (·.child configFileName)

/-- The files that a run may read. -/
def readFiles (paths : List Path) (directory : Path) : IO FileTree := do
  let files ← paths.filterMapM readFileAt
  return .ofList (files ++ [(directory.names, .directory)])

/-- What is said of a run that crashed. -/
def Crash.message : Crash → String
  | .failure cause => cause.message?.getD "The database has an answer that cannot be used."
  | .write .fileExists => "There is a file where a directory should be."
  | .write .notADirectory => "The out file lies inside a file."
  | .write .isADirectory => "The out file is a directory."
  | .write (.path error) => error.message
  | .logLevel error => error.message?.getD "The log has no such level."
  | .markup .tag => "A tag closes what is not open."
  | .markup (.color error) => error.message

/-- Writes the file of an outcome, with the directories above it. -/
def writeOut (outcome : Outcome) : IO Unit := do
  match outcome.written with
  | none => return
  | some place =>
    match outcome.files.at? place with
    | some (.file (.text text)) =>
      let path : Path := { root := .slash, names := place }
      IO.FS.createDirAll path.parent.text
      IO.FS.writeFile path.text text
    | _ => return

/-- Puts an outcome into effect. -/
def finish (outcome : Outcome) : IO UInt32 := do
  writeOut outcome
  IO.print outcome.output
  IO.eprint outcome.messages
  match outcome.ending with
  | .usage error => IO.eprintln ("Error: " ++ error.message)
  | .left text => IO.eprintln text
  | .crashed crash => IO.eprintln crash.message
  | _ => pure ()
  return outcome.ending.exitCode.toUInt32

end SchemaTypes.CommandLine

open SchemaTypes SchemaTypes.CommandLine

/-- The entry point of the program. -/
def main (arguments : List String) : IO UInt32 := do
  let environment ← readEnvironment
  match Settings.read environment [] with
  | .error issues =>
    issues.forM fun issue => IO.eprintln issue.rule.message
    return 1
  | .ok settings =>
    let directory := Path.ofString (toString (← IO.currentDir))
    let files ← readFiles (configPaths arguments settings directory) directory
    finish (run arguments { files, directory, settings, server := noServer })
