import SchemaTypes.CommandLine.Command
import SchemaTypes.CommandLine.Outcome
import SchemaTypes.Config.Loading
import SchemaTypes.Generation

set_option autoImplicit false

/-! # Running commands

A run reads the files, the settings and the database of its world, and ends in an outcome. The
errors of the generator and those of the database are reported; every other failure crashes the run.
Nothing is printed or written before the module is complete.
-/

namespace SchemaTypes.CommandLine

/-- The config file of a run: the one that is asked for, the one in the settings, or the one that is
found from the directory upwards. -/
def configPath (files : FileTree) (settings : Settings) (directory : Path) (asked : Option Path) :
    Except Failure Path := do
  let chosen := asked.or ((settings.configFile.filter (· != "")).map Path.ofString)
  match chosen with
  | some path => return directory.under path
  | none =>
    match ← (GeneratorConfig.locate? files directory directory).mapError Failure.path with
    | some path => return path
    | none => .error (.generator (.config (.notLocated directory.text)))

namespace GenerateOptions

/-- The directory that relative paths of a run start from. -/
def directoryIn (options : GenerateOptions) (world : World) : Path :=
  world.directory.resolve ((options.directory.map Path.ofString).getD {})

/-- The configuration of a run. -/
def loadConfig (options : GenerateOptions) (world : World) : Except Failure GeneratorConfig := do
  let path ← configPath world.files world.settings (options.directoryIn world)
    (options.config.map Path.ofString)
  GeneratorConfig.load world.files world.directory path

/-- The file that a run writes to. -/
def outPath (options : GenerateOptions) (config : GeneratorConfig) (world : World) : Path :=
  (options.directoryIn world).under
    (Path.ofString (options.out.getD (config.resolveOutFile world.settings)))

/-- The configuration and the text of the module. -/
def moduleText (options : GenerateOptions) (world : World) :
    Except Failure (GeneratorConfig × String) := do
  let config ← options.loadConfig world
  let text ← (Generation.generate config world).outcome
  return (config, text)

end GenerateOptions

/-- The line that reports a failure; none for failures that are not reported. -/
def reportLine? (failure : Failure) : Option String :=
  match failure with
  | .generator error => some ("[red]Error: " ++ error.message ++ "[/red]")
  | failure =>
    if failure.isDatabaseFailure then
      some ("[red]Database error: " ++ failure.message?.getD "" ++ "[/red]")
    else none

/-- Writes the module to a file and tells where. -/
def writeModule (path : Path) (text : String) (world : World) : Outcome :=
  match world.files.write world.directory path text with
  | (files, .error e) => { files, ending := .crashed (.write e) }
  | (files, .ok place) =>
    { files, written := some place : Outcome }.tell
      ("[green]Wrote " ++ path.text ++ "[/green]") .done

/-- What ends a run before it starts: a level of the log that is refused, or a directory that is no
path. -/
def earlyCrash? (options : GenerateOptions) (world : World) : Option Crash :=
  let logLevel := if options.verbose then none else logLevelError? world.settings.logLevel
  match logLevel with
  | some error => some (.logLevel error)
  | none =>
    if options.directory.any fun directory => (Path.ofString directory).hasNull then
      some (.failure (.path .nullCharacter))
    else none

/-- The ending of a run with a failure that is not reported. -/
def endingOf (failure : Failure) : Ending :=
  match failure with
  | .interrupted exception =>
    if exception.isExit then .left exception.text else .crashed (.failure failure)
  | failure => .crashed (.failure failure)

/-- How a run with a failure ends. -/
def fail (failure : Failure) (world : World) : Outcome :=
  match reportLine? failure with
  | some line => { files := world.files : Outcome }.tell line .reported
  | none => { files := world.files, ending := endingOf failure }

/-- Generates a module and prints or writes it. The standard output is no terminal, so what is
printed loses the sequences that would change colors there. -/
def generateNow (options : GenerateOptions) (world : World) : Outcome :=
  match options.moduleText world with
  | .error failure => fail failure world
  | .ok (config, text) =>
    if options.write then writeModule (options.outPath config world) text world
    else
      { files := world.files,
        output := String.ofList (Terminal.withoutSequences text.toList) }

/-- Generates a module unless something ends the run before. -/
def generate (options : GenerateOptions) (world : World) : Outcome :=
  match earlyCrash? options world with
  | some crash => { files := world.files, ending := .crashed crash }
  | none => generateNow options world

/-- The lines that show the settings, `found` being the config file that is found. -/
def settingsLines (settings : Settings) (found : Option Path) : List String :=
  let config := (settings.configFile.filter (· != "")).or (found.map Path.text)
  let url := if isGiven settings.databaseUrl then "Configured" else "Not set"
  ["[bold]Current Configuration[/bold]",
   "  Config file: " ++ config.getD "Not found",
   "  Database URL: " ++ url,
   "  Output file: " ++ settings.outFile,
   "  Log level: " ++ settings.logLevel]

/-- Shows the settings. -/
def showSettings (world : World) : Outcome :=
  match GeneratorConfig.locate? world.files world.directory {} with
  | .error e => { files := world.files, ending := .crashed (.failure (.path e)) }
  | .ok found => { files := world.files : Outcome }.print (settingsLines world.settings found)

/-- How the program is called. -/
def usageLines : List String :=
  ["Usage: schematypes generate OPTIONS",
   "       schematypes config",
   "",
   "Generates type definitions for the tables of a database.",
   "",
   "  -c, --config PATH  the config file",
   "  --cwd PATH         the working directory",
   "  --write            write to the out file instead of standard output",
   "  -o, --out PATH     the out file used with --write",
   "  -v, --verbose      show debug logging"]

/-- Runs the program with the given arguments. -/
def run (arguments : List String) (world : World) : Outcome :=
  match Command.parse arguments with
  | .error e => { files := world.files, ending := .usage e }
  | .ok .help => { files := world.files : Outcome }.print usageLines
  | .ok .showSettings => showSettings world
  | .ok (.generate options) => generate options world

end SchemaTypes.CommandLine
