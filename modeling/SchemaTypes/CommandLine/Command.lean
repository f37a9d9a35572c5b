import SchemaTypes.CommandLine.Arguments

set_option autoImplicit false

/-! # Commands

What the program can be told to do: generate a module, or show the settings.
-/

namespace SchemaTypes.CommandLine

/-- The options of a run that generates a module. -/
structure GenerateOptions where
  /-- The config file. -/
  config : Option String := none
  /-- The directory that the run sees as its own. -/
  directory : Option String := none
  /-- The module is written to a file and not printed. -/
  write : Bool := false
  /-- The file to write to. -/
  out : Option String := none
  verbose : Bool := false
  deriving DecidableEq, Repr

inductive Command where
  | generate (options : GenerateOptions)
  | showSettings
  | help
  deriving DecidableEq, Repr

namespace Command

def helpSwitch : Switch := { name := "--help" }

def generateSwitches : List Switch :=
  [{ name := "--config", letter := some 'c', takesValue := true },
   { name := "--cwd", takesValue := true },
   { name := "--write" },
   { name := "--out", letter := some 'o', takesValue := true },
   { name := "--verbose", letter := some 'v' },
   helpSwitch]

/-- A command from its arguments, of which it knows only options. -/
def ofArguments (build : Arguments → Command) (arguments : Arguments) : Except UsageError Command :=
  if arguments.has helpSwitch.name then .ok .help
  else match arguments.rest with
    | [] => .ok (build arguments)
    | argument :: _ => .error (.unexpected argument)

def generateOf (arguments : Arguments) : Command := .generate
  { config := arguments.value? "--config"
    directory := arguments.value? "--cwd"
    write := arguments.has "--write"
    out := arguments.value? "--out"
    verbose := arguments.has "--verbose" }

/-- The command with a name and arguments of its own. -/
def named (name : String) (arguments : List String) : Except UsageError Command := do
  if name = "generate" then
    ofArguments generateOf (← Arguments.read generateSwitches true arguments)
  else if name = "config" then
    ofArguments (fun _ => .showSettings) (← Arguments.read [helpSwitch] true arguments)
  else .error (.unknownCommand name)

/-- The command that the arguments of the program tell. -/
def parse (arguments : List String) : Except UsageError Command := do
  let first ← Arguments.read [helpSwitch] false arguments
  if first.has helpSwitch.name then .ok .help
  else match first.rest with
    | [] => .error .noCommand
    | name :: rest => named name rest

end Command

end SchemaTypes.CommandLine
