set_option autoImplicit false

/-! # Reading arguments

Options among the arguments of a command. An option is called by a name that starts with two dashes,
or by a letter after one dash. Its value is the next argument, or stands behind an equals sign or
directly behind the letter. Letters of options without values may be joined. Two dashes alone end
the options.
-/

namespace SchemaTypes.CommandLine

/-- Why arguments cannot be read. -/
inductive UsageError where
  | unknownOption (name : String)
  | valueMissing (name : String)
  | valueGiven (name : String)
  | unexpected (argument : String)
  | noCommand
  | unknownCommand (name : String)
  deriving DecidableEq, Repr

namespace UsageError

def message : UsageError → String
  | .unknownOption name => "No such option: " ++ name
  | .valueMissing name => "Option '" ++ name ++ "' requires an argument."
  | .valueGiven name => "Option '" ++ name ++ "' does not take a value."
  | .unexpected argument => "Got unexpected extra argument (" ++ argument ++ ")"
  | .noCommand => "Missing command."
  | .unknownCommand name => "No such command '" ++ name ++ "'."

end UsageError

/-- An option of a command. -/
structure Switch where
  name : String
  letter : Option Char := none
  takesValue : Bool := false

/-- An option that was given, with its value if it takes one. -/
structure Given where
  name : String
  value : String := ""
  deriving DecidableEq, Repr

/-- Options from one argument, and the option whose value is the next argument. -/
structure Scan where
  given : List Given := []
  pending : Option String := none

/-- The options behind one dash. -/
def scanLetters (switches : List Switch) : List Char → Except UsageError Scan
  | [] => .ok {}
  | c :: rest =>
    match switches.find? (·.letter == some c) with
    | none => .error (.unknownOption (String.ofList ['-', c]))
    | some switch =>
      if switch.takesValue then
        if rest.isEmpty then .ok { pending := some switch.name }
        else .ok { given := [{ name := switch.name, value := String.ofList rest }] }
      else (scanLetters switches rest).map fun scan =>
        { scan with given := { name := switch.name } :: scan.given }

/-- The option with a full name, a value behind an equals sign cut off. -/
def scanName (switch : Switch) (value : Option (List Char)) : Except UsageError Scan :=
  match switch.takesValue, value with
  | true, some text => .ok { given := [{ name := switch.name, value := String.ofList text }] }
  | true, none => .ok { pending := some switch.name }
  | false, some _ => .error (.valueGiven switch.name)
  | false, none => .ok { given := [{ name := switch.name }] }

/-- The options in an argument that starts with a dash. -/
def scan (switches : List Switch) (argument : List Char) : Except UsageError Scan :=
  let name := String.ofList (argument.takeWhile (· != '='))
  match switches.find? (·.name == name) with
  | some switch => scanName switch ((argument.dropWhile (· != '=')).tail?)
  | none =>
    match argument with
    | '-' :: '-' :: _ => .error (.unknownOption name)
    | _ => scanLetters switches argument.tail

/-- Arguments that have been read: options, and the rest. -/
structure Arguments where
  given : List Given := []
  rest : List String := []
  deriving DecidableEq, Repr

namespace Arguments

/-- The value of an option; the last one if it was given more than once. -/
def value? (arguments : Arguments) (name : String) : Option String :=
  (arguments.given.reverse.find? (·.name == name)).map (·.value)

def has (arguments : Arguments) (name : String) : Bool := arguments.given.any (·.name == name)

/-- The argument is one that holds options. -/
def holdsOptions : List Char → Bool
  | '-' :: _ :: _ => true
  | _ => false

/-- Reads arguments. Options may follow other arguments only if that is said. -/
def read (switches : List Switch) (mixed : Bool) : List String → Except UsageError Arguments
  | [] => .ok {}
  | argument :: rest =>
    if argument = "--" then .ok { rest }
    else if holdsOptions argument.toList then
      match scan switches argument.toList with
      | .error e => .error e
      | .ok scan =>
        match scan.pending, rest with
        | none, rest => (read switches mixed rest).map fun arguments =>
          { arguments with given := scan.given ++ arguments.given }
        | some name, [] => .error (.valueMissing name)
        | some name, value :: rest => (read switches mixed rest).map fun arguments =>
          { arguments with given := scan.given ++ { name, value } :: arguments.given }
    else if mixed then
      (read switches mixed rest).map fun arguments =>
        { arguments with rest := argument :: arguments.rest }
    else .ok { rest := argument :: rest }

end Arguments

end SchemaTypes.CommandLine
