import SchemaTypes.CommandLine.Arguments
import SchemaTypes.CommandLine.LogLevel
import SchemaTypes.Failure
import SchemaTypes.FileTree
import SchemaTypes.Terminal.Line

set_option autoImplicit false

/-! # Outcomes of runs

What a run of the program leaves behind: what it printed, the files, and how it ended.
-/

namespace SchemaTypes.CommandLine

/-- What can end a run without being reported. -/
inductive Crash where
  | failure (failure : Failure)
  | write (error : FileTree.WriteError)
  | logLevel (error : LogLevelError)
  /-- A line to be printed cannot be shown. -/
  | markup (error : Terminal.MarkupError)
  deriving DecidableEq, Repr

inductive Ending where
  | done
  /-- The run failed and told why. -/
  | reported
  | usage (error : UsageError)
  /-- The config file left the program with a text. -/
  | left (text : String)
  | crashed (crash : Crash)
  deriving DecidableEq, Repr

namespace Ending

/-- The exit code of the program. -/
def exitCode : Ending → Nat
  | .done => 0
  | .reported => 1
  | .usage _ => 2
  | .left _ => 1
  | .crashed _ => 1

end Ending

structure Outcome where
  /-- The standard output. -/
  output : String := ""
  /-- The lines of the standard error output. -/
  messages : String := ""
  files : FileTree
  /-- The place of the file that was written. -/
  written : Option Place := none
  ending : Ending := .done

namespace Outcome

/-- Ends with a line of messages, or with a crash if the line cannot be shown. -/
def tell (outcome : Outcome) (markup : String) (ending : Ending) : Outcome :=
  match Terminal.line markup with
  | .ok line => { outcome with messages := outcome.messages ++ line, ending }
  | .error e => { outcome with ending := .crashed (.markup e) }

/-- Prints lines one by one, until one of them cannot be shown. -/
def print (outcome : Outcome) : List String → Outcome
  | [] => outcome
  | markup :: rest =>
    match Terminal.line markup with
    | .ok line => print { outcome with output := outcome.output ++ line } rest
    | .error e => { outcome with ending := .crashed (.markup e) }

end Outcome

end SchemaTypes.CommandLine
