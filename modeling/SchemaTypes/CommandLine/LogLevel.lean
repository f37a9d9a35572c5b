import SchemaTypes.Text.Case
import SchemaTypes.Text.SingleQuoted

set_option autoImplicit false

/-! # Log levels

The level of the log is set by name, in any case. A name that the log does not know stands for the
usual level, but it also knows names that are not those of levels, and refuses them.
-/

namespace SchemaTypes.CommandLine

/-- Why a level is refused. -/
inductive LogLevelError where
  /-- The name stands for a text. -/
  | text (value : String)
  /-- The name stands for something else than a level or a text. -/
  | noLevel
  deriving DecidableEq, Repr

namespace LogLevelError

def message? : LogLevelError → Option String
  | .text value => some ("Unknown level: " ++ Text.SingleQuoted.encode value)
  | .noLevel => none

end LogLevelError

/-- The names that the log knows without their being those of levels. -/
def reservedNames : List (String × LogLevelError) :=
  [("BASIC_FORMAT", .text "%(levelname)s:%(name)s:%(message)s"), ("_STYLES", .noLevel)]

/-- What is wrong with the name of a level. -/
def logLevelError? (name : String) : Option LogLevelError :=
  reservedNames.lookup (String.ofList (Text.upper name.toList))

end SchemaTypes.CommandLine
