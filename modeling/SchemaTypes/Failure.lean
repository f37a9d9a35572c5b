import SchemaTypes.Config.Exception
import SchemaTypes.GeneratorError
import SchemaTypes.PathError
import SchemaTypes.Text.SingleQuoted

set_option autoImplicit false

/-! # Failures of a run

Everything that can end a run: the errors of the generator itself, what the driver of a database
raises, and input that cannot be worked with.
-/

namespace SchemaTypes

/-- What the driver of a database raises. -/
inductive DriverError where
  /-- The operating system failed. -/
  | system (message : String)
  /-- The driver refused a value. -/
  | value (message : String)
  /-- The database refused a statement. -/
  | operational (message : String)
  deriving DecidableEq, Repr

/-- What is wrong with the URL of a database. -/
inductive UrlError where
  | notMysql (url : String)
  /-- Brackets around the host that do not match. -/
  | brackets
  | bracketedHost (message : String)
  /-- The authority has characters that turn into delimiters when it is normalized. -/
  | delimiters (authority : String)
  | portText (port : String)
  /-- A port with so many digits that it is not even read. -/
  | portDigits (count : Nat)
  | portRange
  deriving DecidableEq, Repr

namespace UrlError

def message : UrlError → String
  | .notMysql url => "Not a MySQL URL: " ++ url
  | .brackets => "Invalid IPv6 URL"
  | .bracketedHost message => message
  | .delimiters authority =>
    "netloc '" ++ authority ++ "' contains invalid characters under NFKC normalization"
  | .portText port =>
    "Port could not be cast to integer value as " ++ Text.SingleQuoted.encode port
  | .portDigits count =>
    "Exceeds the limit (4300 digits) for integer string conversion: value has " ++ toString count
      ++ " digits; use sys.set_int_max_str_digits() to increase the limit"
  | .portRange => "Port out of range 0-65535"

end UrlError

/-- Why a run ended without a result. -/
inductive Failure where
  | generator (error : GeneratorError)
  /-- A row lacks a field. -/
  | missingField (name : String)
  /-- A value is no text where one is needed. -/
  | notText (value : Cell)
  /-- Bytes that should be a text are not UTF-8. -/
  | notUtf8
  /-- The type of an enumeration has no list of members. -/
  | noMemberList
  | url (error : UrlError)
  | databaseNotFound (file : String)
  | path (error : PathError)
  /-- A config file that is a library which cannot be loaded. -/
  | notLoadable
  /-- A config file ended the whole program. -/
  | interrupted (exception : ScriptException)
  | driver (error : DriverError)
  deriving DecidableEq, Repr

namespace Failure

/-- The message of a failure; none for failures that have no message of their own. -/
def message? : Failure → Option String
  | .generator error => some error.message
  | .missingField name => some (Text.SingleQuoted.encode name)
  | .notText _ => none
  | .notUtf8 => none
  | .noMemberList => some "substring not found"
  | .url error => some error.message
  | .databaseNotFound file => some ("SQLite database not found: " ++ file)
  | .path error => some error.message
  | .notLoadable => none
  | .interrupted _ => none
  | .driver (.system message) => some message
  | .driver (.value message) => some message
  | .driver (.operational message) => some message

/-- The failure lies with the database or the operating system. -/
def isDatabaseFailure : Failure → Bool
  | .databaseNotFound _ => true
  | .path (.nameTooLong _) => true
  | .driver (.system _) => true
  | .driver (.operational _) => true
  | _ => false

end Failure

end SchemaTypes
