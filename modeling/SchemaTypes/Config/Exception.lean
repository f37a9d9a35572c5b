import SchemaTypes.Text.SingleQuoted

set_option autoImplicit false

/-! # Exceptions of config files

A config file may raise an exception by its name, with a text. What is raised then depends on the
name: most names give the exception of that name, some are other names of one, some exceptions
cannot be made from a text alone, and a name that is none is an error itself.
-/

namespace SchemaTypes

/-- An exception that a config file has raised. -/
structure ScriptException where
  name : String
  /-- What the exception says of itself. -/
  text : String
  deriving DecidableEq, Repr

namespace ScriptException

/-- Exceptions that are no errors: they end the whole program. -/
def interruptNames : List String :=
  ["BaseException", "GeneratorExit", "KeyboardInterrupt", "SystemExit"]

/-- Exceptions that have a text and nothing else to say. -/
def plainNames : List String :=
  ["ArithmeticError", "AssertionError", "AttributeError", "BlockingIOError", "BrokenPipeError",
   "BufferError", "BytesWarning", "ChildProcessError", "ConnectionAbortedError", "ConnectionError",
   "ConnectionRefusedError", "ConnectionResetError", "DeprecationWarning", "EOFError",
   "EncodingWarning", "Exception", "FileExistsError", "FileNotFoundError", "FloatingPointError",
   "FutureWarning", "ImportError", "ImportWarning", "IndentationError", "IndexError",
   "InterruptedError", "IsADirectoryError", "LookupError", "MemoryError", "ModuleNotFoundError",
   "NameError", "NotADirectoryError", "NotImplementedError", "OSError", "OverflowError",
   "PendingDeprecationWarning", "PermissionError", "ProcessLookupError", "RecursionError",
   "ReferenceError", "ResourceWarning", "RuntimeError", "RuntimeWarning", "StopAsyncIteration",
   "StopIteration", "SyntaxError", "SyntaxWarning", "SystemError", "TabError", "TimeoutError",
   "TypeError", "UnboundLocalError", "UnicodeError", "UnicodeWarning", "UserWarning", "ValueError",
   "Warning", "ZeroDivisionError"]

/-- What is wrong with making certain exceptions from a text alone. -/
def refusals : List (String × String) :=
  [("BaseExceptionGroup", "BaseExceptionGroup.__new__() takes exactly 2 arguments (1 given)"),
   ("ExceptionGroup", "BaseExceptionGroup.__new__() takes exactly 2 arguments (1 given)"),
   ("UnicodeDecodeError", "function takes exactly 5 arguments (1 given)"),
   ("UnicodeEncodeError", "function takes exactly 5 arguments (1 given)"),
   ("UnicodeTranslateError", "function takes exactly 4 arguments (1 given)")]

/-- What is raised when a config file raises a name with a text. -/
def ofName (name text : String) : ScriptException :=
  if plainNames.contains name || interruptNames.contains name then { name, text }
  else if name = "KeyError" then { name, text := Text.SingleQuoted.encode text }
  else if name = "EnvironmentError" || name = "IOError" then { name := "OSError", text }
  else match refusals.lookup name with
    | some reason => { name := "TypeError", text := reason }
    | none =>
      { name := "NameError", text := "name '" ++ name ++ "' is not defined" }

/-- The exception ends the whole program. -/
def isInterrupt (exception : ScriptException) : Bool := interruptNames.contains exception.name

/-- The exception is a request to leave the program. -/
def isExit (exception : ScriptException) : Bool := exception.name = "SystemExit"

end ScriptException

end SchemaTypes
