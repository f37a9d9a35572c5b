import SchemaTypes.Text.SingleQuoted

set_option autoImplicit false

/-! # Errors of paths

What the operating system has against a path before it looks at what lies there.
-/

namespace SchemaTypes

/-- What is wrong with a path. -/
inductive PathError where
  /-- The path or one of its names is longer than the system admits. -/
  | nameTooLong (path : String)
  /-- The path holds the character that ends texts. -/
  | nullCharacter
  deriving DecidableEq, Repr

namespace PathError

def message : PathError → String
  | .nameTooLong path => "[Errno 36] File name too long: " ++ Text.SingleQuoted.encode path
  | .nullCharacter => "embedded null byte"

end PathError

end SchemaTypes
