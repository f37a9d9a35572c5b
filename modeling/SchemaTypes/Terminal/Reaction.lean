import SchemaTypes.Terminal.Literal.Basic
import SchemaTypes.Text.Blank
import SchemaTypes.Text.Word

set_option autoImplicit false

/-! # Reactions to the mouse

The parameters of a tag such as `[@click=open('page')]` say how a terminal reacts to the mouse: the
name of a handler, its arguments in parentheses, or a literal alone. Arguments are literals.
-/

namespace SchemaTypes.Terminal.Reaction

/-- A character of the name of a handler. -/
def isNameChar (c : Char) : Bool := Text.isWordChar c || c == '.'

/-- Parentheses around a text that is on one line. -/
def isParenthesized (s : List Char) : Bool :=
  1 < s.length && s.head? == some '(' && s.getLast? == some ')' && !s.contains '\n'

/-- Parameters can be read. -/
def isReadable (parameters : List Char) : Bool :=
  let s := Text.strip parameters
  let arguments := s.dropWhile isNameChar
  arguments.isEmpty || Literal.isLiteral (if isParenthesized arguments then arguments else s)

end SchemaTypes.Terminal.Reaction
