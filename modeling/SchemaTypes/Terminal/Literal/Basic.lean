import SchemaTypes.Terminal.Literal.Token

set_option autoImplicit false

/-! # Literals

A literal is read from left to right with a stack of the groups that are open. Of each expression no
more is kept than what decides whether it is a literal: whether it is a number that may have a sign
or be part of a complex number, and whether it can be a member of a set or a key.
-/

namespace SchemaTypes.Terminal.Literal

/-- What an expression in parentheses can be used for. -/
inductive Kind where
  | real
  | imaginary
  | signedReal
  /-- Any other value that can be a member of a set or a key. -/
  | plain
  /-- A value that holds a set or a dictionary. -/
  | unhashable
  /-- The function that makes an empty set, which is no value. -/
  | setName
  deriving DecidableEq, Repr

/-- A part of an expression. -/
inductive Element where
  | sign
  | text (isBytes : Bool)
  | value (kind : Kind)
  | emptyParentheses
  deriving DecidableEq, Repr

/-- What an expression is, its parts being given in order; none if it is no literal. -/
def kind? : List Element → Option Kind
  | [.value kind] => some kind
  | [.emptyParentheses] => some .plain
  | [.sign, .value .real] => some .signedReal
  | [.sign, .value .imaginary] => some .plain
  | [.value .real, .sign, .value .imaginary] => some .plain
  | [.value .signedReal, .sign, .value .imaginary] => some .plain
  | [.sign, .value .real, .sign, .value .imaginary] => some .plain
  | [.value .setName, .emptyParentheses] => some .unhashable
  | .text isBytes :: rest =>
    if rest.all (· == .text isBytes) then some .plain else none
  | _ => none

/-- What a group is, as far as is known. -/
inductive Shape where
  | tuple
  /-- Braces with nothing in them yet. -/
  | braces
  | set
  | dictionary
  /-- A dictionary with a key whose value follows. -/
  | keyed
  deriving DecidableEq, Repr

/-- A group that is open. -/
structure Group where
  shape : Shape
  /-- The parts of the expression that is being read, the last one first. -/
  parts : List Element := []
  hasComma : Bool := false
  /-- Everything in the group so far can be a member of a set. -/
  isHashable : Bool := true

namespace Group

/-- The group with one more part. -/
def push (group : Group) (part : Element) : Group := { group with parts := part :: group.parts }

/-- What the expression that is being read is; none if it is no value. -/
def value? (group : Group) : Option Kind := (kind? group.parts.reverse).filter (· != .setName)

/-- The group after its expression has been taken as an item. -/
def endItem? (group : Group) : Option Group := do
  let kind ← group.value?
  let isHashable := kind != .unhashable
  match group.shape with
  | .tuple => return { group with parts := [], isHashable := group.isHashable && isHashable }
  | .keyed => return { group with parts := [], shape := .dictionary }
  | .dictionary => none
  | _ => if isHashable then return { group with parts := [], shape := .set } else none

def comma? (group : Group) : Option Group :=
  group.endItem?.map ({ · with hasComma := true })

/-- The group after its expression has been taken as a key. -/
def colon? (group : Group) : Option Group := do
  let kind ← group.value?
  if (group.shape == .braces || group.shape == .dictionary) && kind != .unhashable then
    return { group with parts := [], shape := .keyed }
  else none

/-- The kind of a tuple with the items of the group. -/
def tupleKind (group : Group) : Kind := if group.isHashable then .plain else .unhashable

/-- What a closed group is as a part of the expression around it. An expression in parentheses is
what it is without them. -/
def close? (group : Group) : Option Element :=
  match group.shape with
  | .tuple =>
    if group.hasComma then
      if group.parts.isEmpty then some (.value group.tupleKind)
      else group.endItem?.map fun group => .value group.tupleKind
    else if group.parts.isEmpty then some .emptyParentheses
    else (kind? group.parts.reverse).map .value
  | .keyed => group.endItem?.map fun _ => .value .unhashable
  | _ =>
    if group.parts.isEmpty then some (.value .unhashable)
    else group.endItem?.map fun _ => .value .unhashable

/-- Nothing has been read. -/
def isFresh (group : Group) : Bool := group.parts.isEmpty && !group.hasComma

end Group

/-- How far a literal has been read. -/
structure Reading where
  /-- The innermost group. The outermost one is the literal itself, which may be a tuple. -/
  group : Group
  /-- The groups around it, the innermost one first. -/
  outer : List Group := []
  /-- How far the line is indented. -/
  indent : Nat
  /-- The line of the literal has ended. -/
  hasEnded : Bool := false

namespace Reading

/-- How many groups may be open. -/
def depthLimit : Nat := 200

/-- The reading with one more part of an expression. -/
def push (reading : Reading) (part : Element) : Reading :=
  { reading with group := reading.group.push part }

/-- The reading after the end of a line. Inside groups it does not matter. -/
def newline (reading : Reading) (indent : Nat) : Reading :=
  if !reading.outer.isEmpty then reading
  else if reading.group.isFresh then { reading with indent }
  else { reading with hasEnded := true }

/-- The reading after a token that is not the end of a line. -/
def next? (reading : Reading) (token : Token) : Option Reading :=
  match token with
  | .number isImaginary => some (reading.push (.value (if isImaginary then .imaginary else .real)))
  | .text isBytes => some (reading.push (.text isBytes))
  | .constant => some (reading.push (.value .plain))
  | .setName => some (reading.push (.value .setName))
  | .sign => some (reading.push .sign)
  | .comma => reading.group.comma?.map fun group => { reading with group }
  | .colon => reading.group.colon?.map fun group => { reading with group }
  | .openGroup isBraces =>
    if depthLimit ≤ reading.outer.length then none
    else some { reading with
      group := { shape := if isBraces then .braces else .tuple }
      outer := reading.group :: reading.outer }
  | .closeGroup isBraces =>
    match reading.outer with
    | [] => none
    | around :: outer =>
      if isBraces == (reading.group.shape == .tuple) then none
      else reading.group.close?.map fun part => { reading with group := around.push part, outer }
  | .newline indent => some (reading.newline indent)

/-- A token cannot stand here: the literal has ended, or it starts with an indentation. -/
def isMisplaced (reading : Reading) (token : Token) : Bool :=
  match token with
  | .newline _ => false
  | _ =>
    reading.outer.isEmpty
      && (reading.hasEnded || (reading.group.isFresh && reading.indent != 0))

/-- The reading after all tokens. -/
def run? (reading : Reading) (tokens : List Token) : Option Reading :=
  tokens.foldlM (fun reading token =>
    if reading.isMisplaced token then none else reading.next? token) reading

/-- A whole literal has been read. -/
def isComplete (reading : Reading) : Bool :=
  reading.outer.isEmpty &&
    if reading.group.parts.isEmpty then reading.group.hasComma else reading.group.endItem?.isSome

end Reading

/-- A text with line feeds at the ends of all lines. -/
def withLineFeeds : List Char → List Char
  | '\r' :: '\n' :: rest => '\n' :: withLineFeeds rest
  | '\r' :: rest => '\n' :: withLineFeeds rest
  | c :: rest => c :: withLineFeeds rest
  | [] => []

/-- A text is a literal. There is no null character in one. -/
def isLiteral (s : List Char) : Bool :=
  let s := withLineFeeds s
  let start : Reading := { group := { shape := .tuple }, indent := indentation 0 s }
  !s.contains '\x00' && ((tokens? s).bind start.run?).any Reading.isComplete

end SchemaTypes.Terminal.Literal
