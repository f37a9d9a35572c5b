import SchemaTypes.Numeral

set_option autoImplicit false

/-! # Type expressions

The types a column can have: a small algebra of TypeScript types together with the wrapper types in
which Kysely distinguishes what is selected from what is inserted and updated.

Unions and intersections are lists of members. They are built by `union` and `intersection`, which
unroll members that use the same operator, so that no compound has a member with its own operator.
-/

namespace SchemaTypes

/-- The operator between the members of a compound type. -/
inductive Operator where
  | union
  | intersection
  deriving DecidableEq, Repr

/-- A TypeScript type. -/
inductive TypeExpr where
  /-- A type written out as it is, such as `number`. -/
  | primitive (name : String)
  | stringLiteral (value : String)
  | numericLiteral (value : Numeral)
  | array (element : TypeExpr)
  | compound (operator : Operator) (members : List TypeExpr)
  /-- A named type of another module. -/
  | imported (name specifier : String)
  /-- `ColumnType<Select, Insert, Update>` -/
  | columnType (select : TypeExpr) (insert update : Option TypeExpr)
  /-- `JSONColumnType<Select, Insert, Update>` -/
  | jsonColumnType (select : TypeExpr) (insert update : Option TypeExpr)
  | generated (select : TypeExpr)
  | generatedAlways (select : TypeExpr)

namespace TypeExpr

/-- The members that a type contributes to a compound type with the given operator: its own members
if it is such a compound, else itself. -/
def membersFor (operator : Operator) : TypeExpr → List TypeExpr
  | .compound inner members =>
    if inner = operator then members else [.compound inner members]
  | t => [t]

/-- The compound of several types, members with the same operator unrolled. -/
def join (operator : Operator) (types : List TypeExpr) : TypeExpr :=
  .compound operator (types.flatMap (membersFor operator))

def union (types : List TypeExpr) : TypeExpr := join .union types

def intersection (types : List TypeExpr) : TypeExpr := join .intersection types

def number : TypeExpr := .primitive "number"

def string : TypeExpr := .primitive "string"

def boolean : TypeExpr := .primitive "boolean"

def bigint : TypeExpr := .primitive "bigint"

def null : TypeExpr := .primitive "null"

def undefined : TypeExpr := .primitive "undefined"

def never : TypeExpr := .primitive "never"

def any : TypeExpr := .primitive "any"

def unknown : TypeExpr := .primitive "unknown"

def date : TypeExpr := .primitive "Date"

def buffer : TypeExpr := .imported "Buffer" "node:buffer"

/-- `t | null` -/
def nullable (t : TypeExpr) : TypeExpr := union [t, null]

/-- `t | undefined` -/
def optional (t : TypeExpr) : TypeExpr := union [t, undefined]

/-- The kinds of type expressions. -/
inductive Kind where
  | primitive
  | stringLiteral
  | numericLiteral
  | array
  | union
  | intersection
  | imported
  | columnType
  | jsonColumnType
  | generated
  | generatedAlways
  deriving DecidableEq, Repr

def kind : TypeExpr → Kind
  | .primitive _ => .primitive
  | .stringLiteral _ => .stringLiteral
  | .numericLiteral _ => .numericLiteral
  | .array _ => .array
  | .compound .union _ => .union
  | .compound .intersection _ => .intersection
  | .imported _ _ => .imported
  | .columnType _ _ _ => .columnType
  | .jsonColumnType _ _ _ => .jsonColumnType
  | .generated _ => .generated
  | .generatedAlways _ => .generatedAlways

/-- The type is one of Kysely's wrapper types. -/
def isWrapper : TypeExpr → Bool
  | .columnType _ _ _ => true
  | .jsonColumnType _ _ _ => true
  | .generated _ => true
  | .generatedAlways _ => true
  | _ => false

/-- The name under which Kysely exports the wrapper, for wrapper types. -/
def wrapperName? : TypeExpr → Option String
  | .columnType _ _ _ => some "ColumnType"
  | .jsonColumnType _ _ _ => some "JSONColumnType"
  | .generated _ => some "Generated"
  | .generatedAlways _ => some "GeneratedAlways"
  | _ => none

end TypeExpr

end SchemaTypes
