set_option autoImplicit false

/-! # Issues of a configuration

What validation finds wrong with a configuration: where it is, and which rule it breaks.
-/

namespace SchemaTypes

/-- One step on the way to a part of a configuration. -/
inductive Step where
  | key (name : String)
  | index (position : Nat)
  deriving DecidableEq, Repr

namespace Issue

/-- The rule that a part of a configuration breaks. -/
inductive Rule where
  | required
  | string
  | indentStyle
  /-- An object with the fields of the named record. -/
  | record (name : String)
  | dictionary
  | typeExpr
  | integer
  | integerText
  | wholeNumber
  | finiteNumber
  | integerSize
  | atLeast (minimum : Int)
  | boolean
  | booleanText
  | list
  deriving DecidableEq, Repr

namespace Rule

/-- The code of a rule. -/
def code : Rule → String
  | .required => "missing"
  | .string => "string_type"
  | .indentStyle => "literal_error"
  | .record _ => "model_type"
  | .dictionary => "dict_type"
  | .typeExpr => "is_instance_of"
  | .integer => "int_type"
  | .integerText => "int_parsing"
  | .wholeNumber => "int_from_float"
  | .finiteNumber => "finite_number"
  | .integerSize => "int_parsing_size"
  | .atLeast _ => "greater_than_equal"
  | .boolean => "bool_type"
  | .booleanText => "bool_parsing"
  | .list => "list_type"

/-- What is said when a rule is broken. -/
def message : Rule → String
  | .required => "Field required"
  | .string => "Input should be a valid string"
  | .indentStyle => "Input should be 'tab' or 'space'"
  | .record name => "Input should be a valid dictionary or instance of " ++ name
  | .dictionary => "Input should be a valid dictionary"
  | .typeExpr => "Input should be an instance of TsType"
  | .integer => "Input should be a valid integer"
  | .integerText => "Input should be a valid integer, unable to parse string as an integer"
  | .wholeNumber => "Input should be a valid integer, got a number with a fractional part"
  | .finiteNumber => "Input should be a finite number"
  | .integerSize => "Unable to parse input string as an integer, exceeded maximum size"
  | .atLeast minimum => "Input should be greater than or equal to " ++ toString minimum
  | .boolean => "Input should be a valid boolean"
  | .booleanText => "Input should be a valid boolean, unable to interpret input"
  | .list => "Input should be a valid list"

end Rule

end Issue

/-- A broken rule and the place of the part that breaks it. -/
structure Issue where
  rule : Issue.Rule
  place : List Step := []
  deriving DecidableEq, Repr

namespace Issue

/-- The issue as seen from outside, one step before its place. -/
def within (step : Step) (issue : Issue) : Issue := { issue with place := step :: issue.place }

end Issue

end SchemaTypes
