set_option autoImplicit false

/-! # Type parameters with gaps

A wrapper type takes parameters of which the later ones may be left out. What is left out at the end
is not written at all; a gap before the last given parameter is filled with the default of its
position.
-/

namespace SchemaTypes

/-- What stands in for parameters that are left out. -/
inductive Defaults (α : Type) where
  /-- The same default at every position. -/
  | one (value : α)
  /-- A default for each of the first positions and none for later ones. -/
  | each (values : List α)

namespace Defaults

variable {α : Type}

/-- The default at a position. -/
def at? : Defaults α → Nat → Option α
  | .one value, _ => some value
  | .each values, i => values[i]?

end Defaults

variable {α : Type}

/-- A list of parameters without what is left out at its end. -/
def dropAbsentEnd (parameters : List (Option α)) : List (Option α) :=
  (parameters.reverse.dropWhile Option.isNone).reverse

/-- The parameters from position `i` on, gaps filled; none if a gap has no default. -/
def fillFrom (defaults : Defaults α) : Nat → List (Option α) → Option (List α)
  | _, [] => some []
  | i, parameter :: rest => do
    let value ← parameter <|> defaults.at? i
    let values ← fillFrom defaults (i + 1) rest
    return value :: values

/-- The parameters to write: those up to the last given one, gaps filled. None if a gap has no
default. -/
def normalizeParameters (defaults : Defaults α) (parameters : List (Option α)) : Option (List α) :=
  fillFrom defaults 0 (dropAbsentEnd parameters)

/-- The parameters of a wrapper that is given its first parameter and two optional ones, all with
the same default. -/
def wrapperParameters (default first : α) : Option α → Option α → List α
  | none, none => [first]
  | some second, none => [first, second]
  | second, some third => [first, second.getD default, third]

theorem normalizeParameters_wrapper (default first : α) (second third : Option α) :
    normalizeParameters (.one default) [some first, second, third]
      = some (wrapperParameters default first second third) := by
  cases second <;> cases third <;> rfl

end SchemaTypes
