import SchemaTypes.Text.Quoted
import SchemaTypes.TypeExpr.Basic
import SchemaTypes.TypeExpr.Parameters

set_option autoImplicit false

/-! # The text of a type

How a type expression is written. An intersection binds tighter than a union, and no parentheses are
written; an array of anything but a plain name takes the long form.
-/

namespace SchemaTypes

/-- A text of ASCII letters and digits, at least one, with at most a line break after them. -/
def isPlainName (text : String) : Bool :=
  let body := match text.toList.reverse with
    | '\n' :: rest => rest
    | all => all
  !body.isEmpty && body.all Char.isAlphanum

namespace Operator

/-- The operator between two members. -/
def separator : Operator → String
  | .union => " | "
  | .intersection => " & "

end Operator

namespace TypeExpr

/-- The text of a generic type with its arguments. -/
def applied (name : String) (arguments : List String) : String :=
  name ++ "<" ++ String.intercalate ", " arguments ++ ">"

mutual

/-- A type as it is written. -/
def text : TypeExpr → String
  | .primitive name => name
  | .stringLiteral value => String.ofList (Text.Quoted.encode value.toList)
  | .numericLiteral value => value.text
  | .array element =>
    let inner := text element
    if isPlainName inner then inner ++ "[]" else applied "Array" [inner]
  | .compound operator members => String.intercalate operator.separator (texts members)
  | .imported name _ => name
  | .columnType select insert update =>
    applied "ColumnType"
      (wrapperParameters (text select) (text select) (textOption insert) (textOption update))
  | .jsonColumnType select insert update =>
    applied "JSONColumnType"
      (wrapperParameters "string" (text select) (textOption insert) (textOption update))
  | .generated select => applied "Generated" [text select]
  | .generatedAlways select => applied "GeneratedAlways" [text select]

/-- The texts of several types. -/
def texts : List TypeExpr → List String
  | [] => []
  | t :: rest => text t :: texts rest

/-- The text of a type that may be missing. -/
def textOption : Option TypeExpr → Option String
  | none => none
  | some t => some (text t)

end

theorem texts_eq_map (ts : List TypeExpr) : texts ts = ts.map text := by
  induction ts with
  | nil => rfl
  | cons t rest ih => rw [texts, ih, List.map_cons]

theorem textOption_eq_map (t : Option TypeExpr) : textOption t = t.map text := by
  cases t <;> rfl

/-- The types between the angle brackets of a wrapper type, gaps filled: the select type stands in
for a missing insert type, or `string` if the column holds JSON. -/
def parameters : TypeExpr → List TypeExpr
  | .columnType select insert update => wrapperParameters select select insert update
  | .jsonColumnType select insert update => wrapperParameters string select insert update
  | .generated select => [select]
  | .generatedAlways select => [select]
  | _ => []

theorem map_wrapperParameters {α β : Type} (f : α → β) (d a : α) (b c : Option α) :
    (wrapperParameters d a b c).map f = wrapperParameters (f d) (f a) (b.map f) (c.map f) := by
  cases b <;> cases c <;> rfl

/-- A wrapper type is its name applied to its parameters. -/
theorem text_of_wrapperName? {t : TypeExpr} {name : String} (h : t.wrapperName? = some name) :
    t.text = applied name (t.parameters.map text) := by
  cases t <;> simp only [wrapperName?, Option.some.injEq, reduceCtorEq] at h <;> subst h
  · simp [text, parameters, map_wrapperParameters, textOption_eq_map]
  · simp [text, parameters, map_wrapperParameters, textOption_eq_map, string]
  · rfl
  · rfl

end TypeExpr

end SchemaTypes
