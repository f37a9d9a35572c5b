import SchemaTypes.Import.Basic
import SchemaTypes.TypeExpr.Text

set_option autoImplicit false

/-! # The imports of a type

A type needs the imports of everything that is written in it: of its members, of the parameters of a
wrapper, gaps filled, and of the wrapper itself.
-/

namespace SchemaTypes

/-- The module that exports the wrapper types. -/
def kyselyModule : String := "kysely"

namespace TypeExpr

/-- The request for a name that Kysely exports. -/
def kysely (name : String) : ModuleImport := .named kyselyModule name

mutual

/-- What a type needs to have imported, in the order of its text; a wrapper comes after its
parameters. -/
def imports : TypeExpr → List ModuleImport
  | .primitive _ => []
  | .stringLiteral _ => []
  | .numericLiteral _ => []
  | .array element => imports element
  | .compound _ members => (importLists members).flatten
  | .imported name specifier => [.named specifier name]
  | .columnType select insert update =>
    (wrapperParameters (imports select) (imports select) (importsOption insert)
      (importsOption update)).flatten ++ [kysely "ColumnType"]
  | .jsonColumnType select insert update =>
    (wrapperParameters [] (imports select) (importsOption insert)
      (importsOption update)).flatten ++ [kysely "JSONColumnType"]
  | .generated select => imports select ++ [kysely "Generated"]
  | .generatedAlways select => imports select ++ [kysely "GeneratedAlways"]

/-- The imports of several types. -/
def importLists : List TypeExpr → List (List ModuleImport)
  | [] => []
  | t :: rest => imports t :: importLists rest

/-- The imports of a type that may be missing. -/
def importsOption : Option TypeExpr → Option (List ModuleImport)
  | none => none
  | some t => some (imports t)

end

theorem importLists_eq_map (ts : List TypeExpr) : importLists ts = ts.map imports := by
  induction ts with
  | nil => rfl
  | cons t rest ih => rw [importLists, ih, List.map_cons]

theorem importsOption_eq_map (t : Option TypeExpr) : importsOption t = t.map imports := by
  cases t <;> rfl

/-- A wrapper type needs what its parameters need, and its own name. -/
theorem imports_of_wrapperName? {t : TypeExpr} {name : String} (h : t.wrapperName? = some name) :
    t.imports = t.parameters.flatMap imports ++ [kysely name] := by
  cases t <;> simp only [wrapperName?, Option.some.injEq, reduceCtorEq] at h <;> subst h
  · simp [imports, parameters, importsOption_eq_map, List.flatMap_def, map_wrapperParameters]
  · simp [imports, parameters, importsOption_eq_map, List.flatMap_def, map_wrapperParameters,
      string]
  · simp [imports, parameters]
  · simp [imports, parameters]

end TypeExpr

end SchemaTypes
