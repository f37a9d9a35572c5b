import SchemaTypes.Catalog.Cell
import SchemaTypes.TypeExpr.Basic

set_option autoImplicit false

/-! # Tables with types

Tables whose columns have got their types, ready to be declared.
-/

namespace SchemaTypes

structure TypedColumn where
  name : Cell
  type : TypeExpr
  comment : Cell := .null

structure TypedTable where
  name : Cell
  schema : Cell := .null
  comment : Cell := .null
  columns : List TypedColumn := []

namespace TypedTable

/-- The first column with the given name. -/
def column? (table : TypedTable) (name : Cell) : Option TypedColumn :=
  table.columns.find? (·.name.same name)

end TypedTable

end SchemaTypes
