import SchemaTypes.Catalog.Cell

set_option autoImplicit false

/-! # Tables of a catalog

Tables and columns as the catalog of a database describes them.
-/

namespace SchemaTypes

/-- A column as the catalog describes it. -/
structure Column where
  name : Cell
  /-- The whole type with modifiers, such as `varchar(255)`. -/
  columnType : Cell
  /-- The bare keyword of the type, such as `varchar`, or the affinity of the column. -/
  dataType : Cell
  isNullable : Bool := true
  hasDefault : Bool := false
  isAutoIncrementing : Bool := false
  /-- The value is computed from other columns. -/
  isVirtual : Bool := false
  /-- The values that an enumeration admits. -/
  members : Option (List String) := none
  comment : Cell := .null
  deriving DecidableEq, Repr

/-- A table or view as the catalog describes it. -/
structure Table where
  name : Cell
  schema : Cell := .null
  comment : Cell := .null
  isView : Bool := false
  columns : List Column := []
  deriving DecidableEq, Repr

end SchemaTypes
