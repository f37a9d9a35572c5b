import SchemaTypes.Catalog.Row

set_option autoImplicit false

/-! # Fields of well-typed rows

What a field of a row holds, as a total function: `cell` for any value and `text` for texts, the
empty text standing for all that is none. The predicates `Has`, `HasText` and `HasTextOrNull` say
that reading a field yields what these functions say, and that is all the readers of catalogs ask of
their rows.
-/

namespace SchemaTypes

theorem Cell.isTruthy_text_iff {s : String} : (Cell.text s).isTruthy = true ↔ s ≠ "" := by
  simp [Cell.isTruthy]

theorem Cell.asText_text (s : String) : (Cell.text s).asText = .ok s := rfl

/-- Texts are equal as keys if they are equal. -/
theorem Cell.same_text (s t : String) : (Cell.text s).same (.text t) = decide (s = t) := by
  rw [Bool.eq_iff_iff, decide_eq_true_iff]
  simp [Cell.same, Cell.number?]

namespace Row

variable {row : Row} {name : String}

/-- The value of a field, null if the row lacks it. -/
def cell (row : Row) (name : String) : Cell := (row.lookup name).getD .null

/-- The text in a field, empty if there is none. -/
def text (row : Row) (name : String) : String :=
  match row.cell name with
  | .text s => s
  | _ => ""

/-- The name of the table to which the column of a row belongs. -/
def tableName (row : Row) : String := row.text "table_name"

/-- The text in a field unless it is empty. -/
def nonempty? (row : Row) (name : String) : Option String :=
  if row.text name = "" then none else some (row.text name)

/-- The row has the field. -/
def Has (row : Row) (name : String) : Prop := (row.lookup name).isSome

/-- The field holds a text. -/
def HasText (row : Row) (name : String) : Prop := row.lookup name = some (.text (row.text name))

/-- The field holds a text or null. -/
def HasTextOrNull (row : Row) (name : String) : Prop :=
  row.HasText name ∨ row.lookup name = some .null

instance : Decidable (row.Has name) := inferInstanceAs (Decidable (_ = true))

instance : Decidable (row.HasText name) := inferInstanceAs (Decidable (_ = _))

instance : Decidable (row.HasTextOrNull name) := inferInstanceAs (Decidable (_ ∨ _))

/-! ## Reading fields -/

theorem Has.field (h : row.Has name) : row.field name = .ok (row.cell name) := by
  obtain ⟨cell, hcell⟩ := Option.isSome_iff_exists.1 h
  rw [Row.field, Row.cell, hcell]
  rfl

theorem Has.isPresent (h : row.Has name) :
    row.isPresent name = .ok (row.cell name != .null) := by
  rw [Row.isPresent, h.field]
  rfl

theorem HasText.field (h : row.HasText name) : row.field name = .ok (.text (row.text name)) := by
  have hlookup : row.lookup name = some (.text (row.text name)) := h
  rw [Row.field, hlookup]

theorem HasTextOrNull.has (h : row.HasTextOrNull name) : row.Has name := by
  unfold HasTextOrNull HasText at h
  unfold Has
  rcases h with h | h <;> rw [h] <;> rfl

theorem HasTextOrNull.cell_eq (h : row.HasTextOrNull name) :
    row.cell name = .text (row.text name) ∨ row.cell name = .null ∧ row.text name = "" := by
  unfold HasTextOrNull HasText at h
  rcases h with h | h
  · refine Or.inl ?_
    rw [cell, h]
    rfl
  · have hcell : row.cell name = .null := by
      rw [cell, h]
      rfl
    exact Or.inr ⟨hcell, by rw [text, hcell]⟩

/-- Null is read as the empty text. -/
theorem HasTextOrNull.fieldOrEmpty (h : row.HasTextOrNull name) :
    row.fieldOrEmpty name = .ok (.text (row.text name)) := by
  rw [Row.fieldOrEmpty, h.has.field]
  show Except.ok (if (row.cell name).isTruthy then row.cell name else .text "") = _
  refine congrArg Except.ok ?_
  rcases h.cell_eq with hcell | ⟨hcell, htext⟩
  · rw [hcell]
    by_cases hempty : row.text name = ""
    · rw [hempty]
      rfl
    · rw [if_pos (Cell.isTruthy_text_iff.2 hempty)]
  · rw [hcell, htext]
    rfl

/-- What counts as false is no comment. -/
theorem HasTextOrNull.orNull_cell (h : row.HasTextOrNull name) :
    (row.cell name).orNull = ((row.nonempty? name).map Cell.text).getD .null := by
  rw [Cell.orNull, nonempty?]
  rcases h.cell_eq with hcell | ⟨hcell, htext⟩
  · rw [hcell]
    by_cases hempty : row.text name = ""
    · rw [if_pos hempty, hempty]
      rfl
    · rw [if_neg hempty, if_pos (Cell.isTruthy_text_iff.2 hempty)]
      rfl
  · rw [hcell, if_pos htext]
    rfl

end Row

/-- A row of a catalog with the members of its column. They mean nothing unless it is an
enumeration. -/
structure Entry where
  row : Row
  members : List String := []

/-- The name of the table to which the column of an entry belongs. -/
def Entry.tableName (entry : Entry) : String := entry.row.tableName

end SchemaTypes
