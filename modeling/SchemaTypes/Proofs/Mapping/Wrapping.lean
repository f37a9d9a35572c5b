import SchemaTypes.Dialect
import SchemaTypes.Proofs.Mapping.Refinement

set_option autoImplicit false

/-! # When wrappers get nested

Null is admitted before it is asked whether a type is a wrapper already. So a wrapper from an
override stays as it is where the column does not admit null. Where it does, the union with null is
no wrapper any more, and gets one around it if the column is computed, holds JSON or gets a value by
itself (`Refined.nests_iff`). A type without wrappers gets at most one, on its outside
(`Refined.parts_wrapperFree`).

The main statement is `nests_map_iff`.
-/

namespace SchemaTypes

open TypeExpr

namespace Refined

variable {column : Column} {isJson : Bool} {type result : TypeExpr}

/-- A type without wrappers gets at most one, and has no other one in it. -/
theorem parts_wrapperFree (h : Refined column isJson type result) (hfree : type.WrapperFree) :
    ∀ part ∈ result.parts, part.WrapperFree := by
  have hparts : ∀ part ∈ type.parts, part.WrapperFree := (wrapperFree_iff.1 hfree).2
  cases h with
  | kept _ => exact hparts
  | computed _ _ => exact List.forall_mem_singleton.2 hfree
  | json _ _ _ =>
    intro part hpart
    rcases mem_wrapperParameters hpart with rfl | rfl | hinsert | hupdate
    · exact wrapperFree_primitive _
    · exact hfree
    · split at hinsert
      · rw [← Option.mem_some.1 hinsert]
        exact (wrapperFree_primitive _).optional
      · cases hinsert
    · cases hupdate
  | filled _ _ _ _ => exact List.forall_mem_singleton.2 hfree
  | plain _ _ _ _ _ => exact hparts

/-- A wrapper within a type that is none gets into another one as soon as the type gets one. -/
theorem nests_iff (h : Refined column isJson type result) (hwrapper : type.isWrapper = false)
    (hinner : ¬ type.WrapperFree) (hnot : ¬ type.Nests) :
    result.Nests ↔ column.isVirtual = true ∨ isJson = true ∨ column.isAutoIncrementing = true ∨
      column.hasDefault = true := by
  cases h with
  | kept hkept => rw [hwrapper] at hkept; cases hkept
  | computed _ hvirtual =>
    exact iff_of_true (.of_part rfl (List.mem_singleton_self type) hinner) (.inl hvirtual)
  | json _ _ hjson =>
    exact iff_of_true (.of_part rfl first_mem_wrapperParameters hinner) (.inr (.inl hjson))
  | filled _ _ _ hfilled =>
    exact iff_of_true (.of_part rfl (List.mem_singleton_self type) hinner) (.inr (.inr hfilled))
  | plain _ hvirtual hjson hincrement hdefault =>
    refine iff_of_false hnot ?_
    rw [hvirtual, hjson, hincrement, hdefault]
    decide

end Refined

/-- A wrapper around types without wrappers, with null admitted: no wrapper any more, but one is in
it. -/
theorem nullable_of_isWrapper {select : TypeExpr} (hwrapper : select.isWrapper = true)
    (hparameters : ∀ p ∈ select.parameters, p.WrapperFree) :
    select.nullable.isWrapper = false ∧ ¬ select.nullable.WrapperFree ∧
      ¬ select.nullable.Nests := by
  have hparts : select.nullable.parts = [select, null] := by
    show membersFor .union select ++ [null] = [select, null]
    rw [membersFor_of_isWrapper hwrapper]
    rfl
  refine ⟨rfl, ?_, ?_⟩
  · intro hfree
    have hselect : select.isWrapper = false := hfree select (.inside (by simp [hparts]) .whole)
    rw [hwrapper] at hselect
    cases hselect
  · rw [TypeExpr.nests_iff, hparts]
    rintro (⟨hnullable, _⟩ | ⟨part, hpart, hnests⟩)
    · cases hnullable
    · simp only [List.mem_cons, List.not_mem_nil, or_false] at hpart
      rcases hpart with rfl | rfl
      · rw [← parts_of_isWrapper hwrapper] at hparameters
        exact not_nests_of_parts hparameters hnests
      · exact (wrapperFree_primitive _).not_nests hnests

/-- What is selected has no wrapper in it, or one around all of it and no other. -/
theorem Refined.nests_iff_of_select {select result : TypeExpr} {column : Column} {isJson : Bool}
    (h : Refined column isJson (admitted select column) result)
    (hshape : select.WrapperFree ∨ select.isWrapper = true ∧ ∀ p ∈ select.parameters,
      p.WrapperFree) :
    result.Nests ↔ select.isWrapper = true ∧ column.isNullable = true ∧ (column.isVirtual = true ∨
      isJson = true ∨ column.isAutoIncrementing = true ∨ column.hasDefault = true) := by
  rcases hshape with hfree | ⟨hwrapper, hparameters⟩
  · -- neither side holds: there is nothing to nest
    have hparts := h.parts_wrapperFree (wrapperFree_admitted hfree column)
    refine iff_of_false (not_nests_of_parts hparts) ?_
    rintro ⟨hwrapper, _⟩
    rw [hfree _ .whole] at hwrapper
    cases hwrapper
  · cases hnullable : column.isNullable with
    | true =>
      obtain ⟨hnot, hinner, hnests⟩ := nullable_of_isWrapper hwrapper hparameters
      rw [admitted, if_pos hnullable] at h
      rw [h.nests_iff hnot hinner hnests]
      exact ⟨fun hreason => ⟨hwrapper, rfl, hreason⟩, fun hall => hall.2.2⟩
    | false =>
      rw [admitted_of_not_nullable hnullable] at h
      rw [h.eq_of_isWrapper hwrapper]
      refine iff_of_false (not_nests_of_parts (by rwa [parts_of_isWrapper hwrapper])) ?_
      rintro ⟨_, hadmits, _⟩
      cases hadmits

/-- Wrappers get nested exactly where a wrapper is selected, the column admits null, and it is
computed, treated as JSON or gets a value by itself. Where null is not admitted a wrapper that is
selected stays as it is; a type without wrappers gets at most one, around all of it, and null is one
of the members of what is in it. -/
theorem nests_map_iff {dialect : Dialect} {config : GeneratorConfig} {table : Cell}
    {column : Column} {selection : Selection}
    (hselect : (dialect.columnRules config).select table column = .ok selection)
    (hshape : selection.type.WrapperFree ∨
      selection.type.isWrapper = true ∧ ∀ p ∈ selection.type.parameters, p.WrapperFree) :
    ∃ result, (dialect.columnRules config).map table column = .ok result ∧
      (result.Nests ↔ selection.type.isWrapper = true ∧ column.isNullable = true ∧
        (column.isVirtual = true ∨
          ((dialect.columnRules config).isJson column = true ∧ selection.fromCast = false) ∨
          column.isAutoIncrementing = true ∨ column.hasDefault = true)) ∧
      (selection.type.isWrapper = true → column.isNullable = false → result = selection.type) ∧
      (selection.type.WrapperFree → (∀ part ∈ result.parts, part.WrapperFree) ∧
        (column.isNullable = true → ∃ members,
          result.parameters.headD result = .compound .union members ∧ null ∈ members)) := by
  have hrefined := refined_refine selection.type column
    ((dialect.columnRules config).isJson column && !selection.fromCast)
  refine ⟨_, ColumnRules.map_eq_ok hselect, ?_, ?_, ?_⟩
  · rw [hrefined.nests_iff_of_select hshape, Bool.and_eq_true, Bool.not_eq_true']
  · intro hwrapper hnullable
    rw [admitted_of_not_nullable hnullable] at hrefined
    exact hrefined.eq_of_isWrapper hwrapper
  · intro hfree
    have hadmitted := wrapperFree_admitted hfree column
    refine ⟨hrefined.parts_wrapperFree hadmitted, fun hnullable => ?_⟩
    rw [hrefined.headD_parameters (hadmitted _ .whole), admitted_of_nullable hnullable]
    exact ⟨_, rfl, by simp⟩

/-- A JSON column that admits null, with a wrapper for its payload. -/
def wrappedColumn : Column where
  name := .text "data"
  columnType := .text "json"
  dataType := .text "json"

/-- A configuration that gives a wrapper for what the column holds. -/
def wrappedConfig : GeneratorConfig where
  dialect := "mysql"
  mysql := {
    jsonColumns := [("events.data", .columnType TypeExpr.date (some TypeExpr.string) none)] }

theorem nests_map_iff_wrapped :
    let select := TypeExpr.columnType TypeExpr.date (some TypeExpr.string) none
    let rules := Dialect.mysql.columnRules wrappedConfig
    rules.select (.text "events") wrappedColumn = .ok (.found select) ∧
    (select.isWrapper = true ∧ ∀ p ∈ select.parameters, p.WrapperFree) ∧
    ∃ result, rules.map (.text "events") wrappedColumn = .ok result ∧ result.Nests := by
  intro select rules
  have hselect : rules.select (.text "events") wrappedColumn = .ok (.found select) := rfl
  have hshape : select.isWrapper = true ∧ ∀ p ∈ select.parameters, p.WrapperFree :=
    ⟨rfl, by simp [select, parameters, wrapperParameters, date, TypeExpr.string,
      wrapperFree_primitive]⟩
  obtain ⟨result, hmap, hnests, _, _⟩ := nests_map_iff hselect (.inr hshape)
  exact ⟨hselect, hshape, result, hmap, hnests.2 ⟨rfl, rfl, .inr (.inl ⟨rfl, rfl⟩)⟩⟩

end SchemaTypes
