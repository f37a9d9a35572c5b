import SchemaTypes.Mapping.Basic
import SchemaTypes.Proofs.TypeExpr.Wrappers

set_option autoImplicit false

/-! # What becomes of the type that a column selects

First null is admitted if the column admits it (`admitted`), then the type gets a wrapper, or none,
for one of five reasons (`Refined`). All that is proved of refined types goes by these five, and
`refined_refine` is the one place where the refinement itself is opened.
-/

namespace SchemaTypes

open TypeExpr

/-- The type that a column selects, null among its values if the column admits it. -/
def admitted (select : TypeExpr) (column : Column) : TypeExpr :=
  if column.isNullable then select.nullable else select

/-- How the type of a column comes from a type that it selects, null admitted. -/
inductive Refined (column : Column) (isJson : Bool) (type : TypeExpr) : TypeExpr → Prop where
  /-- A wrapper that an override has given stays as it is. -/
  | kept (h : type.isWrapper = true) : Refined column isJson type type
  | computed (h : type.isWrapper = false) (hvirtual : column.isVirtual = true) :
      Refined column isJson type (.generatedAlways type)
  | json (h : type.isWrapper = false) (hvirtual : column.isVirtual = false)
      (hjson : isJson = true) :
      Refined column isJson type
        (.jsonColumnType type (if column.hasDefault then some TypeExpr.string.optional
          else none) none)
  | filled (h : type.isWrapper = false) (hvirtual : column.isVirtual = false)
      (hjson : isJson = false)
      (hfilled : column.isAutoIncrementing = true ∨ column.hasDefault = true) :
      Refined column isJson type (.generated type)
  | plain (h : type.isWrapper = false) (hvirtual : column.isVirtual = false)
      (hjson : isJson = false)
      (hincrement : column.isAutoIncrementing = false) (hdefault : column.hasDefault = false) :
      Refined column isJson type type

theorem refined_refine (select : TypeExpr) (column : Column) (isJson : Bool) :
    Refined column isJson (admitted select column) (refine select column isJson) := by
  rw [refine, ← admitted]
  generalize admitted select column = type
  cases hwrapper : type.isWrapper with
  | true =>
    rw [if_pos rfl]
    exact .kept hwrapper
  | false =>
    rw [if_neg Bool.false_ne_true]
    cases hvirtual : column.isVirtual with
    | true =>
      rw [if_pos rfl]
      exact .computed hwrapper hvirtual
    | false =>
      rw [if_neg Bool.false_ne_true]
      cases isJson with
      | true =>
        rw [if_pos rfl]
        exact .json hwrapper hvirtual rfl
      | false =>
        rw [if_neg Bool.false_ne_true]
        by_cases hfilled : (column.isAutoIncrementing || column.hasDefault) = true
        · rw [if_pos hfilled]
          exact .filled hwrapper hvirtual rfl (by simpa using hfilled)
        · rw [if_neg hfilled]
          rw [Bool.or_eq_true, not_or, Bool.not_eq_true, Bool.not_eq_true] at hfilled
          exact .plain hwrapper hvirtual rfl hfilled.1 hfilled.2

namespace Refined

variable {column : Column} {isJson : Bool} {type result : TypeExpr}

theorem eq_of_isWrapper (h : Refined column isJson type result) (hwrapper : type.isWrapper = true) :
    result = type := by
  cases h with
  | kept _ => rfl
  | computed hnot _ => rw [hwrapper] at hnot; cases hnot
  | json hnot _ _ => rw [hwrapper] at hnot; cases hnot
  | filled hnot _ _ _ => rw [hwrapper] at hnot; cases hnot
  | plain _ _ _ _ _ => rfl

/-- The type is what is selected, whatever wrapper it got. -/
theorem headD_parameters (h : Refined column isJson type result)
    (hwrapper : type.isWrapper = false) :
    result.parameters.headD result = type := by
  cases h with
  | kept hkept => rw [hwrapper] at hkept; cases hkept
  | computed _ _ => rfl
  | json _ _ _ => cases column.hasDefault <;> rfl
  | filled _ _ _ _ => rfl
  | plain _ _ _ _ _ => rw [parameters_of_not_isWrapper hwrapper]; rfl

/-- No wrapper for JSON is added unless the type is treated as JSON. -/
theorem occurs_json {t : TypeExpr} (h : Refined column false type result)
    (hkind : t.kind = .jsonColumnType) (hoccurs : Occurs t result) : Occurs t type := by
  cases h with
  | kept _ => exact hoccurs
  | computed _ _ =>
    cases hoccurs with
    | whole => cases hkind
    | inside hpart hoccurs => rwa [List.mem_singleton.1 hpart] at hoccurs
  | json _ _ hjson => cases hjson
  | filled _ _ _ _ =>
    cases hoccurs with
    | whole => cases hkind
    | inside hpart hoccurs => rwa [List.mem_singleton.1 hpart] at hoccurs
  | plain _ _ _ _ _ => exact hoccurs

end Refined

/-- The type of a column is the refined type that it selects. -/
theorem ColumnRules.map_eq_ok {rules : ColumnRules} {table : Cell} {column : Column}
    {selection : Selection} (h : rules.select table column = .ok selection) :
    rules.map table column
      = .ok (refine selection.type column (rules.isJson column && !selection.fromCast)) := by
  rw [map, h]
  rfl

/-! ## Admitting null -/

theorem admitted_of_nullable {select : TypeExpr} {column : Column} (h : column.isNullable = true) :
    admitted select column = .compound .union (membersFor .union select ++ [null]) := by
  rw [admitted, if_pos h]
  rfl

theorem admitted_of_not_nullable {select : TypeExpr} {column : Column}
    (h : column.isNullable = false) :
    admitted select column = select := by
  rw [admitted, h]
  rfl

/-- What is written in the type with null admitted and is no union but null was written before. -/
theorem occurs_of_occurs_admitted {select t : TypeExpr} {column : Column} (hnull : t ≠ null)
    (hunion : t.kind ≠ .union) (h : Occurs t (admitted select column)) : Occurs t select := by
  cases hnullable : column.isNullable with
  | false => rwa [admitted_of_not_nullable hnullable] at h
  | true =>
    rw [admitted, if_pos hnullable] at h
    rcases h.of_join with rfl | ⟨u, hu, hoccurs⟩
    · exact absurd rfl hunion
    · simp only [List.mem_cons, List.not_mem_nil, or_false] at hu
      rcases hu with rfl | rfl
      · exact hoccurs
      · cases hoccurs with
        | whole => exact absurd rfl hnull
        | inside hpart => cases hpart

theorem wrapperFree_admitted {select : TypeExpr} (h : select.WrapperFree) (column : Column) :
    (admitted select column).WrapperFree := by
  unfold admitted
  split
  · exact h.nullable
  · exact h

end SchemaTypes
