import SchemaTypes.Proofs.Mapping.Basic

set_option autoImplicit false

/-! # Which MySQL columns have a type

A column lacks a type if no cast is given for it and its data type is none of MySQL's. A JSON column
and an enumeration never do: their data types are among those that have a type, so the look-ups in
between cannot decide it. The main statements are `select_eq_error` and `exists_select_eq_ok`.
-/

namespace SchemaTypes

namespace Mysql

/-- The data types that have a type. -/
def dataTypes : List String :=
  numberTypes ++ bufferTypes ++ stringTypes ++ dateTypes ++ ["bigint", "decimal", "json"]

/-- No cast is given for the column under any of its keys, and its data type has no type. -/
def LacksType (config : MysqlConfig) (column : Column) : Prop :=
  ∃ keys, castKeys column = .ok keys ∧
    (∀ key ∈ keys, ∀ cast ∈ config.typeCasts, key ≠ .text cast.1) ∧
    ∀ dataType ∈ dataTypes, column.dataType ≠ .text dataType

instance (config : MysqlConfig) : DecidablePred (LacksType config) := fun column =>
  match h : castKeys column with
  | .ok keys =>
    decidable_of_iff ((∀ key ∈ keys, ∀ cast ∈ config.typeCasts, key ≠ .text cast.1) ∧
        ∀ dataType ∈ dataTypes, column.dataType ≠ .text dataType) (by simp [LacksType, h])
  | .error _ => isFalse (by simp [LacksType, h])

variable {config : MysqlConfig} {column : Column}

theorem dataTypeRule?_eq_none_iff {pool : PoolConfig} {dataType : String} :
    dataTypeRule? pool dataType = none ↔ dataType ∉ dataTypes := by
  simp only [dataTypeRule?, dataTypes, List.mem_append, List.contains_iff_mem]
  grind

theorem baseType?_eq_none_iff {pool : PoolConfig} {dataType : Cell} :
    baseType? pool dataType = none ↔ ∀ known ∈ dataTypes, dataType ≠ .text known := by
  cases dataType with
  | text dataType =>
    rw [baseType?, dataTypeRule?_eq_none_iff]
    constructor
    · intro hnot known hknown heq
      rw [Cell.text.inj heq] at hnot
      exact hnot hknown
    · exact fun h hmem => h dataType hmem rfl
  | _ => simp [baseType?]

/-- What is no data type of MySQL is not JSON. -/
theorem jsonPayload?_eq_none {table : Cell}
    (h : ∀ known ∈ dataTypes, column.dataType ≠ .text known) :
    jsonPayload? config table column = none := by
  have hjson : ¬ isJson column = true := by
    rw [isJson, decide_eq_true_iff]
    exact h "json" (by decide)
  rw [jsonPayload?, if_neg hjson]

/-- What is no data type of MySQL is no enumeration. -/
theorem memberUnion?_eq_none (h : ∀ known ∈ dataTypes, column.dataType ≠ .text known) :
    memberUnion? column = none := by
  have henum : ¬ isEnumeration column.dataType = true := by
    rw [isEnumeration, Bool.or_eq_true, decide_eq_true_iff, decide_eq_true_iff, not_or]
    exact ⟨h "enum" (by decide), h "set" (by decide)⟩
  unfold memberUnion?
  split
  · rw [if_neg henum]
  · rfl

/-- No look-up succeeds exactly if no cast is given and the data type has no type. -/
theorem first?_lookups_eq_none_iff {keys : List Cell} {table : Cell} :
    Selection.first? (lookups config keys table column) = none ↔
      (∀ key ∈ keys, ∀ cast ∈ config.typeCasts, key ≠ .text cast.1) ∧
        ∀ dataType ∈ dataTypes, column.dataType ≠ .text dataType := by
  rw [Selection.first?_eq_none_iff, lookups, List.forall_mem_append, List.forall_mem_map]
  simp only [Selection.cast?_eq_none_iff, List.forall_mem_cons, Option.map_eq_none_iff,
    baseType?_eq_none_iff]
  refine and_congr_right fun _ => ⟨fun h => h.2.2.1, fun h => ?_⟩
  exact ⟨jsonPayload?_eq_none h, memberUnion?_eq_none h, h, fun _ hnil => by cases hnil⟩

/-- A column that lacks a type is reported. -/
theorem select_eq_error {table : Cell} (h : LacksType config column) :
    select config table column
      = .error (.generator (.unknownDataType column.dataType table column.name)) := by
  obtain ⟨keys, hkeys, hlacks⟩ := h
  rw [select, hkeys, ok_bind, first?_lookups_eq_none_iff.2 hlacks]

/-- A column with a text for its full type selects a type unless it lacks one. -/
theorem exists_select_eq_ok {table : Cell} (htext : ∃ full, column.columnType = .text full)
    (h : ¬ LacksType config column) :
    ∃ selection, select config table column = .ok selection := by
  obtain ⟨full, hfull⟩ := htext
  obtain ⟨keys, hkeys⟩ : ∃ keys, castKeys column = .ok keys := by
    rw [castKeys, hfull]
    exact ⟨_, rfl⟩
  have hsome : Selection.first? (lookups config keys table column) ≠ none := by
    rw [Ne, first?_lookups_eq_none_iff]
    exact fun hlacks => h ⟨keys, hkeys, hlacks⟩
  obtain ⟨selection, hselection⟩ := Option.ne_none_iff_exists'.1 hsome
  refine ⟨selection, ?_⟩
  rw [select, hkeys, ok_bind, hselection]
  rfl

end Mysql

end SchemaTypes
