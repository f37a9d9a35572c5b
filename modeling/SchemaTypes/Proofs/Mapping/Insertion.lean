import Mathlib.Tactic.SplitIfs
import SchemaTypes.Proofs.Mapping.Precedence

set_option autoImplicit false

/-! # What may be left out on insert

A wrapper says what may be given for a column on insert (`insertType`). A property may be left out
if that type has null or undefined among its members (`mayBeOmitted`), which should be so exactly
where the database has a value for what is not given: null, a default, the next number.

The types that the dialects give by themselves are definite: they are no wrappers and none of their
members is null or undefined (`Dialect.isDefinite_of_answer?`), so all depends on the refinement
(`Refined.mayBeOmitted_iff`). It does as it should but for JSON columns. Their wrapper has an insert
type of its own, with undefined among its members if there is a default, and else `string`, whether
or not null is admitted. The main statement is `Dialect.mayBeOmitted_map_iff`.
-/

namespace SchemaTypes

namespace TypeExpr

/-- What may be given on insert for a property of the type. Wrappers say so; for an insert type that
is missing there is the select type, or `string` if the property holds JSON. -/
def insertType : TypeExpr → TypeExpr
  | .columnType select insert _ => insert.getD select
  | .jsonColumnType _ insert _ => insert.getD string
  | .generated select => select.optional
  | .generatedAlways _ => never
  | t => t

/-- The type is null or undefined. -/
def isNullish : TypeExpr → Bool
  | .primitive name => name == "null" || name == "undefined"
  | _ => false

/-- Null or undefined is among the members of the type. -/
def admitsNullish (t : TypeExpr) : Bool := (membersFor .union t).any isNullish

/-- A property of the type may be left out on insert. -/
def mayBeOmitted (t : TypeExpr) : Bool := t.insertType.admitsNullish

theorem insertType_of_not_isWrapper {t : TypeExpr} (h : t.isWrapper = false) :
    t.insertType = t := by
  cases t with
  | columnType select insert update => cases h
  | jsonColumnType select insert update => cases h
  | generated select => cases h
  | generatedAlways select => cases h
  | _ => rfl

theorem admitsNullish_optional (t : TypeExpr) : t.optional.admitsNullish = true := by
  show (membersFor .union t ++ [undefined]).any isNullish = true
  rw [List.any_append, Bool.or_eq_true]
  exact Or.inr rfl

theorem admitsNullish_nullable (t : TypeExpr) : t.nullable.admitsNullish = true := by
  show (membersFor .union t ++ [null]).any isNullish = true
  rw [List.any_append, Bool.or_eq_true]
  exact Or.inr rfl

/-! ## Definite types -/

/-- The type is no wrapper, and neither null nor undefined is among its members. -/
def IsDefinite (t : TypeExpr) : Prop := t.isWrapper = false ∧ t.admitsNullish = false

theorem IsDefinite.ite {c : Prop} [Decidable c] {t u : TypeExpr} (ht : t.IsDefinite)
    (hu : u.IsDefinite) : (if c then t else u).IsDefinite := by
  split
  · exact ht
  · exact hu

theorem isDefinite_number : number.IsDefinite := ⟨rfl, rfl⟩

theorem isDefinite_string : string.IsDefinite := ⟨rfl, rfl⟩

theorem isDefinite_literals (members : List String) :
    (TypeExpr.union (members.map stringLiteral)).IsDefinite := by
  refine ⟨rfl, ?_⟩
  show ((members.map stringLiteral).flatMap (membersFor .union)).any isNullish = false
  rw [List.any_flatMap, List.any_map, List.any_eq_false]
  exact fun _ _ => Bool.false_ne_true

end TypeExpr

open TypeExpr

namespace Mysql

theorem isDefinite_bigNumberType (pool : PoolConfig) : (bigNumberType pool).IsDefinite :=
  .ite isDefinite_number (.ite isDefinite_string ⟨rfl, rfl⟩)

theorem isDefinite_of_baseType? {pool : PoolConfig} {dataType : Cell} {type : TypeExpr}
    (h : baseType? pool dataType = some type) : type.IsDefinite := by
  cases dataType with
  | text dataType =>
    rw [baseType?, dataTypeRule?] at h
    split_ifs at h <;> cases h
    · exact isDefinite_number
    · exact ⟨rfl, rfl⟩
    · exact isDefinite_string
    · exact .ite isDefinite_string ⟨rfl, rfl⟩
    · exact isDefinite_bigNumberType pool
    · exact .ite isDefinite_number (isDefinite_bigNumberType pool)
    · exact .ite isDefinite_string ⟨rfl, rfl⟩
  | _ => cases h

theorem isDefinite_of_memberUnion? {column : Column} {type : TypeExpr}
    (h : memberUnion? column = some type) : type.IsDefinite := by
  unfold memberUnion? at h
  split at h
  · split at h
    · cases h
      exact isDefinite_literals _
    · cases h
  · cases h

end Mysql

theorem Sqlite.isDefinite_of_baseType? {config : SqliteConfig} {affinity : Cell} {type : TypeExpr}
    (h : baseType? config affinity = some type) : type.IsDefinite := by
  rw [baseType?] at h
  split_ifs at h <;> cases h
  · exact ⟨rfl, rfl⟩
  · exact isDefinite_number
  · exact isDefinite_string
  · exact ⟨rfl, rfl⟩
  · exact isDefinite_number

/-- What is found there was given by the configuration for the column or its type. -/
def LookUp.isOverride : LookUp → Bool
  | .memberUnion | .baseType => false
  | _ => true

theorem LookUp.isCast_of_not_isOverride {lookUp : LookUp} (h : lookUp.isOverride = false) :
    lookUp.isCast = false := by
  cases lookUp with
  | memberUnion => rfl
  | baseType => rfl
  | _ => cases h

/-- The types of the dialects themselves are definite. -/
theorem Dialect.isDefinite_of_answer? {dialect : Dialect} {config : GeneratorConfig} {table : Cell}
    {column : Column} {lookUp : LookUp} {type : TypeExpr} (hown : lookUp.isOverride = false)
    (h : dialect.answer? config table column lookUp = some type) : type.IsDefinite := by
  cases lookUp with
  | memberUnion =>
    cases dialect with
    | mysql => exact Mysql.isDefinite_of_memberUnion? h
    | sqlite => cases h
  | baseType =>
    cases dialect with
    | mysql => exact Mysql.isDefinite_of_baseType? h
    | sqlite => exact Sqlite.isDefinite_of_baseType? h
  | _ => cases hown

/-! ## Refined types -/

section

variable {select : TypeExpr} {column : Column}

theorem isWrapper_admitted (h : select.isWrapper = false) :
    (admitted select column).isWrapper = false := by
  unfold admitted
  split
  · rfl
  · exact h

theorem admitsNullish_admitted (h : select.IsDefinite) :
    (admitted select column).admitsNullish = column.isNullable := by
  cases hnullable : column.isNullable with
  | true =>
    rw [admitted, if_pos hnullable]
    exact admitsNullish_nullable select
  | false =>
    rw [admitted_of_not_nullable hnullable]
    exact h.2

/-- A default always makes up for what is left out. Null and the next number do so unless the column
is treated as JSON. -/
theorem Refined.mayBeOmitted_iff {isJson : Bool} {result : TypeExpr}
    (h : Refined column isJson (admitted select column) result) (hdefinite : select.IsDefinite)
    (hvirtual : column.isVirtual = false) :
    result.mayBeOmitted = true ↔ column.hasDefault = true ∨
      isJson = false ∧ (column.isNullable = true ∨ column.isAutoIncrementing = true) := by
  have hwrapper : (admitted select column).isWrapper = false := isWrapper_admitted hdefinite.1
  cases h with
  | kept hkept => rw [hwrapper] at hkept; cases hkept
  | computed _ hcomputed => rw [hvirtual] at hcomputed; cases hcomputed
  | json _ _ hjson =>
    -- what is selected has no part in the insert type, so null does not count
    rw [hjson]
    cases column.hasDefault with
    | true => exact iff_of_true (admitsNullish_optional string) (.inl rfl)
    | false => exact iff_of_false Bool.false_ne_true (by simp)
  | filled _ _ hjson hfilled =>
    refine iff_of_true (admitsNullish_optional _) ?_
    rcases hfilled with hincrement | hdefault
    · exact .inr ⟨hjson, .inr hincrement⟩
    · exact .inl hdefault
  | plain _ _ hjson hincrement hdefault =>
    rw [mayBeOmitted, insertType_of_not_isWrapper hwrapper, admitsNullish_admitted hdefinite, hjson,
      hincrement, hdefault]
    simp

end

namespace Dialect

variable {dialect : Dialect} {config : GeneratorConfig} {table : Cell} {column : Column}

/-- A property of a column without overrides may be left out on insert exactly if the column has a
default or, not being a JSON column, admits null or counts up by itself. -/
theorem mayBeOmitted_map_iff {result : TypeExpr} (hvirtual : column.isVirtual = false)
    (hown : ∀ lookUp, lookUp.isOverride = true → dialect.answer? config table column lookUp = none)
    (hmap : (dialect.columnRules config).map table column = .ok result) :
    result.mayBeOmitted = true ↔ column.hasDefault = true ∨
      dialect.isJson column = false ∧
        (column.isNullable = true ∨ column.isAutoIncrementing = true) := by
  obtain ⟨lookUp, type, hdecision, rfl⟩ := exists_decision_of_map_eq_ok hmap
  have hanswer : dialect.answer? config table column lookUp = some type :=
    (LookUp.mem_of_decide? hdecision).2
  -- overrides have no answer here, so it was the dialect itself that decided
  have hoverride : lookUp.isOverride = false := by
    cases hlookUp : lookUp.isOverride with
    | false => rfl
    | true =>
      rw [hown lookUp hlookUp] at hanswer
      cases hanswer
  have hcast : lookUp.isCast = false := LookUp.isCast_of_not_isOverride hoverride
  rw [(refined_refine type column _).mayBeOmitted_iff (isDefinite_of_answer? hoverride hanswer)
    hvirtual, hcast, Bool.not_false, Bool.and_true]

/-- A MySQL column that counts up by itself. -/
def countingColumn : Column where
  name := .text "id"
  columnType := .text "bigint(20) unsigned"
  dataType := .text "bigint"
  isNullable := false
  isAutoIncrementing := true

/-- A configuration with casts for other columns, and a driver that yields large numbers as
texts. -/
def largeNumbersConfig : GeneratorConfig where
  dialect := "mysql"
  mysql :=
    { typeCasts := [("tinyint(1)", TypeExpr.boolean)]
      jsonColumns := [("events.id", TypeExpr.any)]
      pool := { supportBigNumbers := true } }

theorem mayBeOmitted_map_iff_counting :
    let result := TypeExpr.generated (TypeExpr.union [TypeExpr.number, TypeExpr.string])
    countingColumn.isVirtual = false ∧
    (∀ lookUp, lookUp.isOverride = true →
      Dialect.mysql.answer? largeNumbersConfig (.text "events") countingColumn lookUp = none) ∧
    (Dialect.mysql.columnRules largeNumbersConfig).map (.text "events") countingColumn
      = .ok result ∧
    (result.mayBeOmitted = true ↔ countingColumn.hasDefault = true ∨
      Dialect.mysql.isJson countingColumn = false ∧
        (countingColumn.isNullable = true ∨ countingColumn.isAutoIncrementing = true)) := by
  intro result
  have hown : ∀ lookUp, lookUp.isOverride = true →
      Dialect.mysql.answer? largeNumbersConfig (.text "events") countingColumn lookUp = none := by
    intro lookUp hoverride
    cases lookUp with
    | memberUnion => cases hoverride
    | baseType => cases hoverride
    | _ => rfl
  have hmap : (Dialect.mysql.columnRules largeNumbersConfig).map (.text "events") countingColumn
      = .ok result := rfl
  exact ⟨rfl, hown, hmap, mayBeOmitted_map_iff rfl hown hmap⟩

/-- A JSON column that admits null and has no default. -/
def nullableJsonColumn : Column where
  name := .text "data"
  columnType := .text "json"
  dataType := .text "json"

/-- Null is admitted on select but must not be left out on insert. -/
theorem not_forall_mayBeOmitted_map_iff :
    ¬ ∀ (dialect : Dialect) (config : GeneratorConfig) (table : Cell) (column : Column)
      (result : TypeExpr), column.isVirtual = false →
      (∀ lookUp, lookUp.isOverride = true → dialect.answer? config table column lookUp = none) →
      (dialect.columnRules config).map table column = .ok result →
      (result.mayBeOmitted = true ↔ column.isNullable = true ∨ column.hasDefault = true ∨
        column.isAutoIncrementing = true) := by
  intro h
  have hown : ∀ lookUp, lookUp.isOverride = true →
      Dialect.mysql.answer? { dialect := "mysql" } (.text "events") nullableJsonColumn lookUp
        = none := by
    intro lookUp hoverride
    cases lookUp with
    | memberUnion => cases hoverride
    | baseType => cases hoverride
    | _ => rfl
  have homitted :=
    (h .mysql { dialect := "mysql" } (.text "events") nullableJsonColumn _ rfl hown rfl).2
      (.inl rfl)
  exact absurd homitted (by decide)

end Dialect

end SchemaTypes
