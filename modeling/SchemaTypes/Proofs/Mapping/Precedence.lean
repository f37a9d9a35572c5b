import SchemaTypes.Dialect
import SchemaTypes.Proofs.Mapping.Refinement
import SchemaTypes.Proofs.Outcome

set_option autoImplicit false

/-! # Which look-up decides

The type of a column is looked up in one place after the other (`LookUp`), in an order that its
dialect fixes, and the first place that has something to say decides (`Dialect.decision?`). What the
others would have said makes no difference, nor does the configuration otherwise: the type of the
column is the type found, refined, and the refinement asks of the decision only whether it was a
cast (`Dialect.map_eq_of_decision`).

The main statement is `Dialect.map_eq_of_decision_eq`: two configurations with the same decision for
a column give it the same type.
-/

namespace SchemaTypes

/-- A place where the type of a column is looked up. -/
inductive LookUp where
  /-- The cast for the column, by its name and that of its table. -/
  | columnCast
  /-- The cast for the full column type. -/
  | fullTypeCast
  /-- The cast for the full column type without its attributes. -/
  | strippedTypeCast
  /-- The cast for the data type or the affinity. -/
  | dataTypeCast
  /-- What a JSON column is said to hold. -/
  | jsonPayload
  /-- The members of an enumeration. -/
  | memberUnion
  /-- The type of the data type or the affinity itself. -/
  | baseType
  deriving DecidableEq, Repr

namespace LookUp

/-- What is found there is an explicit cast. -/
def isCast : LookUp → Bool
  | .columnCast | .fullTypeCast | .strippedTypeCast | .dataTypeCast => true
  | .jsonPayload | .memberUnion | .baseType => false

/-- A type that was found in a place, as a selection. -/
def selection (lookUp : LookUp) (type : TypeExpr) : Selection := { type, fromCast := lookUp.isCast }

/-- What is selected after a decision. Without one the given error ends the run. -/
def selected (failure : Failure) : Option (LookUp × TypeExpr) → Except Failure Selection
  | some (lookUp, type) => .ok (lookUp.selection type)
  | none => .error failure

/-- The first of several places that has an answer, with its answer. -/
def decide? (lookUps : List LookUp) (answer : LookUp → Option TypeExpr) :
    Option (LookUp × TypeExpr) :=
  lookUps.findSome? fun lookUp => (answer lookUp).map (lookUp, ·)

/-- The place that decides is one of those that are asked. -/
theorem mem_of_decide? {lookUps : List LookUp} {answer : LookUp → Option TypeExpr} {lookUp : LookUp}
    {type : TypeExpr} (h : decide? lookUps answer = some (lookUp, type)) :
    lookUp ∈ lookUps ∧ answer lookUp = some type := by
  obtain ⟨asked, hasked, hanswer⟩ := List.exists_of_findSome?_eq_some h
  obtain ⟨found, hfound, heq⟩ := Option.map_eq_some_iff.1 hanswer
  cases heq
  exact ⟨hasked, hfound⟩

/-- A place that has an answer decides where the places before it have none. -/
theorem decide?_append_cons {before after : List LookUp} {answer : LookUp → Option TypeExpr}
    {lookUp : LookUp} {type : TypeExpr} (hbefore : ∀ earlier ∈ before, answer earlier = none)
    (h : answer lookUp = some type) :
    decide? (before ++ lookUp :: after) answer = some (lookUp, type) := by
  refine List.findSome?_eq_some_iff.2 ⟨before, lookUp, after, rfl, by rw [h]; rfl, ?_⟩
  intro earlier hearlier
  rw [hbefore earlier hearlier]
  rfl

/-- Where casts are asked first, a cast that decides does so whatever the other places say. -/
theorem decide?_congr_of_isCast {lookUps : List LookUp} {answer answer' : LookUp → Option TypeExpr}
    (horder : lookUps.Pairwise fun earlier later => later.isCast = true → earlier.isCast = true)
    (hagree : ∀ lookUp, lookUp.isCast = true → answer lookUp = answer' lookUp) {lookUp : LookUp}
    {type : TypeExpr} (h : decide? lookUps answer = some (lookUp, type))
    (hcast : lookUp.isCast = true) : decide? lookUps answer' = some (lookUp, type) := by
  induction lookUps with
  | nil => cases h
  | cons first rest ih =>
    rw [List.pairwise_cons] at horder
    rw [decide?, List.findSome?_cons] at h ⊢
    cases hfirst : answer first with
    | some found =>
      rw [hfirst] at h
      cases h
      rw [← hagree _ hcast, hfirst]
      rfl
    | none =>
      rw [hfirst] at h
      -- the one that decides comes later, so the first one is a cast as well
      have hfirstCast : first.isCast = true := horder.1 lookUp (mem_of_decide? h).1 hcast
      rw [← hagree first hfirstCast, hfirst]
      exact ih horder.2 h

end LookUp

namespace Selection

/-- Looking for a selection in several places is looking for the one that decides. -/
theorem first?_map_answers (lookUps : List LookUp) (answer : LookUp → Option TypeExpr) :
    first? (lookUps.map fun lookUp => (answer lookUp).map lookUp.selection)
      = (LookUp.decide? lookUps answer).map fun decision => decision.1.selection decision.2 := by
  rw [first?, LookUp.decide?, List.findSome?_map, List.map_findSome?]
  refine congrArg (List.findSome? · lookUps) (funext fun lookUp => ?_)
  simp only [Function.comp, id_eq, Option.map_map]
  rfl

theorem first?_cons_congr {rest rest' : List (Option Selection)} (h : first? rest = first? rest')
    (first : Option Selection) : first? (first :: rest) = first? (first :: rest') := by
  cases first with
  | some selection => rfl
  | none => exact h

/-- A look-up that would say the same as the one before it can be left out. -/
theorem first?_cons_ite {repeats : Prop} [Decidable repeats] {first second : Option Selection}
    {rest : List (Option Selection)} (h : repeats → second = first) :
    first? (first :: (if repeats then [] else [second]) ++ rest)
      = first? (first :: second :: rest) := by
  by_cases hrepeats : repeats
  · rw [if_pos hrepeats, h hrepeats]
    cases first <;> rfl
  · rw [if_neg hrepeats]
    rfl

end Selection

/-- The type that casts give for a key. -/
def castType? (casts : Casts) : Cell → Option TypeExpr
  | .text key => casts.lookup key
  | _ => none

theorem cast?_eq_map (lookUp : LookUp) (hcast : lookUp.isCast = true) (casts : Casts) (key : Cell) :
    Selection.cast? casts key = (castType? casts key).map lookUp.selection := by
  have hselection : lookUp.selection = fun type => { type, fromCast := true } := by
    funext type
    rw [LookUp.selection, hcast]
  rw [hselection]
  cases key <;> rfl

/-! ## MySQL -/

namespace Mysql

/-- The places in the order in which they are asked. -/
def lookUps : List LookUp :=
  [.fullTypeCast, .strippedTypeCast, .dataTypeCast, .jsonPayload, .memberUnion, .baseType]

/-- A column type without trailing attributes. -/
def withoutAttributes : Cell → Cell
  | .text full => .text (stripAttributes full)
  | other => other

/-- What a place has to say of a column. -/
def answer? (config : MysqlConfig) (table : Cell) (column : Column) : LookUp → Option TypeExpr
  | .columnCast => none
  | .fullTypeCast => castType? config.typeCasts column.columnType
  | .strippedTypeCast => castType? config.typeCasts (withoutAttributes column.columnType)
  | .dataTypeCast => castType? config.typeCasts column.dataType
  | .jsonPayload => jsonPayload? config table column
  | .memberUnion => memberUnion? column
  | .baseType => baseType? config.pool column.dataType

variable {config : MysqlConfig} {table : Cell} {column : Column}

/-- The keys of a column make up the same look-ups. The type without attributes is looked up only if
it is another one. -/
theorem exists_castKeys_eq_ok {full : String} (hfull : column.columnType = .text full) :
    ∃ keys, castKeys column = .ok keys ∧
      Selection.first? (lookups config keys table column)
        = Selection.first? (lookUps.map fun lookUp =>
            (answer? config table column lookUp).map lookUp.selection) := by
  refine ⟨_, by rw [castKeys, hfull]; rfl, ?_⟩
  have hrepeats : stripAttributes full = full →
      Selection.cast? config.typeCasts (.text (stripAttributes full))
        = Selection.cast? config.typeCasts (.text full) := fun heq => by rw [heq]
  -- the type without attributes is asked for in any case here, which finds nothing new
  rw [lookups, List.map_append, List.map_cons, apply_ite (List.map _), List.map_nil,
    List.map_singleton, List.map_singleton, List.append_assoc, Selection.first?_cons_ite hrepeats,
    cast?_eq_map .fullTypeCast rfl, cast?_eq_map .strippedTypeCast rfl,
    cast?_eq_map .dataTypeCast rfl]
  simp only [lookUps, List.map_cons, answer?, hfull]
  rfl

/-- What decides is selected, provided that the full type is a text. -/
theorem select_eq : select config table column = column.columnType.asText >>= fun _ =>
    LookUp.selected (.generator (.unknownDataType column.dataType table column.name))
      (LookUp.decide? lookUps (answer? config table column)) := by
  cases htype : column.columnType with
  | text full =>
    obtain ⟨keys, hkeys, hfirst⟩ := @exists_castKeys_eq_ok config table column full htype
    rw [select, hkeys, ok_bind, hfirst, Selection.first?_map_answers, Cell.asText, ok_bind]
    cases LookUp.decide? lookUps (answer? config table column) <;> rfl
  | _ =>
    rw [select, castKeys, htype]
    rfl

end Mysql

/-! ## SQLite -/

namespace Sqlite

/-- The places in the order in which they are asked. -/
def lookUps : List LookUp := [.columnCast, .fullTypeCast, .dataTypeCast, .baseType]

/-- What a place has to say of a column. -/
def answer? (config : SqliteConfig) (table : Cell) (column : Column) : LookUp → Option TypeExpr
  | .columnCast => castType? config.columnCasts (qualifiedName table column)
  | .fullTypeCast => castType? config.typeCasts column.columnType
  | .dataTypeCast => castType? config.typeCasts column.dataType
  | .baseType => baseType? config column.dataType
  | .strippedTypeCast | .jsonPayload | .memberUnion => none

variable {config : SqliteConfig} {table : Cell} {column : Column}

/-- Values that are equal as keys are looked up alike. -/
theorem cast?_eq_of_same {casts : Casts} {key key' : Cell} (h : key.same key' = true) :
    Selection.cast? casts key = Selection.cast? casts key' := by
  cases key <;> cases key' <;> simp_all [Cell.same, Cell.number?, Selection.cast?]

theorem first?_lookups_eq : Selection.first? (lookups config table column)
    = Selection.first? (lookUps.map fun lookUp =>
        (answer? config table column lookUp).map lookUp.selection) := by
  have hrepeats : column.dataType.same column.columnType = true →
      Selection.cast? config.typeCasts column.dataType
        = Selection.cast? config.typeCasts column.columnType := cast?_eq_of_same
  rw [lookups, castKeys, List.map_cons, apply_ite (List.map _), List.map_nil, List.map_singleton,
    List.cons_append, Selection.first?_cons_congr (Selection.first?_cons_ite hrepeats),
    cast?_eq_map .columnCast rfl, cast?_eq_map .fullTypeCast rfl,
    cast?_eq_map .dataTypeCast rfl]
  simp only [lookUps, List.map_cons, answer?]
  rfl

theorem select_eq : select config table column =
    LookUp.selected (.generator (.unknownDataType column.dataType table column.name))
      (LookUp.decide? lookUps (answer? config table column)) := by
  rw [select, first?_lookups_eq, Selection.first?_map_answers]
  cases LookUp.decide? lookUps (answer? config table column) <;> rfl

end Sqlite

/-! ## Both dialects -/

namespace Dialect

/-- The places where a dialect looks for the type of a column, in their order. -/
def lookUps : Dialect → List LookUp
  | .mysql => Mysql.lookUps
  | .sqlite => Sqlite.lookUps

/-- What a place has to say of a column. -/
def answer? (dialect : Dialect) (config : GeneratorConfig) (table : Cell) (column : Column) :
    LookUp → Option TypeExpr :=
  match dialect with
  | .mysql => Mysql.answer? config.mysql table column
  | .sqlite => Sqlite.answer? config.sqlite table column

/-- The first place that has something to say of a column, and the type it gives. -/
def decision? (dialect : Dialect) (config : GeneratorConfig) (table : Cell) (column : Column) :
    Option (LookUp × TypeExpr) :=
  LookUp.decide? dialect.lookUps (dialect.answer? config table column)

/-- The column is a JSON column of its dialect. -/
def isJson : Dialect → Column → Bool
  | .mysql => Mysql.isJson
  | .sqlite => fun _ => false

/-- Types of MySQL columns are taken apart, so they have to be texts. -/
def checkType : Dialect → Column → Except Failure Unit
  | .mysql, column => column.columnType.asText.map fun _ => ()
  | .sqlite, _ => .ok ()

theorem checkType_of_text {column : Column} (h : ∃ full, column.columnType = .text full)
    (dialect : Dialect) : dialect.checkType column = .ok () := by
  obtain ⟨full, hfull⟩ := h
  cases dialect with
  | mysql => rw [checkType, hfull]; rfl
  | sqlite => rfl

variable {dialect : Dialect} {config config' : GeneratorConfig} {table : Cell} {column : Column}
  {lookUp : LookUp} {type : TypeExpr}

theorem isJson_columnRules :
    (dialect.columnRules config).isJson column = dialect.isJson column := by
  cases dialect <;> rfl

theorem select_eq : (dialect.columnRules config).select table column =
    dialect.checkType column >>= fun _ =>
      LookUp.selected (.generator (.unknownDataType column.dataType table column.name))
        (dialect.decision? config table column) := by
  cases dialect with
  | mysql =>
    -- only whether the type is a text counts, not which text it is
    refine Mysql.select_eq.trans ?_
    rw [checkType]
    cases column.columnType.asText <;> rfl
  | sqlite => exact Sqlite.select_eq

/-- The configuration has a part in the type of a column only by the decision. -/
theorem map_congr (h : dialect.decision? config table column
    = dialect.decision? config' table column) :
    (dialect.columnRules config).map table column
    = (dialect.columnRules config').map table column := by
  rw [ColumnRules.map, ColumnRules.map, select_eq, select_eq, h, isJson_columnRules,
    isJson_columnRules]

/-- The type of a column is the one that was found, refined. JSON is out of the question after a
cast. -/
theorem map_eq_of_decision (h : dialect.decision? config table column = some (lookUp, type)) :
    (dialect.columnRules config).map table column
      = (dialect.checkType column).map fun _ =>
          refine type column (dialect.isJson column && !lookUp.isCast) := by
  rw [ColumnRules.map, select_eq, h, isJson_columnRules]
  cases dialect.checkType column <;> rfl

/-- A column that has a type has it by some decision. -/
theorem exists_decision_of_map_eq_ok {result : TypeExpr}
    (h : (dialect.columnRules config).map table column = .ok result) :
    ∃ lookUp type, dialect.decision? config table column = some (lookUp, type) ∧
      refine type column (dialect.isJson column && !lookUp.isCast) = result := by
  rw [ColumnRules.map, select_eq, isJson_columnRules] at h
  cases hcheck : dialect.checkType column with
  | error e =>
    rw [hcheck] at h
    cases h
  | ok _ =>
    rw [hcheck, ok_bind] at h
    cases hdecision : dialect.decision? config table column with
    | none =>
      rw [hdecision] at h
      cases h
    | some decision =>
      rw [hdecision] at h
      exact ⟨decision.1, decision.2, rfl, Except.ok.inj h⟩

/-! ## Casts -/

theorem pairwise_lookUps (dialect : Dialect) : dialect.lookUps.Pairwise fun earlier later =>
    later.isCast = true → earlier.isCast = true := by
  cases dialect <;> decide

/-- Only one look-up asks for the members of a column. -/
theorem answer?_with_members (hne : lookUp ≠ .memberUnion) (members : Option (List String)) :
    dialect.answer? config table { column with members } lookUp
      = dialect.answer? config table column lookUp := by
  cases dialect with
  | mysql =>
    cases lookUp with
    | memberUnion => exact absurd rfl hne
    | _ => rfl
  | sqlite => cases lookUp <;> rfl

theorem decision?_with_members (hcast : lookUp.isCast = true) (members : Option (List String))
    (h : dialect.decision? config table column = some (lookUp, type)) :
    dialect.decision? config table { column with members } = some (lookUp, type) := by
  refine LookUp.decide?_congr_of_isCast (pairwise_lookUps dialect) ?_ h hcast
  intro other hother
  have hne : other ≠ .memberUnion := by
    rintro rfl
    cases hother
  exact (answer?_with_members hne members).symm

/-- Two configurations in which the same look-up decides with the same type give the column the same
type, whatever else they contain. Where the look-up is a cast, the members of the column have no
part in it either, and there are no wrappers for JSON but those in the cast itself. -/
theorem map_eq_of_decision_eq (h : dialect.decision? config table column = some (lookUp, type))
    (h' : dialect.decision? config' table column = some (lookUp, type)) :
    (dialect.columnRules config).map table column = (dialect.columnRules config').map table column ∧
    ((∃ full, column.columnType = .text full) →
      ∃ result, (dialect.columnRules config).map table column = .ok result) ∧
    (lookUp.isCast = true →
      (∀ members, (dialect.columnRules config').map table { column with members }
        = (dialect.columnRules config).map table column) ∧
      ∀ result, (dialect.columnRules config).map table column = .ok result →
        ∀ t : TypeExpr, t.kind = .jsonColumnType → t.Occurs result → t.Occurs type) := by
  have hmap := map_eq_of_decision h
  refine ⟨?_, ?_, ?_⟩
  · exact map_congr (h.trans h'.symm)
  · intro htext
    rw [hmap, checkType_of_text htext]
    exact ⟨_, rfl⟩
  · intro hcast
    refine ⟨?_, ?_⟩
    · intro members
      rw [hmap, map_eq_of_decision (decision?_with_members hcast members h')]
      cases dialect <;> rfl
    · intro result hresult t hkind hoccurs
      -- the refinement adds no wrapper for JSON, and null is none, so the cast itself has it
      obtain ⟨other, found, hdecision, rfl⟩ := exists_decision_of_map_eq_ok hresult
      rw [h] at hdecision
      cases hdecision
      rw [hcast, Bool.not_true, Bool.and_false] at hoccurs
      have hadmitted := (refined_refine type column false).occurs_json hkind hoccurs
      refine occurs_of_occurs_admitted ?_ ?_ hadmitted
      · rintro rfl
        cases hkind
      · rw [hkind]
        decide

/-- A JSON column that admits null and has a default. -/
def payloadColumn : Column where
  name := .text "data"
  columnType := .text "json COMMENT 'payload'"
  dataType := .text "json"
  hasDefault := true

/-- A configuration with a cast for JSON. -/
def castConfig : GeneratorConfig where
  dialect := "mysql"
  mysql := { typeCasts := [("json", TypeExpr.string)] }

/-- A configuration with the same cast and more that could speak of a JSON column. -/
def payloadConfig : GeneratorConfig where
  dialect := "mysql"
  mysql :=
    { typeCasts := [("enum", TypeExpr.number), ("json", TypeExpr.string)]
      jsonColumns := [("events.data", .jsonColumnType TypeExpr.any none none)]
      pool := { jsonStrings := true } }

theorem map_eq_of_decision_eq_payload :
    let map := fun config => (Dialect.mysql.columnRules config).map (.text "events")
    (Dialect.mysql.decision? castConfig (.text "events") payloadColumn
        = some (.strippedTypeCast, TypeExpr.string) ∧
      Dialect.mysql.decision? payloadConfig (.text "events") payloadColumn
        = some (.strippedTypeCast, TypeExpr.string)) ∧
    map castConfig payloadColumn = map payloadConfig payloadColumn ∧
    (∃ result, map castConfig payloadColumn = .ok result) ∧
    (∀ members, map payloadConfig { payloadColumn with members } = map castConfig payloadColumn) ∧
    ∀ result, map castConfig payloadColumn = .ok result →
      ∀ t : TypeExpr, t.kind = .jsonColumnType → t.Occurs result → t.Occurs TypeExpr.string := by
  intro map
  have h : Dialect.mysql.decision? castConfig (.text "events") payloadColumn
      = some (.strippedTypeCast, TypeExpr.string) := rfl
  have h' : Dialect.mysql.decision? payloadConfig (.text "events") payloadColumn
      = some (.strippedTypeCast, TypeExpr.string) := rfl
  obtain ⟨heq, hresult, hcast⟩ := map_eq_of_decision_eq h h'
  exact ⟨⟨h, h'⟩, heq, hresult ⟨_, rfl⟩, hcast rfl⟩

end Dialect

end SchemaTypes
