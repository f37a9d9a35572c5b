import SchemaTypes.Proofs.Mapping.Mysql
import SchemaTypes.Proofs.Text.Literals
import SchemaTypes.Proofs.TypeExpr.Legible

set_option autoImplicit false

/-! # Types of enumerations

Without a cast, the type of an enumeration is the union of its members, `null` among them if the
column admits it, in the wrapper that says how the column gets its values. The text can be taken
apart again: what stands before the first quote is the wrapper, the literals are the members
(`literals_enumerationText`), and what is left over says whether null is admitted.

The main statement is `text_map_enumeration`: the texts of two enumerations are equal exactly if the
members, what is said of null and the wrappers are.
-/

namespace SchemaTypes

open Text

/-- How a column gets a value that is not given. -/
inductive GenerationClass where
  /-- Every value is computed. -/
  | always
  /-- A value that is left out is filled in. -/
  | byDefault
  | never
  deriving DecidableEq, Repr

/-- A computed column is always one, whatever else is said of it. -/
def Column.generationClass (column : Column) : GenerationClass :=
  if column.isVirtual then .always
  else if column.isAutoIncrementing || column.hasDefault then .byDefault
  else .never

namespace GenerationClass

/-- What stands before the members of an enumeration. -/
def opening : GenerationClass → String
  | .always => "GeneratedAlways<"
  | .byDefault => "Generated<"
  | .never => ""

/-- What stands behind the members of an enumeration. -/
def closing : GenerationClass → String
  | .always => ">"
  | .byDefault => ">"
  | .never => ""

theorem eq_of_opening_eq : ∀ {first second : GenerationClass}, first.opening = second.opening →
    first = second
  | .always, .always, _ => rfl
  | .byDefault, .byDefault, _ => rfl
  | .never, .never, _ => rfl

end GenerationClass

namespace Mysql

/-! ## The text of an enumeration -/

/-- A member as a literal. -/
def memberText (m : String) : String := String.ofList (Quoted.encode m.toList)

/-- What is written for null. -/
def nullText (isNullable : Bool) : String := if isNullable then " | null" else ""

/-- The text of the type of an enumeration. -/
def enumerationText (members : List String) (isNullable : Bool) (generation : GenerationClass) :
    String :=
  generation.opening ++ (String.intercalate " | " (members.map memberText)
    ++ (nullText isNullable ++ generation.closing))

theorem flatMap_membersFor_literals (members : List String) :
    (members.map TypeExpr.stringLiteral).flatMap (TypeExpr.membersFor .union)
      = members.map TypeExpr.stringLiteral := by
  refine TypeExpr.flatMap_membersFor_of_level_ne ?_
  rw [List.forall_mem_map]
  exact fun _ _ => Nat.zero_ne_add_one 1

theorem text_union_members (members : List String) :
    (TypeExpr.union (members.map TypeExpr.stringLiteral)).text
      = String.intercalate " | " (members.map memberText) := by
  rw [TypeExpr.union, TypeExpr.text_join, flatMap_membersFor_literals, List.map_map]
  rfl

/-- Null is written like one more member, though no literal is. -/
theorem text_nullable_members {members : List String} (hne : members ≠ []) :
    (TypeExpr.union (members.map TypeExpr.stringLiteral)).nullable.text
      = String.intercalate " | " (members.map memberText) ++ " | null" := by
  have hmembers : (TypeExpr.union (members.map TypeExpr.stringLiteral)).nullable.text
      = String.intercalate " | " (members.map memberText ++ ["null"]) := by
    rw [TypeExpr.nullable, TypeExpr.union, TypeExpr.text_join, List.flatMap_cons, TypeExpr.union,
      TypeExpr.join, flatMap_membersFor_literals, TypeExpr.membersFor, if_pos rfl, List.map_append,
      List.map_map]
    rfl
  rw [hmembers, String.intercalate_append_of_ne_nil (by simpa using hne) (List.cons_ne_nil _ _),
    String.intercalate_singleton, String.append_assoc]
  rfl

/-- The wrapper that a type gets is the one of the column's class. -/
theorem text_refine {select result : TypeExpr} {column : Column}
    (hresult : (if column.isNullable then select.nullable else select) = result)
    (hwrapper : result.isWrapper = false) :
    (refine select column false).text
      = column.generationClass.opening ++ (result.text ++ column.generationClass.closing) := by
  have happlied : ∀ name : String,
      TypeExpr.applied name [result.text] = name ++ "<" ++ (result.text ++ ">") := by
    intro name
    rw [TypeExpr.applied, String.intercalate_singleton, String.append_assoc]
  rw [refine, hresult]
  simp only [hwrapper, Bool.false_eq_true, if_false]
  unfold Column.generationClass
  -- both sides ask for a computed column first, then for a value that may be left out
  split_ifs
  · exact happlied "GeneratedAlways"
  · exact happlied "Generated"
  · simp [GenerationClass.opening, GenerationClass.closing]

/-- What is selected from an enumeration is refined to a type with the text above. -/
theorem text_refine_members {members : List String} (hne : members ≠ []) (column : Column) :
    (refine (.union (members.map TypeExpr.stringLiteral)) column false).text
      = enumerationText members column.isNullable column.generationClass := by
  -- the members are no wrapper, with null among them or without
  obtain ⟨result, hresult, hwrapper, htext⟩ : ∃ result,
      (if column.isNullable then (TypeExpr.union (members.map TypeExpr.stringLiteral)).nullable
        else TypeExpr.union (members.map TypeExpr.stringLiteral)) = result ∧
      result.isWrapper = false ∧
      result.text = String.intercalate " | " (members.map memberText)
        ++ nullText column.isNullable := by
    cases column.isNullable with
    | true => exact ⟨_, rfl, rfl, text_nullable_members hne⟩
    | false => exact ⟨_, rfl, rfl, by simp [text_union_members, nullText]⟩
  rw [text_refine hresult hwrapper, htext, String.append_assoc, enumerationText]

/-! ## Taking the text apart -/

theorem toList_memberText (m : String) : (memberText m).toList = Quoted.encode m.toList :=
  String.toList_ofList

theorem toList_enumerationText (members : List String) (isNullable : Bool)
    (generation : GenerationClass) :
    (enumerationText members isNullable generation).toList
      = generation.opening.toList ++ ((String.intercalate " | " (members.map memberText)).toList
        ++ (nullText isNullable ++ generation.closing).toList) := by
  rw [enumerationText, String.toList_append, String.toList_append]

theorem not_mem_opening (generation : GenerationClass) : '"' ∉ generation.opening.toList := by
  cases generation <;> decide

theorem not_mem_closing (isNullable : Bool) (generation : GenerationClass) :
    '"' ∉ (nullText isNullable ++ generation.closing).toList := by
  cases isNullable <;> cases generation <;> decide

theorem not_mem_separator : '"' ∉ " | ".toList := by decide

/-- The literals between separators are the members. -/
theorem literals_intercalate (members : List String) (after : List Char) :
    Quoted.literals ((String.intercalate " | " (members.map memberText)).toList ++ after)
      = (Quoted.literals after).map (members ++ ·) := by
  induction members with
  | nil => simp
  | cons m rest ih =>
    cases rest with
    | nil =>
      rw [List.map_singleton, String.intercalate_singleton, toList_memberText,
        Quoted.literals_encode_append]
      rfl
    | cons n rest =>
      -- the reader goes over the separator, in which there is no quote, to the next member
      rw [List.map_cons, List.map_cons, String.intercalate_cons_cons, ← List.map_cons,
        String.toList_append, String.toList_append, List.append_assoc, List.append_assoc,
        toList_memberText, Quoted.literals_encode_append, Quoted.literals_append not_mem_separator,
        ih, Option.map_map]
      rfl

/-- The literals in the text of an enumeration are its members, in their order. -/
theorem literals_enumerationText (members : List String) (isNullable : Bool)
    (generation : GenerationClass) :
    Quoted.literals (enumerationText members isNullable generation).toList = some members := by
  rw [toList_enumerationText, Quoted.literals_append (not_mem_opening generation),
    literals_intercalate, Quoted.literals_of_not_mem (not_mem_closing isNullable generation),
    Option.map_some, List.append_nil]

/-- What stands before the first quote is the opening of the wrapper. -/
theorem takeWhile_enumerationText {members : List String} (hne : members ≠ []) (isNullable : Bool)
    (generation : GenerationClass) :
    (enumerationText members isNullable generation).toList.takeWhile (· != '"')
      = generation.opening.toList := by
  obtain ⟨m, rest, rfl⟩ := List.exists_cons_of_ne_nil hne
  obtain ⟨after, hquote⟩ : ∃ after,
      (String.intercalate " | " ((m :: rest).map memberText)).toList = '"' :: after := by
    cases rest with
    | nil =>
      rw [List.map_singleton, String.intercalate_singleton, toList_memberText]
      exact ⟨_, rfl⟩
    | cons n rest =>
      rw [List.map_cons, List.map_cons, String.intercalate_cons_cons, String.toList_append,
        String.toList_append, toList_memberText]
      exact ⟨_, rfl⟩
  rw [toList_enumerationText, hquote, List.cons_append, takeWhile_bne (not_mem_opening generation)]

theorem eq_of_nullText_eq :
    ∀ {first second : Bool}, nullText first = nullText second → first = second
  | true, true, _ => rfl
  | false, false, _ => rfl

/-- The text tells the members, whether null is admitted and how the column gets its values. -/
theorem enumerationText_eq_iff {members members' : List String} (hne : members ≠ [])
    (hne' : members' ≠ []) {isNullable isNullable' : Bool}
    {generation generation' : GenerationClass} :
    enumerationText members isNullable generation
      = enumerationText members' isNullable' generation' ↔
      members = members' ∧ isNullable = isNullable' ∧ generation = generation' := by
  constructor
  · intro h
    have hmembers : members = members' := by
      have hliterals := congrArg (fun text => Quoted.literals text.toList) h
      simpa only [literals_enumerationText, Option.some.injEq] using hliterals
    have hgeneration : generation = generation' := by
      have hopening := congrArg (fun text => text.toList.takeWhile (· != '"')) h
      simp only [takeWhile_enumerationText hne, takeWhile_enumerationText hne', String.toList_inj]
        at hopening
      exact GenerationClass.eq_of_opening_eq hopening
    subst hmembers hgeneration
    rw [enumerationText, enumerationText, String.append_right_inj, String.append_right_inj,
      String.append_left_inj] at h
    exact ⟨rfl, eq_of_nullText_eq h, rfl⟩
  · rintro ⟨rfl, rfl, rfl⟩
    rfl

/-! ## What stands in the text -/

/-- The character is no control character. -/
def isPrintable (c : Char) : Bool := 32 ≤ c.toNat

theorem consists_opening (generation : GenerationClass) :
    Consists isPrintable generation.opening := by
  cases generation <;> decide

theorem consists_closing (generation : GenerationClass) :
    Consists isPrintable generation.closing := by
  cases generation <;> decide

theorem consists_nullText (isNullable : Bool) : Consists isPrintable (nullText isNullable) := by
  cases isNullable <;> decide

theorem consists_memberText (m : String) : Consists isPrintable (memberText m) := by
  intro c hc
  rw [toList_memberText] at hc
  exact decide_eq_true (Quoted.le_toNat_of_mem_encode hc)

theorem consists_intercalate (members : List String) :
    Consists isPrintable (String.intercalate " | " (members.map memberText)) := by
  have hseparator : Consists isPrintable " | " := by decide
  induction members with
  | nil => exact (by decide : Consists isPrintable "")
  | cons m rest ih =>
    cases rest with
    | nil =>
      rw [List.map_singleton, String.intercalate_singleton]
      exact consists_memberText m
    | cons n rest =>
      rw [List.map_cons, List.map_cons, String.intercalate_cons_cons]
      exact ((consists_memberText m).append hseparator).append ih

/-- No control character stands in the text of an enumeration. -/
theorem consists_enumerationText (members : List String) (isNullable : Bool)
    (generation : GenerationClass) :
    Consists isPrintable (enumerationText members isNullable generation) :=
  (consists_opening generation).append ((consists_intercalate members).append
    ((consists_nullText isNullable).append (consists_closing generation)))

/-! ## Columns without a cast -/

/-- An enumeration with the given members for which there is no cast: not for its full type, not for
the type without attributes, not for the data type. -/
structure Enumerates (config : MysqlConfig) (column : Column) (members : List String) : Prop where
  dataType_eq : column.dataType = .text "enum" ∨ column.dataType = .text "set"
  members_eq : column.members = some members
  ne_nil : members ≠ []
  uncast : ∃ full, column.columnType = .text full ∧ ∀ cast ∈ config.typeCasts,
    cast.1 ≠ full ∧ cast.1 ≠ stripAttributes full ∧ column.dataType ≠ .text cast.1

namespace Enumerates

variable {config : MysqlConfig} {column : Column} {members : List String}
  (h : Enumerates config column members)
include h

theorem isEnumeration : isEnumeration column.dataType = true := by
  rcases h.dataType_eq with heq | heq <;> rw [heq] <;> rfl

theorem isJson_eq_false : isJson column = false := by
  rcases h.dataType_eq with heq | heq <;> rw [isJson, heq] <;> rfl

theorem memberUnion?_eq_some :
    memberUnion? column = some (.union (members.map TypeExpr.stringLiteral)) := by
  obtain ⟨m, rest, rfl⟩ := List.exists_cons_of_ne_nil h.ne_nil
  simp only [memberUnion?, h.members_eq, if_pos h.isEnumeration]

/-- Casts have nothing to say of any of the keys. -/
theorem exists_castKeys_eq_ok : ∃ keys, castKeys column = .ok keys ∧
    ∀ key ∈ keys, ∀ cast ∈ config.typeCasts, key ≠ .text cast.1 := by
  obtain ⟨full, hfull, hcasts⟩ := h.uncast
  refine ⟨_, by rw [castKeys, hfull]; rfl, ?_⟩
  intro key hkey cast hcast heq
  obtain ⟨hne, hstripped, hdata⟩ := hcasts cast hcast
  rw [List.cons_append, List.mem_cons, List.mem_append, List.mem_singleton] at hkey
  rcases hkey with rfl | hkey | rfl
  · exact hne (Cell.text.inj heq).symm
  · split_ifs at hkey
    · cases hkey
    · rw [List.mem_singleton.1 hkey] at heq
      exact hstripped (Cell.text.inj heq).symm
  · exact hdata heq

/-- Without a cast the members are what is selected. -/
theorem select_eq (table : Cell) : select config table column
    = .ok (.found (.union (members.map TypeExpr.stringLiteral))) := by
  obtain ⟨keys, hkeys, hcasts⟩ := h.exists_castKeys_eq_ok
  have hnone : (keys.map (Selection.cast? config.typeCasts)).findSome? id = none := by
    rw [← Selection.first?, Selection.first?_eq_none_iff, List.forall_mem_map]
    exact fun key hkey => Selection.cast?_eq_none_iff.2 (hcasts key hkey)
  have hfirst : Selection.first? (lookups config keys table column)
      = some (.found (.union (members.map TypeExpr.stringLiteral))) := by
    rw [Selection.first?, lookups, List.findSome?_append, hnone, jsonPayload?, h.isJson_eq_false,
      h.memberUnion?_eq_some]
    rfl
  rw [select, hkeys, ok_bind, hfirst]
  rfl

theorem map_eq (table : Cell) : (columnRules config).map table column
    = .ok (refine (.union (members.map TypeExpr.stringLiteral)) column false) := by
  have hjson : (columnRules config).isJson column = false := h.isJson_eq_false
  have hselect : (columnRules config).select table column = _ := h.select_eq table
  rw [ColumnRules.map, hselect, hjson]
  rfl

end Enumerates

/-- The types of two enumerations without casts have the same text exactly if the members are the
same, both or neither admit null, and they get their values in the same way. The text holds no
control character, and its literals are the members. -/
theorem text_map_enumeration {config config' : MysqlConfig} {table table' : Cell}
    {column column' : Column} {members members' : List String}
    (h : Enumerates config column members) (h' : Enumerates config' column' members') :
    ∃ type type',
      (columnRules config).map table column = .ok type ∧
      (columnRules config').map table' column' = .ok type' ∧
      (type.text = type'.text ↔ members = members' ∧ column.isNullable = column'.isNullable ∧
        column.generationClass = column'.generationClass) ∧
      (∀ c ∈ type.text.toList, 32 ≤ c.toNat) ∧
      Quoted.literals type.text.toList = some members := by
  refine ⟨_, _, h.map_eq table, h'.map_eq table', ?_⟩
  rw [text_refine_members h.ne_nil, text_refine_members h'.ne_nil]
  exact ⟨enumerationText_eq_iff h.ne_nil h'.ne_nil,
    fun c hc => of_decide_eq_true (consists_enumerationText _ _ _ c hc),
    literals_enumerationText _ _ _⟩

/-- A set whose members are made of all that stands between members, and more than once the same. -/
def delimitersColumn : Column where
  name := .text "marks"
  columnType := .text "set('...')"
  dataType := .text "set"
  isNullable := true
  hasDefault := true
  members := some ["a\" | \"b", "null", "\\", "\n\x01", "", "", "Generated<"]

/-- An enumeration with one member that is written like the text of the former's members. -/
def nestedColumn : Column where
  name := .text "mark"
  columnType := .text "enum('...') charset utf8mb4"
  dataType := .text "enum"
  isNullable := false
  isVirtual := true
  members := some ["\"null\" | null"]

theorem text_map_enumeration_delimiters :
    let config : MysqlConfig := { typeCasts := [("varchar(3)", TypeExpr.number)] }
    let members := ["a\" | \"b", "null", "\\", "\n\x01", "", "", "Generated<"]
    let members' := ["\"null\" | null"]
    (Enumerates config delimitersColumn members ∧ Enumerates {} nestedColumn members') ∧
      ∃ type type',
        (columnRules config).map (.text "t") delimitersColumn = .ok type ∧
        (columnRules {}).map (.text "u") nestedColumn = .ok type' ∧
        (type.text = type'.text ↔ members = members' ∧
          delimitersColumn.isNullable = nestedColumn.isNullable ∧
          delimitersColumn.generationClass = nestedColumn.generationClass) ∧
        (∀ c ∈ type.text.toList, 32 ≤ c.toNat) ∧
        Quoted.literals type.text.toList = some members := by
  intro config members members'
  have h : Enumerates config delimitersColumn members :=
    ⟨.inr rfl, rfl, List.cons_ne_nil _ _, "set('...')", rfl, by decide⟩
  have h' : Enumerates {} nestedColumn members' :=
    ⟨.inl rfl, rfl, List.cons_ne_nil _ _, "enum('...') charset utf8mb4", rfl, by decide⟩
  exact ⟨⟨h, h'⟩, text_map_enumeration h h'⟩

end Mysql

end SchemaTypes
