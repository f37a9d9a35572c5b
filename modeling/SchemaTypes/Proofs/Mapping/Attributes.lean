import Mathlib.Data.List.TakeWhile
import SchemaTypes.Proofs.Mapping.Precedence
import SchemaTypes.Proofs.Text.Cutting

set_option autoImplicit false

/-! # Attributes of MySQL column types

A full column type is a type and its attributes, with a space before the first attribute:
`int(10) unsigned`. The cast for the type is looked up as well, and the attributes are taken to
start at the first space. The literals of an enumeration may hold spaces of their own, and then the
type is cut off within a literal: what is left of `enum('a b') CHARACTER SET utf8mb4` is `enum('a`
(`stripAttributes_text_append_iff`).

The main statement is `ColumnType.castDecides_iff`: the cast for a type decides in spite of
attributes exactly if no literal of the type holds a space. Otherwise it makes no difference at all.
-/

namespace SchemaTypes.Mysql

open Text

/-! ## Types -/

/-- The characters of keywords. -/
def isKeywordChar (c : Char) : Bool := c.isAlphanum || c == '_'

/-- What may stand in the parentheses of a type. -/
inductive Argument where
  | number (digits : String) (consists : Consists Char.isDigit digits)
  /-- The body stands between single quotes, as it is. It may hold any characters. -/
  | literal (body : String)

/-- A column type without attributes: a keyword and perhaps a list in parentheses. -/
structure ColumnType where
  keyword : String
  arguments : Option (List Argument) := none
  consists : Consists isKeywordChar keyword

def Argument.text : Argument → String
  | .number digits _ => digits
  | .literal body => "'" ++ (body ++ "'")

/-- A list in parentheses. -/
def argumentsText (arguments : List Argument) : String :=
  "(" ++ (String.intercalate "," (arguments.map Argument.text) ++ ")")

def ColumnType.text (type : ColumnType) : String :=
  type.keyword ++ (type.arguments.map argumentsText).getD ""

/-- Some literal of a type holds a space. -/
def ColumnType.HoldsSpace (type : ColumnType) : Prop :=
  ∃ arguments ∈ type.arguments, ∃ body, .literal body ∈ arguments ∧ ' ' ∈ body.toList

/-! ## Spaces -/

theorem Argument.space_mem_text_iff (argument : Argument) :
    ' ' ∈ argument.text.toList ↔ ∃ body, argument = .literal body ∧ ' ' ∈ body.toList := by
  cases argument with
  | number digits consists =>
    have hdigits : ' ' ∉ digits.toList := consists.not_mem rfl
    simpa [Argument.text] using hdigits
  | literal body => simp [Argument.text, String.toList_append]

/-- The commas of a list add no spaces. -/
theorem space_mem_intercalate_iff (texts : List String) :
    ' ' ∈ (String.intercalate "," texts).toList ↔ ∃ text ∈ texts, ' ' ∈ text.toList := by
  induction texts with
  | nil => simp
  | cons text rest ih =>
    cases rest with
    | nil => simp
    | cons next rest =>
      -- a comma only stands before a further text
      rw [String.intercalate_cons_cons, String.toList_append, String.toList_append, List.mem_append,
        List.mem_append, ih, List.exists_mem_cons_iff]
      simp

theorem space_mem_argumentsText_iff (arguments : List Argument) :
    ' ' ∈ (argumentsText arguments).toList ↔
      ∃ body, .literal body ∈ arguments ∧ ' ' ∈ body.toList := by
  have hparentheses : ' ' ∈ (argumentsText arguments).toList ↔
      ' ' ∈ (String.intercalate "," (arguments.map Argument.text)).toList := by
    simp [argumentsText, String.toList_append]
  rw [hparentheses, space_mem_intercalate_iff]
  constructor
  · rintro ⟨_, hmem, hspace⟩
    obtain ⟨argument, hargument, rfl⟩ := List.mem_map.1 hmem
    obtain ⟨body, rfl, hbody⟩ := argument.space_mem_text_iff.1 hspace
    exact ⟨body, hargument, hbody⟩
  · rintro ⟨body, hmem, hbody⟩
    exact ⟨_, List.mem_map_of_mem hmem, (Argument.space_mem_text_iff _).2 ⟨body, rfl, hbody⟩⟩

/-- The spaces of a type are those of its literals. -/
theorem ColumnType.space_mem_text_iff (type : ColumnType) :
    ' ' ∈ type.text.toList ↔ type.HoldsSpace := by
  have hkeyword : ' ' ∉ type.keyword.toList := type.consists.not_mem rfl
  rw [ColumnType.text, String.toList_append, List.mem_append, or_iff_right hkeyword, HoldsSpace]
  cases type.arguments with
  | none => simp
  | some arguments => simp [space_mem_argumentsText_iff]

/-- What stands before the first space is all of a text if there is no space in it. -/
theorem stripAttributes_append_iff (s attributes : String) :
    stripAttributes (s ++ " " ++ attributes) = s ↔ ' ' ∉ s.toList := by
  constructor
  · intro h hmem
    rw [← h, stripAttributes, String.toList_ofList] at hmem
    exact absurd (List.mem_takeWhile_imp hmem) (by decide)
  · intro h
    have htext : (s ++ " " ++ attributes).toList = s.toList ++ ' ' :: attributes.toList := by simp
    rw [stripAttributes, htext, takeWhile_bne h, String.ofList_toList]

example : stripAttributes "enum('a b') CHARACTER SET utf8mb4" = "enum('a" := by decide

/-- Attributes are dropped exactly if no literal holds a space. -/
theorem stripAttributes_text_append_iff (type : ColumnType) (attributes : String) :
    stripAttributes (type.text ++ " " ++ attributes) = type.text ↔ ¬ type.HoldsSpace := by
  rw [stripAttributes_append_iff, type.space_mem_text_iff]

theorem append_space_ne (s attributes : String) : s ++ " " ++ attributes ≠ s := by
  intro h
  have hlength : s.length + " ".length + attributes.length = s.length := by
    rw [← String.length_append, ← String.length_append, h]
  have hspace : " ".length = 1 := rfl
  omega

/-! ## Casts -/

/-- Two configurations say the same of types but for the cast for a key. -/
structure DifferAt (key : String) (config config' : MysqlConfig) : Prop where
  lookup_eq : ∀ other ≠ key, config.typeCasts.lookup other = config'.typeCasts.lookup other
  jsonColumns_eq : config.jsonColumns = config'.jsonColumns
  pool_eq : config.pool = config'.pool

section

variable {config config' : MysqlConfig} {table : Cell} {column : Column} {key full : String}

theorem lookup_singleton_of_ne (h : full ≠ key) (cast : TypeExpr) :
    [(key, cast)].lookup full = none := by
  rw [List.lookup_cons, beq_false_of_ne h]
  rfl

theorem differAt_singleton (key : String) (cast cast' : TypeExpr) :
    DifferAt key { typeCasts := [(key, cast)] } { typeCasts := [(key, cast')] } := by
  refine ⟨fun other hne => ?_, rfl, rfl⟩
  rw [lookup_singleton_of_ne hne, lookup_singleton_of_ne hne]

/-- Only the casts for the keys of a column have a part in its type. -/
theorem DifferAt.select_eq (h : DifferAt key config config')
    (hfull : column.columnType = .text full) (hne : full ≠ key)
    (hstripped : stripAttributes full ≠ key)
    (hdata : column.dataType ≠ .text key) :
    select config table column = select config' table column := by
  have hdataCast : castType? config.typeCasts column.dataType
      = castType? config'.typeCasts column.dataType := by
    cases htype : column.dataType with
    | text dataType =>
      refine h.lookup_eq dataType ?_
      rintro rfl
      exact hdata htype
    | _ => rfl
  -- each place asks for one key of the column, and none of these is the one where the casts differ
  have hanswer : answer? config table column = answer? config' table column := by
    funext lookUp
    cases lookUp with
    | columnCast => rfl
    | fullTypeCast =>
      rw [answer?, answer?, hfull]
      exact h.lookup_eq full hne
    | strippedTypeCast =>
      rw [answer?, answer?, hfull]
      exact h.lookup_eq _ hstripped
    | dataTypeCast => exact hdataCast
    | jsonPayload => rw [answer?, answer?, jsonPayload?, jsonPayload?, h.jsonColumns_eq]
    | memberUnion => rfl
    | baseType => rw [answer?, answer?, h.pool_eq]
  rw [Mysql.select_eq, Mysql.select_eq, hanswer]

/-- The cast for the type without attributes comes next after that for the full type. -/
theorem select_of_strippedTypeCast {cast : TypeExpr} (hfull : column.columnType = .text full)
    (huncast : config.typeCasts.lookup full = none)
    (hcast : config.typeCasts.lookup (stripAttributes full) = some cast) :
    select config table column = .ok { type := cast, fromCast := true } := by
  have hfirst : ∀ earlier ∈ [LookUp.fullTypeCast], answer? config table column earlier = none := by
    rw [List.forall_mem_singleton, answer?, hfull]
    exact huncast
  have hsecond : answer? config table column .strippedTypeCast = some cast := by
    rw [answer?, hfull]
    exact hcast
  have hdecision : LookUp.decide? lookUps (answer? config table column)
      = some (.strippedTypeCast, cast) := LookUp.decide?_append_cons hfirst hsecond
  rw [Mysql.select_eq, hfull, hdecision]
  rfl

end

namespace ColumnType

/-- The cast for a type decides of every column with attributes behind the type, unless there is a
cast for the full column type. -/
def CastDecides (type : ColumnType) : Prop :=
  ∀ (config : MysqlConfig) (table : Cell) (column : Column) (attributes : String) (cast : TypeExpr),
    column.columnType = .text (type.text ++ " " ++ attributes) →
    config.typeCasts.lookup (type.text ++ " " ++ attributes) = none →
    config.typeCasts.lookup type.text = some cast →
    select config table column = .ok { type := cast, fromCast := true }

/-- The cast for a type makes no difference to columns with attributes behind the type. -/
def CastIsHidden (type : ColumnType) : Prop :=
  ∀ (config config' : MysqlConfig) (table : Cell) (column : Column) (attributes : String),
    column.columnType = .text (type.text ++ " " ++ attributes) →
    column.dataType ≠ .text type.text →
    DifferAt type.text config config' →
    select config table column = select config' table column

/-- A column of a type with attributes. -/
def column (type : ColumnType) (attributes : String) : Column where
  name := .text "c"
  columnType := .text (type.text ++ " " ++ attributes)
  dataType := .text type.keyword
  isNullable := false

variable {type : ColumnType}

theorem castDecides_of_not_holdsSpace (h : ¬ type.HoldsSpace) : type.CastDecides := by
  intro config table column attributes cast hfull huncast hcast
  refine select_of_strippedTypeCast hfull huncast ?_
  rw [(stripAttributes_text_append_iff type attributes).2 h]
  exact hcast

theorem castIsHidden_of_holdsSpace (h : type.HoldsSpace) : type.CastIsHidden := by
  intro config config' table column attributes hfull hdata hdiffer
  refine hdiffer.select_eq hfull (append_space_ne _ _) ?_ hdata
  intro hstripped
  exact (stripAttributes_text_append_iff type attributes).1 hstripped h

theorem keyword_ne_text (h : type.HoldsSpace) : type.keyword ≠ type.text := by
  intro heq
  have hspace : ' ' ∈ type.text.toList := type.space_mem_text_iff.2 h
  rw [← heq] at hspace
  exact type.consists.not_mem rfl hspace

theorem boolean_ne_string : TypeExpr.boolean ≠ TypeExpr.string :=
  fun h => absurd (TypeExpr.primitive.inj h) (by decide)

/-- A cast that decides is no hidden one, as it would give the same type as any other. -/
theorem not_castDecides_of_holdsSpace (h : type.HoldsSpace) : ¬ type.CastDecides := by
  intro hdecides
  -- whatever the only cast gives would have to be the type, while no cast makes a difference
  have hselect (cast : TypeExpr) :
      select { typeCasts := [(type.text, cast)] } (.text "t") (type.column "")
        = .ok { type := cast, fromCast := true } :=
    hdecides _ _ _ "" cast rfl (lookup_singleton_of_ne (append_space_ne _ _) cast)
      List.lookup_cons_self
  have hhidden := castIsHidden_of_holdsSpace h _ _ (.text "t") (type.column "") "" rfl
    (fun hdata => keyword_ne_text h (Cell.text.inj hdata))
    (differAt_singleton type.text TypeExpr.boolean TypeExpr.string)
  rw [hselect, hselect] at hhidden
  exact boolean_ne_string (congrArg Selection.type (Except.ok.inj hhidden))

/-- The cast for a type decides of the columns with attributes behind the type exactly if no literal
of the type holds a space. Otherwise it makes no difference to them. -/
theorem castDecides_iff (type : ColumnType) :
    (type.CastDecides ↔ ¬ type.HoldsSpace) ∧ (type.HoldsSpace → type.CastIsHidden) := by
  refine ⟨⟨?_, castDecides_of_not_holdsSpace⟩, castIsHidden_of_holdsSpace⟩
  intro hdecides hspace
  exact not_castDecides_of_holdsSpace hspace hdecides

/-- An enumeration with one member, which is two words. -/
def twoWords : ColumnType where
  keyword := "enum"
  arguments := some [.literal "a b"]
  consists := by decide

def twoWordsConfig : MysqlConfig where
  typeCasts := [("enum('a b')", TypeExpr.boolean), ("enum", TypeExpr.string)]

/-- Attributes hide the cast for `enum('a b')`, and the one for the data type decides. -/
theorem not_forall_castDecides : ¬ ∀ type : ColumnType, type.CastDecides := by
  intro h
  have hclaim : select twoWordsConfig (.text "t") (twoWords.column "CHARACTER SET utf8mb4")
      = .ok { type := TypeExpr.boolean, fromCast := true } :=
    h twoWords _ _ _ "CHARACTER SET utf8mb4" _ rfl rfl rfl
  have hselect : select twoWordsConfig (.text "t") (twoWords.column "CHARACTER SET utf8mb4")
      = .ok { type := TypeExpr.string, fromCast := true } := rfl
  rw [hclaim] at hselect
  exact boolean_ne_string (congrArg Selection.type (Except.ok.inj hselect))

end ColumnType

end SchemaTypes.Mysql
