import SchemaTypes.Proofs.Text.Cutting
import SchemaTypes.Proofs.TypeExpr.Occurrence

set_option autoImplicit false

/-! # Legible types

Types whose texts say what they are. Names are of letters and digits, a compound has at least two
members, and each of them binds tighter than the operator between them: no parentheses are written,
so a union within an intersection would be read as something else. Unions and intersections of
legible types are legible as long as they have two members and no intersection gets a union
(`IsLegible.union`, `IsLegible.intersection`).

A text says nothing of whether a parameter of a wrapper was given or filled in. `fill` makes the two
alike: it gives to every wrapper in a type the parameters that are written for it.
-/

namespace SchemaTypes

open Text

/-- How loosely the operator binds. -/
def Operator.level : Operator → Nat
  | .intersection => 1
  | .union => 2

theorem Operator.level_pos (operator : Operator) : 0 < operator.level := by
  cases operator <;> decide

theorem Operator.level_le_two (operator : Operator) : operator.level ≤ 2 := by
  cases operator <;> decide

theorem Operator.eq_of_level_eq {operator other : Operator} (h : operator.level = other.level) :
    operator = other := by
  cases operator <;> cases other <;> simp_all [Operator.level]

namespace TypeExpr

/-- How loosely the parts of a type are bound in its text; not at all if no operator stands on its
outside. -/
def level : TypeExpr → Nat
  | .compound operator _ => operator.level
  | _ => 0

/-- The type can be told from its text. Members of compounds are given as flattening leaves them. -/
inductive IsLegible : TypeExpr → Prop where
  | primitive {name : String} (hne : name ≠ "") (hname : Consists Char.isAlphanum name) :
      IsLegible (.primitive name)
  | stringLiteral (value : String) : IsLegible (.stringLiteral value)
  | array {element : TypeExpr} (h : IsLegible element) : IsLegible (.array element)
  | compound {operator : Operator} {members : List TypeExpr} (hcount : 2 ≤ members.length)
      (hlevel : ∀ m ∈ members, m.level < operator.level) (h : ∀ m ∈ members, IsLegible m) :
      IsLegible (.compound operator members)
  | columnType {select : TypeExpr} {insert update : Option TypeExpr} (hselect : IsLegible select)
      (hinsert : ∀ t ∈ insert, IsLegible t) (hupdate : ∀ t ∈ update, IsLegible t) :
      IsLegible (.columnType select insert update)
  | jsonColumnType {select : TypeExpr} {insert update : Option TypeExpr}
      (hselect : IsLegible select)
      (hinsert : ∀ t ∈ insert, IsLegible t) (hupdate : ∀ t ∈ update, IsLegible t) :
      IsLegible (.jsonColumnType select insert update)
  | generated {select : TypeExpr} (h : IsLegible select) : IsLegible (.generated select)
  | generatedAlways {select : TypeExpr} (h : IsLegible select) : IsLegible (.generatedAlways select)

/-! ## Members -/

theorem membersFor_of_level_ne {operator : Operator} {t : TypeExpr}
    (h : t.level ≠ operator.level) : membersFor operator t = [t] := by
  cases t with
  | compound inner members => exact if_neg fun heq => h (congrArg Operator.level heq)
  | _ => rfl

theorem exists_members_of_level_eq {operator : Operator} {t : TypeExpr}
    (h : t.level = operator.level) : ∃ members, t = .compound operator members := by
  cases t with
  | compound inner members => exact ⟨members, by rw [Operator.eq_of_level_eq h]⟩
  | _ => exact absurd h (Nat.ne_of_lt operator.level_pos)

theorem flatMap_membersFor_of_level_ne {operator : Operator} {ts : List TypeExpr}
    (h : ∀ t ∈ ts, t.level ≠ operator.level) : ts.flatMap (membersFor operator) = ts := by
  have hsingle : ∀ t ∈ ts, membersFor operator t = [t] := fun t ht =>
    membersFor_of_level_ne (h t ht)
  rw [List.flatMap_congr hsingle, List.flatMap_singleton']

theorem text_join (operator : Operator) (ts : List TypeExpr) :
    (join operator ts).text
      = String.intercalate operator.separator ((ts.flatMap (membersFor operator)).map text) := by
  rw [join, text, texts_eq_map]

/-- A compound of a single type has its text, whatever the operator is. -/
theorem text_join_singleton (operator : Operator) (t : TypeExpr) :
    (join operator [t]).text = t.text := by
  rw [text_join, List.flatMap_singleton]
  by_cases hlevel : t.level = operator.level
  · obtain ⟨members, rfl⟩ := exists_members_of_level_eq hlevel
    rw [membersFor, if_pos rfl, text, texts_eq_map]
  · rw [membersFor_of_level_ne hlevel, List.map_singleton, String.intercalate_singleton]

theorem text_eq_intercalate (operator : Operator) (t : TypeExpr) :
    t.text = String.intercalate operator.separator ((membersFor operator t).map text) := by
  rw [← text_join_singleton operator t, text_join, List.flatMap_singleton]

theorem level_le_two (t : TypeExpr) : t.level ≤ 2 := by
  cases t with
  | compound operator members => exact operator.level_le_two
  | _ => exact Nat.zero_le 2

theorem kind_eq_union_iff {t : TypeExpr} : t.kind = .union ↔ t.level = 2 := by
  cases t with
  | compound operator members =>
    cases operator with
    | union => exact iff_of_true rfl rfl
    | intersection => exact iff_of_false (fun h => by cases h) (fun h => by cases h)
  | _ => exact iff_of_false (fun h => by cases h) (fun h => by cases h)

/-! ## Members of legible types -/

/-- What a legible type contributes to a compound: itself, or at least two members that bind
tighter. -/
theorem IsLegible.membersFor_cases {t : TypeExpr} (h : t.IsLegible) (operator : Operator) :
    (t.level ≠ operator.level ∧ membersFor operator t = [t]) ∨
      (t.level = operator.level ∧ 2 ≤ (membersFor operator t).length ∧
        ∀ m ∈ membersFor operator t, m.IsLegible ∧ m.level < operator.level) := by
  by_cases hlevel : t.level = operator.level
  · obtain ⟨members, rfl⟩ := exists_members_of_level_eq hlevel
    refine .inr ⟨hlevel, ?_⟩
    rw [membersFor, if_pos rfl]
    cases h with
    | compound hcount hmembers hlegible =>
      exact ⟨hcount, fun m hm => ⟨hlegible m hm, hmembers m hm⟩⟩
  · exact .inl ⟨hlevel, membersFor_of_level_ne hlevel⟩

section

variable {operator : Operator} {t m : TypeExpr} (h : t.IsLegible)
include h

/-- What a legible type contributes to a compound is legible, and no compound of the same
operator. -/
theorem IsLegible.of_mem_membersFor (hm : m ∈ membersFor operator t) :
    m.IsLegible ∧ m.level ≠ operator.level := by
  rcases h.membersFor_cases operator with ⟨hlevel, heq⟩ | ⟨_, _, hmembers⟩
  · rw [heq, List.mem_singleton] at hm
    exact hm ▸ ⟨h, hlevel⟩
  · exact ⟨(hmembers m hm).1, Nat.ne_of_lt (hmembers m hm).2⟩

theorem IsLegible.level_le_of_mem_membersFor (hm : m ∈ membersFor operator t) :
    m.level ≤ t.level := by
  rcases h.membersFor_cases operator with ⟨_, heq⟩ | ⟨hlevel, _, hmembers⟩
  · rw [heq, List.mem_singleton] at hm
    exact Nat.le_of_eq (congrArg level hm)
  · rw [hlevel]
    exact Nat.le_of_lt (hmembers m hm).2

/-- What a legible type contributes to a union binds tighter. -/
theorem IsLegible.level_lt_two_of_mem (hm : m ∈ membersFor .union t) : m.level < 2 :=
  Nat.lt_of_le_of_ne m.level_le_two (h.of_mem_membersFor hm).2

theorem IsLegible.membersFor_ne_nil (operator : Operator) : membersFor operator t ≠ [] := by
  rcases h.membersFor_cases operator with ⟨_, heq⟩ | ⟨_, hcount, _⟩
  · rw [heq]
    exact List.cons_ne_nil t []
  · exact List.ne_nil_of_length_pos (Nat.lt_of_lt_of_le Nat.zero_lt_two hcount)

/-- A legible type is a compound of the operator exactly if it has two members for it. -/
theorem IsLegible.level_eq_iff (operator : Operator) :
    t.level = operator.level ↔ 2 ≤ (membersFor operator t).length := by
  rcases h.membersFor_cases operator with ⟨hlevel, heq⟩ | ⟨hlevel, hcount, _⟩
  · rw [heq]
    exact iff_of_false hlevel (Nat.lt_irrefl 1)
  · exact iff_of_true hlevel hcount

end

/-- Members of a legible compound stay as they are. -/
theorem IsLegible.join_eq {operator : Operator} {members : List TypeExpr}
    (h : (TypeExpr.compound operator members).IsLegible) :
    TypeExpr.join operator members = .compound operator members := by
  cases h with
  | compound _ hlevel _ =>
    rw [join, flatMap_membersFor_of_level_ne fun m hm => Nat.ne_of_lt (hlevel m hm)]

/-! ## Building legible types -/

section

variable {ts : List TypeExpr} (h : ∀ t ∈ ts, t.IsLegible)
include h

theorem IsLegible.of_mem_flatMap {operator : Operator} {m : TypeExpr}
    (hm : m ∈ ts.flatMap (membersFor operator)) : m.IsLegible ∧ m.level ≠ operator.level := by
  obtain ⟨t, ht, hmem⟩ := List.mem_flatMap.1 hm
  exact (h t ht).of_mem_membersFor hmem

/-- A union of legible types is legible if it has two members. -/
theorem IsLegible.union (hcount : 2 ≤ (ts.flatMap (membersFor .union)).length) :
    (TypeExpr.union ts).IsLegible := by
  refine .compound hcount ?_ fun m hm => (of_mem_flatMap h hm).1
  intro m hm
  exact Nat.lt_of_le_of_ne m.level_le_two (of_mem_flatMap h hm).2

/-- An intersection of legible types is legible if it has two members and none of them is a
union. -/
theorem IsLegible.intersection (hcount : 2 ≤ (ts.flatMap (membersFor .intersection)).length)
    (hunion : ∀ m ∈ ts.flatMap (membersFor .intersection), m.kind ≠ .union) :
    (TypeExpr.intersection ts).IsLegible := by
  refine .compound hcount ?_ fun m hm => (of_mem_flatMap h hm).1
  intro m hm
  have hle := m.level_le_two
  have htwo : m.level ≠ 2 := mt kind_eq_union_iff.2 (hunion m hm)
  have hone : m.level ≠ 1 := (of_mem_flatMap h hm).2
  show m.level < 1
  omega

end

/-! ## Filling gaps -/

mutual

/-- A type whose wrappers are given all parameters that are written for them. -/
def fill : TypeExpr → TypeExpr
  | .primitive name => .primitive name
  | .stringLiteral value => .stringLiteral value
  | .numericLiteral value => .numericLiteral value
  | .array element => .array (fill element)
  | .compound operator members => .compound operator (fillList members)
  | .imported name specifier => .imported name specifier
  | .columnType select insert update =>
    let written := wrapperParameters (fill select) (fill select) (fillOption insert)
      (fillOption update)
    .columnType (fill select) written[1]? written[2]?
  | .jsonColumnType select insert update =>
    let written := wrapperParameters string (fill select) (fillOption insert) (fillOption update)
    .jsonColumnType (fill select) written[1]? written[2]?
  | .generated select => .generated (fill select)
  | .generatedAlways select => .generatedAlways (fill select)

/-- Several types with their gaps filled. -/
def fillList : List TypeExpr → List TypeExpr
  | [] => []
  | t :: rest => fill t :: fillList rest

/-- A type that may be missing, with its gaps filled. -/
def fillOption : Option TypeExpr → Option TypeExpr
  | none => none
  | some t => some (fill t)

end

theorem fillList_eq_map (ts : List TypeExpr) : fillList ts = ts.map fill := by
  induction ts with
  | nil => rfl
  | cons t rest ih => rw [fillList, ih, List.map_cons]

theorem wrapperName?_fill (t : TypeExpr) : t.fill.wrapperName? = t.wrapperName? := by
  cases t <;> rfl

/-- What is written for a wrapper are its parameters once its gaps are filled. -/
theorem parameters_fill (t : TypeExpr) : t.fill.parameters = t.parameters.map fill := by
  cases t with
  | columnType select insert update => cases insert <;> cases update <;> rfl
  | jsonColumnType select insert update => cases insert <;> cases update <;> rfl
  | _ => rfl

/-- Filling gaps does not change the text. -/
theorem text_fill (t : TypeExpr) : t.fill.text = t.text := by
  induction t using parts_induction with
  | step t ih =>
    have hwrapper : ∀ name, t.wrapperName? = some name → t.parts = t.parameters →
        t.fill.text = t.text := by
      intro name hname hparts
      rw [hparts] at ih
      rw [text_of_wrapperName? hname, text_of_wrapperName? ((wrapperName?_fill t).trans hname),
        parameters_fill, List.map_map]
      exact congrArg (applied name) (List.map_congr_left ih)
    cases t with
    | array element => rw [fill, text, text, ih element (List.mem_singleton_self element)]
    | compound operator members =>
      rw [fill, text, text, texts_eq_map, texts_eq_map, fillList_eq_map, List.map_map]
      exact congrArg _ (List.map_congr_left ih)
    | columnType select insert update => exact hwrapper _ rfl rfl
    | jsonColumnType select insert update => exact hwrapper _ rfl rfl
    | generated select => exact hwrapper _ rfl rfl
    | generatedAlways select => exact hwrapper _ rfl rfl
    | _ => rfl

end TypeExpr

end SchemaTypes
