import SchemaTypes.Proofs.TypeExpr.Legible
import SchemaTypes.Proofs.TypeExpr.Wrappers

set_option autoImplicit false

/-! # Flat types

A compound is unrolled one level deep when it is made a member of another one. That is enough: the
members of a compound that was made so are no compounds of its operator themselves
(`IsFlat.ne_of_mem_membersFor`), so no type that is built has a compound right within one of the
same operator, at any depth (`IsBuilt.isFlat`).

Operands with brackets around some of them contribute to a compound what the operands contribute on
their own, however deep the brackets are (`membersFor_value`). So brackets do not matter within one
operator, whether they hold several operands, one or none.

The main statement is `isFlat_and_join_brackets`.
-/

namespace SchemaTypes.TypeExpr

/-! ## Built types -/

/-- The type is made by nesting the functions that make types. -/
inductive IsBuilt : TypeExpr → Prop where
  | primitive (name : String) : IsBuilt (.primitive name)
  | stringLiteral (value : String) : IsBuilt (.stringLiteral value)
  | numericLiteral (value : Numeral) : IsBuilt (.numericLiteral value)
  | imported (name specifier : String) : IsBuilt (.imported name specifier)
  | array {element : TypeExpr} (h : IsBuilt element) : IsBuilt (.array element)
  | union {ts : List TypeExpr} (h : ∀ t ∈ ts, IsBuilt t) : IsBuilt (union ts)
  | intersection {ts : List TypeExpr} (h : ∀ t ∈ ts, IsBuilt t) : IsBuilt (intersection ts)
  | nullable {t : TypeExpr} (h : IsBuilt t) : IsBuilt t.nullable
  | optional {t : TypeExpr} (h : IsBuilt t) : IsBuilt t.optional
  | columnType {select : TypeExpr} {insert update : Option TypeExpr} (hselect : IsBuilt select)
      (hinsert : ∀ t ∈ insert, IsBuilt t) (hupdate : ∀ t ∈ update, IsBuilt t) :
      IsBuilt (.columnType select insert update)
  | jsonColumnType {select : TypeExpr} {insert update : Option TypeExpr} (hselect : IsBuilt select)
      (hinsert : ∀ t ∈ insert, IsBuilt t) (hupdate : ∀ t ∈ update, IsBuilt t) :
      IsBuilt (.jsonColumnType select insert update)
  | generated {select : TypeExpr} (h : IsBuilt select) : IsBuilt (.generated select)
  | generatedAlways {select : TypeExpr} (h : IsBuilt select) : IsBuilt (.generatedAlways select)

/-- No union in the type has a union as a member and no intersection an intersection, at any
depth. -/
def IsFlat (t : TypeExpr) : Prop :=
  ∀ operator members, Occurs (.compound operator members) t →
    ∀ m ∈ members, ∀ inner, m ≠ .compound operator inner

/-- A type that is no compound is flat if its parts are. -/
theorem isFlat_of_parts {t : TypeExpr} (hlevel : t.level = 0)
    (hparts : ∀ part ∈ t.parts, part.IsFlat) :
    t.IsFlat := by
  intro operator members hoccurs
  cases hoccurs with
  | whole => exact absurd hlevel operator.level_pos.ne'
  | inside hpart hoccurs => exact hparts _ hpart operator members hoccurs

/-- What a flat type contributes to a compound is no compound of the operator. -/
theorem IsFlat.ne_of_mem_membersFor {operator : Operator} {t m : TypeExpr} (h : t.IsFlat)
    (hm : m ∈ membersFor operator t) (inner : List TypeExpr) : m ≠ .compound operator inner := by
  by_cases hlevel : t.level = operator.level
  · obtain ⟨members, rfl⟩ := exists_members_of_level_eq hlevel
    rw [membersFor, if_pos rfl] at hm
    exact h operator members .whole m hm inner
  · rw [membersFor_of_level_ne hlevel, List.mem_singleton] at hm
    rintro rfl
    exact hlevel (congrArg level hm).symm

theorem IsFlat.join {ts : List TypeExpr} (h : ∀ t ∈ ts, t.IsFlat) (operator : Operator) :
    (join operator ts).IsFlat := by
  intro other members hoccurs m hm inner
  rcases hoccurs.of_join with heq | ⟨t, ht, hoccurs⟩
  · -- a member of the new compound comes from one of its types
    obtain ⟨rfl, rfl⟩ := compound.inj heq
    obtain ⟨t, ht, hmember⟩ := List.mem_flatMap.1 hm
    exact (h t ht).ne_of_mem_membersFor hmember inner
  · exact h t ht other members hoccurs m hm inner

theorem isFlat_primitive (name : String) : (primitive name).IsFlat :=
  isFlat_of_parts rfl fun _ hpart => by cases hpart

/-- The parameters of a wrapper are flat if its default and what it was given are. -/
theorem IsFlat.of_mem_wrapperParameters {default select t : TypeExpr}
    {insert update : Option TypeExpr} (hdefault : default.IsFlat) (hselect : select.IsFlat)
    (hinsert : ∀ t ∈ insert, t.IsFlat)
    (hupdate : ∀ t ∈ update, t.IsFlat) (ht : t ∈ wrapperParameters default select insert update) :
    t.IsFlat := by
  rcases mem_wrapperParameters ht with rfl | rfl | ht | ht
  · exact hdefault
  · exact hselect
  · exact hinsert t ht
  · exact hupdate t ht

theorem IsBuilt.isFlat {t : TypeExpr} (h : t.IsBuilt) : t.IsFlat := by
  induction h with
  | primitive name => exact isFlat_primitive name
  | stringLiteral | numericLiteral | imported =>
    exact isFlat_of_parts rfl fun _ hpart => by cases hpart
  | array _ ih | generated _ ih | generatedAlways _ ih =>
    refine isFlat_of_parts rfl fun part hpart => ?_
    rwa [List.mem_singleton.1 hpart]
  | union _ ih => exact .join ih .union
  | intersection _ ih => exact .join ih .intersection
  | nullable _ ih => exact .join (by simpa [null] using ⟨ih, isFlat_primitive "null"⟩) .union
  | optional _ ih =>
    exact .join (by simpa [undefined] using ⟨ih, isFlat_primitive "undefined"⟩) .union
  | columnType _ _ _ ihselect ihinsert ihupdate =>
    refine isFlat_of_parts rfl fun part hpart => ?_
    exact .of_mem_wrapperParameters ihselect ihselect ihinsert ihupdate hpart
  | jsonColumnType _ _ _ ihselect ihinsert ihupdate =>
    -- the default of these is a type of its own
    refine isFlat_of_parts rfl fun part hpart => ?_
    exact .of_mem_wrapperParameters (isFlat_primitive "string") ihselect ihinsert ihupdate hpart

/-! ## Brackets -/

theorem membersFor_join (operator : Operator) (ts : List TypeExpr) :
    membersFor operator (join operator ts) = ts.flatMap (membersFor operator) :=
  if_pos rfl

/-- A compound among the types of a compound with the same operator stands for its own types. -/
theorem join_append_join (operator : Operator) (before ts after : List TypeExpr) :
    join operator (before ++ join operator ts :: after)
      = join operator (before ++ ts ++ after) := by
  rw [join, List.flatMap_append, List.flatMap_cons, membersFor_join, join, List.flatMap_append,
    List.flatMap_append, List.append_assoc]

/-- A compound of one operator as it is written down: operands, and brackets around further ones. -/
inductive Bracketing where
  | operand (t : TypeExpr)
  | brackets (inside : List Bracketing)

namespace Bracketing

mutual

/-- The operands, without the brackets. -/
def operands : Bracketing → List TypeExpr
  | .operand t => [t]
  | .brackets inside => operandsOf inside

/-- The operands of several compounds, one after the other. -/
def operandsOf : List Bracketing → List TypeExpr
  | [] => []
  | b :: rest => operands b ++ operandsOf rest

end

mutual

/-- The type that is made by making what is in the brackets first. -/
def value (operator : Operator) : Bracketing → TypeExpr
  | .operand t => t
  | .brackets inside => join operator (values operator inside)

/-- The types of several compounds. -/
def values (operator : Operator) : List Bracketing → List TypeExpr
  | [] => []
  | b :: rest => value operator b :: values operator rest

end

mutual

/-- Brackets change nothing of what is contributed to a compound. -/
theorem membersFor_value (operator : Operator) : ∀ b : Bracketing,
    membersFor operator (b.value operator) = b.operands.flatMap (membersFor operator)
  | .operand t => by rw [value, operands, List.flatMap_singleton]
  | .brackets inside => by rw [value, operands, membersFor_join, flatMap_values operator inside]

theorem flatMap_values (operator : Operator) : ∀ bs : List Bracketing,
    (values operator bs).flatMap (membersFor operator)
      = (operandsOf bs).flatMap (membersFor operator)
  | [] => by rw [values, operandsOf]
  | b :: rest => by
    rw [values, operandsOf, List.flatMap_cons, List.flatMap_append, membersFor_value operator b,
      flatMap_values operator rest]

end

/-- All brackets but the outer ones can be left out. -/
theorem value_brackets (operator : Operator) (inside : List Bracketing) :
    value operator (.brackets inside) = join operator (operandsOf inside) := by
  rw [value, join, flatMap_values, join]

end Bracketing

/-- Types that are no compounds of the operator stay members as they are. -/
theorem join_eq_compound {operator : Operator} {ts : List TypeExpr}
    (h : ∀ t ∈ ts, ∀ inner, t ≠ .compound operator inner) :
    join operator ts = .compound operator ts := by
  rw [join, flatMap_membersFor_of_level_ne]
  intro t ht hlevel
  obtain ⟨inner, heq⟩ := exists_members_of_level_eq hlevel
  exact h t ht inner heq

/-- A member that is added to a union comes last. -/
theorem join_concat (operator : Operator) (members : List TypeExpr) {t : TypeExpr}
    (ht : membersFor operator t = [t]) :
    join operator [.compound operator members, t] = .compound operator (members ++ [t]) := by
  rw [join, List.flatMap_cons, List.flatMap_singleton, ht, membersFor, if_pos rfl]

/-- Types are flat at every depth, however they were built, and brackets do not matter within one
operator: they can be put around any of the operands, several, one or none. Nothing else is
unrolled. To a union, `nullable` and `optional` add one member. -/
theorem isFlat_and_join_brackets :
    (∀ t, IsBuilt t → IsFlat t) ∧
    (∀ operator xs ys zs, join operator (xs ++ join operator ys :: zs)
      = join operator (xs ++ ys ++ zs)) ∧
    (∀ operator as bs, Bracketing.operandsOf as = Bracketing.operandsOf bs →
      Bracketing.value operator (.brackets as) = Bracketing.value operator (.brackets bs)) ∧
    (∀ operator ts, (∀ t ∈ ts, ∀ inner, t ≠ .compound operator inner) →
      join operator ts = .compound operator ts) ∧
    ∀ members, nullable (.compound .union members) = .compound .union (members ++ [null]) ∧
      optional (.compound .union members) = .compound .union (members ++ [undefined]) := by
  refine ⟨fun t h => h.isFlat, join_append_join, ?_, fun operator ts => join_eq_compound, ?_⟩
  · intro operator as bs h
    rw [Bracketing.value_brackets, Bracketing.value_brackets, h]
  · intro members
    exact ⟨join_concat .union members rfl, join_concat .union members rfl⟩

/-- A union within an intersection is kept, with a union of its own unrolled; brackets around one
operand, around none and around others are left out. -/
theorem isFlat_and_join_brackets_nested :
    IsBuilt (array (intersection [union [string, nullable boolean],
      intersection [number, union []]])) ∧
    IsFlat (array (intersection [union [string, nullable boolean],
      intersection [number, union []]])) ∧
    Bracketing.operandsOf [.operand string,
      .brackets [.brackets [], .operand number, .brackets [.operand null]]]
      = Bracketing.operandsOf [.brackets [.operand string, .operand number], .operand null] ∧
    Bracketing.value .union
        (.brackets [.operand string, .brackets [.brackets [], .operand number,
          .brackets [.operand null]]])
      = Bracketing.value .union (.brackets [.brackets [.operand string, .operand number],
        .operand null]) ∧
    (∀ t ∈ [intersection [number, string], null], ∀ inner, t ≠ .compound .union inner) ∧
    join .union [intersection [number, string], null]
      = .compound .union [intersection [number, string], null] := by
  have hunion : IsBuilt (union [string, nullable boolean]) := by
    refine .union (List.forall_mem_cons.2 ⟨.primitive "string", List.forall_mem_singleton.2 ?_⟩)
    exact .nullable (.primitive "boolean")
  have hintersection : IsBuilt (intersection [number, union []]) := by
    refine .intersection (List.forall_mem_cons.2 ⟨.primitive "number",
      List.forall_mem_singleton.2 ?_⟩)
    exact .union fun _ ht => absurd ht List.not_mem_nil
  have hbuilt : IsBuilt (array (intersection [union [string, nullable boolean],
      intersection [number, union []]])) :=
    .array (.intersection (List.forall_mem_cons.2 ⟨hunion,
      List.forall_mem_singleton.2 hintersection⟩))
  have hoperands : Bracketing.operandsOf
        [.operand string, .brackets [.brackets [], .operand number, .brackets [.operand null]]]
      = Bracketing.operandsOf [.brackets [.operand string, .operand number], .operand null] := rfl
  have hother : ∀ t ∈ [intersection [number, string], null], ∀ inner, t ≠ .compound .union inner :=
    List.forall_mem_cons.2 ⟨fun _ heq => (by cases heq),
      List.forall_mem_singleton.2 fun _ heq => (by cases heq)⟩
  obtain ⟨hflat, _, hbrackets, hkept, _⟩ := isFlat_and_join_brackets
  exact ⟨hbuilt, hflat _ hbuilt, hoperands, hbrackets .union _ _ hoperands, hother,
    hkept .union _ hother⟩

end SchemaTypes.TypeExpr
