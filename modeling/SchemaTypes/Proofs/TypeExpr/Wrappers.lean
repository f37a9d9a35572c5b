import SchemaTypes.Proofs.TypeExpr.Occurrence

set_option autoImplicit false

/-! # Wrappers within types

What is written in a compound is written in one of the types it was made of, since flattening only
moves members. Hence a compound has wrappers in it only where those types have them
(`WrapperFree.join`).

A type nests wrappers if one of them is written within another one. It does so on its own outside,
as a wrapper with a wrapper in its parameters, or in one of its parts (`nests_iff`).
-/

namespace SchemaTypes.TypeExpr

/-! ## Occurrences in compounds -/

/-- What is written in a member that a type contributes is written in the type. -/
theorem Occurs.of_mem_membersFor {operator : Operator} {t u m : TypeExpr}
    (hm : m ∈ membersFor operator u) (h : Occurs t m) : Occurs t u := by
  cases u with
  | compound inner members =>
    rw [membersFor] at hm
    split at hm
    · exact .inside hm h
    · rwa [List.mem_singleton.1 hm] at h
  | _ => rwa [List.mem_singleton.1 hm] at h

/-- What is written in a compound is the compound or is written in one of the types it was made
of. -/
theorem Occurs.of_join {operator : Operator} {ts : List TypeExpr} {t : TypeExpr}
    (h : Occurs t (join operator ts)) : t = join operator ts ∨ ∃ u ∈ ts, Occurs t u := by
  cases h with
  | whole => exact Or.inl rfl
  | inside hpart hoccurs =>
    obtain ⟨u, hu, hm⟩ := List.mem_flatMap.1 hpart
    exact Or.inr ⟨u, hu, hoccurs.of_mem_membersFor hm⟩

/-- A wrapper is no compound, so it stays in one piece. -/
theorem membersFor_of_isWrapper {t : TypeExpr} (h : t.isWrapper = true) (operator : Operator) :
    membersFor operator t = [t] := by
  cases t with
  | compound inner members => cases h
  | _ => rfl

theorem isWrapper_join (operator : Operator) (ts : List TypeExpr) :
    (join operator ts).isWrapper = false := rfl

/-! ## Types without wrappers -/

/-- No wrapper is written in the type, at any depth. -/
def WrapperFree (t : TypeExpr) : Prop := ∀ u, Occurs u t → u.isWrapper = false

theorem wrapperFree_iff {t : TypeExpr} :
    t.WrapperFree ↔ t.isWrapper = false ∧ ∀ part ∈ t.parts, part.WrapperFree := by
  constructor
  · exact fun h => ⟨h t .whole, fun part hpart u hu => h u (.inside hpart hu)⟩
  · rintro ⟨ht, hparts⟩ u hu
    cases hu with
    | whole => exact ht
    | inside hpart hoccurs => exact hparts _ hpart u hoccurs

theorem wrapperFree_primitive (name : String) : (primitive name).WrapperFree :=
  wrapperFree_iff.2 ⟨rfl, fun _ hpart => by cases hpart⟩

theorem WrapperFree.join {ts : List TypeExpr} (h : ∀ t ∈ ts, t.WrapperFree) (operator : Operator) :
    (join operator ts).WrapperFree := by
  intro u hu
  rcases hu.of_join with rfl | ⟨t, ht, hoccurs⟩
  · exact isWrapper_join operator ts
  · exact h t ht u hoccurs

theorem WrapperFree.nullable {t : TypeExpr} (h : t.WrapperFree) : t.nullable.WrapperFree :=
  .join (by simp [h, null, wrapperFree_primitive]) .union

theorem WrapperFree.optional {t : TypeExpr} (h : t.WrapperFree) : t.optional.WrapperFree :=
  .join (by simp [h, undefined, wrapperFree_primitive]) .union

/-! ## Wrappers within wrappers -/

theorem first_mem_wrapperParameters {α : Type} {default first : α} {second third : Option α} :
    first ∈ wrapperParameters default first second third := by
  cases second <;> cases third <;> simp [wrapperParameters]

/-- A wrapper is written within another one. -/
def Nests (t : TypeExpr) : Prop :=
  ∃ outer, Occurs outer t ∧ outer.isWrapper = true ∧
    ∃ parameter ∈ outer.parameters, ∃ inner, Occurs inner parameter ∧ inner.isWrapper = true

theorem parts_of_isWrapper {t : TypeExpr} (h : t.isWrapper = true) : t.parts = t.parameters := by
  cases t with
  | columnType select insert update => rfl
  | jsonColumnType select insert update => rfl
  | generated select => rfl
  | generatedAlways select => rfl
  | _ => cases h

theorem parameters_of_not_isWrapper {t : TypeExpr} (h : t.isWrapper = false) :
    t.parameters = [] := by
  cases t with
  | columnType select insert update => cases h
  | jsonColumnType select insert update => cases h
  | generated select => cases h
  | generatedAlways select => cases h
  | _ => rfl

theorem not_wrapperFree_iff {t : TypeExpr} :
    ¬ t.WrapperFree ↔ ∃ inner, Occurs inner t ∧ inner.isWrapper = true := by
  simp [WrapperFree]

/-- Wrappers are nested on the outside of a type or in one of its parts. -/
theorem nests_iff {t : TypeExpr} :
    t.Nests ↔ (t.isWrapper = true ∧ ∃ part ∈ t.parts, ¬ part.WrapperFree) ∨
      ∃ part ∈ t.parts, part.Nests := by
  simp only [not_wrapperFree_iff]
  constructor
  · rintro ⟨outer, houter, hwrapper, hinner⟩
    cases houter with
    | whole => exact Or.inl ⟨hwrapper, by rwa [parts_of_isWrapper hwrapper]⟩
    | inside hpart hoccurs => exact Or.inr ⟨_, hpart, outer, hoccurs, hwrapper, hinner⟩
  · rintro (⟨hwrapper, hinner⟩ | ⟨part, hpart, outer, houter, hnests⟩)
    · rw [parts_of_isWrapper hwrapper] at hinner
      exact ⟨t, .whole, hwrapper, hinner⟩
    · exact ⟨outer, .inside hpart houter, hnests⟩

theorem Nests.of_part {t part : TypeExpr} (hwrapper : t.isWrapper = true) (hpart : part ∈ t.parts)
    (hinner : ¬ part.WrapperFree) : t.Nests :=
  nests_iff.2 (.inl ⟨hwrapper, part, hpart, hinner⟩)

theorem WrapperFree.not_nests {t : TypeExpr} (h : t.WrapperFree) : ¬ t.Nests := by
  rintro ⟨outer, houter, hwrapper, _⟩
  rw [h outer houter] at hwrapper
  cases hwrapper

/-- A wrapper on the outside alone is not nested. -/
theorem not_nests_of_parts {t : TypeExpr} (h : ∀ part ∈ t.parts, part.WrapperFree) : ¬ t.Nests := by
  rw [nests_iff]
  rintro (⟨_, part, hpart, hnot⟩ | ⟨part, hpart, hnests⟩)
  · exact hnot (h part hpart)
  · exact (h part hpart).not_nests hnests

end SchemaTypes.TypeExpr
