import Mathlib.Data.List.DropRight
import SchemaTypes.TypeExpr.Imports

set_option autoImplicit false

/-! # Which parameters are written

Parameters are written up to the last given one (`dropAbsentEnd_eq_take`), so that a gap is a
missing parameter with a given one somewhere behind it. Gaps are filled position by position, and
the first of them without a default stops the filling (`fillFrom_eq_some_iff`,
`fillFrom_eq_none_iff`). Hence what is missing at the end matters neither for what is written nor
for whether a default is missing.

The main statement is `normalizeParameters_up_to_last_given`.
-/

namespace SchemaTypes

variable {α : Type}

/-! ## The last given parameter -/

/-- One more than the position of the last given parameter, 0 if none is given. -/
def givenLength : List (Option α) → Nat
  | [] => 0
  | parameter :: rest =>
    if givenLength rest = 0 ∧ parameter.isNone then 0 else givenLength rest + 1

theorem lt_givenLength {parameters : List (Option α)} {i : Nat} {value : α}
    (h : parameters[i]? = some (some value)) : i < givenLength parameters := by
  induction parameters generalizing i with
  | nil => simp at h
  | cons parameter rest ih =>
    cases i with
    | zero =>
      have hgiven : parameter = some value := by simpa using h
      simp [givenLength, hgiven]
    | succ i =>
      have hrest : i < givenLength rest := ih (by simpa using h)
      rw [givenLength, if_neg (by omega)]
      omega

theorem exists_last_given {parameters : List (Option α)} {i : Nat}
    (h : givenLength parameters = i + 1) :
    ∃ value, parameters[i]? = some (some value) := by
  induction parameters generalizing i with
  | nil => simp [givenLength] at h
  | cons parameter rest ih =>
    rw [givenLength] at h
    split at h
    · omega
    · rename_i hnot
      cases i with
      | zero =>
        -- nothing is given behind the first parameter, so it is given itself
        have hrest : givenLength rest = 0 := by omega
        have hgiven : parameter ≠ none := by simpa [hrest] using hnot
        obtain ⟨value, rfl⟩ := Option.ne_none_iff_exists'.1 hgiven
        exact ⟨value, rfl⟩
      | succ i => simpa using ih (by omega)

theorem givenLength_le_length (parameters : List (Option α)) :
    givenLength parameters ≤ parameters.length := by
  induction parameters with
  | nil => exact Nat.le_refl 0
  | cons parameter rest ih =>
    rw [givenLength, List.length_cons]
    split <;> omega

theorem dropAbsentEnd_cons (parameter : Option α) (rest : List (Option α)) :
    dropAbsentEnd (parameter :: rest)
      = if dropAbsentEnd rest = [] ∧ parameter.isNone then []
        else parameter :: dropAbsentEnd rest := by
  unfold dropAbsentEnd
  rw [List.reverse_cons, List.dropWhile_append]
  cases hrest : rest.reverse.dropWhile Option.isNone with
  | nil => cases parameter <;> simp
  | cons last before => simp

/-- What is left of parameters ends with the last given one. -/
theorem dropAbsentEnd_eq_take (parameters : List (Option α)) :
    dropAbsentEnd parameters = parameters.take (givenLength parameters) := by
  induction parameters with
  | nil => rfl
  | cons parameter rest ih =>
    have hnil : rest.take (givenLength rest) = [] ↔ givenLength rest = 0 := by
      rw [List.take_eq_nil_iff]
      constructor
      · rintro (h | rfl)
        · exact h
        · rfl
      · exact Or.inl
    rw [dropAbsentEnd_cons, ih, givenLength]
    simp only [hnil]
    split
    · rfl
    · rfl

theorem length_dropAbsentEnd (parameters : List (Option α)) :
    (dropAbsentEnd parameters).length = givenLength parameters := by
  rw [dropAbsentEnd_eq_take, List.length_take]
  exact Nat.min_eq_left (givenLength_le_length parameters)

theorem getElem?_dropAbsentEnd {parameters : List (Option α)} {i : Nat}
    (h : i < givenLength parameters) :
    (dropAbsentEnd parameters)[i]? = parameters[i]? := by
  rw [dropAbsentEnd_eq_take, List.getElem?_take, if_pos h]

theorem dropAbsentEnd_append_absent (parameters : List (Option α)) (n : Nat) :
    dropAbsentEnd (parameters ++ List.replicate n none) = dropAbsentEnd parameters := by
  induction n with
  | zero => rw [List.replicate_zero, List.append_nil]
  | succ n ih =>
    rw [List.replicate_succ', ← List.append_assoc]
    exact (List.rdropWhile_concat_pos Option.isNone _ none rfl).trans ih

theorem dropAbsentEnd_map_some (values : List α) :
    dropAbsentEnd (values.map some) = values.map some := by
  refine List.rdropWhile_eq_self_iff.2 fun hne => ?_
  rw [List.getLast_map]
  simp

/-! ## Filling gaps -/

section

variable {defaults : Defaults α} {parameters : List (Option α)} {values : List α}

theorem fillFrom_cons (defaults : Defaults α) (i : Nat) (parameter : Option α)
    (rest : List (Option α)) :
    fillFrom defaults i (parameter :: rest)
      = (parameter <|> defaults.at? i).bind fun value =>
          (fillFrom defaults (i + 1) rest).map (value :: ·) := by
  rw [fillFrom]
  cases (parameter <|> defaults.at? i) with
  | none => rfl
  | some value => cases fillFrom defaults (i + 1) rest <;> rfl

/-- Filling stops exactly at gaps without a default. -/
theorem fillFrom_eq_none_iff {i : Nat} :
    fillFrom defaults i parameters = none ↔
      ∃ j, parameters[j]? = some none ∧ defaults.at? (i + j) = none := by
  induction parameters generalizing i with
  | nil => simp [fillFrom]
  | cons parameter rest ih =>
    have hsplit : (∃ j, (parameter :: rest)[j]? = some none ∧ defaults.at? (i + j) = none) ↔
        (parameter = none ∧ defaults.at? i = none) ∨
          ∃ j, rest[j]? = some none ∧ defaults.at? (i + 1 + j) = none := by
      constructor
      · rintro ⟨j, hj, hdefault⟩
        cases j with
        | zero => exact Or.inl ⟨by simpa using hj, hdefault⟩
        | succ j => exact Or.inr ⟨j, by simpa using hj, by rwa [Nat.add_right_comm]⟩
      · rintro (⟨rfl, hdefault⟩ | ⟨j, hj, hdefault⟩)
        · exact ⟨0, rfl, hdefault⟩
        · exact ⟨j + 1, by simpa using hj, by rwa [Nat.add_right_comm] at hdefault⟩
    rw [hsplit, ← ih, fillFrom_cons]
    cases parameter with
    | some value => simp
    | none => cases defaults.at? i <;> simp

/-- What is filled in stands at its position, between the given parameters. -/
theorem fillFrom_eq_some_iff {i : Nat} :
    fillFrom defaults i parameters = some values ↔
      values.length = parameters.length ∧
        ∀ j < parameters.length, values[j]? = (parameters[j]?.join <|> defaults.at? (i + j)) := by
  induction parameters generalizing i values with
  | nil => simp [fillFrom, eq_comm]
  | cons parameter rest ih =>
    rw [fillFrom_cons]
    constructor
    · intro h
      obtain ⟨value, hvalue, hrest⟩ := Option.bind_eq_some_iff.1 h
      obtain ⟨more, hmore, rfl⟩ := Option.map_eq_some_iff.1 hrest
      obtain ⟨hlength, hget⟩ := ih.1 hmore
      refine ⟨by simp [hlength], fun j hj => ?_⟩
      cases j with
      | zero => simpa using hvalue.symm
      | succ j =>
        have hj : j < rest.length := by simpa using hj
        rw [List.getElem?_cons_succ, List.getElem?_cons_succ, hget j hj, Nat.add_right_comm]
        rfl
    · rintro ⟨hlength, hget⟩
      cases values with
      | nil => simp at hlength
      | cons value more =>
        have hvalue : (parameter <|> defaults.at? i) = some value := by
          simpa using (hget 0 (by simp)).symm
        have hmore : fillFrom defaults (i + 1) rest = some more := by
          refine ih.2 ⟨by simpa using hlength, fun j hj => ?_⟩
          have hstep := hget (j + 1) (by simpa using hj)
          rw [List.getElem?_cons_succ, List.getElem?_cons_succ] at hstep
          rw [hstep, Nat.add_right_comm]
          rfl
        rw [hvalue, hmore]
        rfl

/-! ## Written parameters -/

/-- The values are the given parameters, up to the last of them, with the defaults of their
positions in the gaps. -/
structure Fills (defaults : Defaults α) (parameters : List (Option α)) (values : List α) :
    Prop where
  length_eq : values.length = givenLength parameters
  given : ∀ (i : Nat) (value : α), parameters[i]? = some (some value) → values[i]? = some value
  gap : ∀ i < givenLength parameters, parameters[i]? = some none → values[i]? = defaults.at? i

theorem normalizeParameters_eq_some_iff :
    normalizeParameters defaults parameters = some values ↔ Fills defaults parameters values := by
  rw [normalizeParameters, fillFrom_eq_some_iff, length_dropAbsentEnd]
  simp only [Nat.zero_add]
  constructor
  · rintro ⟨hlength, hget⟩
    refine ⟨hlength, fun i value hvalue => ?_, fun i hi hgap => ?_⟩
    · have hi := lt_givenLength hvalue
      rw [hget i hi, getElem?_dropAbsentEnd hi, hvalue]
      rfl
    · rw [hget i hi, getElem?_dropAbsentEnd hi, hgap]
      rfl
  · intro h
    refine ⟨h.length_eq, fun i hi => ?_⟩
    rw [getElem?_dropAbsentEnd hi]
    have hlength : i < parameters.length := Nat.lt_of_lt_of_le hi (givenLength_le_length parameters)
    cases hparameter : parameters[i] with
    | none =>
      have hgap : parameters[i]? = some none := by rw [List.getElem?_eq_getElem hlength, hparameter]
      rw [h.gap i hi hgap, hgap]
      rfl
    | some value =>
      have hvalue : parameters[i]? = some (some value) := by
        rw [List.getElem?_eq_getElem hlength, hparameter]
      rw [h.given i value hvalue, hvalue]
      rfl

/-- A default is missing exactly if one is listed for each position and the list ends before a
gap. -/
theorem normalizeParameters_eq_none_iff :
    normalizeParameters defaults parameters = none ↔
      ∃ listed, defaults = .each listed ∧
        ∃ i < givenLength parameters, parameters[i]? = some none ∧ listed.length ≤ i := by
  have hat : ∀ i, defaults.at? i = none ↔ ∃ listed,
      defaults = .each listed ∧ listed.length ≤ i := by
    intro i
    cases defaults with
    | one value => simp [Defaults.at?]
    | each listed => simp [Defaults.at?]
  rw [normalizeParameters, fillFrom_eq_none_iff]
  simp only [Nat.zero_add, hat]
  constructor
  · rintro ⟨i, hgap, listed, hlisted, hle⟩
    have hi : i < givenLength parameters := by
      rw [← length_dropAbsentEnd]
      exact (List.getElem?_eq_some_iff.1 hgap).1
    rw [getElem?_dropAbsentEnd hi] at hgap
    exact ⟨listed, hlisted, i, hi, hgap, hle⟩
  · rintro ⟨listed, hlisted, i, hi, hgap, hle⟩
    exact ⟨i, by rwa [getElem?_dropAbsentEnd hi], listed, hlisted, hle⟩

/-- Parameters that are all given are written as they are. -/
theorem normalizeParameters_map_some (defaults : Defaults α) (values : List α) :
    normalizeParameters defaults (values.map some) = some values := by
  rw [normalizeParameters, dropAbsentEnd_map_some, fillFrom_eq_some_iff]
  refine ⟨by simp, fun i hi => ?_⟩
  have hi : i < values.length := by simpa using hi
  simp [hi]

theorem normalizeParameters_append_absent (defaults : Defaults α) (parameters : List (Option α))
    (n : Nat) :
    normalizeParameters defaults (parameters ++ List.replicate n none)
      = normalizeParameters defaults parameters := by
  rw [normalizeParameters, dropAbsentEnd_append_absent, normalizeParameters]

end

/-! ## Wrappers -/

namespace TypeExpr

/-- Nothing of a wrapper is written or imported but its name and its parameters. -/
theorem text_and_imports_eq {t u : TypeExpr} {name : String} (ht : t.wrapperName? = some name)
    (hu : u.wrapperName? = some name) (h : t.parameters = u.parameters) :
    t.text = u.text ∧ t.imports = u.imports := by
  rw [text_of_wrapperName? ht, text_of_wrapperName? hu, imports_of_wrapperName? ht,
    imports_of_wrapperName? hu, h]
  exact ⟨rfl, rfl⟩

theorem normalizeParameters_columnType (select : TypeExpr) (insert update : Option TypeExpr) :
    normalizeParameters (.one select) [some select, insert, update]
      = some (columnType select insert update).parameters :=
  normalizeParameters_wrapper select select insert update

theorem normalizeParameters_jsonColumnType (select : TypeExpr) (insert update : Option TypeExpr) :
    normalizeParameters (.one string) [some select, insert, update]
      = some (jsonColumnType select insert update).parameters :=
  normalizeParameters_wrapper string select insert update

end TypeExpr

open TypeExpr in
/-- Parameters are written up to the last given one with defaults in the gaps, unless defaults are
listed and the list ends before a gap. Parameters that have been written are left alone, whatever
the defaults are, and so is what is missing at the end. A wrapper is its parameters as they are
written. -/
theorem normalizeParameters_up_to_last_given :
    (∀ (defaults : Defaults TypeExpr) (parameters : List (Option TypeExpr)),
      ((∀ (i : Nat) (t : TypeExpr), parameters[i]? = some (some t) → i < givenLength parameters) ∧
        ∀ i, givenLength parameters = i + 1 → ∃ t, parameters[i]? = some (some t)) ∧
      (normalizeParameters defaults parameters = none ↔
        ∃ listed, defaults = .each listed ∧
          ∃ i < givenLength parameters, parameters[i]? = some none ∧ listed.length ≤ i) ∧
      (∀ written, normalizeParameters defaults parameters = some written ↔
        Fills defaults parameters written) ∧
      (∀ written, normalizeParameters defaults parameters = some written →
        ∀ others, normalizeParameters others (written.map some) = some written) ∧
      ∀ n, normalizeParameters defaults (parameters ++ List.replicate n none)
        = normalizeParameters defaults parameters) ∧
    (∀ s i u s' i' u',
      normalizeParameters (.one s) [some s, i, u]
        = normalizeParameters (.one s') [some s', i', u'] →
      (columnType s i u).text = (columnType s' i' u').text ∧
      (columnType s i u).imports = (columnType s' i' u').imports) ∧
    ∀ s i u s' i' u',
      normalizeParameters (.one string) [some s, i, u]
        = normalizeParameters (.one string) [some s', i', u'] →
      (jsonColumnType s i u).text = (jsonColumnType s' i' u').text ∧
      (jsonColumnType s i u).imports = (jsonColumnType s' i' u').imports := by
  refine ⟨fun defaults parameters => ⟨⟨fun _ _ => lt_givenLength, fun _ => exists_last_given⟩,
    normalizeParameters_eq_none_iff, fun _ => normalizeParameters_eq_some_iff,
    fun written _ others => normalizeParameters_map_some others written,
    normalizeParameters_append_absent defaults parameters⟩, ?_, ?_⟩
  · intro s i u s' i' u' h
    rw [normalizeParameters_columnType, normalizeParameters_columnType] at h
    exact text_and_imports_eq rfl rfl (Option.some.inj h)
  · intro s i u s' i' u' h
    rw [normalizeParameters_jsonColumnType, normalizeParameters_jsonColumnType] at h
    exact text_and_imports_eq rfl rfl (Option.some.inj h)

open TypeExpr in
/-- Two gaps and a missing parameter at the end; an insert type that is given and one that is filled
in. -/
theorem normalizeParameters_up_to_last_given_gaps :
    normalizeParameters (.each [string, number]) [none, none, some boolean, none]
      = some [string, number, boolean] ∧
    normalizeParameters (.each []) [some string, some number, some boolean]
      = some [string, number, boolean] ∧
    normalizeParameters (.each [string]) [none, none, some boolean, none] = none ∧
    normalizeParameters (.one buffer) [some buffer, none, some null]
      = normalizeParameters (.one buffer) [some buffer, some buffer, some null] ∧
    (columnType buffer none null).text = (columnType buffer buffer null).text ∧
    (columnType buffer none null).imports = (columnType buffer buffer null).imports ∧
    normalizeParameters (.one string) [some buffer, none, some null]
      = normalizeParameters (.one string) [some buffer, some string, some null] ∧
    (jsonColumnType buffer none null).text = (jsonColumnType buffer string null).text ∧
    (jsonColumnType buffer none null).imports = (jsonColumnType buffer string null).imports := by
  obtain ⟨hparameters, hcolumn, hjson⟩ := normalizeParameters_up_to_last_given
  have hfilled : normalizeParameters (.each [string, number]) [none, none, some boolean, none]
      = some [string, number, boolean] := rfl
  obtain ⟨_, _, _, hagain, _⟩ :=
    hparameters (.each [string, number]) [none, none, some boolean, none]
  obtain ⟨_, hmissing, _⟩ := hparameters (.each [string]) [none, none, some boolean, none]
  have hcolumns : normalizeParameters (.one buffer) [some buffer, none, some null]
      = normalizeParameters (.one buffer) [some buffer, some buffer, some null] := rfl
  have hjsons : normalizeParameters (.one string) [some buffer, none, some null]
      = normalizeParameters (.one string) [some buffer, some string, some null] := rfl
  obtain ⟨htext, himports⟩ := hcolumn _ _ _ _ _ _ hcolumns
  obtain ⟨hjsonText, hjsonImports⟩ := hjson _ _ _ _ _ _ hjsons
  refine ⟨hfilled, hagain _ hfilled (.each []),
    hmissing.2 ⟨[string], rfl, 1, by decide, rfl, by decide⟩,
    hcolumns, htext, himports, hjsons, hjsonText, hjsonImports⟩

end SchemaTypes
