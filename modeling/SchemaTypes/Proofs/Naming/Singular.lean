import Mathlib.Data.List.Infix
import SchemaTypes.Naming.Singular
import SchemaTypes.Proofs.Text.Occurrence

set_option autoImplicit false

/-! # Singular forms of regular plurals

The regular plural of a word shows by which rule it was formed: a plural in `es` does not end in
`ies` (`not_ies_suffix`), and one in a bare `s` has no ending that another rule asks for. So the
rules, in the order in which they are tried, undo what forms a regular plural
(`Plural.cutEnding_eq`).

The main statement is `singularize_of_plural`. What is left of a word by any of the rules starts
like the word (`singularize_cases`).
-/

namespace SchemaTypes.Naming

open Text

/-! ## Cutting endings off -/

section

variable {lowered s ending : List Char}

/-- The rules, in the order in which they are tried. -/
theorem cutEnding_eq (lowered s : List Char) : cutEnding lowered s =
    if ['i', 'e', 's'] <:+ lowered ∧ 3 < s.length then dropEnd 3 s ++ ['y']
    else if ∃ ending ∈ sibilantEndings, ending <:+ lowered ∧
      ending.length < s.length then dropEnd 2 s
    else if ['s'] <:+ lowered ∧ ¬ ['s', 's'] <:+ lowered ∧ 1 < s.length then dropEnd 1 s
    else s := by
  simp only [cutEnding, Bool.and_eq_true, List.any_eq_true, List.isSuffixOf_iff_suffix,
    decide_eq_true_eq, Bool.not_eq_true', ← Bool.not_eq_true, and_assoc]

theorem dropEnd_append (s ending : List Char) : dropEnd ending.length (s ++ ending) = s := by
  simp [dropEnd]

theorem cutEnding_ies (hne : s ≠ []) :
    cutEnding (s ++ ['i', 'e', 's']) (s ++ ['i', 'e', 's']) = s ++ ['y'] := by
  have hpos : 0 < s.length := List.length_pos_iff.2 hne
  rw [cutEnding_eq, if_pos ⟨List.suffix_append _ _, by simpa using hpos⟩]
  exact congrArg (· ++ ['y']) (dropEnd_append s ['i', 'e', 's'])

/-- What ends like a sibilant with `es` does not end in `ies`. -/
theorem not_ies_suffix (hmem : ending ∈ sibilantEndings) (h : ending <:+ lowered) :
    ¬ ['i', 'e', 's'] <:+ lowered := by
  have hnot : ∀ ending ∈ sibilantEndings, ['i', 'e', 's'].length ≤ ending.length ∧
      ¬ ['i', 'e', 's'] <:+ ending := by
    decide
  intro hies
  exact (hnot ending hmem).2 (List.suffix_of_suffix_length_le hies h (hnot ending hmem).1)

theorem cutEnding_es (hmem : ending ++ ['e', 's'] ∈ sibilantEndings) (h : ending <:+ s)
    (hlength : ending.length < s.length) : cutEnding (s ++ ['e', 's']) (s ++ ['e', 's']) = s := by
  have hsuffix : ending ++ ['e', 's'] <:+ s ++ ['e', 's'] := List.suffix_append_self_iff.2 h
  rw [cutEnding_eq, if_neg fun hrule => not_ies_suffix hmem hsuffix hrule.1,
    if_pos ⟨_, hmem, hsuffix, by simpa using hlength⟩]
  exact dropEnd_append s ['e', 's']

theorem cutEnding_s (hne : s ≠ [])
    (hother : ∀ e ∈ ['s', 's'] :: ['i', 'e', 's'] :: sibilantEndings, ¬ e <:+ s ++ ['s']) :
    cutEnding (s ++ ['s']) (s ++ ['s']) = s := by
  rw [List.forall_mem_cons, List.forall_mem_cons] at hother
  obtain ⟨hss, hies, hsibilant⟩ := hother
  have hpos : 0 < s.length := List.length_pos_iff.2 hne
  rw [cutEnding_eq, if_neg fun hrule => hies hrule.1, if_neg fun ⟨e, he, hrule⟩ =>
    hsibilant e he hrule.1, if_pos ⟨List.suffix_append _ _, hss, by simpa using hpos⟩]
  exact dropEnd_append s ['s']

/-- A rule leaves a part of the word, and puts at most a `y` behind it. -/
theorem cutEnding_cases (lowered s : List Char) :
    ∃ kept, kept <+: s ∧ (s ≠ [] → kept ≠ []) ∧
      (cutEnding lowered s = kept ∨ cutEnding lowered s = kept ++ ['y']) := by
  -- something is left of the word
  have hkept : ∀ n < s.length, dropEnd n s <+: s ∧ (s ≠ [] → dropEnd n s ≠ []) := by
    intro n hn
    refine ⟨List.take_prefix _ _, fun _ hnil => ?_⟩
    have hlength := congrArg List.length hnil
    rw [dropEnd, List.length_take, List.length_nil] at hlength
    omega
  rw [cutEnding_eq]
  split_ifs with hies hsibilant hs
  · exact ⟨_, (hkept 3 hies.2).1, (hkept 3 hies.2).2, Or.inr rfl⟩
  · obtain ⟨ending, hmem, _, hlength⟩ := hsibilant
    have htwo : ∀ ending ∈ sibilantEndings, 2 < ending.length := by decide
    have hlength := (htwo ending hmem).trans hlength
    exact ⟨_, (hkept 2 hlength).1, (hkept 2 hlength).2, Or.inl rfl⟩
  · exact ⟨_, (hkept 1 hs.2.2).1, (hkept 1 hs.2.2).2, Or.inl rfl⟩
  · exact ⟨s, List.prefix_refl s, id, Or.inl rfl⟩

end

/-! ## Regular plurals -/

/-- With an `s` behind it, each of these is an ending for which there is another rule. -/
def takenEndings : List String := ["s", "ie", "se", "xe", "ze", "che", "she"]

/-- The second word is the regular plural of the first. -/
inductive Plural : String → String → Prop
  | ies {stem : String} (hne : stem ≠ "") : Plural (stem ++ "y") (stem ++ "ies")
  | es {word ending : String} (hmem : ending ∈ ["s", "x", "z", "ch", "sh"])
      (h : ending.toList <:+ word.toList)
      (hlength : ending.length < word.length) : Plural word (word ++ "es")
  | s {word : String} (h : ∀ ending ∈ takenEndings, ¬ ending.toList <:+ word.toList) :
      Plural word (word ++ "s")

/-- No capital is in the word, and nothing beyond ASCII. -/
def IsLowerCase (word : String) : Prop := ∀ c ∈ word.toList, c.toNat < 128 ∧ c.isUpper = false

instance (word : String) : Decidable (IsLowerCase word) :=
  inferInstanceAs (Decidable (∀ c ∈ _, _ ∧ _))

theorem IsLowerCase.lower_eq {word : String} (h : IsLowerCase word) :
    lower word.toList = word.toList := by
  have hself : ∀ c : Char, c.toNat < 128 → c.isUpper = false → c.toLower = c := fun c hc =>
    forall_ascii (p := fun c => c.isUpper = false → c.toLower = c) (by decide) hc
  rw [lower_of_ascii fun c hc => (h c hc).1, List.map_congr_left fun c hc =>
    hself c (h c hc).1 (h c hc).2, List.map_id']

theorem IsLowerCase.plural {word plural : String} (h : IsLowerCase word)
    (hplural : Plural word plural) :
    IsLowerCase plural := by
  have happend : ∀ {s ending : String}, IsLowerCase s → IsLowerCase ending →
      IsLowerCase (s ++ ending) := by
    intro s ending hs hending c hc
    rw [String.toList_append, List.mem_append] at hc
    exact hc.elim (hs c) (hending c)
  cases hplural with
  | ies =>
    refine happend (fun c hc => h c ?_) (by decide)
    rw [String.toList_append]
    exact List.mem_append_left _ hc
  | es => exact happend h (by decide)
  | s => exact happend h (by decide)

/-- The rules take the ending of a plural for what it is. -/
theorem Plural.cutEnding_eq {word plural : String} (h : Plural word plural) (hne : word ≠ "") :
    cutEnding plural.toList plural.toList = word.toList := by
  have hnonempty : ∀ {s : String}, s ≠ "" → s.toList ≠ [] := mt String.toList_eq_nil_iff.1
  cases h with
  | ies hstem =>
    rw [String.toList_append, String.toList_append]
    exact cutEnding_ies (hnonempty hstem)
  | @es _ ending hmem hending hlength =>
    have hsibilant : ∀ ending ∈ ["s", "x", "z", "ch", "sh"], ending.toList ++ ['e', 's']
        ∈ sibilantEndings := by
      decide
    rw [String.toList_append]
    exact cutEnding_es (hsibilant ending hmem) hending
      (by simpa only [String.length_toList] using hlength)
  | s h =>
    have htaken : ∀ e ∈ ['s', 's'] :: ['i', 'e', 's'] :: sibilantEndings,
        ∃ ending ∈ takenEndings, e = ending.toList ++ ['s'] := by decide
    rw [String.toList_append]
    refine cutEnding_s (hnonempty hne) fun e he hsuffix => ?_
    obtain ⟨ending, hmem, rfl⟩ := htaken e he
    exact h ending hmem (List.suffix_append_self_iff.1 hsuffix)

/-! ## Words -/

/-- A word in no table is left to the rules. -/
theorem singularize_of_not_mem {word : String}
    (huncountable : String.ofList (lower word.toList) ∉ uncountable)
    (hirregular : String.ofList (lower word.toList) ∉ irregular.map Prod.fst) :
    singularize word = String.ofList (cutEnding (lower word.toList) word.toList) := by
  have hlookup : irregular.lookup (String.ofList (lower word.toList)) = none := by
    rw [List.lookup_eq_none_iff]
    intro entry hentry
    rw [bne_iff_ne]
    rintro heq
    exact hirregular (heq ▸ List.mem_map_of_mem hentry)
  rw [singularize, if_neg (by simpa using huncountable), hlookup]

/-- A singular is one of the table, or starts like the word. -/
theorem singularize_cases (word : String) :
    (∃ entry ∈ irregular, singularize word = entry.2 ∨ singularize word = capitalized entry.2) ∨
    ∃ kept, kept <+: word.toList ∧ (word ≠ "" → kept ≠ []) ∧
      ((singularize word).toList = kept ∨ (singularize word).toList = kept ++ ['y']) := by
  by_cases huncountable : String.ofList (lower word.toList) ∈ uncountable
  · have hself : singularize word = word := by
      rw [singularize, if_pos (by simpa using huncountable)]
    exact Or.inr ⟨word.toList, List.prefix_refl _, mt String.toList_eq_nil_iff.1,
      Or.inl (by rw [hself])⟩
  by_cases hirregular : String.ofList (lower word.toList) ∈ irregular.map Prod.fst
  · cases hlookup : irregular.lookup (String.ofList (lower word.toList)) with
    | none =>
      obtain ⟨entry, hentry, heq⟩ := List.mem_map.1 hirregular
      exact absurd heq.symm (by simpa using List.lookup_eq_none_iff.1 hlookup entry hentry)
    | some singular =>
      -- the entry that was found, with a capital if the word has one
      obtain ⟨before, after, htable, _⟩ := List.lookup_eq_some_iff.1 hlookup
      refine Or.inl ⟨(String.ofList (lower word.toList), singular), by rw [htable]; simp, ?_⟩
      rw [singularize, if_neg (by simpa using huncountable), hlookup]
      simp only
      split
      · exact Or.inr rfl
      · exact Or.inl rfl
  · obtain ⟨kept, hstarts, hne, hcut⟩ := cutEnding_cases (lower word.toList) word.toList
    refine Or.inr ⟨kept, hstarts, fun hword => hne (mt String.toList_eq_nil_iff.1 hword), ?_⟩
    rwa [singularize_of_not_mem huncountable hirregular, String.toList_ofList]

/-- The singular of a regular plural that is in no table is the word of which it is the plural. -/
theorem singularize_of_plural {word plural : String} (hne : word ≠ "") (hlower : IsLowerCase word)
    (h : Plural word plural) (huncountable : plural ∉ uncountable)
    (hirregular : plural ∉ irregular.map Prod.fst) :
    singularize plural = word := by
  have hplural : String.ofList (lower plural.toList) = plural := by
    rw [(hlower.plural h).lower_eq, String.ofList_toList]
  rw [← hplural] at huncountable hirregular
  rw [singularize_of_not_mem huncountable hirregular, (hlower.plural h).lower_eq,
    h.cutEnding_eq hne, String.ofList_toList]

/-- What is cut off `batches` is not its `s` alone. -/
theorem singularize_of_plural_batches :
    "batch" ≠ "" ∧ IsLowerCase "batch" ∧ Plural "batch" ("batch" ++ "es") ∧
      "batch" ++ "es" ∉ uncountable ∧
      "batch" ++ "es" ∉ irregular.map Prod.fst ∧ singularize ("batch" ++ "es") = "batch" := by
  have hne : "batch" ≠ "" := by decide
  have hlower : IsLowerCase "batch" := by decide
  have hplural : Plural "batch" ("batch" ++ "es") :=
    @Plural.es "batch" "ch" (by decide) (by decide) (by decide)
  have huncountable : "batch" ++ "es" ∉ uncountable := by decide
  have hirregular : "batch" ++ "es" ∉ irregular.map Prod.fst := by decide
  exact ⟨hne, hlower, hplural, huncountable, hirregular,
    singularize_of_plural hne hlower hplural huncountable hirregular⟩

end SchemaTypes.Naming
