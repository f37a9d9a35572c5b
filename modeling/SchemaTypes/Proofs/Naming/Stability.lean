import SchemaTypes.Proofs.Naming.Singular
import SchemaTypes.Proofs.Naming.Words

set_option autoImplicit false

/-! # Singulars of singulars

The tables and the rules look at plain words alone, so it is enough for them that each letter of a
word is in lower case (`ofList_lower_mem_iff`, `cutEnding_lower`). A word is its own singular if it
is uncountable, or else if it is no irregular plural and does not end in a single `s`
(`singularize_eq_self_iff`).

A singular need not be its own singular: `buses` is cut to `bus` and `bus` to `bu`. Which singulars
are cut again is told by the rule that made them: after the ending `ses` there is an `s` left, and
after a bare `s` there can be an irregular plural left; the other rules leave a word that is taken
for a singular (`isSingular_cutEnding_iff`).

The main statement is `singularize_singularize_iff`.
-/

namespace SchemaTypes.Naming

open Text

/-- The irregular plurals. -/
def irregularPlurals : List String := irregular.map Prod.fst

/-! ## Lower case, letter by letter -/

theorem ofList_eq_iff {s : List Char} {word : String} :
    String.ofList s = word ↔ s = word.toList := by
  rw [← String.toList_inj, String.toList_ofList]

/-- A word is listed if it is, letter by letter. -/
theorem ofList_lower_mem_iff {listed : List String} (h : ∀ word ∈ listed, IsPlain word.toList)
    (s : List Char) :
    String.ofList (lower s) ∈ listed ↔ String.ofList (s.map Char.toLower) ∈ listed := by
  have hiff : ∀ word ∈ listed, (String.ofList (lower s) = word ↔
      String.ofList (s.map Char.toLower) = word) := by
    intro word hword
    rw [ofList_eq_iff, ofList_eq_iff, (h word hword).lower_eq_iff]
  constructor
  · intro hmem
    rwa [(hiff _ hmem).1 rfl]
  · intro hmem
    rwa [(hiff _ hmem).2 rfl]

theorem isPlain_uncountable : ∀ word ∈ uncountable, IsPlain word.toList := by decide

theorem isPlain_irregularPlurals : ∀ plural ∈ irregularPlurals, IsPlain plural.toList := by decide

/-- The rules only see whether letters are in lower case. -/
theorem cutEnding_lower (s : List Char) :
    cutEnding (lower s) s = cutEnding (s.map Char.toLower) s := by
  have hplain : ∀ ending ∈ ['s'] :: ['s', 's'] :: ['i', 'e', 's'] :: sibilantEndings,
      IsPlain ending := by decide
  simp only [List.forall_mem_cons] at hplain
  obtain ⟨hs, hss, hies, hsibilant⟩ := hplain
  have hany : (∃ ending ∈ sibilantEndings, ending <:+ lower s ∧ ending.length < s.length) ↔
      ∃ ending ∈ sibilantEndings, ending <:+ s.map Char.toLower ∧ ending.length < s.length :=
    exists_congr fun ending => and_congr_right fun hmem =>
      by rw [(hsibilant ending hmem).suffix_lower_iff]
  rw [cutEnding_eq, cutEnding_eq]
  simp only [hany, hs.suffix_lower_iff, hss.suffix_lower_iff, hies.suffix_lower_iff]

theorem map_dropEnd (n : Nat) (s : List Char) :
    (dropEnd n s).map Char.toLower = dropEnd n (s.map Char.toLower) := by
  rw [dropEnd, dropEnd, List.length_map, List.map_take]

theorem map_cutEnding (s : List Char) :
    (cutEnding (s.map Char.toLower) s).map Char.toLower
      = cutEnding (s.map Char.toLower) (s.map Char.toLower) := by
  rw [cutEnding_eq, cutEnding_eq, List.length_map]
  split_ifs
  · rw [List.map_append, map_dropEnd]
    rfl
  · rw [map_dropEnd]
  · rw [map_dropEnd]
  · rfl

/-! ## The three ways to a singular -/

section

variable {word : String}

theorem singularize_of_uncountable
    (h : String.ofList (word.toList.map Char.toLower) ∈ uncountable) :
    singularize word = word := by
  rw [← ofList_lower_mem_iff isPlain_uncountable] at h
  rw [singularize, if_pos (by simpa using h)]

/-- An irregular plural has the singular of the table, with a capital or without one. -/
theorem singularize_of_irregular
    (h : String.ofList (word.toList.map Char.toLower) ∈ irregularPlurals) :
    ∃ entry ∈ irregular, word.toList.map Char.toLower = entry.1.toList ∧
      (singularize word).toList.map Char.toLower = entry.2.toList := by
  have htable : ∀ entry ∈ irregular, entry.1 ∉ uncountable ∧
      irregular.lookup entry.1 = some entry.2 ∧
      (capitalized entry.2).toList.map Char.toLower = entry.2.toList ∧
      entry.2.toList.map Char.toLower = entry.2.toList := by decide +kernel
  obtain ⟨entry, hentry, heq⟩ := List.mem_map.1 h
  have hletters : word.toList.map Char.toLower = entry.1.toList := ofList_eq_iff.1 heq.symm
  have hlower : lower word.toList = entry.1.toList :=
    (isPlain_irregularPlurals _ (List.mem_map_of_mem hentry)).lower_eq_iff.2 hletters
  obtain ⟨huncountable, hfound, hcapitalized, hself⟩ := htable entry hentry
  refine ⟨entry, hentry, hletters, ?_⟩
  rw [singularize, hlower, String.ofList_toList, if_neg (by simpa using huncountable), hfound]
  simp only
  split
  · exact hcapitalized
  · exact hself

theorem singularize_of_regular
    (huncountable : String.ofList (word.toList.map Char.toLower) ∉ uncountable)
    (hirregular : String.ofList (word.toList.map Char.toLower) ∉ irregularPlurals) :
    singularize word = String.ofList (cutEnding (word.toList.map Char.toLower) word.toList) := by
  rw [← ofList_lower_mem_iff isPlain_uncountable] at huncountable
  rw [← ofList_lower_mem_iff isPlain_irregularPlurals] at hirregular
  rw [singularize_of_not_mem huncountable hirregular, cutEnding_lower]

end

/-! ## Words that are their own singulars -/

/-- The word ends in one `s`, with something else before it. -/
def EndsInSingleS (word : List Char) : Prop :=
  ['s'] <:+ word ∧ ¬ ['s', 's'] <:+ word ∧ 1 < word.length

/-- The word, in lower case, is taken for a singular. -/
def IsSingular (word : List Char) : Prop :=
  String.ofList word ∈ uncountable ∨ String.ofList word ∉ irregularPlurals ∧ ¬ EndsInSingleS word

instance (word : List Char) : Decidable (EndsInSingleS word) := inferInstanceAs (Decidable (_ ∧ _))

instance (word : List Char) : Decidable (IsSingular word) := inferInstanceAs (Decidable (_ ∨ _))

theorem endsInSingleS_of_es {s : List Char} (h : ['e', 's'] <:+ s) : EndsInSingleS s := by
  obtain ⟨u, rfl⟩ := h
  refine ⟨⟨u ++ ['e'], by simp⟩, ?_, by simp⟩
  rintro ⟨v, hv⟩
  have hend : ['s', 's'] = ['e', 's'] := List.append_inj_right' hv rfl
  exact absurd hend (by decide)

theorem length_dropEnd (n : Nat) (s : List Char) : (dropEnd n s).length = s.length - n := by
  rw [dropEnd, List.length_take]
  omega

/-- Every rule is for words that end in a single `s`, and makes them shorter. -/
theorem cutEnding_eq_self_iff {lowered s : List Char} (hlength : lowered.length = s.length) :
    cutEnding lowered s = s ↔ ¬ EndsInSingleS lowered := by
  have hes : ∀ ending ∈ sibilantEndings, ['e', 's'] <:+ ending ∧ 2 < ending.length := by decide
  rw [cutEnding_eq]
  split_ifs with hies hsibilant hs
  · have hsuffix : ['e', 's'] <:+ lowered := List.IsSuffix.trans (by decide) hies.1
    refine iff_of_false (fun heq => ?_) (not_not_intro (endsInSingleS_of_es hsuffix))
    have hshorter := congrArg List.length heq
    rw [List.length_append, length_dropEnd, List.length_singleton] at hshorter
    omega
  · obtain ⟨ending, hmem, hsuffix, hlonger⟩ := hsibilant
    obtain ⟨hend, hthree⟩ := hes ending hmem
    refine iff_of_false (fun heq => ?_) (not_not_intro (endsInSingleS_of_es (hend.trans hsuffix)))
    have hshorter := congrArg List.length heq
    rw [length_dropEnd] at hshorter
    omega
  · refine iff_of_false (fun heq => ?_) (not_not_intro ⟨hs.1, hs.2.1, by omega⟩)
    have hshorter := congrArg List.length heq
    rw [length_dropEnd] at hshorter
    omega
  · exact iff_of_true rfl fun hsingle => hs ⟨hsingle.1, hsingle.2.1, hlength ▸ hsingle.2.2⟩

theorem singularize_eq_self_iff (word : String) :
    singularize word = word ↔ IsSingular (word.toList.map Char.toLower) := by
  by_cases huncountable : String.ofList (word.toList.map Char.toLower) ∈ uncountable
  · exact iff_of_true (singularize_of_uncountable huncountable) (Or.inl huncountable)
  by_cases hirregular : String.ofList (word.toList.map Char.toLower) ∈ irregularPlurals
  · -- no singular of the table is spelled like its plural
    have hother : ∀ entry ∈ irregular, entry.1.toList ≠ entry.2.toList := by decide
    obtain ⟨entry, hentry, hplural, hsingular⟩ := singularize_of_irregular hirregular
    refine iff_of_false (fun hself => ?_) fun h => h.elim huncountable fun h => h.1 hirregular
    rw [hself, hplural] at hsingular
    exact hother entry hentry hsingular
  · rw [singularize_of_regular huncountable hirregular, ofList_eq_iff,
      cutEnding_eq_self_iff (List.length_map _),
      IsSingular]
    simp [huncountable, hirregular]

/-! ## What the rules leave -/

/-- The singular of the word, given in lower case, looks like a plural: the word ends in `ses` but
not in `sses`, and is not uncountable without its `es`; or it is an irregular plural with an `s`
behind it. -/
def IsCutAgain (word : List Char) : Prop :=
  (['s', 'e', 's'] <:+ word ∧ ¬ ['s', 's', 'e', 's'] <:+ word ∧ 3 < word.length ∧
    String.ofList (dropEnd 2 word) ∉ uncountable) ∨
  ∃ plural ∈ irregularPlurals, ¬ ['s'] <:+ plural.toList ∧ word = plural.toList ++ ['s']

instance (word : List Char) : Decidable (IsCutAgain word) := inferInstanceAs (Decidable (_ ∨ _))

/-- Endings of words whose singulars are not cut again. -/
def steadyEndings : List (List Char) :=
  [['i', 'e', 's'], ['x', 'e', 's'], ['z', 'e', 's'], ['c', 'h', 'e', 's'], ['s', 'h', 'e', 's'],
    ['s', 's', 'e', 's']]

/-- What the rules leave of endings in which there is no other `s`. -/
def steadyRests : List (List Char) := [['y'], ['x'], ['z'], ['c', 'h'], ['s', 'h']]

section

variable {s : List Char}

/-- A word that ends like no irregular plural is none. -/
theorem ofList_not_mem_irregularPlurals {ending : List Char}
    (hplural : ∀ plural ∈ irregularPlurals, ¬ ending <:+ plural.toList) (h : ending <:+ s) :
    String.ofList s ∉ irregularPlurals := by
  intro hmem
  have hnot := hplural _ hmem
  rw [String.toList_ofList] at hnot
  exact hnot h

theorem dropEnd_append_es (s rest : List Char) :
    dropEnd 2 (s ++ (rest ++ ['e', 's'])) = s ++ rest := by
  rw [← List.append_assoc]
  exact dropEnd_append (s ++ rest) ['e', 's']

theorem isSingular_of_suffix {rest : List Char} (hrest : rest ∈ steadyRests) (h : rest <:+ s) :
    IsSingular s := by
  have hsteady : ∀ rest ∈ steadyRests, (1 ≤ rest.length ∧ ¬ ['s'] <:+ rest) ∧
      ∀ plural ∈ irregularPlurals, ¬ rest <:+ plural.toList := by decide
  obtain ⟨⟨hlength, hs⟩, hplural⟩ := hsteady rest hrest
  refine Or.inr ⟨ofList_not_mem_irregularPlurals hplural h, fun hsingle => ?_⟩
  exact hs (List.suffix_of_suffix_length_le hsingle.1 h hlength)

theorem not_isCutAgain_of_suffix {ending : List Char} (hmem : ending ∈ steadyEndings)
    (h : ending <:+ s) :
    ¬ IsCutAgain s := by
  have hsteady : ∀ ending ∈ steadyEndings,
      (ending = ['s', 's', 'e', 's'] ∨ 3 ≤ ending.length ∧ ¬ ['s', 'e', 's'] <:+ ending) ∧
      ∀ plural ∈ irregularPlurals, ¬ ['s'] <:+ plural.toList →
        ¬ ending <:+ plural.toList ++ ['s'] := by
    decide +kernel
  obtain ⟨hses, hplural⟩ := hsteady ending hmem
  rintro (⟨hsuffix, hnot, _⟩ | ⟨plural, hlisted, hnot, rfl⟩)
  · rcases hses with rfl | ⟨hlength, hother⟩
    · exact hnot h
    · exact hother (List.suffix_of_suffix_length_le hsuffix h hlength)
  · exact hplural plural hlisted hnot h

/-- Without its `es`, a word in `ses` ends in `s`. -/
theorem isSingular_of_ses (hne : s ≠ []) :
    IsSingular (s ++ ['s']) ↔ ¬ IsCutAgain (s ++ ['s', 'e', 's']) := by
  by_cases hs : ['s'] <:+ s
  · have hss : ['s', 's'] <:+ s ++ ['s'] := List.suffix_append_self_iff.2 hs
    have hsses : ['s', 's', 'e', 's'] <:+ s ++ ['s', 'e', 's'] := List.suffix_append_self_iff.2 hs
    have hplural : ∀ plural ∈ irregularPlurals, ¬ ['s', 's'] <:+ plural.toList := by decide
    exact iff_of_true (Or.inr ⟨ofList_not_mem_irregularPlurals hplural hss,
      fun hsingle => hsingle.2.1 hss⟩)
      (not_isCutAgain_of_suffix (by decide) hsses)
  · have hpos : 0 < s.length := List.length_pos_iff.2 hne
    have hsingle : EndsInSingleS (s ++ ['s']) := by
      refine ⟨List.suffix_append _ _, fun hss => hs (List.suffix_append_self_iff.1 hss), ?_⟩
      rw [List.length_append, List.length_singleton]
      omega
    have hcut : dropEnd 2 (s ++ ['s', 'e', 's']) = s ++ ['s'] := dropEnd_append_es s ['s']
    -- only the list of uncountable words can tell it from a plural
    have hsingular : IsSingular (s ++ ['s']) ↔ String.ofList (s ++ ['s']) ∈ uncountable := by
      rw [IsSingular]
      simp [hsingle]
    have hagain : IsCutAgain (s ++ ['s', 'e', 's']) ↔ String.ofList (s ++ ['s']) ∉ uncountable := by
      constructor
      · rintro (⟨_, _, _, huncountable⟩ | ⟨plural, hlisted, _, heq⟩)
        · rwa [hcut] at huncountable
        · have hplural : ∀ plural ∈ irregularPlurals,
              String.ofList (dropEnd 2 (plural.toList ++ ['s'])) ∉ uncountable := by decide
          have hnot := hplural plural hlisted
          rwa [← heq, hcut] at hnot
      · intro huncountable
        refine Or.inl ⟨List.suffix_append _ _,
          fun hsses => hs (List.suffix_append_self_iff.1 hsses), ?_, ?_⟩
        · simpa using hpos
        · rwa [hcut]
    rw [hsingular, hagain, not_not]

/-- A word without its single `s` is only cut again if it is an irregular plural. -/
theorem isSingular_of_s (hs : ¬ ['s'] <:+ s)
    (hsibilant : ¬ (['s', 'e', 's'] <:+ s ++ ['s'] ∧ 3 < (s ++ ['s']).length)) :
    IsSingular s ↔ ¬ IsCutAgain (s ++ ['s']) := by
  have hdisjoint : ∀ word ∈ uncountable, word ∉ irregularPlurals := by decide
  have hsingular : IsSingular s ↔ String.ofList s ∉ irregularPlurals := by
    constructor
    · rintro (huncountable | ⟨hirregular, _⟩)
      · exact hdisjoint _ huncountable
      · exact hirregular
    · exact fun hirregular => Or.inr ⟨hirregular, fun hsingle => hs hsingle.1⟩
  have hagain : IsCutAgain (s ++ ['s']) ↔ String.ofList s ∈ irregularPlurals := by
    constructor
    · rintro (⟨hses, _, hlength, _⟩ | ⟨plural, hlisted, _, heq⟩)
      · exact absurd ⟨hses, hlength⟩ hsibilant
      · rwa [List.append_cancel_right heq, String.ofList_toList]
    · intro hlisted
      exact Or.inr ⟨_, hlisted, by rwa [String.toList_ofList], by rw [String.toList_ofList]⟩
  rw [hsingular, hagain]

/-- Case by case through the rules: which words are cut again, by what is left of them. -/
theorem isSingular_cutEnding_iff (hirregular : String.ofList s ∉ irregularPlurals) :
    IsSingular (cutEnding s s) ↔ ¬ IsCutAgain s := by
  rw [cutEnding_eq]
  split_ifs with hies hsibilant hs
  · have hy : ['y'] ∈ steadyRests := by decide
    exact iff_of_true (isSingular_of_suffix hy (List.suffix_append _ _))
      (not_isCutAgain_of_suffix (by decide) hies.1)
  · have hending : ∀ ending ∈ sibilantEndings, ending = ['s', 'e', 's'] ∨
        (ending ∈ steadyEndings ∧ ∃ rest ∈ steadyRests, ending = rest ++ ['e', 's']) := by decide
    obtain ⟨ending, hmem, ⟨u, rfl⟩, hlength⟩ := hsibilant
    rcases hending ending hmem with rfl | ⟨hsteady, rest, hrest, rfl⟩
    · -- the `s` of the ending is left
      have hne : u ≠ [] := by
        rintro rfl
        exact absurd hlength (by decide)
      have hcut : dropEnd 2 (u ++ ['s', 'e', 's']) = u ++ ['s'] := dropEnd_append_es u ['s']
      rw [hcut, isSingular_of_ses hne]
    · rw [dropEnd_append_es]
      exact iff_of_true (isSingular_of_suffix hrest (List.suffix_append _ _))
        (not_isCutAgain_of_suffix hsteady (List.suffix_append _ _))
  · obtain ⟨⟨u, rfl⟩, hss, _⟩ := hs
    have hcut : dropEnd 1 (u ++ ['s']) = u := dropEnd_append u ['s']
    rw [hcut]
    refine isSingular_of_s (fun hu => hss (List.suffix_append_self_iff.2 hu)) fun hses => ?_
    exact hsibilant ⟨['s', 'e', 's'], by decide, hses⟩
  · -- nothing is cut, so there is no ending that could be cut again
    refine iff_of_true (Or.inr ⟨hirregular, hs⟩) ?_
    rintro (⟨hses, _, hlength, _⟩ | ⟨plural, hlisted, hnot, rfl⟩)
    · exact hsibilant ⟨['s', 'e', 's'], by decide, hses, hlength⟩
    · have hpos : ∀ plural ∈ irregularPlurals, 0 < plural.toList.length := by decide
      refine hs ⟨List.suffix_append _ _, fun hss => hnot (List.suffix_append_self_iff.1 hss), ?_⟩
      rw [List.length_append, List.length_singleton]
      have := hpos plural hlisted
      omega

end

/-! ## Singulars of singulars -/

theorem isSingular_singularize_iff (word : String) :
    IsSingular ((singularize word).toList.map Char.toLower) ↔
      ¬ IsCutAgain (word.toList.map Char.toLower) := by
  by_cases huncountable : String.ofList (word.toList.map Char.toLower) ∈ uncountable
  · have hnot : ∀ word ∈ uncountable, ¬ IsCutAgain word.toList := by decide
    have hagain := hnot _ huncountable
    rw [String.toList_ofList] at hagain
    rw [singularize_of_uncountable huncountable]
    exact iff_of_true (Or.inl huncountable) hagain
  by_cases hirregular : String.ofList (word.toList.map Char.toLower) ∈ irregularPlurals
  · have htable : ∀ entry ∈ irregular, IsSingular entry.2.toList ↔ ¬ IsCutAgain entry.1.toList := by
      decide +kernel
    obtain ⟨entry, hentry, hplural, hsingular⟩ := singularize_of_irregular hirregular
    rw [hplural, hsingular]
    exact htable entry hentry
  · rw [singularize_of_regular huncountable hirregular, String.toList_ofList, map_cutEnding,
      isSingular_cutEnding_iff hirregular]

theorem not_mem_singularize {word : String} (h : '_' ∉ word.toList) :
    '_' ∉ (singularize word).toList := by
  have htable : ∀ entry ∈ irregular, '_' ∉ entry.2.toList ∧
      '_' ∉ (capitalized entry.2).toList := by decide
  rcases singularize_cases word with ⟨entry, hentry, heq | heq⟩ | ⟨kept, hstarts, _, heq | heq⟩
  · rw [heq]
    exact (htable entry hentry).1
  · rw [heq]
    exact (htable entry hentry).2
  · rw [heq]
    exact fun hmem => h (hstarts.subset hmem)
  · rw [heq, List.mem_append, not_or]
    exact ⟨fun hmem => h (hstarts.subset hmem), by decide⟩

/-- The singular of a word is its own singular unless it is cut again. Where it is, tables named by
the word and by its singular get the same class, whatever stands in front of the last underscore. -/
theorem singularize_singularize_iff (word : String) :
    (singularize (singularize word) = singularize word ↔
      ¬ IsCutAgain (word.toList.map Char.toLower)) ∧
    ('_' ∉ word.toList → ¬ IsCutAgain (word.toList.map Char.toLower) →
      classify (singularize word) = classify word ∧
      ∀ p, classify (p ++ "_" ++ singularize word) = classify (p ++ "_" ++ word)) := by
  have hiff : singularize (singularize word) = singularize word ↔
      ¬ IsCutAgain (word.toList.map Char.toLower) :=
    (singularize_eq_self_iff _).trans (isSingular_singularize_iff word)
  refine ⟨hiff, fun hword hagain => ?_⟩
  have hsingular : '_' ∉ (singularize word).toList := not_mem_singularize hword
  have hstable : singularize (singularize word) = singularize word := hiff.2 hagain
  refine ⟨?_, fun p => ?_⟩
  · rw [classify_of_not_mem hsingular, classify_of_not_mem hword, hstable]
  · rw [classify_append p hsingular, classify_append p hword, hstable]

/-- An ending `ses` of which an uncountable word is left. -/
theorem singularize_singularize_statuses :
    ¬ IsCutAgain ("Statuses".toList.map Char.toLower) ∧ '_' ∉ "Statuses".toList ∧
    singularize (singularize "Statuses") = singularize "Statuses" ∧
    classify ("job" ++ "_" ++ singularize "Statuses") = classify ("job" ++ "_" ++ "Statuses") := by
  have hagain : ¬ IsCutAgain ("Statuses".toList.map Char.toLower) := by decide
  have hword : '_' ∉ "Statuses".toList := by decide
  obtain ⟨hstable, hclass⟩ := singularize_singularize_iff "Statuses"
  exact ⟨hagain, hword, hstable.2 hagain, (hclass hword hagain).2 "job"⟩

/-- The singular of `analyses` is in the table and is cut to `analysi`. -/
theorem not_forall_singularize_singularize_eq :
    ¬ ∀ word, singularize (singularize word) = singularize word := by
  intro h
  have hcut : singularize (singularize "analyses") ≠ singularize "analyses" := by decide +kernel
  exact hcut (h "analyses")

end SchemaTypes.Naming
