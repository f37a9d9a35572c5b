import Mathlib.Data.List.Infix
import Mathlib.Data.List.TakeWhile
import SchemaTypes.Text.Blank
import SchemaTypes.Text.Case
import SchemaTypes.Text.Split

set_option autoImplicit false

/-! # Where words occur

A word without blanks occurs in a text wherever it occurs in the text without the blanks around it
(`infix_strip_iff`). A word occurs in the lower case of a text wherever the text has it in any case
(`IsPlain.infix_lower_iff`), as long as the word is one in which no character outside ASCII has a
part: of those the sign of kelvins becomes a `k`, and a capital `I` with a dot an `i` with a mark
behind it. The same holds of a word that is all of the text or its end (`IsPlain.lower_eq_iff`,
`IsPlain.suffix_lower_iff`).
-/

namespace SchemaTypes.Text

-- characters are tried one by one where they stand in the text, not all that there are
instance decidableForallMem (p : Char → Prop) [DecidablePred p] (s : List Char) :
    Decidable (∀ c ∈ s, p c) :=
  List.decidableBAll p s

instance decidableExistsMem (p : Char → Prop) [DecidablePred p] (s : List Char) :
    Decidable (∃ c ∈ s, p c) :=
  List.decidableBEx p s

variable {word : List Char}

/-! ## Blanks around a text -/

/-- A word without characters of what stands in front of a text occurs in the text itself. -/
theorem infix_append_left_iff {before s : List Char} (hne : word ≠ [])
    (h : ∀ c ∈ word, c ∉ before) :
    word <:+: before ++ s ↔ word <:+: s := by
  rw [List.infix_append_iff]
  constructor
  · rintro (hbefore | hs | ⟨first, last, rfl, hfirst, hlast⟩)
    · obtain ⟨c, hc⟩ := List.exists_mem_of_ne_nil word hne
      exact absurd (hbefore.subset hc) (h c hc)
    · exact hs
    · -- no part of the word stands in front of the text
      cases first with
      | nil => exact hlast.isInfix
      | cons c rest => exact absurd (hfirst.subset List.mem_cons_self) (h c (by simp))
  · exact fun hs => Or.inr (Or.inl hs)

theorem infix_append_right_iff {s after : List Char} (hne : word ≠ []) (h : ∀ c ∈ word, c ∉ after) :
    word <:+: s ++ after ↔ word <:+: s := by
  have hne' : word.reverse ≠ [] := by simpa using hne
  have h' : ∀ c ∈ word.reverse, c ∉ after.reverse := by simpa using h
  rw [← List.reverse_infix, List.reverse_append, infix_append_left_iff hne' h', List.reverse_infix]

/-- A text is what `strip` leaves of it with blanks around it. -/
theorem exists_eq_append_strip (s : List Char) :
    ∃ before after, s = before ++ (strip s ++ after) ∧ (∀ c ∈ before, isBlank c = true) ∧
      ∀ c ∈ after, isBlank c = true := by
  refine ⟨s.takeWhile isBlank, ((s.dropWhile isBlank).reverse.takeWhile isBlank).reverse,
    ?_, ?_, ?_⟩
  · have hstrip : strip s ++ ((s.dropWhile isBlank).reverse.takeWhile isBlank).reverse
        = s.dropWhile isBlank := by
      rw [strip, trim, dropWhileEnd, ← List.reverse_append, List.takeWhile_append_dropWhile,
        List.reverse_reverse]
    rw [hstrip, List.takeWhile_append_dropWhile]
  · exact fun c hc => List.mem_takeWhile_imp hc
  · exact fun c hc => List.mem_takeWhile_imp (List.mem_reverse.1 hc)

/-- A word without blanks occurs in a text wherever it occurs in the text without the blanks around
it. -/
theorem infix_strip_iff {s : List Char} (hne : word ≠ []) (hword : ∀ c ∈ word, isBlank c = false) :
    word <:+: strip s ↔ word <:+: s := by
  obtain ⟨before, after, hs, hbefore, hafter⟩ := exists_eq_append_strip s
  have hnot : ∀ blanks : List Char, (∀ c ∈ blanks, isBlank c = true) → ∀ c ∈ word, c ∉ blanks := by
    intro blanks hblanks c hc hmem
    exact absurd ((hblanks c hmem).symm.trans (hword c hc)) (by decide)
  conv_rhs => rw [hs]
  rw [infix_append_left_iff hne (hnot before hbefore),
    infix_append_right_iff hne (hnot after hafter)]

theorem strip_eq_nil_iff {s : List Char} : strip s = [] ↔ ∀ c ∈ s, isBlank c = true := by
  constructor
  · intro h
    obtain ⟨before, after, hs, hbefore, hafter⟩ := exists_eq_append_strip s
    rw [h, List.nil_append] at hs
    intro c hc
    rw [hs, List.mem_append] at hc
    exact hc.elim (hbefore c) (hafter c)
  · intro h
    rw [strip, trim, List.dropWhile_eq_nil_iff.2 h]
    rfl

/-! ## Lower case -/

/-- What holds of the characters of ASCII one by one holds of every one of them. -/
theorem forall_ascii {p : Char → Prop} (h : ∀ n < 128, p (Char.ofNat n)) {c : Char}
    (hc : c.toNat < 128) : p c := by
  rw [← Char.ofNat_toNat c]
  exact h c.toNat hc

theorem toLower_eq_self {c : Char} (h : 128 ≤ c.toNat) : c.toLower = c := by
  have hnot : ¬ (c.val ≥ 'A'.val ∧ c.val ≤ 'Z'.val) := by
    rintro ⟨_, hle⟩
    have hle : c.toNat ≤ 90 := UInt32.le_iff_toNat_le.1 hle
    omega
  exact dif_neg hnot

/-- The only ASCII character in the table of lower-case characters is `k`. -/
theorem image_of_lowerRows : ∀ row ∈ lowerRows, ∀ k ≤ row.2.1 - row.1,
    Char.ofNat (row.2.2.2 + k) = 'k' ∨ 128 ≤ (Char.ofNat (row.2.2.2 + k)).toNat := by
  decide +kernel

theorem image_of_imageIn {n m : Nat} (h : imageIn lowerRows n = some m) :
    Char.ofNat m = 'k' ∨ 128 ≤ (Char.ofNat m).toNat := by
  obtain ⟨⟨first, last, step, image⟩, hrow, himage⟩ := List.exists_of_findSome?_eq_some h
  have hm : first ≤ n ∧ n ≤ last ∧ image + (n - first) = m := by
    simp at himage
    tauto
  obtain ⟨_, hlast, rfl⟩ := hm
  exact image_of_lowerRows _ hrow _ (by simp; omega)

/-- A text of characters that are their own lower case holds no capital sigma, so that it is its own
lower case as a whole. -/
theorem lowerAfter_eq_self {s : List Char} (h : ∀ c ∈ s, lowerChar c = [c]) (before : List Char) :
    lowerAfter before s = s := by
  induction s generalizing before with
  | nil => rfl
  | cons c rest ih =>
    rw [List.forall_mem_cons] at h
    have hsigma : c.toNat ≠ 0x3A3 := by
      intro hsigma
      have hc : c = 'Σ' := Char.toNat_inj.1 hsigma
      have himage : lowerChar 'Σ' = ['σ'] := by decide +kernel
      rw [hc, himage] at h
      exact absurd h.1 (by decide)
    rw [lowerAfter, if_neg hsigma, h.1, ih h.2]
    rfl

/-- What starts the lower case of a text, by its first character. Only capitals of ASCII, an `I`
with a dot and the sign of kelvins give letters of ASCII. -/
theorem lowerAfter_cons_cases (before : List Char) (c : Char) (rest : List Char) :
    (c.toNat < 128 ∧ lowerAfter before (c :: rest) = c.toLower :: lowerAfter (c :: before) rest) ∨
    lowerAfter before (c :: rest) = 'i' :: '\u0307' :: lowerAfter (c :: before) rest ∨
    ∃ d, (d = 'k' ∨ 128 ≤ d.toNat) ∧
      lowerAfter before (c :: rest) = d :: lowerAfter (c :: before) rest := by
  rw [lowerAfter]
  by_cases hsigma : c.toNat = 0x3A3
  · rw [if_pos hsigma]
    refine Or.inr (Or.inr ⟨_, Or.inr ?_, rfl⟩)
    split <;> decide
  · rw [if_neg hsigma, lowerChar]
    split
    · exact Or.inl ⟨‹_›, rfl⟩
    · split
      · exact Or.inr (Or.inl rfl)
      · split
        · exact Or.inr (Or.inr ⟨_, image_of_imageIn ‹_›, rfl⟩)
        · exact Or.inr (Or.inr ⟨c, Or.inr (by omega), rfl⟩)

/-- A word in which only characters of ASCII have a part when they become lower case. -/
def IsPlain (word : List Char) : Prop :=
  (∀ c ∈ word, c.toNat < 128 ∧ c ≠ 'k') ∧ ¬ ['i'] <:+ word

instance (word : List Char) : Decidable (IsPlain word) := inferInstanceAs (Decidable (_ ∧ _))

theorem IsPlain.of_cons {c : Char} (h : IsPlain (c :: word)) : IsPlain word :=
  ⟨fun d hd => h.1 d (List.mem_cons_of_mem _ hd), fun hi => h.2 (hi.trans (List.suffix_cons _ _))⟩

/-- What a plain word starts with is no part of a character outside ASCII. -/
theorem IsPlain.ne_of_cons {c d : Char} (h : IsPlain (c :: word)) (hd : d = 'k' ∨ 128 ≤ d.toNat) :
    c ≠ d := by
  rintro rfl
  obtain ⟨hascii, hk⟩ := h.1 c List.mem_cons_self
  rcases hd with hd | hd
  · exact hk hd
  · omega

/-- A plain word at the start of the lower case of a text is that of the start of the text. -/
theorem IsPlain.prefix_lowerAfter (h : IsPlain word) {before s : List Char}
    (hstarts : word <+: lowerAfter before s) :
    ∃ part, part <+: s ∧ part.map Char.toLower = word := by
  induction word generalizing before s with
  | nil => exact ⟨[], List.nil_prefix, rfl⟩
  | cons w word ih =>
    cases s with
    | nil => simp [lowerAfter] at hstarts
    | cons c rest =>
      rcases lowerAfter_cons_cases before c rest with ⟨_, hlower⟩ | hlower | ⟨d, hd, hlower⟩
      · rw [hlower, List.cons_prefix_cons] at hstarts
        obtain ⟨rfl, hrest⟩ := hstarts
        obtain ⟨part, hpart, rfl⟩ := ih h.of_cons hrest
        exact ⟨c :: part, List.cons_prefix_cons.2 ⟨rfl, hpart⟩, rfl⟩
      · -- behind the `i` comes a mark, so that the word would have to end there
        rw [hlower, List.cons_prefix_cons] at hstarts
        obtain ⟨rfl, hrest⟩ := hstarts
        cases word with
        | nil => exact absurd (List.suffix_refl _) h.2
        | cons x word =>
          exact absurd (List.cons_prefix_cons.1 hrest).1 (h.of_cons.ne_of_cons (Or.inr (by decide)))
      · rw [hlower, List.cons_prefix_cons] at hstarts
        exact absurd hstarts.1 (h.ne_of_cons hd)

theorem IsPlain.infix_lowerAfter (h : IsPlain word) (hne : word ≠ []) {before s : List Char}
    (hoccurs : word <:+: lowerAfter before s) :
    ∃ part, part <:+: s ∧ part.map Char.toLower = word := by
  induction s generalizing before with
  | nil => exact absurd (List.infix_nil.1 hoccurs) hne
  | cons c rest ih =>
    -- at the start of the text, or in what comes after its first character
    have hstart (hstarts : word <+: lowerAfter before (c :: rest)) :
        ∃ part, part <:+: c :: rest ∧ part.map Char.toLower = word := by
      obtain ⟨part, hpart, hword⟩ := h.prefix_lowerAfter hstarts
      exact ⟨part, hpart.isInfix, hword⟩
    have hlater (hrest : word <:+: lowerAfter (c :: before) rest) :
        ∃ part, part <:+: c :: rest ∧ part.map Char.toLower = word := by
      obtain ⟨part, hpart, hword⟩ := ih hrest
      exact ⟨part, List.infix_cons hpart, hword⟩
    have hone {d : Char} (hlower : lowerAfter before (c :: rest)
        = d :: lowerAfter (c :: before) rest) :
        ∃ part, part <:+: c :: rest ∧ part.map Char.toLower = word := by
      rw [hlower] at hoccurs
      rcases List.infix_cons_iff.1 hoccurs with hstarts | hrest
      · exact hstart (hlower ▸ hstarts)
      · exact hlater hrest
    rcases lowerAfter_cons_cases before c rest with ⟨_, hlower⟩ | hlower | ⟨d, _, hlower⟩
    · exact hone hlower
    · rw [hlower] at hoccurs
      rcases List.infix_cons_iff.1 hoccurs with hstarts | hrest
      · exact hstart (hlower ▸ hstarts)
      · -- no plain word starts with the mark behind the `i`
        rcases List.infix_cons_iff.1 hrest with hstarts | hrest
        · cases word with
          | nil => exact absurd rfl hne
          | cons w word =>
            exact absurd (List.cons_prefix_cons.1 hstarts).1 (h.ne_of_cons (Or.inr (by decide)))
        · exact hlater hrest
    · exact hone hlower

theorem lowerAfter_suffix (before s t : List Char) :
    lowerAfter (s.reverse ++ before) t <:+ lowerAfter before (s ++ t) := by
  induction s generalizing before with
  | nil => exact List.suffix_refl _
  | cons c rest ih =>
    rw [List.cons_append, lowerAfter, List.reverse_cons, List.append_assoc]
    exact (ih (c :: before)).trans (List.suffix_append _ _)

theorem lowerAfter_append_of_ascii {s : List Char} (h : ∀ c ∈ s, c.toNat < 128)
    (before t : List Char) :
    lowerAfter before (s ++ t) = s.map Char.toLower ++ lowerAfter (s.reverse ++ before) t := by
  induction s generalizing before with
  | nil => rfl
  | cons c rest ih =>
    rw [List.forall_mem_cons] at h
    rw [List.cons_append, lowerAfter, if_neg (by omega), lowerChar_of_ascii h.1, ih h.2]
    simp

/-- A plain word occurs in the lower case of a text wherever the text has it in any case. -/
theorem IsPlain.infix_lower_iff (h : IsPlain word) (hne : word ≠ []) {s : List Char} :
    word <:+: lower s ↔ ∃ part, part <:+: s ∧ part.map Char.toLower = word := by
  refine ⟨h.infix_lowerAfter hne, ?_⟩
  rintro ⟨part, ⟨before, after, rfl⟩, rfl⟩
  have hascii : ∀ c ∈ part, c.toNat < 128 := by
    intro c hc
    have hlower : c.toLower.toNat < 128 := (h.1 _ (List.mem_map_of_mem hc)).1
    by_contra hnot
    rw [toLower_eq_self (by omega)] at hlower
    exact hnot hlower
  have hsuffix := lowerAfter_suffix [] before (part ++ after)
  rw [lowerAfter_append_of_ascii hascii] at hsuffix
  rw [lower, List.append_assoc]
  exact (List.prefix_append _ _).isInfix.trans hsuffix.isInfix

theorem IsPlain.lowerAfter_eq_iff (h : IsPlain word) (before s : List Char) :
    lowerAfter before s = word ↔ s.map Char.toLower = word := by
  induction s generalizing before word with
  | nil => rfl
  | cons c rest ih =>
    have hne : ∀ {d : Char} {more : List Char}, (d = 'k' ∨ 128 ≤ d.toNat) → d :: more ≠ word := by
      rintro d more hd rfl
      exact h.ne_of_cons hd rfl
    by_cases hascii : c.toNat < 128
    · rw [lowerAfter, if_neg (by omega), lowerChar_of_ascii hascii, List.map_cons,
        List.singleton_append]
      cases word with
      | nil => simp
      | cons w word => rw [List.cons.injEq, List.cons.injEq, ih h.of_cons]
    · have hself : (c :: rest).map Char.toLower ≠ word := by
        rw [List.map_cons, toLower_eq_self (by omega)]
        exact hne (Or.inr (by omega))
      refine iff_of_false ?_ hself
      rcases lowerAfter_cons_cases before c rest with ⟨hc, _⟩ | hlower | ⟨d, hd, hlower⟩
      · exact absurd hc hascii
      · rw [hlower]
        rintro rfl
        exact h.of_cons.ne_of_cons (Or.inr (by decide)) rfl
      · rw [hlower]
        exact hne hd

theorem IsPlain.suffix_lowerAfter_iff (h : IsPlain word) (before s : List Char) :
    word <:+ lowerAfter before s ↔ word <:+ s.map Char.toLower := by
  induction s generalizing before with
  | nil => rfl
  | cons c rest ih =>
    -- a word ends the text if it is all of it or ends what comes after the first character
    have hone : ∀ {d : Char}, lowerAfter before (c :: rest) = d :: lowerAfter (c :: before) rest →
        (word <:+ lowerAfter before (c :: rest) ↔
          lowerAfter before (c :: rest) = word ∨ word <:+ lowerAfter (c :: before) rest) := by
      intro d hlower
      rw [hlower, List.suffix_cons_iff, eq_comm]
    rw [List.map_cons, List.suffix_cons_iff, eq_comm, ← List.map_cons,
      ← h.lowerAfter_eq_iff before (c :: rest), ← ih (c :: before)]
    rcases lowerAfter_cons_cases before c rest with ⟨_, hlower⟩ | hlower | ⟨d, _, hlower⟩
    · exact hone hlower
    · -- no plain word starts with the mark behind the `i`
      have hmark : word ≠ '\u0307' :: lowerAfter (c :: before) rest := by
        rintro rfl
        exact h.ne_of_cons (Or.inr (by decide)) rfl
      rw [hlower, List.suffix_cons_iff, List.suffix_cons_iff, eq_comm]
      simp [hmark]
    · exact hone hlower

/-- The lower case of a text is a plain word if the text is, letter by letter. -/
theorem IsPlain.lower_eq_iff (h : IsPlain word) {s : List Char} :
    lower s = word ↔ s.map Char.toLower = word :=
  h.lowerAfter_eq_iff [] s

/-- A plain word ends the lower case of a text if it ends the text, letter by letter. -/
theorem IsPlain.suffix_lower_iff (h : IsPlain word) {s : List Char} :
    word <:+ lower s ↔ word <:+ s.map Char.toLower :=
  h.suffix_lowerAfter_iff [] s

end SchemaTypes.Text
