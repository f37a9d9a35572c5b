import Mathlib.Data.List.Basic
import SchemaTypes.Text.Split

set_option autoImplicit false

/-! # Words between separators

A text is split at its separators, and its words are the pieces that are not empty. The words of two
texts with separators between them are the words of the one and then those of the other
(`words_append_separators`), and a text without separators is one word (`words_eq_singleton`).
Nothing else is in a word than what stands in the text and separates nothing (`mem_words`).
-/

namespace SchemaTypes.Text

variable {p : Char → Bool} {s : List Char}

theorem head?_any_iff : s.head?.any p = true ↔ ∃ c rest, s = c :: rest ∧ p c = true := by
  cases s <;> simp

/-! ## Pieces -/

theorem split_cons_of_neg {c : Char} (hc : p c = false) (rest : List Char) :
    ∃ piece pieces, split p rest = piece :: pieces ∧
      split p (c :: rest) = (c :: piece) :: pieces := by
  cases h : split p rest with
  | nil => exact absurd h (split_ne_nil p rest)
  | cons piece pieces => exact ⟨piece, pieces, rfl, by simp [split, hc, h]⟩

theorem split_eq_singleton (h : ∀ c ∈ s, p c = false) : split p s = [s] := by
  induction s with
  | nil => rfl
  | cons c rest ih =>
    rw [List.forall_mem_cons] at h
    obtain ⟨piece, pieces, hrest, hsplit⟩ := split_cons_of_neg h.1 rest
    rw [ih h.2, List.cons.injEq] at hrest
    obtain ⟨rfl, rfl⟩ := hrest
    exact hsplit

theorem mem_split {piece : List Char} (h : piece ∈ split p s) :
    ∀ c ∈ piece, c ∈ s ∧ p c = false := by
  induction s generalizing piece with
  | nil => simp [split] at h; simp [h]
  | cons d rest ih =>
    have hlater : ∀ piece ∈ split p rest, ∀ c ∈ piece, c ∈ d :: rest ∧ p c = false :=
      fun piece hpiece c hc =>
      ⟨List.mem_cons_of_mem d (ih hpiece c hc).1, (ih hpiece c hc).2⟩
    cases hd : p d with
    | true =>
      rw [split, hd, if_pos rfl, List.mem_cons] at h
      rcases h with rfl | h
      · simp
      · exact hlater piece h
    | false =>
      -- the first piece has one character more than in the rest
      obtain ⟨first, pieces, hrest, hsplit⟩ := split_cons_of_neg hd rest
      rw [hsplit, List.mem_cons] at h
      rw [hrest, List.forall_mem_cons] at hlater
      rcases h with rfl | h
      · exact List.forall_mem_cons.2 ⟨⟨List.mem_cons_self, hd⟩, hlater.1⟩
      · exact hlater.2 piece h

/-! ## Words -/

theorem words_append_cons {c : Char} (hc : p c = true) (s t : List Char) :
    words p (s ++ c :: t) = words p s ++ words p t := by
  rw [words, split_append_cons hc, List.filter_append]
  rfl

theorem words_cons {c : Char} (hc : p c = true) (s : List Char) : words p (c :: s) = words p s :=
  words_append_cons hc [] s

/-- Separators in front of a text do not change its words. -/
theorem words_separators_append {gap : List Char} (hgap : ∀ c ∈ gap, p c = true) (s : List Char) :
    words p (gap ++ s) = words p s := by
  induction gap with
  | nil => rfl
  | cons c gap ih =>
    rw [List.forall_mem_cons] at hgap
    rw [List.cons_append, words_cons hgap.1, ih hgap.2]

/-- Between two texts any separators do. -/
theorem words_append_separators {gap : List Char} (hne : gap ≠ []) (hgap : ∀ c ∈ gap, p c = true)
    (s t : List Char) : words p (s ++ (gap ++ t)) = words p s ++ words p t := by
  cases gap with
  | nil => exact absurd rfl hne
  | cons c gap =>
    rw [List.forall_mem_cons] at hgap
    rw [List.cons_append, words_append_cons hgap.1, words_separators_append hgap.2]

/-- Separators behind a text do not change its words either. -/
theorem words_append_of_separators {gap : List Char} (hgap : ∀ c ∈ gap, p c = true)
    (s : List Char) :
    words p (s ++ gap) = words p s := by
  cases gap with
  | nil => rw [List.append_nil]
  | cons c gap =>
    have hnil : words p ([] : List Char) = [] := rfl
    have hafter := words_append_separators (List.cons_ne_nil c gap) hgap s []
    rwa [hnil, List.append_nil, List.append_nil] at hafter

theorem words_eq_singleton (hne : s ≠ []) (h : ∀ c ∈ s, p c = false) : words p s = [s] := by
  rw [words, split_eq_singleton h]
  simp [hne]

theorem mem_words {word : List Char} (h : word ∈ words p s) :
    word ≠ [] ∧ ∀ c ∈ word, c ∈ s ∧ p c = false := by
  rw [words, List.mem_filter] at h
  exact ⟨by simpa using h.2, mem_split h.1⟩

/-- A text that does not start with a separator starts like its first word. -/
theorem words_cons_of_neg {c : Char} (hc : p c = false) (rest : List Char) :
    ∃ word more, words p (c :: rest) = (c :: word) :: more := by
  obtain ⟨piece, pieces, _, hsplit⟩ := split_cons_of_neg hc rest
  exact ⟨piece, pieces.filter fun piece => !piece.isEmpty, by rw [words, hsplit]; rfl⟩

end SchemaTypes.Text
