import SchemaTypes.Terminal.Line

set_option autoImplicit false

/-! # Texts that are sent unchanged

A text that is sent to an output that is no terminal loses the sequences that change colors or move
the cursor. It is sent unchanged exactly if it has none (`withoutSequences_eq_self_iff`): where one
starts, the text gets shorter, and it never gets longer again.
-/

namespace SchemaTypes.Terminal

/-- Somewhere in the text a sequence starts that changes colors or moves the cursor. -/
def HasSequence (s : List Char) : Prop := ∃ rest, '\x1b' :: rest <:+ s ∧ afterSequence? rest ≠ none

variable {c : Char} {s after : List Char}

theorem hasSequence_cons_iff :
    HasSequence (c :: s) ↔ (c = '\x1b' ∧ afterSequence? s ≠ none) ∨ HasSequence s := by
  unfold HasSequence
  constructor
  · rintro ⟨rest, hsuffix, hrest⟩
    rw [List.suffix_cons_iff, List.cons.injEq] at hsuffix
    rcases hsuffix with ⟨rfl, rfl⟩ | hsuffix
    · exact Or.inl ⟨rfl, hrest⟩
    · exact Or.inr ⟨rest, hsuffix, hrest⟩
  · rintro (⟨rfl, hs⟩ | ⟨rest, hsuffix, hrest⟩)
    · exact ⟨s, List.suffix_rfl, hs⟩
    · exact ⟨rest, hsuffix.trans (List.suffix_cons c s), hrest⟩

/-- What stands after a sequence has no part in it. -/
theorem afterSequence?_append (h : afterSequence? s = some after) (t : List Char) :
    afterSequence? (s ++ t) = some (after ++ t) := by
  unfold afterSequence? at h
  split at h
  · rename_i rest
    split at h
    · rename_i c tail hdrop
      have hboth : (rest ++ t).dropWhile (fun c => c.isDigit || c == ';' || c == '?')
          = c :: (tail ++ t) := by
        rw [List.dropWhile_append, hdrop]
        rfl
      split at h
      · rename_i halpha
        cases h
        simp only [afterSequence?, List.cons_append, hboth, halpha, if_true]
      · cases h
    · cases h
  · cases h

/-- A sequence in a part of a text is one in the text. -/
theorem HasSequence.of_infix {t : List Char} (h : HasSequence s) (hpart : s <:+: t) :
    HasSequence t := by
  obtain ⟨before, behind, rfl⟩ := hpart
  obtain ⟨rest, ⟨front, rfl⟩, hrest⟩ := h
  obtain ⟨after, hafter⟩ := Option.ne_none_iff_exists'.1 hrest
  refine ⟨rest ++ behind, ⟨before ++ front, by simp⟩, ?_⟩
  rw [afterSequence?_append hafter]
  simp

theorem not_hasSequence_nil : ¬ HasSequence [] := by
  rintro ⟨rest, hsuffix, _⟩
  cases List.suffix_nil.1 hsuffix

instance decidableHasSequence : DecidablePred HasSequence
  | [] => isFalse not_hasSequence_nil
  | _ :: s =>
    have := decidableHasSequence s
    decidable_of_iff' _ hasSequence_cons_iff

/-! ## One character -/

theorem withoutSequences_cons_of_some (h : afterSequence? s = some after) :
    withoutSequences ('\x1b' :: s) = withoutSequences after := by
  rw [withoutSequences, if_pos rfl]
  split
  · rename_i rest hrest
    rw [h] at hrest
    cases hrest
    rfl
  · rename_i hnone
    rw [h] at hnone
    cases hnone

theorem withoutSequences_cons_of_none (h : c = '\x1b' → afterSequence? s = none) :
    withoutSequences (c :: s) = c :: withoutSequences s := by
  rw [withoutSequences]
  by_cases hc : c = '\x1b'
  · rw [if_pos hc]
    split
    · rename_i rest hrest
      rw [h hc] at hrest
      cases hrest
    · rfl
  · rw [if_neg hc]

/-! ## The whole text -/

theorem length_withoutSequences_le (s : List Char) : (withoutSequences s).length ≤ s.length := by
  fun_induction withoutSequences s with
  | case1 => exact Nat.le_refl 0
  | case2 rest after hafter hshorter ih =>
    rw [List.length_cons]
    exact Nat.le_succ_of_le (Nat.le_trans ih (Nat.le_of_lt hshorter))
  | case3 rest hnone ih => exact Nat.succ_le_succ ih
  | case4 c rest hc ih => exact Nat.succ_le_succ ih

/-- A text is sent unchanged exactly if no sequence starts in it. -/
theorem withoutSequences_eq_self_iff : withoutSequences s = s ↔ ¬ HasSequence s := by
  induction s with
  | nil =>
    exact ⟨fun _ => not_hasSequence_nil, fun _ => by rw [withoutSequences]⟩
  | cons c s ih =>
    rw [hasSequence_cons_iff, not_or]
    by_cases hstart : c = '\x1b' ∧ afterSequence? s ≠ none
    · refine ⟨fun heq => ?_, fun h => absurd hstart h.1⟩
      obtain ⟨rfl, hsome⟩ := hstart
      obtain ⟨after, hafter⟩ := Option.ne_none_iff_exists'.1 hsome
      have hshorter := length_lt_of_afterSequence? hafter
      have hle := length_withoutSequences_le after
      rw [withoutSequences_cons_of_some hafter] at heq
      rw [heq, List.length_cons] at hle
      omega
    · rw [withoutSequences_cons_of_none (by simpa using hstart), List.cons.injEq, ih]
      exact ⟨fun h => ⟨hstart, h.2⟩, fun h => ⟨rfl, h.2⟩⟩

end SchemaTypes.Terminal
