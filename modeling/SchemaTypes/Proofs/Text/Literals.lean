import SchemaTypes.Proofs.Text.PropertyName
import SchemaTypes.Text.Quoted

set_option autoImplicit false

/-! # Reading literals back

A reader of JSON literals: between the quotes a character stands for itself unless it is a quote, a
backslash or a control character, and an escape is one letter, or `u` and four hexadecimal digits,
after a backslash. What `Quoted.encode` writes is read back by it, whatever comes after the closing
quote (`readBody_append`).

`literals` reads a whole text from left to right and collects the literals in it. What stands
between literals may be any text without quotes (`literals_append`), so a text that is put together
from literals and separators tells its literals (`literals_encode_append`).
-/

namespace SchemaTypes.Text.Quoted

/-- What single letters stand for after a backslash. -/
def letterEscapes : List (Char × Char) :=
  [('"', '"'), ('\\', '\\'), ('/', '/'), ('b', Char.ofNat 8), ('f', Char.ofNat 12), ('n', '\n'),
   ('r', '\r'), ('t', '\t')]

/-- The character whose number hexadecimal digits give. The halves of surrogate pairs are no
characters. -/
def charOfHex? (digits : List Char) : Option Char :=
  (hexNumber? digits).bind fun n => if n.isValidChar then some (Char.ofNat n) else none

/-- What has been read with one more character in front. -/
def precede (c : Option Char) (read : Option (List Char × List Char)) :
    Option (List Char × List Char) := do
  let (body, after) ← read
  return ((← c) :: body, after)

/-- Reads a literal from behind its opening quote: what it stands for, and what comes after its
closing quote. -/
def readBody : List Char → Option (List Char × List Char)
  | [] => none
  | '"' :: after => some ([], after)
  | '\\' :: 'u' :: a :: b :: c :: d :: rest => precede (charOfHex? [a, b, c, d]) (readBody rest)
  | '\\' :: letter :: rest => precede (letterEscapes.lookup letter) (readBody rest)
  | c :: rest => if c.toNat < 32 then none else precede (some c) (readBody rest)

theorem precede_eq_some_iff {c : Option Char} {read : Option (List Char × List Char)}
    {body after : List Char} :
    precede c read = some (body, after) ↔
      ∃ first rest, c = some first ∧ read = some (rest, after) ∧ body = first :: rest := by
  cases c with
  | none => cases read <;> simp [precede]
  | some first =>
    cases read with
    | none => simp [precede]
    | some result =>
      simp only [precede, Option.bind_eq_bind, Option.bind_some, Option.pure_def,
        Option.some.injEq, Prod.mk.injEq]
      grind

/-- A literal is not empty, its closing quote at least being read. -/
theorem length_lt_of_readBody {s body after : List Char} (h : readBody s = some (body, after)) :
    after.length < s.length := by
  induction s using readBody.induct generalizing body with
  | case1 => cases h
  | case2 after' =>
    rw [readBody] at h
    cases h
    exact Nat.lt_succ_self _
  | case3 a b c d rest ih =>
    rw [readBody, precede_eq_some_iff] at h
    obtain ⟨_, _, _, hrest, _⟩ := h
    have hlt := ih hrest
    simp only [List.length_cons]
    omega
  | case4 letter rest _ ih =>
    rw [readBody, precede_eq_some_iff] at h
    · obtain ⟨_, _, _, hrest, _⟩ := h
      have hlt := ih hrest
      simp only [List.length_cons]
      omega
    · assumption
  | case5 c rest _ _ _ hcontrol =>
    rw [readBody, if_pos hcontrol] at h
    · cases h
    all_goals assumption
  | case6 c rest _ _ _ hcontrol ih =>
    rw [readBody, if_neg hcontrol, precede_eq_some_iff] at h
    · obtain ⟨_, _, _, hrest, _⟩ := h
      have hlt := ih hrest
      simp only [List.length_cons]
      omega
    all_goals assumption

/-- The literals in a text, from left to right. None if one of them has no end or is not well
formed. -/
def literals : List Char → Option (List String)
  | [] => some []
  | c :: rest =>
    if c = '"' then
      match h : readBody rest with
      | some (body, after) =>
        have : after.length < rest.length + 1 := Nat.lt_succ_of_lt (length_lt_of_readBody h)
        (literals after).map (String.ofList body :: ·)
      | none => none
    else literals rest
  termination_by s => s.length

/-! ## What is written is read back -/

theorem hexNumber?_control :
    ∀ n < 32, hexNumber? ['0', '0', hexDigit (n / 16), hexDigit (n % 16)] = some n := by
  decide

/-- The escape of a character is read as the character. -/
theorem readBody_escape (c : Char) (rest : List Char) :
    readBody (escape c ++ rest) = precede (some c) (readBody rest) := by
  have hchar : ∀ n, c.toNat = n → Char.ofNat n = c := by
    rintro n rfl
    exact Char.ofNat_toNat c
  unfold escape
  split_ifs with hquote hbackslash hnewline hreturn htab hbackspace hfeed hlow
  · rw [hquote]; rfl
  · rw [hbackslash]; rfl
  · rw [hnewline]; rfl
  · rw [hreturn]; rfl
  · rw [htab]; rfl
  · rw [← hchar 8 hbackspace]; rfl
  · rw [← hchar 12 hfeed]; rfl
  · have hvalid : c.toNat.isValidChar := Or.inl (by omega)
    have hhex : charOfHex? ['0', '0', hexDigit (c.toNat / 16), hexDigit (c.toNat % 16)]
        = some c := by
      rw [charOfHex?, hexNumber?_control c.toNat hlow, Option.bind_some, if_pos hvalid,
        hchar c.toNat rfl]
    rw [← hhex]
    rfl
  · rw [List.singleton_append, readBody, if_neg hlow]
    · exact hquote
    · rintro _ _ _ _ _ rfl
      exact absurd rfl hbackslash
    · rintro _ _ rfl
      exact absurd rfl hbackslash

/-- A literal is read back, whatever comes after it. -/
theorem readBody_append (s after : List Char) :
    readBody (s.flatMap escape ++ '"' :: after) = some (s, after) := by
  induction s with
  | nil => rfl
  | cons c rest ih =>
    rw [List.flatMap_cons, List.append_assoc, readBody_escape, ih]
    rfl

/-- Text without quotes holds no literals. -/
theorem literals_append {s : List Char} (h : '"' ∉ s) (after : List Char) :
    literals (s ++ after) = literals after := by
  induction s with
  | nil => rfl
  | cons c rest ih =>
    rw [List.mem_cons, not_or] at h
    rw [List.cons_append, literals, if_neg (Ne.symm h.1), ih h.2]

theorem literals_of_not_mem {s : List Char} (h : '"' ∉ s) : literals s = some [] := by
  have hnil := literals_append h []
  rwa [List.append_nil, literals] at hnil

theorem literals_encode_append (value : String) (after : List Char) :
    literals (encode value.toList ++ after) = (literals after).map (value :: ·) := by
  have hbody : encode value.toList ++ after
      = '"' :: (value.toList.flatMap escape ++ '"' :: after) := by
    simp [encode]
  rw [hbody, literals, if_pos rfl]
  split
  · rename_i body rest h
    rw [readBody_append] at h
    cases h
    rw [String.ofList_toList]
  · rename_i h
    rw [readBody_append] at h
    cases h

/-! ## What is written is legible -/

theorem le_toNat_hexDigit : ∀ n < 16, 32 ≤ (hexDigit n).toNat := by decide

/-- No control character stands in the escape of a character. -/
theorem le_toNat_of_mem_escape {c d : Char} (h : d ∈ escape c) : 32 ≤ d.toNat := by
  have hpair : ∀ letter : Char, 32 ≤ letter.toNat → d ∈ ['\\', letter] → 32 ≤ d.toNat := by
    intro letter hletter hd
    rcases List.mem_pair.1 hd with rfl | rfl
    · decide
    · exact hletter
  unfold escape at h
  split_ifs at h with hquote hbackslash hnewline hreturn htab hbackspace hfeed hlow
  · exact hpair '"' (by decide) h
  · exact hpair '\\' (by decide) h
  · exact hpair 'n' (by decide) h
  · exact hpair 'r' (by decide) h
  · exact hpair 't' (by decide) h
  · exact hpair 'b' (by decide) h
  · exact hpair 'f' (by decide) h
  · have hfirst := le_toNat_hexDigit (c.toNat / 16) (by omega)
    have hsecond := le_toNat_hexDigit (c.toNat % 16) (by omega)
    simp only [List.mem_cons, List.not_mem_nil, or_false] at h
    rcases h with rfl | rfl | rfl | rfl | rfl | rfl
    · decide
    · decide
    · decide
    · decide
    · exact hfirst
    · exact hsecond
  · rw [List.mem_singleton.1 h]
    omega

/-- No control character stands in a literal. -/
theorem le_toNat_of_mem_encode {s : List Char} {c : Char} (h : c ∈ encode s) : 32 ≤ c.toNat := by
  have hquote : 32 ≤ '"'.toNat := by decide
  rw [encode, List.mem_append, List.mem_cons, List.mem_singleton, List.mem_flatMap] at h
  rcases h with (rfl | ⟨_, _, hescape⟩) | rfl
  · exact hquote
  · exact le_toNat_of_mem_escape hescape
  · exact hquote

end SchemaTypes.Text.Quoted
