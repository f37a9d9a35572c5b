import SchemaTypes.Proofs.Text.Utf8
import SchemaTypes.Text.Percent

set_option autoImplicit false

/-! # Reading percent encoding back

The escape of a byte is read as the byte, whatever comes after it, and a safe character as itself,
so that an encoded text stands for the bytes of the original (`tokens_encode`). Bytes are read as by
the machine for UTF-8 (`read_bytes`). Hence every text is read back from its encoding
(`decode_encode`), whichever characters are safe, if only they are ones of ASCII and no percent
sign. A text is its own encoding exactly if all its characters are safe (`encode_eq_self_iff`).
-/

namespace SchemaTypes.Text.Percent

/-! ## Escapes -/

theorem hexValue_hexDigit : ∀ n < 16, hexValue (hexDigit n) = some n := by decide

/-- An escape is read as its byte. -/
theorem tokens_escapeByte (b : UInt8) (rest : List Char) :
    tokens (escapeByte b ++ rest) = .byte b :: tokens rest := by
  have hb : b.toNat < 256 := b.toNat_lt
  have hvalue : UInt8.ofNat (16 * (b.toNat / 16) + b.toNat % 16) = b := by
    rw [Nat.div_add_mod, UInt8.ofNat_toNat]
  rw [escapeByte, List.cons_append, List.cons_append, List.cons_append, List.nil_append, tokens,
    hexValue_hexDigit _ (by omega), hexValue_hexDigit _ (by omega)]
  simp only [hvalue]

theorem tokens_escapeBytes (bytes : List UInt8) (rest : List Char) :
    tokens (bytes.flatMap escapeByte ++ rest) = bytes.map Token.byte ++ tokens rest := by
  induction bytes with
  | nil => rfl
  | cons b bytes ih =>
    rw [List.flatMap_cons, List.append_assoc, tokens_escapeByte, ih]
    rfl

theorem length_escapeBytes (bytes : List UInt8) :
    (bytes.flatMap escapeByte).length = bytes.length * 3 := by
  induction bytes with
  | nil => rfl
  | cons b bytes ih =>
    rw [List.flatMap_cons, List.length_append, ih, List.length_cons, escapeByte]
    simp only [List.length_cons, List.length_nil]
    omega

/-- An escape is longer than its character. -/
theorem one_lt_length_escape (c : Char) :
    1 < ((String.utf8EncodeChar c).flatMap escapeByte).length := by
  have hpos : 0 < c.utf8Size := c.utf8Size_pos
  rw [length_escapeBytes, String.length_utf8EncodeChar]
  omega

/-! ## Encoded texts -/

/-- What is left as it is can be told from an escape: it is of ASCII and no percent sign. -/
def Separable (safe : Char → Bool) : Prop := ∀ c, safe c = true → c.toNat < 128 ∧ c ≠ '%'

variable {safe : Char → Bool}

theorem tokens_cons {c : Char} (hc : c ≠ '%') (rest : List Char) :
    tokens (c :: rest) = Token.ofChar c :: tokens rest := by
  rw [tokens]
  rintro a b tail ⟨⟩ _
  exact hc rfl

/-- A character of ASCII is one byte. -/
theorem utf8EncodeChar_of_ascii {c : Char} (h : c.toNat < 128) :
    String.utf8EncodeChar c = [UInt8.ofNat c.toNat] := by
  have hle : c.val.toNat ≤ 0x7f := Nat.le_of_lt_succ h
  rw [String.utf8EncodeChar]
  exact if_pos hle

theorem encode_cons (c : Char) (s : List Char) :
    encode safe (c :: s)
      = (if safe c then [c] else (String.utf8EncodeChar c).flatMap escapeByte) ++ encode safe s :=
  List.flatMap_cons

/-- An encoded text stands for the bytes of the original. -/
theorem tokens_encode (h : Separable safe) (s rest : List Char) :
    tokens (encode safe s ++ rest)
      = (s.flatMap String.utf8EncodeChar).map Token.byte ++ tokens rest := by
  induction s with
  | nil => rfl
  | cons c s ih =>
    rw [encode_cons, List.append_assoc, List.flatMap_cons, List.map_append, List.append_assoc, ← ih]
    -- neither an escape nor a safe character reads on into what comes after it
    split
    · obtain ⟨hascii, hpercent⟩ := h c ‹_›
      rw [List.singleton_append, tokens_cons hpercent, Token.ofChar, if_pos hascii,
        utf8EncodeChar_of_ascii hascii]
      rfl
    · exact tokens_escapeBytes _ _

/-- Bytes are read as by the machine for UTF-8. -/
theorem read_bytes (state : Utf8.State) (bytes : List UInt8) :
    read state (bytes.map Token.byte) = Utf8.run state bytes := by
  induction bytes generalizing state with
  | nil => rfl
  | cons b bytes ih =>
    rw [List.map_cons, read, Utf8.run]
    simp only [ih]

/-- A text is read back from its encoding. -/
theorem decode_encode (h : Separable safe) (s : List Char) : decode (encode safe s) = s := by
  have htokens : tokens (encode safe s) = (s.flatMap String.utf8EncodeChar).map Token.byte := by
    have hall := tokens_encode h s []
    rwa [List.append_nil, tokens, List.append_nil] at hall
  rw [decode, htokens, read_bytes, Utf8.run_encode, List.map_map]
  exact List.map_id s

/-! ## The characters of an encoded text -/

theorem mem_escapeByte {b : UInt8} {c : Char} (h : c ∈ escapeByte b) :
    c = '%' ∨ ∃ n < 16, c = hexDigit n := by
  have hb : b.toNat < 256 := b.toNat_lt
  rw [escapeByte, List.mem_cons, List.mem_cons, List.mem_singleton] at h
  rcases h with h | h | h
  · exact Or.inl h
  · exact Or.inr ⟨_, by omega, h⟩
  · exact Or.inr ⟨_, by omega, h⟩

/-- What holds of safe characters and of those of escapes holds of all characters of encoded
texts. -/
theorem forall_mem_encode {p : Char → Prop} (hsafe : ∀ c, safe c = true → p c) (hpercent : p '%')
    (hdigit : ∀ n < 16, p (hexDigit n)) (s : List Char) : ∀ c ∈ encode safe s, p c := by
  intro c hc
  obtain ⟨d, _, hd⟩ := List.mem_flatMap.1 hc
  split at hd
  · rw [List.mem_singleton.1 hd]
    exact hsafe d ‹_›
  · obtain ⟨b, _, hb⟩ := List.mem_flatMap.1 hd
    rcases mem_escapeByte hb with rfl | ⟨n, hn, rfl⟩
    · exact hpercent
    · exact hdigit n hn

/-- An encoded text starts with a character only if the text itself does or the character starts
escapes. -/
theorem head?_encode_ne {s : List Char} {d : Char} (hd : d ≠ '%') (h : s.head? ≠ some d) :
    (encode safe s).head? ≠ some d := by
  cases s with
  | nil => simp [encode]
  | cons c rest =>
    rw [encode_cons]
    split
    · simpa using h
    · have hescape := one_lt_length_escape c
      cases hbytes : String.utf8EncodeChar c with
      | nil => simp [hbytes] at hescape
      | cons b bytes =>
        simp only [List.flatMap_cons, escapeByte, List.cons_append, List.head?_cons]
        exact fun heq => hd (Option.some.inj heq).symm

theorem ascii_of_isUnreserved {c : Char} (h : isUnreserved c = true) : c.toNat < 128 := by
  have hupper (h : c.isUpper = true) : c.toNat ≤ 90 :=
    UInt32.le_iff_toNat_le.1 (of_decide_eq_true h).2
  have hlower (h : c.isLower = true) : c.toNat ≤ 122 := by
    have hrange : (decide ('a'.val ≤ c.val) && decide (c.val ≤ 'z'.val)) = true := h
    rw [Bool.and_eq_true, decide_eq_true_iff, decide_eq_true_iff] at hrange
    exact UInt32.le_iff_toNat_le.1 hrange.2
  have hdigit (h : c.isDigit = true) : c.toNat ≤ 57 := (Char.isDigit_iff_toNat.1 h).2
  have hcases : (c.isUpper || c.isLower || c.isDigit || c == '-' || c == '.' || c == '_'
      || c == '~') = true := h
  simp only [Bool.or_eq_true, beq_iff_eq] at hcases
  rcases hcases with (((((h | h) | h) | rfl) | rfl) | rfl) | rfl
  · exact Nat.lt_of_le_of_lt (hupper h) (by decide)
  · exact Nat.lt_of_le_of_lt (hlower h) (by decide)
  · exact Nat.lt_of_le_of_lt (hdigit h) (by decide)
  all_goals decide

theorem separable_isUnreserved : Separable isUnreserved := by
  intro c hc
  refine ⟨ascii_of_isUnreserved hc, ?_⟩
  rintro rfl
  cases hc

/-! ## Texts that need no escape -/

theorem length_le_encode (safe : Char → Bool) (s : List Char) :
    s.length ≤ (encode safe s).length := by
  induction s with
  | nil => exact Nat.zero_le _
  | cons c s ih =>
    have hescape := one_lt_length_escape c
    rw [encode_cons, List.length_append, List.length_cons]
    split
    · simp only [List.length_singleton]
      omega
    · omega

/-- A text is its own encoding exactly if all its characters are safe. -/
theorem encode_eq_self_iff {s : List Char} : encode safe s = s ↔ ∀ c ∈ s, safe c = true := by
  induction s with
  | nil => simp [encode]
  | cons c s ih =>
    rw [encode_cons, List.forall_mem_cons]
    cases hc : safe c with
    | true =>
      rw [if_pos rfl, List.singleton_append, List.cons_inj_right, ih]
      simp
    | false =>
      have hescape := one_lt_length_escape c
      have hrest := length_le_encode safe s
      have hne : (String.utf8EncodeChar c).flatMap escapeByte ++ encode safe s ≠ c :: s := by
        intro heq
        have hlength := congrArg List.length heq
        rw [List.length_append, List.length_cons] at hlength
        omega
      simp [hne]

end SchemaTypes.Text.Percent
