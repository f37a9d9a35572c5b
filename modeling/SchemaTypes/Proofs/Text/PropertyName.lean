import Mathlib.Data.List.Basic
import SchemaTypes.Text.Percent

set_option autoImplicit false

/-! # Names of properties in TypeScript

A property is named by an identifier, which denotes itself, or by a string literal, which denotes
the code units of UTF-16 that its characters and escapes stand for; numbers and computed names are
left aside.

A text in front of a colon is read as a name of itself only if it is an identifier: a literal that
starts there and denotes the text cannot end within the text, being longer than what it denotes, and
it cannot go on beyond the colon either, since the colon comes later in the literal than in what it
denotes. The main statement is `isIdentifier_of_denotes`.
-/

namespace SchemaTypes.Text

/-! ## Identifiers -/

/-- Which characters beyond ASCII identifiers start with, and which ones they go on with. -/
structure Alphabet where
  starts : Char → Bool
  continues : Char → Bool

namespace Alphabet

variable (alphabet : Alphabet)

/-- Identifiers may start with the character. -/
def isStart (c : Char) : Bool :=
  if c.toNat < 128 then c.isAlpha || c == '_' || c == '$' else alphabet.starts c

/-- Identifiers may go on with the character. -/
def isPart (c : Char) : Bool :=
  if c.toNat < 128 then c.isAlphanum || c == '_' || c == '$' else alphabet.continues c

/-- The text is an identifier. As names of properties reserved words count, too. -/
def IsIdentifier (s : String) : Prop :=
  s.toList.head?.any alphabet.isStart = true ∧ s.toList.tail.all alphabet.isPart = true

instance (s : String) : Decidable (alphabet.IsIdentifier s) := inferInstanceAs (Decidable (_ ∧ _))

end Alphabet

/-! ## String literals -/

/-- The code units of a code point. -/
def codeUnits (n : Nat) : List Nat :=
  if n < 0x10000 then [n]
  else [0xD800 + (n - 0x10000) / 0x400, 0xDC00 + (n - 0x10000) % 0x400]

/-- The code units of a text. -/
def units (s : List Char) : List Nat := s.flatMap fun c => codeUnits c.toNat

/-- What single characters stand for after a backslash. -/
def singleEscapes : List (Char × Nat) :=
  [('\'', 39), ('"', 34), ('\\', 92), ('b', 8), ('f', 12), ('n', 10), ('r', 13), ('t', 9),
   ('v', 11), ('0', 0)]

/-- The ends of lines. -/
def lineEnds : List (List Char) := [['\n'], ['\r'], ['\r', '\n'], ['\u2028'], ['\u2029']]

/-- The character stands for itself after a backslash. -/
def IsEscapable (c : Char) : Prop :=
  c.isDigit = false ∧ c ∉ ['x', 'u'] ∧ [c] ∉ lineEnds ∧ c ∉ singleEscapes.map Prod.fst

/-- The number that hexadecimal digits stand for. -/
def hexNumber? (digits : List Char) : Option Nat :=
  digits.foldlM (fun n c => (Percent.hexValue c).map (16 * n + ·)) 0

/-- A piece of a string literal and the code units that it stands for. -/
inductive Piece (quote : Char) : List Char → List Nat → Prop
  | plain {c : Char} (h : c ∉ [quote, '\\', '\n', '\r']) : Piece quote [c] (codeUnits c.toNat)
  | escaped {c : Char} (h : IsEscapable c) : Piece quote ['\\', c] (codeUnits c.toNat)
  | single {c : Char} {u : Nat} (h : (c, u) ∈ singleEscapes) : Piece quote ['\\', c] [u]
  | continuation {line : List Char} (h : line ∈ lineEnds) : Piece quote ('\\' :: line) []
  | hex {letter : Char} {digits : List Char} {u : Nat}
      (h : (letter, digits.length) ∈ [('x', 2), ('u', 4)]) (hu : hexNumber? digits = some u) :
      Piece quote ('\\' :: letter :: digits) [u]
  | codePoint {digits : List Char} {n : Nat} (hne : digits ≠ []) (h : hexNumber? digits = some n)
      (hn : n ≤ 0x10FFFF) :
      Piece quote ('\\' :: 'u' :: '\x7b' :: (digits ++ ['\x7d'])) (codeUnits n)

/-- What stands between the quotes of a string literal, and the code units that it stands for. No
digit follows the escape of zero. -/
inductive Reads (quote : Char) : List Char → List Nat → Prop
  | nil : Reads quote [] []
  | cons {piece cs : List Char} {vs us : List Nat} (hpiece : Piece quote piece vs)
      (hzero : piece = ['\\', '0'] → ∀ c ∈ cs.head?, c.isDigit = false) (h : Reads quote cs us) :
      Reads quote (piece ++ cs) (vs ++ us)

/-- The key is a well-formed name of a property and denotes the text: it is an identifier and the
text itself, or a string literal of the text. -/
def Denotes (alphabet : Alphabet) (key name : String) : Prop :=
  (alphabet.IsIdentifier key ∧ key = name) ∨
    ∃ quote ∈ ['"', '\''], ∃ body, key.toList = quote :: body ++ [quote] ∧
      Reads quote body (units name.toList)

/-! ## How long a literal is -/

theorem units_cons (c : Char) (s : List Char) : units (c :: s) = codeUnits c.toNat ++ units s := rfl

theorem units_append (s t : List Char) : units (s ++ t) = units s ++ units t := List.flatMap_append

theorem length_codeUnits (n : Nat) : 1 ≤ (codeUnits n).length ∧ (codeUnits n).length ≤ 2 := by
  unfold codeUnits
  split <;> simp

theorem length_le_length_units (s : List Char) : s.length ≤ (units s).length := by
  induction s with
  | nil => exact Nat.le_refl 0
  | cons c s ih =>
    have hc := (length_codeUnits c.toNat).1
    rw [units_cons, List.length_append, List.length_cons]
    omega

variable {quote : Char} {piece cs : List Char} {vs us : List Nat}

theorem Piece.length_le (h : Piece quote piece vs) : vs.length ≤ (units piece).length := by
  have hunits := length_le_length_units piece
  cases h with
  | plain => simp [units]
  | escaped => simp [units]
  | single => exact Nat.le_trans (by simp) hunits
  | continuation => exact Nat.zero_le _
  | hex => exact Nat.le_trans (by simp) hunits
  | codePoint =>
    refine Nat.le_trans (Nat.le_trans (length_codeUnits _).2 ?_) hunits
    simp

/-- A literal has no fewer code units than what it denotes. -/
theorem Reads.length_le (h : Reads quote cs us) : us.length ≤ (units cs).length := by
  induction h with
  | nil => exact Nat.le_refl 0
  | cons hpiece _ _ ih =>
    have hlength := hpiece.length_le
    rw [units_append, List.length_append, List.length_append]
    omega

/-! ## Where a literal has a colon -/

theorem mem_units_colon {s : List Char} (h : 58 ∈ units s) : ':' ∈ s := by
  obtain ⟨c, hc, hunit⟩ := List.mem_flatMap.1 h
  have hcolon : c.toNat = 58 := by
    unfold codeUnits at hunit
    split at hunit
    · exact (List.mem_singleton.1 hunit).symm
    · simp at hunit
      omega
  have heq : c = ':' := Char.toNat_inj.1 hcolon
  exact heq ▸ hc

theorem not_mem_of_hexNumber? {digits : List Char} {n : Nat} (h : hexNumber? digits = some n) :
    ':' ∉ digits := by
  have key : ∀ (digits : List Char) (m n : Nat),
      digits.foldlM (fun n c => (Percent.hexValue c).map (16 * n + ·)) m = some n →
        ':' ∉ digits := by
    intro digits
    induction digits with
    | nil => exact fun _ _ _ => List.not_mem_nil
    | cons c digits ih =>
      intro m n h
      rw [List.foldlM_cons] at h
      obtain ⟨k, hk, hrest⟩ := Option.bind_eq_some_iff.1 h
      refine List.not_mem_cons_of_ne_of_not_mem ?_ (ih k n hrest)
      rintro rfl
      cases hk
  exact key digits 0 n h

/-- A colon stands for itself, alone or after a backslash. -/
theorem Piece.colon (h : Piece quote piece vs) :
    ':' ∉ piece ∨ ∃ before, piece = before ++ [':'] ∧ ':' ∉ before ∧ vs = [58] := by
  cases h with
  | @plain c _ =>
    by_cases hc : c = ':'
    · exact Or.inr ⟨[], by simp [hc], by simp, by simp [hc, codeUnits]⟩
    · exact Or.inl (by simpa using Ne.symm hc)
  | @escaped c _ =>
    by_cases hc : c = ':'
    · exact Or.inr ⟨['\\'], by simp [hc], by simp, by simp [hc, codeUnits]⟩
    · exact Or.inl (by simpa using Ne.symm hc)
  | single h =>
    refine Or.inl ?_
    have hsingle : ∀ entry ∈ singleEscapes, ':' ∉ ['\\', entry.1] := by decide
    exact hsingle _ h
  | continuation h =>
    refine Or.inl ?_
    have hline : ∀ line ∈ lineEnds, ':' ∉ '\\' :: line := by decide
    exact hline _ h
  | hex h hu =>
    have hdigits := not_mem_of_hexNumber? hu
    refine Or.inl ?_
    simp only [List.mem_cons, Prod.mk.injEq, List.not_mem_nil, or_false] at h
    obtain ⟨rfl, _⟩ | ⟨rfl, _⟩ := h <;> simpa using hdigits
  | codePoint _ h _ =>
    have hdigits := not_mem_of_hexNumber? h
    exact Or.inl (by simpa using hdigits)

/-- What comes before the first colon of a literal stands for no more code units than it has. -/
theorem Reads.exists_colon (h : Reads quote cs us) {before after : List Char}
    (hcs : cs = before ++ ':' :: after) (hbefore : ':' ∉ before) :
    ∃ ws rest, us = ws ++ 58 :: rest ∧ ws.length ≤ (units before).length := by
  induction h generalizing before with
  | nil => simp at hcs
  | @cons piece cs vs us hpiece _ _ ih =>
    rcases hpiece.colon with hnot | ⟨start, rfl, hstart, rfl⟩
    · -- the colon comes after the piece
      rcases List.append_eq_append_iff.1 hcs with ⟨x, rfl, hx⟩ | ⟨x, rfl, hx⟩
      · have hlength := hpiece.length_le
        obtain ⟨ws, rest, rfl, hws⟩ := ih hx fun hmem => hbefore (List.mem_append_right _ hmem)
        refine ⟨vs ++ ws, rest, (List.append_assoc _ _ _).symm, ?_⟩
        rw [units_append, List.length_append, List.length_append]
        omega
      · cases x with
        | nil =>
          have hlength := hpiece.length_le
          obtain ⟨ws, rest, rfl, hws⟩ := @ih [] hx.symm List.not_mem_nil
          refine ⟨vs ++ ws, rest, (List.append_assoc _ _ _).symm, ?_⟩
          rw [List.append_nil] at hlength
          rw [List.length_append]
          have hzero : ws.length ≤ 0 := hws
          omega
        | cons c x =>
          rw [List.cons_append, List.cons.injEq] at hx
          exact absurd (by simp [← hx.1]) hnot
    · exact ⟨[], us, rfl, Nat.zero_le _⟩

/-- No literal goes on, after its quote and what follows the same quote in the text that it denotes,
with a colon. -/
theorem Reads.ne_colon {rest after : List Char} (h : Reads quote cs (units (quote :: rest)))
    (hquote : quote ≠ ':') : cs ≠ rest ++ ':' :: after := by
  intro hcs
  have hmem : ':' ∈ cs := by
    rw [hcs]
    exact List.mem_append_right _ List.mem_cons_self
  obtain ⟨before, after', hfirst, hbefore⟩ := List.eq_append_cons_of_mem hmem
  -- the first colon of the literal comes no later in the text
  obtain ⟨x, rfl⟩ : ∃ x, rest = before ++ x := by
    rw [hfirst] at hcs
    rcases List.append_eq_append_iff.1 hcs with ⟨x, hx, _⟩ | ⟨x, hx, htail⟩
    · exact ⟨x, hx⟩
    · cases x with
      | nil => exact ⟨[], by simpa using hx.symm⟩
      | cons c x =>
        rw [List.cons_append, List.cons.injEq] at htail
        exact absurd (by simp [hx, ← htail.1]) hbefore
  obtain ⟨ws, tail, hunits, hlength⟩ := h.exists_colon hfirst hbefore
  rw [units_cons, units_append, ← List.append_assoc] at hunits
  have hquoteUnits := (length_codeUnits quote.toNat).1
  have hlt : ws.length < (units (quote :: before)).length := by
    rw [units_cons, List.length_append]
    omega
  have hget : (units (quote :: before))[ws.length]? = some 58 :=
    calc (units (quote :: before))[ws.length]?
        = (units (quote :: before) ++ units x)[ws.length]? := (List.getElem?_append_left hlt).symm
      _ = (ws ++ 58 :: tail)[ws.length]? := by rw [units_cons, hunits]
      _ = some 58 := by simp
  have hcolon := mem_units_colon (List.mem_of_getElem? hget)
  rcases List.mem_cons.1 hcolon with heq | hin
  · exact hquote heq.symm
  · exact hbefore hin

/-! ## Names in front of a colon -/

/-- A text does not start with a literal of itself, which would be longer. -/
theorem Reads.ne_literal_append {name : List Char} (h : Reads quote cs (units name))
    (rest : List Char) : name ≠ quote :: cs ++ [quote] ++ rest := by
  intro hname
  have hlength := h.length_le
  have hquoteUnits := (length_codeUnits quote.toNat).1
  rw [hname, List.cons_append, List.cons_append, units_cons, units_append, units_append,
    List.length_append, List.length_append, List.length_append] at hlength
  omega

/-- A text in front of a colon does not start a literal of itself in front of a colon. -/
theorem Reads.append_colon_ne {name s t : List Char} (h : Reads quote cs (units name))
    (hquote : quote ≠ ':') : name ++ ':' :: s ≠ quote :: cs ++ [quote] ++ ':' :: t := by
  intro heq
  rcases List.append_eq_append_iff.1 heq with ⟨x, hx, htail⟩ | ⟨x, hx, _⟩
  · cases name with
    | nil =>
      rw [List.nil_append] at hx
      rw [← hx] at htail
      simp at htail
      exact hquote htail.1.symm
    | cons c rest =>
      rw [List.cons_append, List.cons_append, List.cons.injEq] at hx
      obtain ⟨rfl, hbody⟩ := hx
      cases x with
      | nil =>
        rw [List.append_nil] at hbody
        exact h.ne_literal_append [] (by rw [← hbody]; simp)
      | cons d x =>
        simp at htail
        obtain ⟨rfl, _⟩ := htail
        -- the literal goes on beyond the colon and ends with a quote
        rcases List.eq_nil_or_concat x with rfl | ⟨inner, last, rfl⟩
        · have hlast := congrArg List.getLast? hbody
          simp at hlast
          exact hquote hlast
        · rw [List.concat_eq_append, ← List.cons_append, ← List.append_assoc] at hbody
          obtain ⟨hinner, _⟩ := List.append_inj' hbody rfl
          exact h.ne_colon hquote hinner
  · exact h.ne_literal_append x hx

/-- Where a text in front of a colon is read as a name of itself, it is an identifier. -/
theorem isIdentifier_of_denotes {alphabet : Alphabet} {key name s t : String}
    (h : Denotes alphabet key name) (heq : name ++ (":" ++ s) = key ++ (":" ++ t)) :
    alphabet.IsIdentifier name := by
  obtain ⟨hkey, rfl⟩ | ⟨quote, hquote, body, hkey, hreads⟩ := h
  · exact hkey
  · have hcolon : quote ≠ ':' := by
      rintro rfl
      simp at hquote
    have hlist := congrArg String.toList heq
    simp only [String.toList_append, hkey] at hlist
    exact absurd hlist (hreads.append_colon_ne hcolon)

end SchemaTypes.Text
