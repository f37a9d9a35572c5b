import Mathlib.Data.List.Basic
import SchemaTypes.Proofs.Text.Occurrence

set_option autoImplicit false

/-! # The layout of table definitions

The text that defines a table may have any white space between its words. Two texts are of one
layout if they are equal with a single space for every run of white space outside quotes
(`squeeze`), and then they have the option `WITHOUT ROWID` at the same places: `gaps` lists the
white space between its two words wherever they stand outside quotes, of which `squeeze` leaves the
number as it is (`gaps_squeeze`), and it changes nothing in quotes (`isQuoted_squeeze`).

The main statement is `contains_withoutRowid_iff`: the two words with one space between them stand
in the lower case of a text exactly if they stand so in quotes or if one of the gaps is a single
space.
-/

namespace SchemaTypes.Sqlite

open Text

/-! ## Quotes and white space -/

/-- White space of SQL. -/
def isSpace (c : Char) : Bool := [' ', '\t', '\n', '\x0c', '\r'].contains c

/-- What texts and names are quoted in. -/
inductive Quote where
  | single
  | double
  | grave
  | bracket
  deriving DecidableEq

def Quote.opening : Quote → Char
  | .single => '\''
  | .double => '"'
  | .grave => '\x60'
  | .bracket => '['

def Quote.closing : Quote → Char
  | .bracket => ']'
  | quote => quote.opening

/-- The quote that starts with a character. -/
def openedBy? (c : Char) : Option Quote :=
  [Quote.single, .double, .grave, .bracket].find? fun quote => quote.opening == c

/-- The quote in which a text stands after one more character, none if it stands outside quotes. A
quote that is written twice inside itself closes and opens again. -/
def quoteAfter : Option Quote → Char → Option Quote
  | none, c => openedBy? c
  | some quote, c => if c == quote.closing then none else some quote

/-- A text with one space for every run of white space outside quotes. -/
def squeeze : Option Quote → List Char → List Char
  | _, [] => []
  | place, c :: rest =>
    if place.isNone && isSpace c then
      if rest.head?.any isSpace then squeeze none rest else ' ' :: squeeze none rest
    else c :: squeeze (quoteAfter place c) rest

/-! ## The words of the option -/

/-- What comes after a word at the start of a text, letters of the text in any case. -/
def afterWord? : List Char → List Char → Option (List Char)
  | [], s => some s
  | _ :: _, [] => none
  | w :: word, c :: s => if c.toLower = w then afterWord? word s else none

/-- The white space between the two words at the start of a text. -/
def gap? (s : List Char) : Option (List Char) := do
  let rest ← afterWord? "without".toList s
  let _ ← afterWord? "rowid".toList (rest.dropWhile isSpace)
  let gap := rest.takeWhile isSpace
  if gap = [] then none else some gap

/-- The white space between the two words wherever they stand outside quotes. -/
def gaps : Option Quote → List Char → List (List Char)
  | _, [] => []
  | place, c :: rest =>
    (if place.isNone then (gap? (c :: rest)).toList else []) ++ gaps (quoteAfter place c) rest

/-- The two words stand somewhere in quotes, one space apart. -/
def isQuoted : Option Quote → List Char → Bool
  | _, [] => false
  | place, c :: rest =>
    (place.isSome && (afterWord? "without rowid".toList (c :: rest)).isSome)
      || isQuoted (quoteAfter place c) rest

/-! ## Letters in any case -/

/-- What is told of characters that are no letters does not depend on the case of letters. -/
theorem eq_toLower {α : Type} {f : Char → α}
    (h : ∀ n < 128, f (Char.ofNat n).toLower = f (Char.ofNat n))
    (c : Char) : f c.toLower = f c := by
  by_cases hascii : c.toNat < 128
  · exact forall_ascii (p := fun c => f c.toLower = f c) h hascii
  · rw [toLower_eq_self (by omega)]

theorem isSpace_toLower (c : Char) : isSpace c.toLower = isSpace c := eq_toLower (by decide) c

theorem quoteAfter_toLower (place : Option Quote) (c : Char) :
    quoteAfter place c.toLower = quoteAfter place c := by
  revert c
  rcases place with _ | (_ | _ | _ | _) <;> exact eq_toLower (by decide)

variable {word s : List Char} {place : Option Quote}

theorem afterWord?_append (word' : List Char) :
    afterWord? (word ++ word') s = (afterWord? word s).bind (afterWord? word') := by
  induction word generalizing s with
  | nil => rfl
  | cons w word ih =>
    cases s with
    | nil => rfl
    | cons c s =>
      rw [List.cons_append, afterWord?, afterWord?]
      split
      · exact ih
      · rfl

/-- A word starts a text if the text starts with its letters in some case. -/
theorem isSome_afterWord?_iff :
    (afterWord? word s).isSome = true ↔ ∃ part, part <+: s ∧ part.map Char.toLower = word := by
  induction word generalizing s with
  | nil => simp [afterWord?]
  | cons w word ih =>
    cases s with
    | nil => simp [afterWord?]
    | cons c s =>
      rw [afterWord?]
      constructor
      · intro h
        split at h
        · obtain ⟨part, hpart, hword⟩ := ih.1 h
          refine ⟨c :: part, List.cons_prefix_cons.2 ⟨rfl, hpart⟩, ?_⟩
          rw [List.map_cons, hword, ‹c.toLower = w›]
        · cases h
      · rintro ⟨part, hpart, hword⟩
        cases part with
        | nil => cases hword
        | cons d part =>
          obtain ⟨rfl, hrest⟩ := List.cons_prefix_cons.1 hpart
          rw [List.map_cons, List.cons.injEq] at hword
          rw [if_pos hword.1]
          exact ih.2 ⟨part, hrest, hword.2⟩

/-! ## Squeezed texts -/

/-- A run of white space is one space. -/
theorem squeeze_of_isSpace {c : Char} (hc : isSpace c = true) (rest : List Char) :
    squeeze none (c :: rest) = ' ' :: squeeze none (rest.dropWhile isSpace) := by
  induction rest generalizing c with
  | nil => simp [squeeze, hc]
  | cons d rest ih =>
    rw [squeeze, if_pos (by simpa using hc), List.head?_cons]
    cases hd : isSpace d with
    | true => rw [if_pos (by simpa using hd), ih hd, List.dropWhile_cons_of_pos hd]
    | false => rw [if_neg (by simp [hd]), List.dropWhile_cons_of_neg (by simp [hd])]

theorem squeeze_of_not_isSpace {c : Char} (hc : place = none → isSpace c = false)
    (rest : List Char) :
    squeeze place (c :: rest) = c :: squeeze (quoteAfter place c) rest := by
  rw [squeeze, if_neg]
  cases place with
  | none => simpa using hc rfl
  | some quote => simp

/-- No white space is left in front of a text when it is skipped. -/
theorem dropWhile_isSpace_cases (s : List Char) :
    s.dropWhile isSpace = [] ∨ ∃ c rest, s.dropWhile isSpace = c :: rest ∧ isSpace c = false := by
  have hhead := List.head?_dropWhile_not isSpace s
  cases hs : s.dropWhile isSpace with
  | nil => exact Or.inl rfl
  | cons c rest =>
    rw [hs] at hhead
    exact Or.inr ⟨c, rest, rfl, hhead⟩

theorem dropWhile_squeeze (s : List Char) :
    (squeeze none s).dropWhile isSpace = squeeze none (s.dropWhile isSpace) := by
  have hskipped : ∀ s : List Char,
      (squeeze none (s.dropWhile isSpace)).dropWhile isSpace
      = squeeze none (s.dropWhile isSpace) := by
    intro s
    rcases dropWhile_isSpace_cases s with hs | ⟨c, rest, hs, hc⟩
    · rw [hs]
      rfl
    · rw [hs, squeeze_of_not_isSpace fun _ => hc, List.dropWhile_cons_of_neg (by simp [hc])]
  cases s with
  | nil => rfl
  | cons c rest =>
    cases hc : isSpace c with
    | true =>
      rw [squeeze_of_isSpace hc, List.dropWhile_cons_of_pos (by decide), hskipped,
        List.dropWhile_cons_of_pos hc]
    | false =>
      have hself := hskipped (c :: rest)
      rwa [List.dropWhile_cons_of_neg (by simp [hc])] at hself ⊢

theorem takeWhile_squeeze (s : List Char) :
    (squeeze none s).takeWhile isSpace = if s.takeWhile isSpace = [] then [] else [' '] := by
  cases s with
  | nil => rfl
  | cons c rest =>
    cases hc : isSpace c with
    | true =>
      have hnone : (squeeze none (rest.dropWhile isSpace)).takeWhile isSpace = [] := by
        rcases dropWhile_isSpace_cases rest with hrest | ⟨d, rest', hrest, hd⟩
        · rw [hrest]
          rfl
        · rw [hrest, squeeze_of_not_isSpace fun _ => hd, List.takeWhile_cons_of_neg (by simp [hd])]
      rw [squeeze_of_isSpace hc, List.takeWhile_cons_of_pos (by decide), hnone,
        List.takeWhile_cons_of_pos hc]
      rfl
    | false =>
      rw [squeeze_of_not_isSpace fun _ => hc, List.takeWhile_cons_of_neg (by simp [hc]),
        List.takeWhile_cons_of_neg (by simp [hc])]
      rfl

/-- A word at the start of a text stays there, as long as it leaves the quotes as they are and has
no white space outside them. -/
theorem afterWord?_squeeze (hplace : ∀ w ∈ word, quoteAfter place w = place)
    (hspace : place = none → ∀ w ∈ word, isSpace w = false) (s : List Char) :
    afterWord? word (squeeze place s) = (afterWord? word s).map (squeeze place) := by
  induction word generalizing s with
  | nil => rfl
  | cons w word ih =>
    rw [List.forall_mem_cons] at hplace
    cases s with
    | nil => rfl
    | cons c rest =>
      by_cases hc : place = none ∧ isSpace c = true
      · -- white space is no letter of the word, neither before nor after
        obtain ⟨rfl, hc⟩ := hc
        have hw : isSpace w = false := hspace rfl w List.mem_cons_self
        have hne : ∀ d, isSpace d = true → d.toLower ≠ w := by
          rintro d hd rfl
          rw [isSpace_toLower, hd] at hw
          cases hw
        rw [squeeze_of_isSpace hc, afterWord?, afterWord?, if_neg (hne _ (by decide)),
          if_neg (hne c hc)]
        rfl
      · rw [squeeze_of_not_isSpace fun hnone => by simpa [hnone] using hc, afterWord?, afterWord?]
        split
        · have hafter : quoteAfter place c = place := by
            rw [← quoteAfter_toLower, ‹c.toLower = w›, hplace.1]
          rw [hafter]
          exact ih hplace.2 (fun hnone => (List.forall_mem_cons.1 (hspace hnone)).2) rest
        · rfl

/-- The gap at the start of a text is squeezed to one space. -/
theorem gap?_squeeze (s : List Char) : gap? (squeeze none s) = (gap? s).map fun _ => [' '] := by
  rw [gap?, gap?, afterWord?_squeeze (by decide) (fun _ => by decide)]
  cases afterWord? "without".toList s with
  | none => rfl
  | some rest =>
    simp only [Option.map_some, Option.bind_eq_bind, Option.bind_some, dropWhile_squeeze,
      takeWhile_squeeze]
    rw [afterWord?_squeeze (by decide) (fun _ => by decide)]
    cases afterWord? "rowid".toList (rest.dropWhile isSpace) with
    | none => rfl
    | some rest' =>
      by_cases hgap : rest.takeWhile isSpace = []
      · simp [hgap]
      · simp [hgap]

theorem gap?_of_isSpace {c : Char} (hc : isSpace c = true) (rest : List Char) :
    gap? (c :: rest) = none := by
  have hne : c.toLower ≠ 'w' := by
    intro h
    rw [← isSpace_toLower, h] at hc
    cases hc
  rw [gap?, show "without".toList = 'w' :: "ithout".toList from rfl, afterWord?, if_neg hne]
  rfl

theorem quoteAfter_of_isSpace {c : Char} (hc : isSpace c = true) : quoteAfter none c = none := by
  have hall : ∀ c ∈ [' ', '\t', '\n', '\x0c', '\r'], quoteAfter none c = none := by decide
  exact hall c (by simpa [isSpace] using hc)

theorem gaps_of_isSpace {c : Char} (hc : isSpace c = true) (rest : List Char) :
    gaps none (c :: rest) = gaps none rest := by
  rw [gaps, gap?_of_isSpace hc, quoteAfter_of_isSpace hc]
  rfl

theorem isQuoted_of_isSpace {c : Char} (hc : isSpace c = true) (rest : List Char) :
    isQuoted none (c :: rest) = isQuoted none rest := by
  rw [isQuoted, quoteAfter_of_isSpace hc]
  rfl

/-- Squeezed are texts by their first character: white space outside quotes is left out or becomes a
space, anything else stays. -/
theorem squeeze_cons_cases (place : Option Quote) (c : Char) (rest : List Char) :
    (place = none ∧ isSpace c = true ∧
      (squeeze place (c :: rest) = squeeze none rest ∨
        squeeze place (c :: rest) = ' ' :: squeeze none rest)) ∨
    squeeze place (c :: rest) = c :: squeeze (quoteAfter place c) rest := by
  by_cases hc : place = none ∧ isSpace c = true
  · obtain ⟨rfl, hc⟩ := hc
    refine Or.inl ⟨rfl, hc, ?_⟩
    rw [squeeze, if_pos (by simpa using hc)]
    split
    · exact Or.inl rfl
    · exact Or.inr rfl
  · exact Or.inr (squeeze_of_not_isSpace (fun hnone => by simpa [hnone] using hc) rest)

/-- Squeezing leaves the two words outside quotes where they are, one space apart. -/
theorem gaps_squeeze (place : Option Quote) (s : List Char) :
    gaps place (squeeze place s) = (gaps place s).map fun _ => [' '] := by
  induction s generalizing place with
  | nil => rfl
  | cons c rest ih =>
    rcases squeeze_cons_cases place c rest with ⟨rfl, hc, hsqueeze | hsqueeze⟩ | hsqueeze
    · rw [hsqueeze, ih, gaps_of_isSpace hc]
    · rw [hsqueeze, gaps_of_isSpace (by decide), ih, gaps_of_isSpace hc]
    · rw [hsqueeze, gaps, gaps, ih, List.map_append]
      cases place with
      | none =>
        rw [← hsqueeze, gap?_squeeze]
        cases gap? (c :: rest) <;> rfl
      | some quote => rfl

/-- Squeezing changes nothing in quotes. -/
theorem isQuoted_squeeze (place : Option Quote) (s : List Char) :
    isQuoted place (squeeze place s) = isQuoted place s := by
  induction s generalizing place with
  | nil => rfl
  | cons c rest ih =>
    rcases squeeze_cons_cases place c rest with ⟨rfl, hc, hsqueeze | hsqueeze⟩ | hsqueeze
    · rw [hsqueeze, ih, isQuoted_of_isSpace hc]
    · rw [hsqueeze, isQuoted_of_isSpace (by decide), ih, isQuoted_of_isSpace hc]
    · rw [hsqueeze, isQuoted, isQuoted, ih]
      cases place with
      | none => rfl
      | some quote =>
        have hplace : ∀ w ∈ "without rowid".toList, quoteAfter (some quote) w = some quote := by
          cases quote <;> decide
        rw [← hsqueeze, afterWord?_squeeze hplace (fun hnone => by cases hnone)]
        cases afterWord? "without rowid".toList (c :: rest) <;> rfl

/-! ## The words in lower case -/

/-- A word stands in front of all white space. -/
theorem takeWhile_of_afterWord? {w : Char} (hw : isSpace w = false)
    (h : (afterWord? (w :: word) s).isSome = true) : s.takeWhile isSpace = [] := by
  cases s with
  | nil => rfl
  | cons c rest =>
    rw [afterWord?] at h
    split at h
    · rw [← ‹c.toLower = w›, isSpace_toLower] at hw
      rw [List.takeWhile_cons_of_neg (by simp [hw])]
    · cases h

/-- One space is the gap exactly if the text starts with the two words and the space. -/
theorem gap?_eq_space_iff (s : List Char) :
    gap? s = some [' '] ↔ (afterWord? "without rowid".toList s).isSome = true := by
  have hwords : "without rowid".toList = "without".toList ++ ' ' :: "rowid".toList := rfl
  rw [hwords, afterWord?_append, gap?]
  cases afterWord? "without".toList s with
  | none => simp
  | some rest =>
    simp only [Option.bind_eq_bind, Option.bind_some]
    constructor
    · intro h
      obtain ⟨after, hafter, h⟩ := Option.bind_eq_some_iff.1 h
      have htake : rest.takeWhile isSpace = [' '] := by
        split at h
        · cases h
        · exact Option.some.inj h
      have hrest : rest = ' ' :: rest.dropWhile isSpace := by
        conv_lhs => rw [← List.takeWhile_append_dropWhile (p := isSpace) (l := rest), htake]
        rfl
      rw [hrest, afterWord?, if_pos (by decide), hafter]
      rfl
    · intro h
      cases rest with
      | nil => cases h
      | cons c rest =>
        rw [afterWord?] at h
        split at h
        · obtain rfl : c = ' ' := by
            have heq : (c.toLower == ' ') = (c == ' ') := eq_toLower (f := (· == ' ')) (by decide) c
            simpa [‹c.toLower = ' '›] using heq
          have htake : rest.takeWhile isSpace = [] := takeWhile_of_afterWord? (w := 'r') rfl h
          have hdrop : rest.dropWhile isSpace = rest := by
            conv_rhs => rw [← List.takeWhile_append_dropWhile (p := isSpace) (l := rest), htake]
            rfl
          obtain ⟨after, hafter⟩ := Option.isSome_iff_exists.1 h
          rw [List.dropWhile_cons_of_pos (by decide), List.takeWhile_cons_of_pos (by decide),
            hdrop, htake, hafter]
          rfl
        · cases h

/-- The words stand one space apart in the lower case of a text exactly if they do so in quotes or
if some gap outside quotes is one space. -/
theorem contains_withoutRowid_iff (s : List Char) :
    contains "without rowid".toList (lower s) = true ↔
      isQuoted none s = true ∨ [' '] ∈ gaps none s := by
  have hplain : IsPlain "without rowid".toList := by decide
  have hall : ∀ place, (∃ part, part <:+: s ∧ part.map Char.toLower = "without rowid".toList) ↔
      isQuoted place s = true ∨ [' '] ∈ gaps place s := by
    induction s with
    | nil => simp [isQuoted, gaps]
    | cons c rest ih =>
      intro place
      have hstart : (∃ part, part <:+: c :: rest ∧ part.map Char.toLower = "without rowid".toList) ↔
          (afterWord? "without rowid".toList (c :: rest)).isSome = true ∨
            ∃ part, part <:+: rest ∧ part.map Char.toLower = "without rowid".toList := by
        rw [isSome_afterWord?_iff]
        simp only [List.infix_cons_iff, or_and_right, exists_or]
      rw [hstart, ih (quoteAfter place c), isQuoted, gaps]
      cases place with
      | none =>
        rw [← gap?_eq_space_iff]
        simp only [Option.isSome_none, Bool.false_and, Bool.false_or, Option.isNone_none, if_true,
          List.mem_append, Option.mem_toList]
        exact or_left_comm
      | some quote => simp [or_assoc]
  rw [contains_iff_isInfix, hplain.infix_lower_iff (by decide)]
  exact hall none

end SchemaTypes.Sqlite
