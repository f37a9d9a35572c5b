import SchemaTypes.Text.CaseTable

set_option autoImplicit false

/-! # Upper and lower case

The full case mappings of Unicode: a character may map to several, and a capital sigma becomes a
final sigma at the end of a word. ASCII characters are mapped without a look at the tables.
-/

namespace SchemaTypes.Text

/-- The image of code point `n` in a mapping table. -/
def imageIn (rows : List (Nat × Nat × Nat × Nat)) (n : Nat) : Option Nat :=
  rows.findSome? fun (first, last, step, image) =>
    if first ≤ n && n ≤ last && (n - first) % step == 0 then some (image + (n - first)) else none

/-- Whether code point `n` lies in a range of a property table. -/
def inRows (rows : List (Nat × Nat)) (n : Nat) : Bool :=
  rows.any fun (first, last) => first ≤ n && n ≤ last

def isCased (c : Char) : Bool := inRows casedRows c.toNat

def isCaseIgnorable (c : Char) : Bool := inRows caseIgnorableRows c.toNat

/-- The lower case of a character out of context. -/
def lowerChar (c : Char) : List Char :=
  if c.toNat < 128 then [c.toLower]
  else if c.toNat = 0x130 then ['i', '\u0307']
  else match imageIn lowerRows c.toNat with
    | some n => [Char.ofNat n]
    | none => [c]

/-- The upper case of a character. -/
def upperChar (c : Char) : List Char :=
  if c.toNat < 128 then [c.toUpper]
  else match upperExpansions.lookup c.toNat with
    | some ns => ns.map Char.ofNat
    | none =>
      match imageIn upperRows c.toNat with
      | some n => [Char.ofNat n]
      | none => [c]

/-- The first character of `s` that is not ignorable has a case. -/
def meetsCased (s : List Char) : Bool :=
  match s.dropWhile isCaseIgnorable with
  | [] => false
  | c :: _ => isCased c

/-- Where a capital sigma ends a word: a cased letter before it, looking from the sigma, and none
after it, ignorable characters skipped. -/
def endsWord (before after : List Char) : Bool := meetsCased before && !meetsCased after

/-- The lower case of a text, `before` being what precedes it, last character first. -/
def lowerAfter (before : List Char) : List Char → List Char
  | [] => []
  | c :: rest =>
    (if c.toNat = 0x3A3 then [if endsWord before rest then 'ς' else 'σ'] else lowerChar c)
      ++ lowerAfter (c :: before) rest

/-- The lower case of a text. -/
def lower (s : List Char) : List Char := lowerAfter [] s

/-- The upper case of a text. -/
def upper (s : List Char) : List Char := s.flatMap upperChar

theorem lowerChar_of_ascii {c : Char} (h : c.toNat < 128) : lowerChar c = [c.toLower] := by
  simp [lowerChar, h]

theorem upperChar_of_ascii {c : Char} (h : c.toNat < 128) : upperChar c = [c.toUpper] := by
  simp [upperChar, h]

theorem lowerAfter_of_ascii (s : List Char) (h : ∀ c ∈ s, c.toNat < 128) (before : List Char) :
    lowerAfter before s = s.map Char.toLower := by
  induction s generalizing before with
  | nil => rfl
  | cons c rest ih =>
    have hc := h c (by simp)
    have hs : c.toNat ≠ 0x3A3 := by omega
    rw [lowerAfter, if_neg hs, lowerChar_of_ascii hc, ih fun d hd => h d (by simp [hd])]
    rfl

theorem lower_of_ascii {s : List Char} (h : ∀ c ∈ s, c.toNat < 128) :
    lower s = s.map Char.toLower :=
  lowerAfter_of_ascii s h []

theorem upper_of_ascii {s : List Char} (h : ∀ c ∈ s, c.toNat < 128) :
    upper s = s.map Char.toUpper := by
  induction s with
  | nil => rfl
  | cons c rest ih =>
    rw [upper, List.flatMap_cons, upperChar_of_ascii (h c (by simp)), ← upper,
      ih fun d hd => h d (by simp [hd])]
    rfl

end SchemaTypes.Text
