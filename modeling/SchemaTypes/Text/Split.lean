set_option autoImplicit false

/-! # Searching and splitting texts -/

namespace SchemaTypes.Text

/-- `pattern` occurs in `s` as a run of neighbours. -/
def contains (pattern : List Char) : List Char → Bool
  | [] => pattern.isEmpty
  | c :: rest => pattern.isPrefixOf (c :: rest) || contains pattern rest

/-- The pieces of a text between the characters that satisfy `p`, empty pieces included. -/
def split (p : Char → Bool) : List Char → List (List Char)
  | [] => [[]]
  | c :: rest =>
    if p c then [] :: split p rest
    else match split p rest with
      | [] => [[c]]
      | piece :: pieces => (c :: piece) :: pieces

/-- The pieces of a text between the characters that satisfy `p`, empty pieces left out. -/
def words (p : Char → Bool) (s : List Char) : List (List Char) :=
  (split p s).filter fun piece => !piece.isEmpty

/-- What stands before and after the first `c`; all of `s` and `none` if there is no `c`. -/
def cutFirst (c : Char) (s : List Char) : List Char × Option (List Char) :=
  match s.dropWhile (· != c) with
  | [] => (s, none)
  | _ :: rest => (s.takeWhile (· != c), some rest)

/-- What stands before and after the last `c`; `none` and all of `s` if there is no `c`. -/
def cutLast (c : Char) (s : List Char) : Option (List Char) × List Char :=
  match s.reverse.dropWhile (· != c) with
  | [] => (none, s)
  | _ :: rest => (some rest.reverse, (s.reverse.takeWhile (· != c)).reverse)

theorem split_ne_nil (p : Char → Bool) (s : List Char) : split p s ≠ [] := by
  induction s with
  | nil => simp [split]
  | cons c rest ih =>
    rw [split]
    split
    · simp
    · split <;> simp

theorem split_append_cons {p : Char → Bool} {c : Char} (hc : p c = true) (s t : List Char) :
    split p (s ++ c :: t) = split p s ++ split p t := by
  induction s with
  | nil => simp [split, hc]
  | cons d rest ih =>
    rw [List.cons_append, split, split, ih]
    split
    · rfl
    · cases h : split p rest with
      | nil => exact absurd h (split_ne_nil p rest)
      | cons piece pieces => rfl

theorem contains_iff_isInfix {pattern s : List Char} :
    contains pattern s = true ↔ pattern <:+: s := by
  induction s with
  | nil => simp [contains, List.isEmpty_iff]
  | cons c rest ih =>
    rw [contains, Bool.or_eq_true, ih, List.isPrefixOf_iff_prefix, List.infix_cons_iff]

end SchemaTypes.Text
