import Mathlib.Tactic.IntervalCases
import SchemaTypes.Text.Utf8

set_option autoImplicit false

/-! # Reading UTF-8 back

The bytes that encode a character take the machine from between two characters to between two
characters, and the character is all that it yields on the way (`run_encodeChar`). Hence every text
is read back from its bytes (`decode?_encode`).
-/

namespace SchemaTypes.Text.Utf8

/-- The bytes of a text. -/
def encode (s : String) : List UInt8 := s.toList.flatMap String.utf8EncodeChar

/-- The byte that starts a character of three bytes. -/
theorem first_of_three : ∀ b, 0xE0 ≤ b → b ≤ 0xEF → first b = ([], .inside 1
    (if b = 0xE0 then 0xA0 else 0x80) (if b = 0xED then 0x9F else 0xBF) (b - 0xE0)) := by
  intro b hlow hhigh
  interval_cases b <;> rfl

/-- The byte that starts a character of four bytes. -/
theorem first_of_four : ∀ b, 0xF0 ≤ b → b ≤ 0xF4 → first b = ([], .inside 2
    (if b = 0xF0 then 0x90 else 0x80) (if b = 0xF4 then 0x8F else 0xBF) (b - 0xF0)) := by
  intro b hlow hhigh
  interval_cases b <;> rfl

theorem toNat_ofNat {n : Nat} (h : n < 256) : (UInt8.ofNat n).toNat = n := by
  rw [UInt8.toNat_ofNat', Nat.mod_eq_of_lt h]

theorem toNat_tail (n : Nat) : (UInt8.ofNat (n % 64 + 128)).toNat = n % 64 + 128 :=
  toNat_ofNat (by omega)

section

variable {low high bits n : Nat} {b : UInt8} {rest : List UInt8}

theorem run_start {state : State} (hb : b.toNat = n) (h : first n = ([], state)) :
    run .start (b :: rest) = run state rest := by
  rw [run, step, hb, h]
  rfl

/-- A byte inside a character. -/
theorem run_inside {more : Nat} (hlow : low ≤ n % 64 + 128) (hhigh : n % 64 + 128 ≤ high) :
    run (.inside (more + 1) low high bits) (UInt8.ofNat (n % 64 + 128) :: rest)
      = run (.inside more 0x80 0xBF (bits * 64 + n % 64)) rest := by
  rw [run, step, toNat_tail, if_pos (by simp [hlow, hhigh]), Nat.add_sub_cancel]
  rfl

/-- The last byte of a character. -/
theorem run_last (hlow : low ≤ n % 64 + 128) (hhigh : n % 64 + 128 ≤ high) :
    run (.inside 0 low high bits) (UInt8.ofNat (n % 64 + 128) :: rest)
      = some (Char.ofNat (bits * 64 + n % 64)) :: run .start rest := by
  rw [run, step, toNat_tail, if_pos (by simp [hlow, hhigh]), Nat.add_sub_cancel]
  rfl

/-! ## Characters by the number of their bytes -/

theorem run_one (h : n < 0x80) :
    run .start (UInt8.ofNat n :: rest) = some (Char.ofNat n) :: run .start rest := by
  rw [run, step, toNat_ofNat (by omega), first, if_pos h]
  rfl

theorem run_two (hlow : 0x80 ≤ n) (hhigh : n < 0x800) :
    run .start (UInt8.ofNat (n / 64 % 32 + 192) :: UInt8.ofNat (n % 64 + 128) :: rest)
      = some (Char.ofNat n) :: run .start rest := by
  have hfirst : first (n / 64 % 32 + 192)
      = ([], .inside 0 0x80 0xBF (n / 64 % 32 + 192 - 0xC0)) := by
    rw [first, if_neg (by omega), if_pos (by simp; omega)]
  have hnumber : (n / 64 % 32 + 192 - 0xC0) * 64 + n % 64 = n := by omega
  rw [run_start (toNat_ofNat (by omega)) hfirst, run_last (by omega) (by omega), hnumber]

theorem run_three (hlow : 0x800 ≤ n) (hhigh : n < 0x10000) (hsurrogate : n < 0xD800 ∨ 0xDFFF < n) :
    run .start (UInt8.ofNat (n / 4096 % 16 + 224) :: UInt8.ofNat (n / 64 % 64 + 128)
        :: UInt8.ofNat (n % 64 + 128) :: rest)
      = some (Char.ofNat n) :: run .start rest := by
  have hfirst := first_of_three (n / 4096 % 16 + 224) (by omega) (by omega)
  have hnumber : ((n / 4096 % 16 + 224 - 0xE0) * 64 + n / 64 % 64) * 64 + n % 64 = n := by omega
  rw [run_start (toNat_ofNat (by omega)) hfirst,
    run_inside (by split <;> omega) (by split <;> omega), run_last (by omega) (by omega), hnumber]

theorem run_four (hlow : 0x10000 ≤ n) (hhigh : n < 0x110000) :
    run .start (UInt8.ofNat (n / 262144 % 8 + 240) :: UInt8.ofNat (n / 4096 % 64 + 128)
        :: UInt8.ofNat (n / 64 % 64 + 128) :: UInt8.ofNat (n % 64 + 128) :: rest)
      = some (Char.ofNat n) :: run .start rest := by
  have hfirst := first_of_four (n / 262144 % 8 + 240) (by omega) (by omega)
  have hnumber : (((n / 262144 % 8 + 240 - 0xF0) * 64 + n / 4096 % 64) * 64 + n / 64 % 64) * 64
      + n % 64 = n := by omega
  rw [run_start (toNat_ofNat (by omega)) hfirst,
    run_inside (by split <;> omega) (by split <;> omega), run_inside (by omega) (by omega),
    run_last (by omega) (by omega), hnumber]

end

/-! ## Texts -/

/-- The bytes of a character yield the character. -/
theorem run_encodeChar (c : Char) (rest : List UInt8) :
    run .start (String.utf8EncodeChar c ++ rest) = some c :: run .start rest := by
  have hvalid : c.val.toNat < 0xD800 ∨ 0xDFFF < c.val.toNat ∧ c.val.toNat < 0x110000 := c.valid
  have hchar : Char.ofNat c.val.toNat = c := Char.ofNat_toNat c
  unfold String.utf8EncodeChar
  -- from here on the character is a number that is below the last one and no surrogate
  generalize c.val.toNat = n at *
  subst hchar
  dsimp only
  split_ifs with hone htwo hthree
  · exact run_one (by omega)
  · exact run_two (by omega) (by omega)
  · exact run_three (by omega) (by omega) (by omega)
  · exact run_four (by omega) (by omega)

/-- The bytes of characters yield the characters. -/
theorem run_encode (chars : List Char) :
    run .start (chars.flatMap String.utf8EncodeChar) = chars.map some := by
  induction chars with
  | nil => rfl
  | cons c rest ih => rw [List.flatMap_cons, run_encodeChar, ih, List.map_cons]

/-- A text is read back from its bytes. -/
theorem decode?_encode (s : String) : decode? (encode s) = some s.toList := by
  have hsome : s.toList.mapM (id ∘ some) = some (s.toList.map id) := List.mapM_pure
  rw [decode?, encode, run_encode, List.mapM_map, hsome, List.map_id]

end SchemaTypes.Text.Utf8
