set_option autoImplicit false

/-! # Reading UTF-8

A machine that reads bytes one at a time and yields a character for every well-formed sequence and
`none` for every longest run of bytes that starts one and does not complete it. Reading strictly
refuses the latter, reading leniently puts a replacement character in its place.
-/

namespace SchemaTypes.Text.Utf8

/-- Where the machine stands between two bytes. -/
inductive State where
  /-- Between characters. -/
  | start
  /-- Inside a character: `more + 1` bytes are still to come, the next one between `low` and
  `high`. -/
  | inside (more low high bits : Nat)
  deriving DecidableEq, Repr

/-- The first byte of a sequence: what it yields, and the state after it. The range of the second
byte excludes overlong forms, surrogates and what lies beyond Unicode. -/
def first (b : Nat) : List (Option Char) × State :=
  if b < 0x80 then ([some (Char.ofNat b)], .start)
  else if 0xC2 ≤ b && b ≤ 0xDF then ([], .inside 0 0x80 0xBF (b - 0xC0))
  else if b = 0xE0 then ([], .inside 1 0xA0 0xBF 0)
  else if b = 0xED then ([], .inside 1 0x80 0x9F 0xD)
  else if 0xE1 ≤ b && b ≤ 0xEF then ([], .inside 1 0x80 0xBF (b - 0xE0))
  else if b = 0xF0 then ([], .inside 2 0x90 0xBF 0)
  else if 0xF1 ≤ b && b ≤ 0xF3 then ([], .inside 2 0x80 0xBF (b - 0xF0))
  else if b = 0xF4 then ([], .inside 2 0x80 0x8F 4)
  else ([none], .start)

/-- One byte: what it yields, and the state after it. A byte that does not continue a sequence ends
it and starts another one. -/
def step : State → Nat → List (Option Char) × State
  | .start, b => first b
  | .inside more low high bits, b =>
    if low ≤ b && b ≤ high then
      let bits := bits * 64 + (b - 0x80)
      match more with
      | 0 => ([some (Char.ofNat bits)], .start)
      | more + 1 => ([], .inside more 0x80 0xBF bits)
    else
      let (out, next) := first b
      (none :: out, next)

/-- What is yielded where the bytes end. -/
def finish : State → List (Option Char)
  | .start => []
  | .inside _ _ _ _ => [none]

/-- What bytes yield from a state on. -/
def run : State → List UInt8 → List (Option Char)
  | state, [] => finish state
  | state, b :: rest =>
    let (out, next) := step state b.toNat
    out ++ run next rest

/-- The text that bytes encode; none if they are not UTF-8. -/
def decode? (bytes : List UInt8) : Option (List Char) := (run .start bytes).mapM id

/-- The character that stands for what cannot be read. -/
def replacement : Char := '\uFFFD'

end SchemaTypes.Text.Utf8
