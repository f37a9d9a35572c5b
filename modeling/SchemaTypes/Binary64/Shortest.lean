import SchemaTypes.Binary64.Basic

set_option autoImplicit false

/-! # Shortest decimal digits

The fewest decimal digits that determine a finite number among all doubles, and of the decimals with
so many digits the one nearest to it. Everything is compared in exact arithmetic, in quarters of the
unit in the last place.
-/

namespace SchemaTypes.Binary64

/-- `digits * 10 ^ exponent`. -/
structure Decimal where
  digits : Nat
  exponent : Int
  deriving DecidableEq, Repr

/-- `a * 10 ^ p ≤ num / den` -/
def decimalLe (a : Nat) (p : Int) (num den : Nat) : Bool :=
  if 0 ≤ p then a * Nat.pow 10 p.toNat * den ≤ num else a * den ≤ num * Nat.pow 10 (-p).toNat

/-- The exponent `k` with `10 ^ k ≤ num / den < 10 ^ (k + 1)`, found near an estimate by
logarithms. -/
def decimalExponent (num den : Nat) : Int :=
  let estimate : Int := ((num.log2 : Int) - den.log2) * 30103 / 100000
  (([2, 1, 0, -1].map (estimate + ·)).find? fun k => decimalLe 1 k num den).getD (estimate - 2)

/-- The interval of reals that round to `significand * 2 ^ exponent`: its ends in quarters of a
unit, and whether they belong to it. The lower neighbour of a power of two is half as far as the
upper one. -/
def roundingInterval (significand : Nat) (exponent : Int) : Nat × Nat × Bool :=
  let low := if significand = Nat.pow 2 52 && minExponent < exponent then 4 * significand - 1
    else 4 * significand - 2
  (low, 4 * significand + 2, significand % 2 == 0)

/-- The value `a * 10 ^ p` as a multiple of `2 ^ e`, a fraction. -/
def inUnits (a : Nat) (p e : Int) : Nat × Nat :=
  let (n, d) := if 0 ≤ p then (a * Nat.pow 10 p.toNat, 1) else (a, Nat.pow 10 (-p).toNat)
  scaleDown n d e

/-- `a * 10 ^ p` rounds to `significand * 2 ^ exponent`. -/
def readsBack (significand : Nat) (exponent : Int) (a : Nat) (p : Int) : Bool :=
  let (low, high, closed) := roundingInterval significand exponent
  let (n, d) := inUnits a p (exponent - 2)
  if closed then low * d ≤ n && n ≤ high * d else low * d < n && n < high * d

/-- Of the two neighbours of the value on the grid of multiples of `10 ^ p`, the nearer one that
reads back; of two equally near ones the even one. -/
def onGrid (significand : Nat) (exponent : Int) (p : Int) : Option Nat :=
  let (num, den) := inUnits 1 p exponent
  let a := significand * den / num
  let rest := significand * den % num
  let below := readsBack significand exponent a p
  let above := readsBack significand exponent (a + 1) p
  if below && above then
    some (if 2 * rest < num || (2 * rest == num && a % 2 == 0) then a else a + 1)
  else if below then some a
  else if above then some (a + 1)
  else none

/-- The shortest decimal of `significand * 2 ^ exponent`: the coarsest of the grids of one to
seventeen digits that has a neighbour which reads back. -/
def shortest (significand : Nat) (exponent : Int) : Decimal :=
  let (num, den) := scaleDown significand 1 (-exponent)
  let k := decimalExponent num den
  let grids := (List.range 17).map fun (n : Nat) => k - (n : Int)
  (grids.findSome? fun p => (onGrid significand exponent p).map (Decimal.mk · p)).getD
    ⟨significand, exponent⟩

end SchemaTypes.Binary64
