import SchemaTypes.Binary64.Shortest

set_option autoImplicit false

/-! # The text of a double

The shortest digits, positional from `0.0001` up to sixteen digits before the point and with an
exponent of at least two digits otherwise. A positional number has at least one digit after the
point.
-/

namespace SchemaTypes.Binary64

/-- The digits of a decimal without the zeros at its end, and the position of the point after the
first digit: `d₁d₂… , k` stands for `d₁.d₂… * 10 ^ k`. -/
def scientific (d : Decimal) : List Char × Int :=
  let all := Nat.toDigits 10 d.digits
  let digits := (all.reverse.dropWhile (· == '0')).reverse
  (if digits.isEmpty then ['0'] else digits, d.exponent + all.length - 1)

/-- Positional notation ends at this power of ten. -/
def positionalBelow : Int := 16

/-- Positional notation starts at this power of ten. -/
def positionalFrom : Int := -4

/-- Digits with a point after the digit of weight `10 ^ 0`, the first one having weight `10 ^ k`. -/
def positional (digits : List Char) (k : Int) : List Char :=
  if k < 0 then ['0', '.'] ++ List.replicate (-k - 1).toNat '0' ++ digits
  else
    let n := k.toNat + 1
    let whole := digits.take n ++ List.replicate (n - digits.length) '0'
    let fraction := digits.drop n
    whole ++ '.' :: (if fraction.isEmpty then ['0'] else fraction)

/-- A decimal exponent with its sign and at least two digits. -/
def exponentText (k : Int) : List Char :=
  let digits := Nat.toDigits 10 k.natAbs
  (if k < 0 then '-' else '+') :: (if digits.length < 2 then '0' :: digits else digits)

/-- Digits with the point after the first one and a power of ten. -/
def exponential (digits : List Char) (k : Int) : List Char :=
  let mantissa := match digits with
    | [] => []
    | [d] => [d]
    | d :: rest => d :: '.' :: rest
  mantissa ++ 'e' :: exponentText k

/-- The text of a number. -/
def text : Binary64 → String
  | .nan => "nan"
  | .infinite negative => if negative then "-inf" else "inf"
  | .finite negative significand exponent =>
    let (digits, k) :=
      if significand = 0 then (['0'], 0) else scientific (shortest significand exponent)
    let body := if positionalFrom ≤ k && k < positionalBelow then positional digits k
      else exponential digits k
    String.ofList (if negative then '-' :: body else body)

end SchemaTypes.Binary64
