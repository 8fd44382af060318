/-!
# Decimal fractions cut to integers

A decimal fraction is first rounded to the nearest binary fraction of 53 digits, ties going to the
even one, and the part behind the point is then dropped.  So `0.99999999999999999999` becomes one.
What lies beyond the range of such fractions is infinite and has no integer part.

The program cuts indices and colours of a map like this.

- `Decimal`: a signed mantissa with a power of ten.
- `Decimal.truncate?`: the integer part after rounding.
-/

namespace Mailroom.Text

/-- The number `mantissa * 10 ^ exponent`, with a sign. -/
structure Decimal where
  negative : Bool
  mantissa : Nat
  exponent : Int
  deriving DecidableEq, Repr

namespace Decimal

/-- The quotient rounded to the nearest natural number, a tie going to the even one. -/
def roundDiv (num den : Nat) : Nat :=
  let q := num / den
  let r := num % den
  if 2 * r < den then q
  else if den < 2 * r then q + 1
  else if q % 2 = 0 then q else q + 1

/-- The greatest `e` with `2 ^ e ≤ num / den`, for positive `num` and `den`. -/
def log2Quotient (num den : Nat) : Int :=
  let e : Int := (num.log2 : Int) - (den.log2 : Int)
  let fitsAt :=
    if 0 ≤ e then decide (den * Nat.pow 2 e.toNat ≤ num)
    else decide (den ≤ num * Nat.pow 2 (-e).toNat)
  if fitsAt then e else e - 1

/-- The integer part of the nearest binary fraction to `num / den`; none when it is out of range. -/
def truncateQuotient (num den : Nat) : Option Nat :=
  if num = 0 then some 0
  else
    -- the weight of the last of 53 binary digits
    let e := log2Quotient num den - 52
    let q :=
      if 0 ≤ e then roundDiv num (den * Nat.pow 2 e.toNat)
      else roundDiv (num * Nat.pow 2 (-e).toNat) den
    let whole := if 0 ≤ e then q * Nat.pow 2 e.toNat else q / Nat.pow 2 (-e).toNat
    if Nat.pow 2 1024 ≤ whole then none else some whole

/-- More than this many digits in front of the point are out of range. -/
def digitsInRange : Int := 310

/-- The integer part after rounding, or none when the number is out of range. -/
def truncate? (d : Decimal) : Option Int :=
  let size : Int := (Nat.toDigits 10 d.mantissa).length + d.exponent
  let whole :=
    if d.mantissa = 0 ∨ size < -1 then some 0
    else if digitsInRange < size then none
    else if 0 ≤ d.exponent then truncateQuotient (d.mantissa * Nat.pow 10 d.exponent.toNat) 1
    else truncateQuotient d.mantissa (Nat.pow 10 (-d.exponent).toNat)
  whole.map fun n => if d.negative then -(n : Int) else n

end Decimal

end Mailroom.Text
