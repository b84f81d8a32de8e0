/-!
# Binary floating point with 53 bits

A magnitude that a 64-bit floating point number can have is `mantissa * 2 ^ exponent` for a
mantissa below `2 ^ 53` and an exponent from `-1074` to `971`.  All arithmetic here is exact
arithmetic of natural numbers followed by one rounding, to the nearest magnitude and to the even
mantissa where two are equally near.

* `Binary64.nearest` : the magnitude nearest to a fraction, if it does not lie beyond the largest.
* `Binary64.ofDecimal` : the magnitude that the reading of a number in decimal notation settles
  on.  The digits are rounded first and the result is then multiplied or divided by a rounded
  power of ten, so it need not be the magnitude nearest to the number as it is written.
-/

namespace ReturnPaths

/-- The magnitude `mantissa * 2 ^ exponent`. -/
structure Binary64 where
  /-- The mantissa, below `2 ^ 53`. -/
  mantissa : Nat
  /-- The exponent, from `-1074` to `971`. -/
  exponent : Int
  deriving DecidableEq, Repr

namespace Binary64

/-- The numerator and denominator of `num / den * 2 ^ exponent`. -/
def scaled (num den : Nat) (exponent : Int) : Nat × Nat :=
  (num <<< exponent.toNat, den <<< (-exponent).toNat)

/-- The quotient of two numbers, rounded to the nearest and to the even one of two. -/
def roundDiv (num den : Nat) : Nat :=
  let quotient := num / den
  let rest := 2 * (num % den)
  if rest > den || (rest == den && quotient % 2 == 1) then quotient + 1 else quotient

/-- The magnitude nearest to `num / den`, or nothing if that lies beyond the largest one. -/
def nearest (num den : Nat) : Option Binary64 :=
  if num = 0 then some ⟨0, -1074⟩
  else
    let guess : Int := (Nat.log2 num : Int) - (Nat.log2 den : Int) - 53
    let (n, d) := scaled num den (-guess)
    let exponent := max (-1074) (if n / d < 1 <<< 53 then guess else guess + 1)
    let (n, d) := scaled num den (-exponent)
    let mantissa := roundDiv n d
    let (mantissa, exponent) :=
      if mantissa = 1 <<< 53 then (1 <<< 52, exponent + 1) else (mantissa, exponent)
    if exponent > 971 then none else some ⟨mantissa, exponent⟩

/-- A power of ten from `10 ^ 0` to `10 ^ 308`, rounded. -/
def power (n : Nat) : Binary64 :=
  (nearest (Nat.pow 10 n) 1).getD ⟨0, -1074⟩

/-- The rounded product, or nothing if it lies beyond the largest magnitude. -/
def mul (a b : Binary64) : Option Binary64 :=
  let (n, d) := scaled (a.mantissa * b.mantissa) 1 (a.exponent + b.exponent)
  nearest n d

/-- The rounded quotient; a quotient of magnitudes of at least one is never too large. -/
def div (a b : Binary64) : Binary64 :=
  let (n, d) := scaled a.mantissa b.mantissa (a.exponent - b.exponent)
  (nearest n d).getD a

/-- Divides by `10 ^ n`, in steps of `10 ^ 308`, until nothing is left to divide. -/
def scaleDown (a : Binary64) (n : Nat) : Binary64 :=
  if a.mantissa = 0 then a
  else if n ≤ 308 then a.div (power n)
  else (a.div (power 308)).scaleDown (n - 308)
termination_by n

/-- The magnitude of `digits * 10 ^ exponent`, or nothing if that is out of range. -/
def ofDecimal (digits : Nat) (exponent : Int) : Option Binary64 := do
  let whole ← nearest digits 1
  if exponent < 0 then return whole.scaleDown exponent.natAbs
  else if exponent ≤ 308 then whole.mul (power exponent.toNat)
  else if digits = 0 then return whole
  else none

end Binary64

end ReturnPaths
