import ReturnPaths.Decimal.Binary64

/-!
# The shortest decimal text of a floating point number

A magnitude is written with the fewest digits that read back as the same magnitude: the multiples
of the largest power of ten that has one in the interval of numbers that round to the magnitude.
Of several such multiples the nearest is taken, and of two equally near ones the even one.

* `Binary64.shortest` : these digits, with the power of ten that they count.
* `Binary64.render` : the text, positional from `10 ^ -5` up to `10 ^ 16` and in scientific
  notation elsewhere.
-/

namespace ReturnPaths.Binary64

/-- The interval of numbers that round to a magnitude, as two multiples of
`2 ^ (exponent - 2)`.  Below a power of two the magnitudes lie twice as close. -/
def interval (a : Binary64) : Nat × Nat :=
  let below := if a.mantissa = 1 <<< 52 ∧ a.exponent > -1074 then 1 else 2
  (4 * a.mantissa - below, 4 * a.mantissa + 2)

/-- The multiple of `10 ^ power` nearest to the magnitude, if it lies in its interval; the ends
belong to the interval if the mantissa is even. -/
def multiple? (a : Binary64) (power : Int) : Option Nat :=
  let (low, high) := a.interval
  let (unit, scale) := scaled (Nat.pow 10 (-power).toNat) (Nat.pow 10 power.toNat) (a.exponent - 2)
  let within (n : Nat) : Bool :=
    if a.mantissa % 2 = 0 then low * unit ≤ n * scale && n * scale ≤ high * unit
    else low * unit < n * scale && n * scale < high * unit
  let floor := 4 * a.mantissa * unit / scale
  let nearest := roundDiv (4 * a.mantissa * unit) scale
  [nearest, floor, floor + 1].find? within

/-- The first hit on the grids of `10 ^ power` and the `steps` finer ones. -/
def search (a : Binary64) (power : Int) : Nat → Nat × Int
  | 0 => (0, 0)
  | steps + 1 =>
    match a.multiple? power with
    | some n => (n, power)
    | none => a.search (power - 1) steps

/-- The fewest digits that read back as a magnitude above zero, and the power of ten that they
count. -/
def shortest (a : Binary64) : Nat × Int :=
  a.search 308 660

/-- A count of zeros. -/
def zeros (n : Nat) : String :=
  String.ofList (List.replicate n '0')

/-- The text of `digits * 10 ^ power`. -/
def renderDigits (digits : String) (power : Int) : String :=
  let length : Int := digits.length
  let scale := length - 1 + power
  if scale < -5 ∨ 15 < scale then
    let fraction := if digits.length > 1 then "." ++ (digits.drop 1).toString else ""
    let sign := if scale < 0 then "-" else "+"
    (digits.take 1).toString ++ fraction ++ "e" ++ sign ++ toString scale.natAbs
  else if scale < 0 then
    "0." ++ zeros (-scale - 1).toNat ++ digits
  else if 0 ≤ power then
    digits ++ zeros power.toNat ++ ".0"
  else
    let whole := (scale + 1).toNat
    (digits.take whole).toString ++ "." ++ (digits.drop whole).toString

/-- The text of a number with this sign and magnitude. -/
def render (negative : Bool) (a : Binary64) : String :=
  let text :=
    if a.mantissa = 0 then "0.0"
    else
      let (digits, power) := a.shortest
      renderDigits (toString digits) power
  if negative then "-" ++ text else text

end ReturnPaths.Binary64
