import ReturnPaths.Decimal.Binary64
import ReturnPaths.Toml.Text
import ReturnPaths.Toml.Value

/-!
# Numbers of TOML

* `readNumber` : the integer or floating point number at the start of a text.

Integers are decimal, with a sign and no leading zeros, or start with `0x`, `0o` or `0b`; they fit
64 bits with a sign.  Floating point numbers have a fraction, an exponent or both; `inf` and `nan`
are written as such, and a positive number that rounds to infinity is refused.  A single underscore
may stand between two digits.
-/

namespace ReturnPaths.Toml

open Text (hexValue? digitsValue)

/-- Whether a character is a digit of some base. -/
def isDigitOf (base : Nat) (c : Char) : Bool :=
  (hexValue? c).any (· < base)

/-- Puts a digit in front of those that were read. -/
def addDigit (c : Char) (read : List Char × List Char) : List Char × List Char :=
  (c :: read.1, read.2)

/-- Reads the digits that follow a digit; each underscore has one after it. -/
def readMoreDigits (base : Nat) : List Char → Option (List Char × List Char)
  | [] => some ([], [])
  | ['_'] => none
  | '_' :: c :: rest =>
    if isDigitOf base c then (readMoreDigits base rest).map (addDigit c)
    else none
  | c :: rest =>
    if isDigitOf base c then (readMoreDigits base rest).map (addDigit c)
    else some ([], c :: rest)

/-- Reads digits, at least one. -/
def readDigits (base : Nat) : List Char → Option (List Char × List Char)
  | [] => none
  | c :: rest =>
    if isDigitOf base c then (readMoreDigits base rest).map (addDigit c)
    else none

/-- Reads the digits before a point; a zero that leads them is the only one. -/
def readWhole : List Char → Option (List Char × List Char)
  | '0' :: rest => some (['0'], rest)
  | text => readDigits 10 text

/-- Splits a sign off; the flag tells whether it is a minus. -/
def splitSign : List Char → Bool × List Char
  | '-' :: rest => (true, rest)
  | '+' :: rest => (false, rest)
  | rest => (false, rest)

/-- The least and the greatest integer fit 64 bits with a sign. -/
def fitsWord (value : Int) : Bool :=
  -(1 <<< 63 : Nat) ≤ value && value < (1 <<< 63 : Nat)

/-- Reads an integer of some base after its leading `0` and letter. -/
def readBased (base : Nat) (text : List Char) : Option (Value × List Char) := do
  let (digits, rest) ← readDigits base text
  let value := digitsValue base digits
  if fitsWord value then return (.integer value, rest) else none

/-- Whether `digits * 10 ^ exponent` rounds to infinity.  A number below `10 ^ 308` does not, and
one from `10 ^ 309` on does. -/
def roundsToInfinity (digits : Nat) (exponent : Int) : Bool :=
  let size := (Nat.toDigits 10 digits).length + exponent
  let exact := Binary64.nearest (digits * Nat.pow 10 exponent.toNat) (Nat.pow 10 (-exponent).toNat)
  digits ≠ 0 && (310 ≤ size || (size == 309 && exact.isNone))

/-- Reads a fraction, if there is one. -/
def readFraction : List Char → Option (List Char × List Char)
  | '.' :: rest => readDigits 10 rest
  | rest => some ([], rest)

/-- Reads an exponent, if there is one. -/
def readExponent : List Char → Option (Int × List Char)
  | 'e' :: rest | 'E' :: rest => do
    let (negative, rest) := splitSign rest
    let (digits, rest) ← readDigits 10 rest
    let value : Int := digitsValue 10 digits
    return (if negative then -value else value, rest)
  | rest => some (0, rest)

/-- Reads a decimal number. -/
def readDecimal (text : List Char) : Option (Value × List Char) := do
  let (negative, unsigned) := splitSign text
  let (whole, rest) ← readWhole unsigned
  match rest with
  | '.' :: _ | 'e' :: _ | 'E' :: _ =>
    let (fraction, rest) ← readFraction rest
    let (exponent, rest) ← readExponent rest
    let digits := digitsValue 10 (whole ++ fraction)
    if !negative && roundsToInfinity digits (exponent - fraction.length) then none
    else return (.float (written text rest), rest)
  | rest =>
    let value : Int := digitsValue 10 whole
    let value := if negative then -value else value
    if fitsWord value then return (.integer value, rest) else none

/-- Reads a number. -/
def readNumber (text : List Char) : Option (Value × List Char) :=
  match text with
  | '0' :: 'x' :: rest => readBased 16 rest
  | '0' :: 'o' :: rest => readBased 8 rest
  | '0' :: 'b' :: rest => readBased 2 rest
  | text =>
    match splitSign text with
    | (_, 'i' :: 'n' :: 'f' :: rest) => some (.float (written text rest), rest)
    | (_, 'n' :: 'a' :: 'n' :: rest) => some (.float (written text rest), rest)
    | _ => readDecimal text

end ReturnPaths.Toml
