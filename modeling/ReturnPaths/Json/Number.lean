import ReturnPaths.Json.Fault
import ReturnPaths.Text.Digits

/-!
# Reading JSON numbers

* `readNumber` gives the value of a number.  A number without fraction and exponent is exact as
  long as it fits 64 bits, signed if it is negative; any other is a floating point number, `-0`
  included.  The digits of a floating point number count only as long as they fit 64 bits.
* `skipNumber` passes over a number that is not looked at, whatever its size.

Both start after the sign of a negative number.
-/

namespace ReturnPaths.Json

open Text (digitValue)

/-- The value of a number. -/
inductive Number where
  /-- A number below `2 ^ 64`. -/
  | natural (value : Nat)
  /-- The negation of a number from 1 to `2 ^ 63`. -/
  | negative (value : Nat)
  /-- A floating point number. -/
  | float (negative : Bool) (magnitude : Binary64)
  deriving DecidableEq, Repr

/-- The leading digits of a text, and what follows them. -/
def takeDigits (text : List Char) : List Char × List Char :=
  text.span Char.isDigit

/-- Appends digits to a number as long as it stays below a limit; gives the digits left over. -/
def absorb (limit value : Nat) : List Char → Nat × List Char
  | [] => (value, [])
  | c :: digits =>
    let next := 10 * value + digitValue c
    if next < limit then absorb limit next digits else (value, c :: digits)

/-- The limit of exact numbers. -/
def wordLimit : Nat := 1 <<< 64

/-- The floating point number `digits * 10 ^ exponent`, in front of a rest. -/
def floatOf (positive : Bool) (digits : Nat) (exponent : Int) (rest : List Char) :
    Except Fault (Number × List Char) :=
  match Binary64.ofDecimal digits exponent with
  | some magnitude => .ok (.float (!positive) magnitude, rest)
  | none => .error (.before rest .numberTooLarge)

/-- Reads an exponent after its `e`; the number so far is `digits * 10 ^ shift`.  An exponent that
does not fit 32 bits makes zero of the number, or is out of range. -/
def readExponent (positive : Bool) (digits : Nat) (shift : Int) (text : List Char) :
    Except Fault (Number × List Char) :=
  let (up, text) := match text with
    | '+' :: rest => (true, rest)
    | '-' :: rest => (false, rest)
    | rest => (true, rest)
  match takeDigits text with
  | ([], []) => .error (.before [] .endInValue)
  | ([], rest) => .error (.here rest .invalidNumber)
  | (exponent, rest) =>
    match absorb (1 <<< 31) 0 exponent with
    | (exponent, []) =>
      floatOf positive digits (if up then shift + exponent else shift - exponent) rest
    | (_, _ :: more) =>
      if digits ≠ 0 && up then .error (.before (more ++ rest) .numberTooLarge)
      else .ok (.float (!positive) ⟨0, -1074⟩, rest)

/-- Reads a fraction after its point; the number so far is `digits * 10 ^ shift`. -/
def readFraction (positive : Bool) (digits : Nat) (shift : Int) (text : List Char) :
    Except Fault (Number × List Char) :=
  match takeDigits text with
  | ([], []) => .error (.before [] .endInValue)
  | ([], rest) => .error (.here rest .invalidNumber)
  | (fraction, rest) =>
    let (digits, ignored) := absorb wordLimit digits fraction
    let shift := shift - (fraction.length - ignored.length : Nat)
    match rest with
    | 'e' :: rest | 'E' :: rest => readExponent positive digits shift rest
    | rest => floatOf positive digits shift rest

/-- Reads a number after its sign. -/
def readNumber (positive : Bool) (text : List Char) : Except Fault (Number × List Char) :=
  match takeDigits text with
  | ([], []) => .error (.before [] .endInValue)
  | ([], rest) => .error (.here rest .invalidNumber)
  | ('0' :: c :: digits, rest) => .error (.here (c :: digits ++ rest) .invalidNumber)
  | (whole, rest) =>
    let (digits, ignored) := absorb wordLimit 0 whole
    match rest with
    | '.' :: rest => readFraction positive digits ignored.length rest
    | 'e' :: rest | 'E' :: rest => readExponent positive digits ignored.length rest
    | rest =>
      if ignored ≠ [] then floatOf positive digits ignored.length rest
      else if positive then .ok (.natural digits, rest)
      else if 1 ≤ digits ∧ digits ≤ 1 <<< 63 then .ok (.negative digits, rest)
      else floatOf positive digits 0 rest

/-- Passes over an exponent after its `e`. -/
def skipExponent (text : List Char) : Except Fault (List Char) :=
  let text := match text with
    | '+' :: rest | '-' :: rest => rest
    | rest => rest
  match takeDigits text with
  | ([], rest) => .error (.here rest .invalidNumber)
  | (_, rest) => .ok rest

/-- Passes over what may follow the digits before the point. -/
def skipAfterWhole (text : List Char) : Except Fault (List Char) :=
  match text with
  | 'e' :: rest | 'E' :: rest => skipExponent rest
  | '.' :: rest =>
    match takeDigits rest with
    | ([], rest) => .error (.here rest .invalidNumber)
    | (_, 'e' :: rest) | (_, 'E' :: rest) => skipExponent rest
    | (_, rest) => .ok rest
  | rest => .ok rest

/-- Passes over a number after its sign. -/
def skipNumber (text : List Char) : Except Fault (List Char) :=
  match takeDigits text with
  | ([], rest) => .error (.here rest .invalidNumber)
  | ('0' :: c :: digits, rest) => .error (.here (c :: digits ++ rest) .invalidNumber)
  | (_, rest) => skipAfterWhole rest

end ReturnPaths.Json
