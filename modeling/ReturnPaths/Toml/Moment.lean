import ReturnPaths.Toml.Text
import ReturnPaths.Toml.Value

/-!
# Dates and times of TOML

A date is written as year, month and day, a time of day as hour, minute and second with an optional
fraction.  A date may be followed by a time, after a `T` or a blank, and the time then by the
distance to universal time.  All numbers have a fixed width and have to be in range, the day with
regard to the length of its month.

* `readMoment` : the date, the time or both at the start of a text.
-/

namespace ReturnPaths.Toml

open Text (digitsValue)

/-- Reads a number of some width within bounds. -/
def readPart (width low high : Nat) (text : List Char) : Option (Nat × List Char) :=
  let digits := text.take width
  let value := digitsValue 10 digits
  if digits.length = width ∧ digits.all Char.isDigit ∧ low ≤ value ∧ value ≤ high then
    some (value, text.drop width)
  else none

/-- Reads a given character. -/
def readMark (mark : Char) : List Char → Option (List Char)
  | [] => none
  | c :: rest => if c = mark then some rest else none

/-- Whether a year has a leap day. -/
def isLeapYear (year : Nat) : Bool :=
  year % 4 == 0 && (year % 100 != 0 || year % 400 == 0)

/-- The number of days of a month. -/
def daysIn (year month : Nat) : Nat :=
  if month = 2 then (if isLeapYear year then 29 else 28)
  else if month = 4 ∨ month = 6 ∨ month = 9 ∨ month = 11 then 30
  else 31

/-- Reads a date. -/
def readDate (text : List Char) : Option (List Char) := do
  let (year, rest) ← readPart 4 0 9999 text
  let (month, rest) ← readPart 2 1 12 (← readMark '-' rest)
  let (_, rest) ← readPart 2 1 (daysIn year month) (← readMark '-' rest)
  return rest

/-- Passes over the fraction of a second, if there is one. -/
def skipFraction : List Char → List Char
  | '.' :: c :: rest => if c.isDigit then rest.dropWhile Char.isDigit else '.' :: c :: rest
  | rest => rest

/-- Reads a time of day; there may be a leap second. -/
def readTime (text : List Char) : Option (List Char) := do
  let (_, rest) ← readPart 2 0 23 text
  let (_, rest) ← readPart 2 0 59 (← readMark ':' rest)
  let (_, rest) ← readPart 2 0 60 (← readMark ':' rest)
  return skipFraction rest

/-- Reads the distance to universal time, if there is one. -/
def readOffset : List Char → Option (List Char)
  | 'Z' :: rest | 'z' :: rest => some rest
  | '+' :: rest | '-' :: rest => do
    let (_, rest) ← readPart 2 0 23 rest
    let (_, rest) ← readPart 2 0 59 (← readMark ':' rest)
    return rest
  | rest => some rest

/-- What follows a date with or without a time after it.  A blank that no time comes after ends
the date. -/
def readDateTime (text : List Char) : Option (List Char) := do
  let rest ← readDate text
  match rest with
  | 'T' :: after | 't' :: after | ' ' :: after =>
    match readTime after with
    | some after => readOffset after
    | none => return rest
  | _ => return rest

/-- Reads a date, a time or both. -/
def readMoment (text : List Char) : Option (Value × List Char) := do
  let rest ← readDateTime text <|> readTime text
  return (.moment (written text rest), rest)

end ReturnPaths.Toml
