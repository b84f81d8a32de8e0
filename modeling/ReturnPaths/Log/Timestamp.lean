/-!
# Time stamps

A time stamp is a count of milliseconds since the start of 1970, and is shown as a date and a time
of day.

* `Timestamp.render` : the date and time, 23 characters for the years 1000 to 9999.
-/

namespace ReturnPaths

/-- A point in time. -/
structure Timestamp where
  /-- Milliseconds since the start of 1970. -/
  milliseconds : Nat
  deriving DecidableEq, Repr, Inhabited

namespace Timestamp

/-- A number with leading zeros. -/
def padded (width n : Nat) : String :=
  let digits := toString n
  String.ofList (List.replicate (width - digits.length) '0') ++ digits

/-- The year, month and day of a day counted from the start of 1970.  Days are counted from the
first of March of the year 0 instead, so that a leap day comes last in its year. -/
def civil (day : Nat) : Nat × Nat × Nat :=
  let day := day + 719468
  let era := day / 146097
  let dayOfEra := day % 146097
  let yearOfEra := (dayOfEra - dayOfEra / 1460 + dayOfEra / 36524 - dayOfEra / 146096) / 365
  let dayOfYear := dayOfEra - (365 * yearOfEra + yearOfEra / 4 - yearOfEra / 100)
  let monthFromMarch := (5 * dayOfYear + 2) / 153
  let month := if monthFromMarch < 10 then monthFromMarch + 3 else monthFromMarch - 9
  let year := 400 * era + yearOfEra + (if month ≤ 2 then 1 else 0)
  (year, month, dayOfYear - (153 * monthFromMarch + 2) / 5 + 1)

/-- The date and the time of day. -/
def render (stamp : Timestamp) : String :=
  let seconds := stamp.milliseconds / 1000
  let (year, month, day) := civil (seconds / 86400)
  let second := seconds % 86400
  padded 4 year ++ "-" ++ padded 2 month ++ "-" ++ padded 2 day ++ " "
    ++ padded 2 (second / 3600) ++ ":" ++ padded 2 (second / 60 % 60) ++ ":"
    ++ padded 2 (second % 60) ++ "." ++ padded 3 (stamp.milliseconds % 1000)

end Timestamp

end ReturnPaths
