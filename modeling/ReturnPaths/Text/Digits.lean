/-!
# Digits

The values of decimal and hexadecimal digits.

* `digitValue` : the value of a decimal digit.
* `hexValue?` : the value of a hexadecimal digit, in capital or small letters.
* `digitsValue` : the number that digits of some base write.
-/

namespace ReturnPaths.Text

/-- The value of a decimal digit. -/
def digitValue (c : Char) : Nat :=
  c.toNat - '0'.toNat

/-- The value of a hexadecimal digit. -/
def hexValue? (c : Char) : Option Nat :=
  if '0' ≤ c ∧ c ≤ '9' then some (digitValue c)
  else if 'a' ≤ c ∧ c ≤ 'f' then some (c.toNat - 'a'.toNat + 10)
  else if 'A' ≤ c ∧ c ≤ 'F' then some (c.toNat - 'A'.toNat + 10)
  else none

/-- The number that digits write in some base; each digit is below the base. -/
def digitsValue (base : Nat) (digits : List Char) : Nat :=
  digits.foldl (fun value c => base * value + (hexValue? c).getD 0) 0

end ReturnPaths.Text
