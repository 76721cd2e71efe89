/-!
# Numbers in base sixteen

Codes of characters are read and written in base sixteen; they are written with
small letters and read with letters of either case.
-/

namespace Trendline.Text

/-- The value of a digit. -/
def hexDigit? (c : Char) : Option Nat :=
  if '0' ≤ c ∧ c ≤ '9' then some (c.toNat - '0'.toNat)
  else if 'a' ≤ c ∧ c ≤ 'f' then some (c.toNat - 'a'.toNat + 10)
  else if 'A' ≤ c ∧ c ≤ 'F' then some (c.toNat - 'A'.toNat + 10)
  else none

/-- The digits of a number. -/
def hexDigits (n : Nat) : List Char :=
  Nat.toDigits 16 n

end Trendline.Text
