/-!
# Reading a word

`readWord` reads an unsigned number of 64 bits: digits, with or without a plus
in front.  The digits are looked at from the left, so of a character that is no
digit and a number that grows too large the one further to the left is
reported.
-/

namespace Trendline.Decimal

/-- Why a text is no word. -/
inductive WordFault where
  | empty
  | notDigit
  | tooLarge
  deriving DecidableEq, Repr

/-- What the user is told about the text. -/
def WordFault.message : WordFault → String
  | empty => "cannot parse integer from empty string"
  | notDigit => "invalid digit found in string"
  | tooLarge => "number too large to fit in target type"

/-- Appends digits to a number. -/
def appendDigits (n : Nat) : List Char → Except WordFault Nat
  | [] => .ok n
  | c :: rest =>
    if !c.isDigit then .error .notDigit
    else
      let m := 10 * n + (c.toNat - '0'.toNat)
      if UInt64.size ≤ m then .error .tooLarge else appendDigits m rest

/-- The word that a text denotes. -/
def readWord (cs : List Char) : Except WordFault UInt64 :=
  match cs with
  | [] => .error .empty
  | ['+'] => .error .notDigit
  | '+' :: ds => (appendDigits 0 ds).map UInt64.ofNat
  | ds => (appendDigits 0 ds).map UInt64.ofNat

end Trendline.Decimal
