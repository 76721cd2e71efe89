import Trendline.Decimal.Style
import Trendline.Decimal.Reader
import Trendline.Text.Blank

/-!
# Cell values

A cell is a number if its text denotes a finite double, and text otherwise.
Two comparisons of cells live side by side.  `==` is equality: numbers with
numbers, texts with texts.  `agrees` is the comparison that selects rows: two
numbers agree when they are equal, and any other pair agrees when it is
displayed alike, so that the number `2` agrees with the text `2`.
-/

namespace Trendline

/-- The content of a cell. -/
inductive Value where
  | number (x : Float)
  | text (s : String)
  deriving Inhabited

namespace Value

/-- Numbers compare as numbers, so `0` equals `-0` and a NaN nothing. -/
instance : BEq Value where
  beq
    | number x, number y => x == y
    | text s, text t => s == t
    | _, _ => false

/-- The value of a text, without the blanks around it. -/
def parse (raw : String) : Value :=
  let s := Text.trim raw
  match Decimal.read? s.toList with
  | some x => if x.isFinite then number x else text s
  | none => text s

/-- The number, if the value is one. -/
def number? : Value → Option Float
  | number x => some x
  | text _ => none

/-- Integers from this bound on are written like other numbers. -/
def integerBound : Nat :=
  Nat.pow 10 15

/-- Whether a number is written as an integer, which has no `-0`. -/
def showsInteger (x : Float) : Bool :=
  x.isFinite && Double.isIntegral x && Double.floorMagnitude x < integerBound

/-- An integral number as an integer. -/
def integerChars (x : Float) : List Char :=
  let n := Double.floorMagnitude x
  Decimal.signText (Double.isNegative x && n != 0) ++ Decimal.digitsOf n

/-- The text that stands for the value in labels and messages. -/
def display : Value → String
  | number x => if showsInteger x then String.ofList (integerChars x) else Decimal.Style.plain.write x
  | text s => s

/-- Whether a row predicate takes the two values for the same. -/
def agrees : Value → Value → Bool
  | number x, number y => x == y
  | a, b => a.display == b.display

end Value

end Trendline
