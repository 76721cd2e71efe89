import Trendline.Decimal.Shortest

/-!
# How a double is written

A `Style` holds the decisions that are left once the digits are known: which
numbers are written positionally, whether an integral number keeps a `.0`,
whether an exponent shows its plus sign, and where an exact tie between two
shortest candidates goes.  The three styles of this library are values of it.

Numbers with a fixed count of places are exact: the binary value is rounded
once, halves to even, and the sign of zero stays.
-/

namespace Trendline.Decimal

/-- The decisions of a number format. -/
structure Style where
  /-- The range of decimal exponents written positionally, or every exponent. -/
  positional : Option (Int × Int)
  /-- Whether an integral number is followed by `.0`. -/
  wholePoint : Bool
  /-- Whether a positive exponent has a plus sign. -/
  plusSign : Bool
  /-- Where an exact tie between two shortest decimals goes. -/
  tie : Tie

namespace Style

/-- For messages and cells: never an exponent, and integers without a point. -/
def plain : Style :=
  ⟨none, false, false, .upward⟩

/-- For log lines: always a point or an exponent, so that a double is told from a count. -/
def marked : Style :=
  ⟨some (-4, 16), true, false, .upward⟩

/-- For JSON documents: always a point or an exponent, and the exponent has a sign. -/
def document : Style :=
  ⟨some (-5, 16), true, true, .toEven⟩

end Style

/-- The decimal digits of a natural number. -/
def digitsOf (n : Nat) : List Char :=
  Nat.toDigits 10 n

/-- A positive numeral with its point in place and no exponent. -/
def positionalText (wholePoint : Bool) (n : Numeral) : List Char :=
  let ds := digitsOf n.digits
  if 0 ≤ n.exponent then
    ds ++ List.replicate n.exponent.toNat '0' ++ (if wholePoint then ['.', '0'] else [])
  else
    let places := (-n.exponent).toNat
    if places < ds.length then
      ds.take (ds.length - places) ++ '.' :: ds.drop (ds.length - places)
    else
      '0' :: '.' :: List.replicate (places - ds.length) '0' ++ ds

/-- A positive numeral with one digit before the point, and its exponent. -/
def exponentText (plusSign : Bool) (n : Numeral) : List Char :=
  let ds := digitsOf n.digits
  let e := n.exponent + (ds.length - 1 : Nat)
  let mantissa := match ds with
    | d :: d' :: rest => d :: '.' :: d' :: rest
    | short => short
  let sign := if e < 0 then ['-'] else if plusSign then ['+'] else []
  mantissa ++ 'e' :: sign ++ digitsOf e.natAbs

/-- A positive numeral in a style. -/
def Numeral.text (style : Style) (n : Numeral) : List Char :=
  let e := n.exponent + (digitCount n.digits - 1 : Nat)
  match style.positional with
  | none => positionalText style.wholePoint n
  | some (low, high) =>
    if low ≤ e ∧ e < high then positionalText style.wholePoint n
    else exponentText style.plusSign n

/-- The minus sign, if there is one. -/
def signText (negative : Bool) : List Char :=
  if negative then ['-'] else []

/-- The names of what is not a number. -/
def nonFiniteText (x : Float) : List Char :=
  if x.isNaN then ['N', 'a', 'N'] else signText (Double.isNegative x) ++ ['i', 'n', 'f']

/-- A double in a style, as characters. -/
def Style.chars (style : Style) (x : Float) : List Char :=
  if x.isFinite then
    let (m, q) := Double.magnitude x
    signText (Double.isNegative x) ++
      (if m = 0 then positionalText style.wholePoint ⟨0, 0⟩
       else (shortest style.tie m q).text style)
  else nonFiniteText x

/-- A double in a style. -/
def Style.write (style : Style) (x : Float) : String :=
  String.ofList (style.chars x)

/-- The absolute value of a finite double as a count of units of `10 ^ -places`. -/
def unitsOf (places : Nat) (x : Float) : Nat :=
  let (m, q) := Double.magnitude x
  let (num, den) := Double.ratio m q
  roundDiv .toEven (num * Nat.pow 10 places) den

/-- A count of units of `10 ^ -places`, with all its places written. -/
def unitsText (places units : Nat) : List Char :=
  let whole := digitsOf (units / Nat.pow 10 places)
  if places = 0 then whole
  else
    let part := digitsOf (units % Nat.pow 10 places)
    whole ++ '.' :: List.replicate (places - part.length) '0' ++ part

/-- A double with a fixed count of places. -/
def fixed (places : Nat) (x : Float) : String :=
  String.ofList <|
    if x.isFinite then signText (Double.isNegative x) ++ unitsText places (unitsOf places x)
    else nonFiniteText x

/-- A finite double rounded to so many significant digits, half to even. -/
def roundSignificant (count : Nat) (x : Float) : Float :=
  let (m, q) := Double.magnitude x
  if m = 0 || !x.isFinite then x
  else
    let (num, den) := Double.ratio m q
    let e := pointPosition num den - count
    let units := roundDiv .toEven (num * Nat.pow 10 (-e).toNat) (den * Nat.pow 10 e.toNat)
    Numeral.toDouble (Double.isNegative x) ⟨units, e⟩

end Trendline.Decimal
