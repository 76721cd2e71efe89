import Trendline.Decimal.Shortest

/-!
# Reading a number

`read?` accepts an optional sign followed by a decimal, or by one of the names
`inf`, `infinity` and `nan` in any case.  A decimal has digits before or after
its point, the point may be missing, and an exponent may follow.  The whole
text has to be used.  The answer is the double nearest to the decimal.
-/

namespace Trendline.Decimal

/-- The number that a list of digits denotes. -/
def digitsValue (ds : List Char) : Nat :=
  ds.foldl (fun n c => 10 * n + (c.toNat - '0'.toNat)) 0

/-- The longest run of digits, and what follows it. -/
def spanDigits (cs : List Char) : List Char × List Char :=
  (cs.takeWhile Char.isDigit, cs.dropWhile Char.isDigit)

/-- An optional sign, and what follows it. -/
def takeSign : List Char → Bool × List Char
  | '-' :: rest => (true, rest)
  | '+' :: rest => (false, rest)
  | cs => (false, cs)

/-- The exponent part, which has to use all characters. -/
def readExponent? : List Char → Option Int
  | [] => some 0
  | c :: rest =>
    if c = 'e' ∨ c = 'E' then
      let (negative, rest) := takeSign rest
      let (ds, after) := spanDigits rest
      if ds.isEmpty || !after.isEmpty then none
      else some (if negative then -(digitsValue ds : Int) else digitsValue ds)
    else none

/-- An unsigned decimal. -/
def readNumeral? (cs : List Char) : Option Numeral :=
  let (whole, rest) := spanDigits cs
  let (part, rest) := match rest with
    | '.' :: rest => spanDigits rest
    | _ => ([], rest)
  if whole.isEmpty && part.isEmpty then none
  else
    (readExponent? rest).map fun e =>
      ⟨digitsValue (whole ++ part), e - (part.length : Nat)⟩

/--
The double nearest to a numeral.  Decimals from `10 ^ 310` on are beyond every double and those
below `10 ^ -400` are nearer to zero than to any other, so huge exponents are not expanded.
-/
def Numeral.nearest (negative : Bool) (n : Numeral) : Float :=
  let point := n.exponent + (digitCount n.digits : Nat)
  if n.digits = 0 ∨ point < -400 then Double.ofRatio negative 0 1
  else if 310 < point then Double.ofRatio negative (Nat.pow 2 1024) 1
  else n.toDouble negative

/-- The value of one of the names, given in lower case. -/
def namedValue? (negative : Bool) (name : String) : Option Float :=
  if name = "nan" then some Double.nan
  else if name = "inf" ∨ name = "infinity" then some (Double.ofRatio negative (Nat.pow 2 1024) 1)
  else none

/-- The double that a text denotes. -/
def read? (cs : List Char) : Option Float :=
  let (negative, rest) := takeSign cs
  match readNumeral? rest with
  | some n => some (n.nearest negative)
  | none => namedValue? negative (String.ofList (rest.map Char.toLower))

end Trendline.Decimal
