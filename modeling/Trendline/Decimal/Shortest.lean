import Trendline.Double

/-!
# The shortest decimal that reads back

Many decimals round to the same double; `shortest` picks the one with the
fewest digits, and of those the nearest to the double.

The decimals that read back as `m * 2 ^ q` form an interval around it that
reaches half way to either neighbour.  Its ends belong to it exactly when `m`
is even, because halves round to even.  Below a power of two the neighbours are
twice as dense, so there the interval is shorter on the lower side.  Measured
in quarters of `2 ^ q` all its ends are integers, and every test is a
comparison of natural numbers.

For one digit, two digits and so on, the double lies between two neighbours on
the grid of decimals with so many digits.  If any decimal of a grid reads back,
one of these two does.
-/

namespace Trendline.Decimal

/-- A positive decimal `digits * 10 ^ exponent`. -/
structure Numeral where
  digits : Nat
  exponent : Int
  deriving DecidableEq, Repr

/-- Compares `d * 10 ^ e` with `k * 2 ^ p`. -/
def compareScaled (d : Nat) (e : Int) (k : Nat) (p : Int) : Ordering :=
  compare (d * Nat.pow 10 e.toNat * Nat.pow 2 (-p).toNat)
    (k * Nat.pow 2 p.toNat * Nat.pow 10 (-e).toNat)

/-- Whether the decimal rounds to the double `m * 2 ^ q`. -/
def readsBack (m : Nat) (q : Int) (n : Numeral) : Bool :=
  let low := if m = Nat.pow 2 52 ∧ -1074 < q then 4 * m - 1 else 4 * m - 2
  match compareScaled n.digits n.exponent low (q - 2),
      compareScaled n.digits n.exponent (4 * m + 2) (q - 2) with
  | .gt, .lt => true
  | .lt, _ => false
  | _, .gt => false
  | _, _ => m % 2 == 0

/-- The exponent `p` with `10 ^ (p - 1) ≤ num / den < 10 ^ p`. -/
def pointPosition (num den : Nat) : Int :=
  if den ≤ num then digitCount (num / den)
  else 1 - (digitCount ((den + num - 1) / num - 1) : Int)

/-- The neighbour of `m * 2 ^ q` that reads back on the grid of spacing `10 ^ e`, if one does. -/
def onGrid (tie : Tie) (m : Nat) (q e : Int) : Option Numeral :=
  let (num, den) := Double.ratio m q
  let below : Numeral := ⟨num * Nat.pow 10 (-e).toNat / (den * Nat.pow 10 e.toNat), e⟩
  let above : Numeral := ⟨below.digits + 1, e⟩
  match readsBack m q below, readsBack m q above with
  | true, true =>
    match compareScaled (2 * below.digits + 1) e (2 * m) q with
    | .gt => some below
    | .lt => some above
    | .eq => match tie with
      | .upward => some above
      | .toEven => if below.digits % 2 = 0 then some below else some above
  | true, false => some below
  | false, true => some above
  | false, false => none

/-- The first grid with a hit, beginning at spacing `10 ^ e` and trying `fuel` finer ones. -/
def firstOnGrid (tie : Tie) (m : Nat) (q : Int) : Nat → Int → Numeral
  | 0, e => (onGrid tie m q e).getD ⟨m, q⟩
  | fuel + 1, e => (onGrid tie m q e).getD (firstOnGrid tie m q fuel (e - 1))

/-- The numeral without its trailing zeros; `fuel` bounds how many there are. -/
def trimZeros : Nat → Numeral → Numeral
  | 0, n => n
  | fuel + 1, n =>
    if n.digits % 10 = 0 then trimZeros fuel ⟨n.digits / 10, n.exponent + 1⟩ else n

/-- The shortest decimal that reads back as the positive double `m * 2 ^ q`. -/
def shortest (tie : Tie) (m : Nat) (q : Int) : Numeral :=
  let (num, den) := Double.ratio m q
  trimZeros 17 (firstOnGrid tie m q 16 (pointPosition num den - 1))

/-- Reading the digits of the numeral as a double. -/
def Numeral.toDouble (negative : Bool) (n : Numeral) : Float :=
  Double.ofRatio negative (n.digits * Nat.pow 10 n.exponent.toNat)
    (Nat.pow 10 (-n.exponent).toNat)

end Trendline.Decimal
