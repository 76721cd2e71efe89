import Trendline.Decimal.Quotient

/-!
# Doubles as exact numbers

A double is an integer times a power of two.  `magnitude` takes it apart into
the two, and `nearestBits` goes back from any quotient of natural numbers to
the double nearest to it, halves to the even one.  Everything that prints,
reads or rounds a double goes through these two and exact arithmetic.

The bit pattern of a positive double grows with its value.  With `2 ^ 52`
patterns to a power of two, the pattern of `m * 2 ^ q` is
`(q + 1074) * 2 ^ 52 + m`, for subnormal and normal doubles alike, and a
mantissa that rounds up to `2 ^ 53` carries into the next power by itself.
-/

namespace Trendline.Double

open Trendline.Decimal

/-- The bit pattern without the sign. -/
def magnitudeBits (x : Float) : Nat :=
  x.toBits.toNat % Nat.pow 2 63

/-- Whether the sign bit is set, also for `-0` and for a NaN. -/
def isNegative (x : Float) : Bool :=
  Nat.pow 2 63 ≤ x.toBits.toNat

/-- The pattern of infinity; larger ones are NaNs. -/
def infinityBits : Nat :=
  2047 * Nat.pow 2 52

/-- The double that is no number. -/
def nan : Float :=
  Float.ofBits 0x7ff8000000000000

/-- Mantissa and power of two of the double with a given unsigned pattern. -/
def unpack (bits : Nat) : Nat × Int :=
  if bits < Nat.pow 2 52 then (bits, -1074)
  else (Nat.pow 2 52 + bits % Nat.pow 2 52, (bits / Nat.pow 2 52 : Nat) - 1075)

/-- The absolute value of a finite double as `m * 2 ^ q`. -/
def magnitude (x : Float) : Nat × Int :=
  unpack (magnitudeBits x)

/-- `m * 2 ^ q` as a quotient of natural numbers. -/
def ratio (m : Nat) (q : Int) : Nat × Nat :=
  if 0 ≤ q then (m * Nat.pow 2 q.toNat, 1) else (m, Nat.pow 2 (-q).toNat)

/-- The largest `l` with `2 ^ l ≤ num / den`, for positive `num` and `den`. -/
def floorLog2 (num den : Nat) : Int :=
  let l : Int := (num.log2 : Int) - (den.log2 : Int)
  let (n, d) :=
    if 0 ≤ l then (num, den * Nat.pow 2 l.toNat) else (num * Nat.pow 2 (-l).toNat, den)
  if n < d then l - 1 else l

/-- The unsigned pattern of the double nearest to `num / den`, infinity's if it is too large. -/
def nearestBits (num den : Nat) : Nat :=
  if num = 0 then 0
  else
    let e : Int := max (-1074) (floorLog2 num den - 52)
    let (n, d) :=
      if 0 ≤ e then (num, den * Nat.pow 2 e.toNat) else (num * Nat.pow 2 (-e).toNat, den)
    min infinityBits ((e + 1074).toNat * Nat.pow 2 52 + roundDiv .toEven n d)

/-- The double nearest to `num / den`, with a sign. -/
def ofRatio (negative : Bool) (num den : Nat) : Float :=
  let x := Float.ofBits (nearestBits num den).toUInt64
  if negative then -x else x

/-- The absolute value, rounded to a natural number; a half goes up. -/
def roundMagnitude (x : Float) : Nat :=
  let (m, q) := magnitude x
  let (n, d) := ratio m q
  roundDiv .upward n d

/-- The largest natural number not above the absolute value. -/
def floorMagnitude (x : Float) : Nat :=
  let (m, q) := magnitude x
  let (n, d) := ratio m q
  n / d

/-- Whether a finite double is an integer. -/
def isIntegral (x : Float) : Bool :=
  let (m, q) := magnitude x
  let (n, d) := ratio m q
  n % d == 0

/-- The largest number of a 64-bit word. -/
def wordMax : Nat :=
  Nat.pow 2 64 - 1

/-- The nearest number of a 64-bit word, halves upward; a NaN gives zero. -/
def roundToWord (x : Float) : Nat :=
  if x.isNaN then 0
  else if isNegative x then 0
  else if x.isFinite then min wordMax (roundMagnitude x)
  else wordMax

/-- The integer part as a number of a 64-bit word; a NaN gives zero. -/
def truncateToWord (x : Float) : Nat :=
  if x.isNaN then 0
  else if isNegative x then 0
  else if x.isFinite then min wordMax (floorMagnitude x)
  else wordMax

/-- The nearest integral double, halves away from zero; the sign stays. -/
def round (x : Float) : Float :=
  if x.isFinite then ofRatio (isNegative x) (roundMagnitude x) 1 else x

/-- The least integral double that is not smaller. -/
def ceil (x : Float) : Float :=
  if !x.isFinite || isIntegral x then x
  else if isNegative x then ofRatio true (floorMagnitude x) 1
  else ofRatio false (floorMagnitude x + 1) 1

end Trendline.Double
