import Trendline.Scalar

/-!
# Polynomials

A polynomial is the list of its coefficients, the constant first.  `evaluate`
is Horner's scheme.  `designRow` lists the powers of a point, so that the
value at the point is the product of the row with the coefficients.

Degrees are 64-bit words, and so is the number of coefficients, `degree + 1`,
which the largest degree of all does not have.
-/

namespace Trendline.Polynomial

variable {α : Type} [Scalar α]

/-- The value of a polynomial at a point. -/
def evaluate (coefficients : List α) (u : α) : α :=
  coefficients.foldr (fun c value => value * u + c) 0

/-- The first `count` of the values `p`, `p * u`, `p * u * u` and so on. -/
def powersFrom (u : α) : (p : α) → (count : Nat) → List α
  | _, 0 => []
  | p, count + 1 => p :: powersFrom u (p * u) count

/-- The first `count` powers of a point. -/
def designRow (count : Nat) (u : α) : List α :=
  powersFrom u 1 count

/-- How many coefficients a polynomial of a degree has, if that is a word. -/
def coefficientCount? (degree : UInt64) : Option Nat :=
  let count := degree.toNat + 1
  if count < UInt64.size then some count else none

/-- The powers of a point in a row of so many places, which has to be the right number of them. -/
def fillRow? (degree : UInt64) (u : α) (places : Nat) : Option (List α) :=
  if coefficientCount? degree = some places then some (designRow places u) else none

end Trendline.Polynomial
