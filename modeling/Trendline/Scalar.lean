import Trendline.Double

/-!
# Scalars

Fits, figures and charts are written over a type of scalars.  Run over doubles
they are the program; read over the reals they are the mathematics that the
program approximates, and a law about sums of squares or about a drawn range
can be stated without rounding.

Over doubles an operation can leave the numbers (overflow, `0 / 0`, `ln (-1)`).
`isFinite` tells, and `undefined` is the outcome that is no number at all: the
only scalar that is not equal to itself.
-/

namespace Trendline

/-- The arithmetic that fits and charts need. -/
class Scalar (α : Type) where
  zero : α
  one : α
  add : α → α → α
  sub : α → α → α
  mul : α → α → α
  div : α → α → α
  neg : α → α
  lt : α → α → Prop
  beq : α → α → Bool
  /-- Comparison is decided. -/
  decLt : ∀ a b : α, Decidable (lt a b)
  /-- A count as a scalar. -/
  ofNat : Nat → α
  /-- The decimal `m / 10 ^ k`. -/
  ofDecimal : (m k : Nat) → α
  /-- The least positive scalar that still has full precision. -/
  leastNormal : α
  /-- The outcome of an operation that has none. -/
  undefined : α
  /-- Whether the scalar stands for a number. -/
  isFinite : α → Bool
  /-- Absolute value. -/
  abs : α → α
  /-- Square root. -/
  sqrt : α → α
  /-- Natural logarithm. -/
  ln : α → α
  /-- Exponential. -/
  exp : α → α
  /-- The nearest natural number, halves upward, and zero below zero. -/
  round : α → Nat

namespace Scalar

variable {α : Type} [Scalar α]

-- A type with arithmetic of its own, such as the reals, keeps it in its expressions.

instance (priority := low) : Zero α :=
  ⟨zero⟩

instance (priority := low) : One α :=
  ⟨one⟩

instance (priority := low) : Add α :=
  ⟨add⟩

instance (priority := low) : Sub α :=
  ⟨sub⟩

instance (priority := low) : Mul α :=
  ⟨mul⟩

instance (priority := low) : Div α :=
  ⟨div⟩

instance (priority := low) : Neg α :=
  ⟨neg⟩

instance (priority := low) : LT α :=
  ⟨lt⟩

instance (priority := low) : BEq α :=
  ⟨beq⟩

instance (priority := low) (a b : α) : Decidable (a < b) :=
  decLt a b

/-- Whether a scalar is the outcome of an undefined operation. -/
def isUndefined (a : α) : Bool :=
  !(a == a)

/-- Whether a scalar is a number above zero: the domain of the logarithm. -/
def isPositive (a : α) : Bool :=
  isFinite a && decide (0 < a)

/-- The smaller of two scalars; an undefined one yields to the other. -/
def least (a b : α) : α :=
  if isUndefined a then b else if b < a then b else a

/-- The larger of two scalars; an undefined one yields to the other. -/
def greatest (a b : α) : α :=
  if isUndefined a then b else if a < b then b else a

/-- The scalar brought into the unit interval. -/
def clampUnit (a : α) : α :=
  if a < 0 then 0 else if 1 < a then 1 else a

/-- The sum from left to right.  It starts at `-0`, which no addition can tell from nothing. -/
def sum (xs : List α) : α :=
  xs.foldl (· + ·) (-0)

end Scalar

instance : Scalar Float where
  zero := 0
  one := 1
  add := Float.add
  sub := Float.sub
  mul := Float.mul
  div := Float.div
  neg := Float.neg
  lt a b := a < b
  beq := Float.beq
  decLt a b := inferInstanceAs (Decidable (a < b))
  ofNat n := Double.ofRatio false n 1
  ofDecimal m k := Double.ofRatio false m (Nat.pow 10 k)
  leastNormal := Float.ofBits 0x0010000000000000
  undefined := Double.nan
  isFinite := Float.isFinite
  abs := Float.abs
  sqrt := Float.sqrt
  ln := Float.log
  exp := Float.exp
  round := Double.roundToWord

end Trendline
