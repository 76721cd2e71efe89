import Trendline.Scalar

/-!
# Solving a least-squares system

The coefficients `x` that minimise `‖A x - b‖` come from a singular value
decomposition of `A`.  Directions whose singular value is at most a tolerance
are dropped from the solution.  The smallest tolerance is tried first, and the
next one if there is no solution at it, or one with a value that is no number.

The decomposition is a parameter.
-/

namespace Trendline.LeastSquares

variable {α : Type} [Scalar α]

/-- What solves a system of so many unknowns, given its rows and its right-hand side. -/
abbrev Solver (α : Type) : Type :=
  (width : Nat) → (rows : List (List α)) → (rhs : List α) → Option (List α)

/-- What decomposes a system and solves it at a tolerance, where it can. -/
abbrev Decomposition (α : Type) : Type :=
  (width : Nat) → (rows : List (List α)) → (rhs : List α) → (tolerance : α) → Option (List α)

/-- The tolerances in the order in which they are tried. -/
def tolerances : List α :=
  [Scalar.ofDecimal 1 12, Scalar.ofDecimal 1 10, Scalar.ofDecimal 1 8]

/-- The first solution of finite numbers that a decomposition gives. -/
def solveBy (svd : Decomposition α) : Solver α := fun width rows rhs =>
  tolerances.findSome? fun tolerance =>
    (svd width rows rhs tolerance).filter (·.all Scalar.isFinite)

end Trendline.LeastSquares
