import Trendline.Failure
import Trendline.Scalar

/-!
# The least-squares line

The line through a cloud of points with the least sum of squared residuals, in
closed form:

    slope     = Σ (u i - ū) (y i - ȳ) / Σ (u i - ū) ^ 2
    intercept = ȳ - slope * ū

The means are taken out before anything is multiplied, which keeps the sums
well-conditioned for large abscissae.  Abscissae that are all the same leave
only round-off in the denominator; a denominator that is no larger than that is
taken for zero.
-/

namespace Trendline

/-- A straight line. -/
structure Line (α : Type) where
  intercept : α
  slope : α
  deriving DecidableEq, Repr

namespace LeastSquares

variable {α : Type} [Scalar α]

/-- The arithmetic mean of a list that counts as `n` long. -/
def mean (n : Nat) (xs : List α) : α :=
  Scalar.sum xs / Scalar.ofNat n

/-- The sum of the squared deviations of the abscissae. -/
def spread (uMean : α) (pairs : List (α × α)) : α :=
  pairs.foldl (fun total (u, _) => total + (u - uMean) * (u - uMean)) 0

/-- The sum of the products of the deviations of both coordinates. -/
def covariation (uMean yMean : α) (pairs : List (α × α)) : α :=
  pairs.foldl (fun total (u, y) => total + (u - uMean) * (y - yMean)) 0

/-- The largest deviation that passes for round-off of a mean. -/
def roundOff (uMean : α) : α :=
  Scalar.greatest (Scalar.abs uMean) Scalar.leastNormal * Scalar.ofDecimal 1 12

/-- The least-squares line through the points `(u i, y i)`. -/
def fitLine (u y : List α) : Except (FitError α) (Line α) :=
  match u with
  | first :: _ :: _ =>
    let n := u.length
    let uMean := mean n u
    let yMean := mean n y
    let pairs := u.zip y
    let su := spread uMean pairs
    let scale := roundOff uMean
    if Scalar.ofNat n * scale * scale < su then
      let slope := covariation uMean yMean pairs / su
      .ok ⟨yMean - slope * uMean, slope⟩
    else .error (.degenerate first)
  | _ => .error (.insufficientData 2 u.length)

end LeastSquares

end Trendline
