import Trendline.LeastSquares.Decomposition
import Trendline.LeastSquares.Polynomial
import Trendline.Series

/-!
# Fits

A fit is a least-squares polynomial in a fit space, with its quality measured
in that space.  Predictions are in data space: `predict` takes `x` into the fit
space, evaluates the polynomial there and takes the value back.

The solver for higher degrees is a parameter of `fitSeriesWith`; `fitSeries`
is the case of doubles, with the solver of this library.
-/

namespace Trendline

/-- How well a curve fits, measured in the fit space. -/
structure Quality (α : Type) where
  /-- The sum of the squared residuals. -/
  sse : α
  /-- The root of the mean squared residual. -/
  rmse : α
  /-- The part of the variation that the curve explains. -/
  rSquared : α
  /-- The number of points. -/
  n : Nat
  deriving DecidableEq, Repr, Inhabited

/-- A least-squares polynomial; coefficient `k` belongs to the `k`-th power. -/
structure Fit (α : Type) where
  space : Space
  degree : UInt64
  coefficients : List α
  quality : Quality α
  deriving DecidableEq, Repr, Inhabited

/-- A fit and the name of its series. -/
structure FittedSeries (α : Type) where
  label : String
  fit : Fit α
  deriving DecidableEq, Repr

/-- The name of a series that has no fit, and why. -/
structure SkippedSeries (α : Type) where
  label : String
  error : FitError α
  deriving DecidableEq, Repr

variable {α : Type} [Scalar α]

namespace Fit

/-- The constant coefficient. -/
def intercept (fit : Fit α) : α :=
  fit.coefficients.headD 0

/-- The linear coefficient. -/
def slope (fit : Fit α) : α :=
  fit.coefficients.getD 1 0

/-- The value of the curve at `x`, in data space. -/
def predict (fit : Fit α) (x : α) : α :=
  let u := if fit.space.logsX then Scalar.ln x else x
  let v := Polynomial.evaluate fit.coefficients u
  if fit.space.logsY then Scalar.exp v else v

/-- Whether the curve is defined at `x`. -/
def inDomain (fit : Fit α) (x : α) : Bool :=
  !fit.space.logsX || Scalar.isPositive x

/-- The value of the curve at the `x` of an index, if the curve is defined there. -/
def predictChecked (fit : Fit α) (index : Nat) (x : α) : Except (FitError α) α :=
  if fit.inDomain x then .ok (fit.predict x) else .error (.nonPositive .x index x)

/-- The values of the curve. -/
def predictCurve (fit : Fit α) (xs : List α) : List α :=
  xs.map fit.predict

/-- The positive values of the curve from index `start` on, or the first place without one. -/
def predictPositiveFrom (fit : Fit α) : (start : Nat) → List α → Except (FitError α) (List α)
  | _, [] => .ok []
  | index, x :: rest => do
    let y ← fit.predictChecked index x
    if Scalar.isPositive y then
      let ys ← fit.predictPositiveFrom (index + 1) rest
      return y :: ys
    else .error (.nonPositive .y index y)

/-- The values of the curve for a logarithmic axis, or the first place without a positive one. -/
def predictPositive (fit : Fit α) (xs : List α) : Except (FitError α) (List α) :=
  fit.predictPositiveFrom 0 xs

end Fit

/-- The squared residuals of a polynomial, added up. -/
def squaredError (coefficients : List α) (pairs : List (α × α)) : α :=
  pairs.foldl (fun total (u, v) =>
    let r := v - Polynomial.evaluate coefficients u
    total + r * r) 0

/-- The squared deviations of the ordinates, added up. -/
def squaredTotal (vMean : α) (pairs : List (α × α)) : α :=
  pairs.foldl (fun total (_, v) => total + (v - vMean) * (v - vMean)) 0

/-- The quality of a polynomial.  Ordinates without variation are explained by the constant. -/
def Quality.of (u v coefficients : List α) : Quality α :=
  let n := u.length
  let pairs := u.zip v
  let sse := squaredError coefficients pairs
  let sst := squaredTotal (LeastSquares.mean n v) pairs
  { sse
    rmse := Scalar.sqrt (sse / Scalar.ofNat n)
    rSquared := if 0 < sst then 1 - sse / sst else 1
    n }

/-- A fit error with its abscissa in data units. -/
def FitError.inUnitsOf (s : Series α) : FitError α → FitError α
  | degenerate x => degenerate (s.xs.headD x)
  | e => e

/-- The least-squares polynomial of a series in a fit space. -/
def fitSeriesWith (solve : LeastSquares.Solver α) (s : Series α) (space : Space)
    (degree : UInt64) : Except (Stop (FitError α)) (Fit α) :=
  if degree = 0 then .error (.refused .zeroDegree)
  else do
    let needed ← Stop.checked (Polynomial.coefficientCount? degree)
    if s.size < needed then .error (.refused (.insufficientData needed s.size))
    else
      let (u, v) ← (s.toSpace space).mapError .refused
      let coefficients ←
        (LeastSquares.fitPolynomial solve u v degree).mapError (Stop.map (FitError.inUnitsOf s))
      return { space, degree, coefficients, quality := Quality.of u v coefficients }

/-- Counting the coefficients is the only step that can overflow. -/
theorem fitSeriesWith_ne_overflow {degree : UInt64} {needed : Nat}
    (h : Polynomial.coefficientCount? degree = some needed) (solve : LeastSquares.Solver α)
    (s : Series α) (space : Space) : fitSeriesWith solve s space degree ≠ .error .overflow := by
  rw [fitSeriesWith, h]
  split
  · exact nofun
  · refine Stop.bind_ne nofun fun needed => ?_
    split
    · exact nofun
    · refine Stop.bind_ne (Stop.mapError_refused_ne _) fun (u, v) => ?_
      have hfit := LeastSquares.fitPolynomial_ne_overflow h solve u v
      exact Stop.bind_ne (Stop.mapError_map_ne hfit _) fun _ => nofun

/-- The least-squares polynomial of a series of doubles. -/
def fitSeries (s : Series Float) (space : Space) (degree : UInt64) :
    Except (Stop (FitError Float)) (Fit Float) :=
  fitSeriesWith LeastSquares.solve? s space degree

/-- The least-squares line of a series of doubles; its two coefficients are always counted. -/
def fitStraight (s : Series Float) (space : Space) : Except (FitError Float) (Fit Float) :=
  Stop.settle (fitSeries s space 1) (fitSeriesWith_ne_overflow rfl _ s space)

end Trendline
