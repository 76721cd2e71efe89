import Trendline.Failure
import Trendline.Scalar

/-!
# Series

A series is what one curve is fitted to: labelled points in the order of the
rows they come from.  `toSpace` moves its coordinates into a fit space, where
every value that is to be logged has to be a positive number.
-/

namespace Trendline

/-- Labelled points. -/
structure Series (α : Type) where
  label : String
  points : List (α × α)
  deriving Repr, Inhabited

namespace Series

variable {α : Type}

/-- The abscissae. -/
def xs (s : Series α) : List α :=
  s.points.map (·.1)

/-- The ordinates. -/
def ys (s : Series α) : List α :=
  s.points.map (·.2)

/-- The number of points. -/
def size (s : Series α) : Nat :=
  s.points.length

/-- The same points under another label. -/
def withLabel (s : Series α) (label : String) : Series α :=
  { s with label }

end Series

variable {α : Type} [Scalar α]

/-- The logarithms of positive numbers, or the first value from index `start` on that is none. -/
def lnFrom (axis : Axis) : (start : Nat) → List α → Except (FitError α) (List α)
  | _, [] => .ok []
  | index, value :: rest =>
    if Scalar.isPositive value then do
      let logs ← lnFrom axis (index + 1) rest
      return Scalar.ln value :: logs
    else .error (.nonPositive axis index value)

/-- The logarithms of positive numbers, or the first value that is none. -/
def lnAll (axis : Axis) (values : List α) : Except (FitError α) (List α) :=
  lnFrom axis 0 values

/-- The coordinates of a series in a fit space; an unsuitable `x` is reported before any `y`. -/
def Series.toSpace (space : Space) (s : Series α) : Except (FitError α) (List α × List α) := do
  let u ← if space.logsX then lnAll .x s.xs else .ok s.xs
  let v ← if space.logsY then lnAll .y s.ys else .ok s.ys
  return (u, v)

end Trendline
