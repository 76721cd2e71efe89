import Trendline.Scalar

/-!
# Ranges with a margin

A chart leaves a margin around its data: a part of their extent, and at least
a little where they have none, so that the range never is a single point.
-/

namespace Trendline.Chart

variable {α : Type} [Scalar α]

/-- The range from `low` to `high`, wider at both ends by `part` of its extent but at least `least`. -/
def widen (part least low high : α) : α × α :=
  let margin := Scalar.greatest (Scalar.abs (high - low) * part) least
  (low - margin, high + margin)

/-- The part of the way from `low` to `high` at which `v` lies, within the unit interval. -/
def position (low high v : α) : α :=
  Scalar.clampUnit ((v - low) / (high - low))

end Trendline.Chart
