import Trendline.Chart.Range
import Trendline.Figure.Basic

/-!
# Axes of a chart

The ranges that a drawn chart shows, and the labels of their ticks.  Ranges are
in drawing units; a tick of a logarithmic axis is labelled with the data value
that is drawn there.
-/

namespace Trendline.Chart

variable {α : Type} [Scalar α]

/-- The ranges of a chart, or nothing if there is nothing to draw. -/
def chartBounds (fig : Figure α) : Option (Bounds α) :=
  fig.displayBounds.map fun b =>
    let part := Scalar.ofDecimal 5 2
    let least := Scalar.ofDecimal 1 9
    let (xMin, xMax) := widen part least b.xMin b.xMax
    let (yMin, yMax) := widen part least b.yMin b.yMax
    { xMin, xMax, yMin, yMax }

/-- A value at a tick: with two places, and with none from a hundred on. -/
def tickText (v : Float) : String :=
  if 100 ≤ v.abs then Decimal.fixed 0 v else Decimal.fixed 2 v

/-- The label of a tick, in data units. -/
def tickLabel (scale : AxisScale) (v : Float) : String :=
  match scale with
  | .linear => tickText v
  | .log => tickText v.exp

end Trendline.Chart
