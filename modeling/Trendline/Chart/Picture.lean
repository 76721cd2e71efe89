import Trendline.Chart.Range
import Trendline.Chart.Segment
import Trendline.Figure.Basic
import Trendline.Text.Grid

/-!
# Figures in characters

A figure drawn into a grid of characters: levels as `=`, curves as `-`, points
as their marker.  Levels and curves are drawn into blank cells only, the levels
first; points are drawn last and over everything.  A point without a place
draws nothing, and a curve is interrupted there.

Above the grid stand the title and the ranges of the axes, below it a legend.
-/

namespace Trendline.Chart

open Trendline.Text

variable {α : Type} [Scalar α]

/-- The ranges that a grid shows. -/
structure Frame (α : Type) where
  xLow : α
  xHigh : α
  yLow : α
  yHigh : α
  width : Nat
  height : Nat

namespace Frame

/-- The frame around a box: always a margin above and below, and one at the sides if it has no width. -/
def ofBounds (b : Bounds α) (width height : Nat) : Frame α :=
  let part := Scalar.ofDecimal 5 2
  let least := Scalar.ofDecimal 1 12
  let (xLow, xHigh) := if b.xMin < b.xMax then (b.xMin, b.xMax) else widen part least b.xMin b.xMax
  let (yLow, yHigh) := widen part least b.yMin b.yMax
  { xLow, xHigh, yLow, yHigh, width, height }

/-- The column of a drawn `x`. -/
def column (f : Frame α) (x : α) : Nat :=
  let last := Scalar.ofNat (max f.width 2) - 1
  Scalar.round (position f.xLow f.xHigh x * last)

/-- The row of a drawn `y`; the highest values are in the row `0`. -/
def row (f : Frame α) (y : α) : Nat :=
  let last := Scalar.ofNat (max f.height 2) - 1
  Scalar.round (last - position f.yLow f.yHigh y * last)

/-- The cell of a drawn point. -/
def cellOf (f : Frame α) (p : α × α) : Nat × Nat :=
  (f.column p.1, f.row p.2)

end Frame

/-- Draws a segment into the blank cells on its way. -/
def drawSegment (c : Char) (start stop : Nat × Nat) (g : Grid Char) : Grid Char :=
  (segment start.1 start.2 stop.1 stop.2).foldl (fun g (x, y) => g.putIfBlank c x.toNat y.toNat) g

/-- Draws the level of a height across the grid. -/
def drawLevel (f : Frame α) (g : Grid Char) (y : α) : Grid Char :=
  drawSegment '=' (0, f.row y) (f.width - 1, f.row y) g

/-- Draws a curve through cells, `none` where it is interrupted. -/
def drawCurve (previous : Option (Nat × Nat)) : List (Option (Nat × Nat)) → Grid Char → Grid Char
  | [], g => g
  | none :: rest, g => drawCurve none rest g
  | some cell :: rest, g =>
    drawCurve (some cell) rest (drawSegment '-' (previous.getD cell) cell g)

/-- The cell of a data point, if it has a place. -/
def cellOf? (fig : Figure α) (f : Frame α) (p : α × α) : Option (Nat × Nat) :=
  let shown := fig.display p
  if Figure.isVisible shown then some (f.cellOf shown) else none

/-- Draws the points of a scatter layer. -/
def drawPoints (fig : Figure α) (f : Frame α) (g : Grid Char) (layer : ScatterLayer α) :
    Grid Char :=
  (layer.points.filterMap (cellOf? fig f)).foldl
    (fun g (x, y) => g.put layer.marker.glyph x y) g

/-- The grid of a figure. -/
def picture (fig : Figure α) (f : Frame α) : Grid Char :=
  let levels := fig.visibleLevels.foldl (drawLevel f) (Grid.fill ' ' f.width f.height)
  let curves := fig.lines.foldl
    (fun g line => drawCurve none (line.points.map (cellOf? fig f)) g) levels
  fig.scatters.foldl (drawPoints fig f) curves

/-- The least width of a grid. -/
def leastWidth : Nat :=
  10

/-- The least height of a grid. -/
def leastHeight : Nat :=
  5

/-- The frame that a figure is drawn in, if there is anything to draw. -/
def frame? (fig : Figure α) (width height : Nat) : Option (Frame α) :=
  fig.displayBounds.map fun b => Frame.ofBounds b (max width leastWidth) (max height leastHeight)

/-- The line that tells the ranges of the axes. -/
def rangeLine (fig : Figure Float) (f : Frame Float) : String :=
  let xName := fig.xLabel
  let yName := fig.yLabel
  let xLow := Decimal.fixed 3 f.xLow
  let xHigh := Decimal.fixed 3 f.xHigh
  let yLow := Decimal.fixed 2 f.yLow
  let yHigh := Decimal.fixed 2 f.yHigh
  s!"x: {xName} [{xLow}, {xHigh}] | y: {yName} [{yLow}, {yHigh}]"

/-- The lines below the grid. -/
def legendLines (fig : Figure Float) : List String :=
  let scatters := fig.scatters.map fun layer =>
    let glyph := layer.marker.glyph
    let label := layer.label
    s!"  {glyph} {label}"
  let curves := (fig.lines.filter (·.label != "")).map fun line =>
    let label := line.label
    s!"  - {label}"
  let levels := fig.levels.map fun level =>
    let label := level.label
    let height := Decimal.fixed 0 level.y
    s!"  = {label} ({height})"
  scatters ++ curves ++ levels

/-- The figure in characters, line by line. -/
def pictureLines (fig : Figure Float) (width height : Nat) : List String :=
  match frame? fig width height with
  | none => [fig.title, "(no data)"]
  | some f => fig.title :: rangeLine fig f :: (picture fig f).lines ++ legendLines fig

/-- The figure in characters. -/
def pictureText (fig : Figure Float) (width height : Nat) : String :=
  String.join ((pictureLines fig width height).map (· ++ "\n"))

end Trendline.Chart
