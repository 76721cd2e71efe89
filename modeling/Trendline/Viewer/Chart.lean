import Trendline.Chart.Axis
import Trendline.Viewer.Block

/-!
# The chart of the viewer

The area of a chart leaves room for the labels of its axes, unless it would
become too small.  Each axis has five ticks at equal distances.  The label of a
tick of the horizontal axis is centered below it; the label of one of the
vertical axis ends to the left of the chart, and is left out where it would
begin outside of the frame.
-/

namespace Trendline.Viewer

open Chart (tickLabel)

/-- The room for labels around a chart. -/
structure Insets where
  left : UInt16
  right : UInt16
  top : UInt16
  bottom : UInt16
  deriving DecidableEq, Repr

/-- The usual room: tick labels to the left, tick labels and a title below, a title above. -/
def Insets.usual : Insets :=
  ⟨9, 2, 1, 2⟩

/-- The area of the chart within a frame, and the room around it, if there is enough. -/
def chartLayout (frame : Area) : Area × Option Insets :=
  let i := Insets.usual
  if frame.width ≤ i.left + i.right + 10 ∨ frame.height ≤ i.top + i.bottom + 5 then (frame, none)
  else
    ({ x := frame.x + i.left
       y := frame.y + i.top
       width := frame.width - i.left - i.right
       height := frame.height - i.top - i.bottom }, some i)

/-- How many ticks an axis has. -/
def tickCount : Nat :=
  5

/-- How far the tick `i` is along an axis whose last cell is `last`, to the nearest cell. -/
def tickOffset (last : UInt16) (i : Nat) : UInt16 :=
  .ofNat ((2 * last.toNat * i + (tickCount - 1)) / (2 * (tickCount - 1)))

/-- The column of a tick of the horizontal axis. -/
def xTickColumn? (chart : Area) (i : Nat) : Option UInt16 := do
  add? chart.x (tickOffset (← sub? chart.width 1) i)

/-- The row of a tick of the vertical axis; the first tick is at the bottom. -/
def yTickRow? (chart : Area) (i : Nat) : Option UInt16 := do
  let last ← sub? chart.height 1
  sub? (← add? chart.y last) (tickOffset last i)

/-- A text and where it is written. -/
structure Label where
  area : Area
  text : String
  deriving DecidableEq, Repr

/-- The length of a text in cells; labels of ticks have one byte for each. -/
def cellCount (s : String) : UInt16 :=
  .ofNat s.utf8ByteSize

/-- The label of a tick of the horizontal axis, if there is a row for it. -/
def xTickLabel? (frame chart : Area) (i : Nat) (text : String) : Option (Option Label) := do
  let x ← xTickColumn? chart i
  let y ← add? chart.y chart.height
  let last ← sub? (← add? frame.y frame.height) 1
  let start := monus x (.ofNat (text.utf8ByteSize / 2))
  return if last ≤ y then none else some ⟨⟨start, y, cellCount text, 1⟩, text⟩

/-- The label of a tick of the vertical axis, if it fits. -/
def yTickLabel? (frame chart : Area) (i : Nat) (text : String) : Option (Option Label) := do
  let y ← yTickRow? chart i
  let stop ← add? frame.x (monus Insets.usual.left 1)
  let start := monus stop (cellCount text)
  return if start < frame.x then none else some ⟨⟨start, y, cellCount text, 1⟩, text⟩

/-- The row for the title of the horizontal axis, if there is one. -/
def xTitleArea? (frame chart : Area) : Option (Option Area) := do
  let y ← add? (← add? chart.y chart.height) 1
  let bottom ← add? frame.y frame.height
  return if y < bottom then some ⟨chart.x, y, chart.width, 1⟩ else none

/-- The row for the title of the vertical axis. -/
def yTitleArea (frame : Area) : Area :=
  ⟨frame.x, frame.y, monus frame.width Insets.usual.right, 1⟩

/-- The labels around a chart. -/
structure AxisLabels where
  xTicks : List Label
  yTicks : List Label
  xTitle : Option Area
  yTitle : Area

/-- Places the labels around a chart; there is no result where a word cannot hold a place. -/
def axisLabels? (frame chart : Area) (xTexts yTexts : List String) : Option AxisLabels := do
  let xTicks ← xTexts.zipIdx.mapM fun (text, i) => xTickLabel? frame chart i text
  let yTicks ← yTexts.zipIdx.mapM fun (text, i) => yTickLabel? frame chart i text
  return {
    xTicks := xTicks.filterMap id
    yTicks := yTicks.filterMap id
    xTitle := ← xTitleArea? frame chart
    yTitle := yTitleArea frame }

/-- The texts of the ticks of an axis. -/
def tickTexts (scale : AxisScale) (low high : Float) : List String :=
  (List.range tickCount).map fun i =>
    let part := Scalar.ofNat i / Scalar.ofNat (tickCount - 1)
    tickLabel scale (low + part * (high - low))

/-! ## Drawing -/

/-- Writes a label. -/
def drawLabel (g : Screen) (l : Label) : Screen :=
  writeLine l.area 0 l.text.toList g

/-- Writes a text into the middle of the first row of an area. -/
def drawCentered (a : Area) (s : String) (g : Screen) : Screen :=
  let cs := s.toList.take a.width.toNat
  putLine (a.x.toNat + (a.width.toNat / 2 - cs.length / 2)) a.y.toNat cs g

/-- Writes the labels of a figure around its chart. -/
def drawAxisLabels (f : Figure Float) (b : Bounds Float) (frame chart : Area) (g : Screen) : Screen :=
  match axisLabels? frame chart (tickTexts f.xScale b.xMin b.xMax)
      (tickTexts f.yScale b.yMin b.yMax) with
  | none => g
  | some labels =>
    let g := labels.yTicks.foldl drawLabel (labels.xTicks.foldl drawLabel g)
    let g := match labels.xTitle with
      | some a => drawCentered a f.xLabel g
      | none => g
    writeLine labels.yTitle 0 f.yLabel.toList g

/-- What stands in a chart that is too small to be drawn; it is not cut at the frame. -/
def smallChartHint : String :=
  "Chart area too small (resize terminal)."

/-- Whether a chart is too small to be drawn. -/
def isSmall (chart : Area) : Bool :=
  chart.width < 20 || chart.height < 8

/-- Draws the chart of a figure, without its dots. -/
def drawChart (f : Figure Float) (a : Area) (g : Screen) : Screen :=
  let frame := a.withinBorder
  let g := drawBlock a f.title g
  match Chart.chartBounds f with
  | none => writeLine frame 0 "No data to plot.".toList g
  | some b =>
    let (chart, insets) := chartLayout frame
    let g :=
      if isSmall chart then putLine chart.x.toNat chart.y.toNat smallChartHint.toList g else g
    if insets.isSome then drawAxisLabels f b frame chart g else g

end Trendline.Viewer
