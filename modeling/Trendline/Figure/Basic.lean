import Trendline.Figure.Kind
import Trendline.Fit
import Trendline.Log.Note

/-!
# Figures

A figure is everything that a renderer needs: scattered points, fitted curves,
reference levels, and the axes.  Coordinates are kept in data space; on a
logarithmic axis a renderer draws their logarithm.

A series enters a figure through `addResult`, together with its fit or with the
reason that it has none.  Either all its parts are added, a scatter layer, a
sampled curve and a line of the fit table, or none of them is and the series is
listed as skipped.  On a logarithmic axis only positive values are accepted.
-/

namespace Trendline

/-- How an axis maps data to the drawing. -/
inductive AxisScale where
  | linear
  | log
  deriving DecidableEq, Repr, Inhabited

/-- The name of the scale. -/
def AxisScale.name : AxisScale → String
  | linear => "linear"
  | log => "log"

/-- The scale of that name. -/
def AxisScale.ofName? (s : String) : Option AxisScale :=
  [linear, log].find? (·.name == s)

/-- The shape of a scattered point. -/
inductive Marker where
  | circle
  | triangle
  deriving DecidableEq, Repr, Inhabited

/-- The name of the marker. -/
def Marker.name : Marker → String
  | circle => "circle"
  | triangle => "triangle"

/-- The marker of that name. -/
def Marker.ofName? (s : String) : Option Marker :=
  [circle, triangle].find? (·.name == s)

/-- The character that stands for the marker. -/
def Marker.glyph : Marker → Char
  | circle => 'o'
  | triangle => '^'

/-- Scattered points; the color is a place in the palette. -/
structure ScatterLayer (α : Type) where
  label : String
  points : List (α × α)
  marker : Marker
  color : Nat
  deriving DecidableEq, Repr

/-- A curve through points.  A curve without a label is not in the legend. -/
structure LineLayer (α : Type) where
  label : String
  points : List (α × α)
  dashed : Bool
  color : Nat
  deriving DecidableEq, Repr

/-- A horizontal line for reference. -/
structure Level (α : Type) where
  label : String
  y : α
  dashed : Bool
  deriving DecidableEq, Repr

/-- Layers, axes and the fits they show. -/
structure Figure (α : Type) where
  kind : FigureKind
  title : String
  xLabel : String
  yLabel : String
  xScale : AxisScale := .linear
  yScale : AxisScale := .linear
  scatters : List (ScatterLayer α) := []
  lines : List (LineLayer α) := []
  levels : List (Level α) := []
  fits : List (FittedSeries α) := []
  skipped : List (SkippedSeries α) := []
  deriving DecidableEq, Repr

/-- How a series is fitted and drawn. -/
structure SeriesStyle where
  space : Space
  marker : Marker
  color : Nat
  dashed : Bool
  /-- The label of the curve; an empty one keeps it out of the legend. -/
  lineLabel : String
  deriving DecidableEq, Repr

/-- The least box around some points. -/
structure Bounds (α : Type) where
  xMin : α
  xMax : α
  yMin : α
  yMax : α
  deriving DecidableEq, Repr

variable {α : Type} [Scalar α]

/-- The place of a data value on the axis. -/
def AxisScale.apply : AxisScale → α → α
  | linear, v => v
  | log, v => Scalar.ln v

/-- How many points a fitted curve is sampled at. -/
def sampleCount : Nat :=
  48

/-- The least and the greatest of the scalars that are defined. -/
def extremes? (xs : List α) : Option (α × α) :=
  match xs.filter (!Scalar.isUndefined ·) with
  | [] => none
  | x :: rest => some (rest.foldl Scalar.least x, rest.foldl Scalar.greatest x)

/-- The place at a part `t` of the way from `lo` to `hi`, as the axis shows it. -/
def AxisScale.between (scale : AxisScale) (lo hi t : α) : α :=
  match scale with
  | linear => lo + t * (hi - lo)
  | log => Scalar.exp (Scalar.ln lo + t * (Scalar.ln hi - Scalar.ln lo))

/-- Evenly spaced abscissae across the range of the data. -/
def sampleXs (xs : List α) (scale : AxisScale) : List α :=
  match extremes? xs with
  | none => List.replicate sampleCount Scalar.undefined
  | some (lo, hi) =>
    (List.range sampleCount).map fun i =>
      scale.between lo hi (Scalar.ofNat i / Scalar.ofNat (sampleCount - 1))

namespace Bounds

/-- The box of a single point. -/
def ofPoint (p : α × α) : Bounds α :=
  ⟨p.1, p.1, p.2, p.2⟩

/-- The box made large enough for a point. -/
def insert (b : Bounds α) (p : α × α) : Bounds α :=
  { xMin := Scalar.least b.xMin p.1
    xMax := Scalar.greatest b.xMax p.1
    yMin := Scalar.least b.yMin p.2
    yMax := Scalar.greatest b.yMax p.2 }

/-- The box made high enough for a level. -/
def insertLevel (b : Bounds α) (y : α) : Bounds α :=
  { b with
    yMin := Scalar.least b.yMin y
    yMax := Scalar.greatest b.yMax y }

end Bounds

namespace Figure

/-- The figure with both axes logarithmic. -/
def logLog (f : Figure α) : Figure α :=
  { f with xScale := .log, yScale := .log }

/-- Where a data point is drawn. -/
def display (f : Figure α) (p : α × α) : α × α :=
  (f.xScale.apply p.1, f.yScale.apply p.2)

/-- Whether a drawn point has a place. -/
def isVisible (p : α × α) : Bool :=
  Scalar.isFinite p.1 && Scalar.isFinite p.2

/-- The places of all points that have one. -/
def visiblePoints (f : Figure α) : List (α × α) :=
  let points := f.scatters.flatMap (·.points) ++ f.lines.flatMap (·.points)
  (points.map f.display).filter isVisible

/-- The heights of all levels that have one. -/
def visibleLevels (f : Figure α) : List α :=
  (f.levels.map fun level => f.yScale.apply level.y).filter Scalar.isFinite

/-- The least box around everything that has a place, if any point has one. -/
def displayBounds (f : Figure α) : Option (Bounds α) :=
  match f.visiblePoints with
  | [] => none
  | p :: rest => some (f.visibleLevels.foldl Bounds.insertLevel (rest.foldl Bounds.insert (.ofPoint p)))

/-- The layers of a fitted series, or why it cannot be shown on the axes. -/
def layers (f : Figure α) (s : Series α) (fit : Fit α) (style : SeriesStyle) :
    Except (FitError α) (ScatterLayer α × LineLayer α) := do
  let _ ← if f.xScale = .log then lnAll .x s.xs else .ok []
  let _ ← if f.yScale = .log then lnAll .y s.ys else .ok []
  let xs := sampleXs s.xs f.xScale
  let ys ← match f.yScale with
    | .log => fit.predictPositive xs
    | .linear => .ok (fit.predictCurve xs)
  return (⟨s.label, s.points, style.marker, style.color⟩,
    ⟨style.lineLabel, xs.zip ys, style.dashed, style.color⟩)

/-- Lists a series as skipped. -/
def skip (f : Figure α) (label : String) (error : FitError α) : Figure α :=
  { f with skipped := f.skipped ++ [⟨label, error⟩] }

/-- What becomes of a series: its fit and layers, or the reason to skip it. -/
def partsOf (f : Figure α) (s : Series α) (result : Except (FitError α) (Fit α))
    (style : SeriesStyle) : Except (FitError α) (Fit α × ScatterLayer α × LineLayer α) := do
  let fit ← result
  let (scatter, line) ← f.layers s fit style
  return (fit, scatter, line)

/-- Adds a series that was fitted, or lists it as skipped. -/
def addResult (f : Figure α) (s : Series α) (result : Except (FitError α) (Fit α))
    (style : SeriesStyle) : Figure α :=
  match f.partsOf s result style with
  | .ok (fit, scatter, line) =>
    { f with
      scatters := f.scatters ++ [scatter]
      lines := f.lines ++ [line]
      fits := f.fits ++ [⟨s.label, fit⟩] }
  | .error e => f.skip s.label e

/-- Fits a series with a straight line and adds it. -/
def addFitted (f : Figure Float) (s : Series Float) (style : SeriesStyle) : Figure Float :=
  f.addResult s (fitStraight s style.space) style

/-! ## Notes -/

/-- The note about a skipped series. -/
def skipNote (f : Figure Float) (label : String) (e : FitError Float) : Note :=
  let name := f.kind.displayName
  let reason := e.message
  ⟨.warn, "size_curves::figures", s!"skipping '{label}' in {name}: {reason}"⟩

/-- The note about adding a series, if it is skipped. -/
def addNotes (f : Figure Float) (s : Series Float) (result : Except (FitError Float) (Fit Float))
    (style : SeriesStyle) : List Note :=
  match f.partsOf s result style with
  | .ok _ => []
  | .error e => [f.skipNote s.label e]

end Figure

end Trendline
