import Trendline.Chart.Axis

/-!
# Figures as drawings

A drawing is a list of coloured shapes with pixel coordinates, a title, names
for the axes and a legend.  The layers are drawn as in a picture of characters:
levels, curves, points.  A dashed curve consists of every other segment.
-/

namespace Trendline.Chart

/-- Red, green and blue, each of a byte. -/
structure Color where
  red : Nat
  green : Nat
  blue : Nat
  deriving DecidableEq, Repr

/-- The colors of series, taken in turn. -/
def palette : List Color :=
  [⟨220, 30, 30⟩, ⟨30, 80, 220⟩, ⟨30, 160, 60⟩, ⟨200, 0, 200⟩, ⟨0, 170, 190⟩, ⟨230, 140, 0⟩]

/-- The color at a place of the palette, which starts again after its end. -/
def seriesColor (index : Nat) : Color :=
  palette.getD (index % palette.length) ⟨0, 0, 0⟩

/-- The color of levels and text. -/
def foreground : Color :=
  ⟨0, 0, 0⟩

/-- A byte as two digits in base sixteen, in upper case. -/
def hexByte (n : Nat) : List Char :=
  let ds := (Nat.toDigits 16 n).map Char.toUpper
  List.replicate (2 - ds.length) '0' ++ ds

/-- The color in the notation of documents. -/
def Color.code (c : Color) : String :=
  String.ofList ('#' :: hexByte c.red ++ hexByte c.green ++ hexByte c.blue)

/-- A place on the drawing. -/
structure Pixel where
  x : Int
  y : Int
  deriving DecidableEq, Repr

/-- What is drawn for a layer. -/
inductive Shape where
  | polyline (points : List Pixel)
  | circle (center : Pixel) (radius : Nat)
  | polygon (points : List Pixel)
  deriving DecidableEq, Repr

/-- Coloured shapes in the order they are drawn in, and the text around them. -/
structure Drawing where
  width : Nat
  height : Nat
  captions : List String
  legend : List String
  shapes : List (Color × Shape)
  deriving DecidableEq, Repr

/-- A number of a 32-bit word with sign, the nearest one if the value is too large. -/
def saturate (n : Int) : Int :=
  max (-2147483648) (min 2147483647 n)

/-- The largest integer not above a double. -/
def floorInt (x : Float) : Int :=
  let n : Int := Double.floorMagnitude x
  if Double.isNegative x then (if Double.isIntegral x then -n else -n - 1) else n

/-- The integer part of a rounded double as a 32-bit word; a NaN gives zero. -/
def floorPixel (x : Float) : Int :=
  if x.isNaN then 0
  else if x.isFinite then saturate (floorInt x)
  else saturate (if Double.isNegative x then -2147483648 else 2147483648)

/-- The least integer not below a double, as a 32-bit word; a NaN gives zero. -/
def ceilPixel (x : Float) : Int :=
  if x.isNaN then 0
  else if x.isFinite then saturate (-floorInt (-x))
  else saturate (if Double.isNegative x then -2147483648 else 2147483648)

/-- The pixel of a value on an axis that runs from one pixel to another; pixels are 32-bit words. -/
def axisPixel (low high : Float) (first last : Int) (v : Float) : Int :=
  if low == high then (last - first).tdiv 2
  else
    let length := last - first
    let part := (v - low) / (high - low)
    if length = 0 then last
    else if 0 < length then
      Int.bmod (first + floorPixel (Float.ofInt length * part + 0.001)) 4294967296
    else Int.bmod (first + ceilPixel (Float.ofInt length * part - 0.001)) 4294967296

/-- The margins of a document: to the left and right of the plot, above and below it. -/
def plotMargins : Nat × Nat × Nat × Nat :=
  (72, 13, 38, 53)

/-- The pixel of a drawn point in a document of a size. -/
def pixelOf (b : Bounds Float) (width height : Nat) (p : Float × Float) : Pixel :=
  let (left, right, top, bottom) := plotMargins
  { x := axisPixel b.xMin b.xMax left ((width : Int) - right) p.1
    y := axisPixel b.yMin b.yMax ((height : Int) - bottom) top p.2 }

/-- Every other pair of neighbours. -/
def dashes {σ : Type} : List σ → List (List σ)
  | a :: b :: rest => [a, b] :: dashes rest
  | _ => []

/-- The paths of a curve. -/
def paths {σ : Type} (dashed : Bool) (points : List σ) : List (List σ) :=
  if dashed then dashes points else [points]

/-- How many points a level is drawn through. -/
def levelPoints : Nat :=
  41

/-- The points of a level at a height. -/
def levelPath (b : Bounds Float) (y : Float) : List (Float × Float) :=
  (List.range levelPoints).map fun i =>
    (b.xMin + (b.xMax - b.xMin) * Scalar.ofNat i / Scalar.ofNat (levelPoints - 1), y)

/-- The radius of a marker. -/
def markerRadius : Nat :=
  4

/-- The shape of a marker at a pixel. -/
def markerShape (marker : Marker) (p : Pixel) : Shape :=
  match marker with
  | .circle => .circle p markerRadius
  | .triangle => .polygon [⟨p.x, p.y - 4⟩, ⟨p.x - 3, p.y + 2⟩, ⟨p.x + 4, p.y + 2⟩]

/-- The shapes of the levels. -/
def levelShapes (fig : Figure Float) (b : Bounds Float) (pixel : Float × Float → Pixel) :
    List (Color × Shape) :=
  fig.levels.flatMap fun level =>
    let y := fig.yScale.apply level.y
    if y.isFinite then
      (paths level.dashed (levelPath b y)).map fun path =>
        (foreground, .polyline (path.map pixel))
    else []

/-- The shapes of the curves. -/
def curveShapes (fig : Figure Float) (pixel : Float × Float → Pixel) : List (Color × Shape) :=
  fig.lines.flatMap fun line =>
    (paths line.dashed (line.points.map fig.display)).map fun path =>
      (seriesColor line.color, .polyline (path.map pixel))

/-- The shapes of the points. -/
def pointShapes (fig : Figure Float) (pixel : Float × Float → Pixel) : List (Color × Shape) :=
  fig.scatters.flatMap fun layer =>
    layer.points.map fun p =>
      (seriesColor layer.color, markerShape layer.marker (pixel (fig.display p)))

/-- The figure as a drawing; one with nothing to draw is empty. -/
def drawing (fig : Figure Float) (width height : Nat) : Drawing :=
  match chartBounds fig with
  | none => { width, height, captions := [], legend := [], shapes := [] }
  | some b =>
    let pixel := pixelOf b width height
    { width, height
      captions := [fig.title, fig.yLabel, fig.xLabel]
      legend := (fig.lines.map (·.label)).filter (· != "") ++ fig.scatters.map (·.label)
      shapes := levelShapes fig b pixel ++ curveShapes fig pixel ++ pointShapes fig pixel }

end Trendline.Chart
