/-!
# Segments of cells

The cells of a straight segment between two cells, one after the other: each
step goes to a neighbouring cell, diagonal ones included, and `error` keeps
account of how far the cell has strayed from the straight line.  The walk stops
at the cell it was sent to; it gets there in as many steps as the longer of the
two distances.
-/

namespace Trendline.Chart

/-- Where a walk is, and where it goes. -/
structure Walk where
  x : Int
  y : Int
  error : Int
  toX : Int
  toY : Int
  /-- The horizontal distance of the two ends. -/
  dx : Int
  /-- The vertical distance of the two ends, negated. -/
  dy : Int
  /-- The horizontal direction. -/
  sx : Int
  /-- The vertical direction. -/
  sy : Int
  deriving DecidableEq, Repr

namespace Walk

/-- The beginning of the walk from one cell to another. -/
def start (x0 y0 x1 y1 : Nat) : Walk :=
  let dx : Int := ((x1 : Int) - x0).natAbs
  let dy : Int := -(((y1 : Int) - y0).natAbs : Int)
  { x := x0, y := y0, error := dx + dy, toX := x1, toY := y1, dx, dy
    sx := if x0 < x1 then 1 else -1
    sy := if y0 < y1 then 1 else -1 }

/-- Whether the walk has arrived. -/
def hasArrived (w : Walk) : Bool :=
  w.x == w.toX && w.y == w.toY

/-- The next cell: a step along `x`, along `y` or along both. -/
def next (w : Walk) : Walk :=
  let twice := 2 * w.error
  let alongX := w.dy ≤ twice
  let alongY := twice ≤ w.dx
  { w with
    error := w.error + (if alongX then w.dy else 0) + (if alongY then w.dx else 0)
    x := if alongX then w.x + w.sx else w.x
    y := if alongY then w.y + w.sy else w.y }

/-- The cells of the walk until it arrives, with at most `fuel` steps. -/
def cellsWithin : (fuel : Nat) → Walk → List (Int × Int)
  | 0, w => [(w.x, w.y)]
  | fuel + 1, w =>
    if w.hasArrived then [(w.x, w.y)] else (w.x, w.y) :: cellsWithin fuel w.next

/-- The steps from one cell to another. -/
def stepCount (x0 y0 x1 y1 : Nat) : Nat :=
  max ((x1 : Int) - x0).natAbs ((y1 : Int) - y0).natAbs

end Walk

/-- The cells of the segment from one cell to another. -/
def segment (x0 y0 x1 y1 : Nat) : List (Int × Int) :=
  (Walk.start x0 y0 x1 y1).cellsWithin (Walk.stepCount x0 y0 x1 y1)

end Trendline.Chart
