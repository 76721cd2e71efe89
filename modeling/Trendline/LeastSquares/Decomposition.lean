import Trendline.Double
import Trendline.LeastSquares.Solver

/-!
# A singular value decomposition

Rotations that make the columns of a matrix orthogonal tell which directions a
system determines: those whose singular value is above the tolerance.  The
others are dropped, which leaves the solution of least norm.

When no direction is dropped the normal equations have a single solution.  It
is computed with exact fractions and rounded once, so its digits do not depend
on the order of the rotations.  Only systems of finite doubles are decomposed.
-/

namespace Trendline.LeastSquares

/-- A vector in the source of a matrix together with its image. -/
structure Direction where
  source : List Float
  image : List Float

/-- The scalar product. -/
def dot (a b : List Float) : Float :=
  (List.zipWith (· * ·) a b).foldl (· + ·) 0

/-- The combination `c * a + s * b`. -/
def combine (c s : Float) (a b : List Float) : List Float :=
  List.zipWith (fun x y => c * x + s * y) a b

/-- Turns two directions in their plane until their images are orthogonal. -/
def Direction.orthogonalize (d e : Direction) : Direction × Direction :=
  let gamma := dot d.image e.image
  if gamma == 0 then (d, e)
  else
    let zeta := (dot e.image e.image - dot d.image d.image) / (2 * gamma)
    let root := zeta.abs + (1 + zeta * zeta).sqrt
    let t := if zeta < 0 then -1 / root else 1 / root
    let c := 1 / (1 + t * t).sqrt
    let s := c * t
    (⟨combine c (-s) d.source e.source, combine c (-s) d.image e.image⟩,
      ⟨combine s c d.source e.source, combine s c d.image e.image⟩)

/-- Makes one direction orthogonal to each of a list in turn. -/
def Direction.orthogonalizeAll (d : Direction) : List Direction → Direction × List Direction
  | [] => (d, [])
  | e :: rest =>
    let (d, e) := d.orthogonalize e
    let (d, rest) := d.orthogonalizeAll rest
    (d, e :: rest)

theorem Direction.length_orthogonalizeAll (ds : List Direction) (d : Direction) :
    (d.orthogonalizeAll ds).2.length = ds.length := by
  induction ds generalizing d with
  | nil => rfl
  | cons e rest ih => simp [Direction.orthogonalizeAll, ih]

/-- Makes every pair of directions orthogonal once. -/
def sweep : List Direction → List Direction
  | [] => []
  | d :: rest =>
    (d.orthogonalizeAll rest).1 :: sweep (d.orthogonalizeAll rest).2
termination_by ds => ds.length
decreasing_by simp [Direction.length_orthogonalizeAll]

/-- The columns of a matrix with so many of them. -/
def columns (width : Nat) (rows : List (List Float)) : List (List Float) :=
  (List.range width).map fun j => rows.map fun row => row.getD j 0

/-- The unit vectors, with the columns of the matrix as images. -/
def initialDirections (cols : List (List Float)) : List Direction :=
  cols.mapIdx fun i col =>
    ⟨(List.range cols.length).map fun j => if i = j then 1 else 0, col⟩

/-- How often all pairs are made orthogonal; some ten times are enough in practice. -/
def sweepCount : Nat :=
  30

/-- An orthonormal basis of the source with orthogonal images. -/
def singularDirections (cols : List (List Float)) : List Direction :=
  Nat.repeat sweep sweepCount (initialDirections cols)

/-- A direction's part in the solution, none if its singular value is at most the tolerance. -/
def Direction.share (tolerance scale : Float) (b : List Float) (d : Direction) : List Float :=
  let norm := (dot d.image d.image).sqrt
  if tolerance < norm * scale then
    let weight := dot (d.image.map (· / norm)) b / (norm * scale)
    d.source.map (weight * ·)
  else d.source.map fun _ => 0

/-- Whether a direction is determined at a tolerance. -/
def Direction.isDetermined (tolerance scale : Float) (d : Direction) : Bool :=
  tolerance < (dot d.image d.image).sqrt * scale

/-- A finite double as a fraction. -/
def toFraction (x : Float) : Rat :=
  let (m, q) := Double.magnitude x
  let (num, den) := Double.ratio m q
  let r := mkRat num den
  if Double.isNegative x then -r else r

/-- The double nearest to a fraction. -/
def ofFraction (r : Rat) : Float :=
  Double.ofRatio (r.num < 0) r.num.natAbs r.den

/-- The scalar product of fractions. -/
def dotExact (a b : List Rat) : Rat :=
  (List.zipWith (· * ·) a b).foldl (· + ·) 0

/-- Subtracts the multiple of the pivot row that clears the first entry. -/
def clearFirst (pivot : Rat) (rest : List Rat) : List Rat → List Rat
  | [] => []
  | first :: row => List.zipWith (fun a b => a - first / pivot * b) row rest

/-- Elimination on rows that end with their right-hand side; a zero pivot ends it. -/
def eliminate? : List (List Rat) → Option (List Rat)
  | [] => some []
  | [] :: _ => none
  | (pivot :: rest) :: rows =>
    if pivot = 0 then none
    else
      match eliminate? (rows.map (clearFirst pivot rest)) with
      | none => none
      | some xs => some ((rest.getLastD 0 - dotExact rest xs) / pivot :: xs)
termination_by rows => rows.length
decreasing_by simp

/-- The solution of the normal equations, rounded once. -/
def solveNormal? (cols : List (List Float)) (b : List Float) : Option (List Float) :=
  let cols := cols.map (·.map toFraction)
  let b := b.map toFraction
  let rows := cols.map fun col => cols.map (dotExact col) ++ [dotExact col b]
  (eliminate? rows).map (·.map ofFraction)

/-- The largest magnitude in a matrix, or one if there is nothing but zeros. -/
def scaleOf (cols : List (List Float)) : Float :=
  let largest := cols.flatten.foldl (fun big x => if big < x.abs then x.abs else big) 0
  if largest == 0 then 1 else largest

/-- The parts of all directions in the solution, added up. -/
def addShares (cols : List (List Float)) (directions : List Direction) (b : List Float)
    (tolerance : Float) : List Float :=
  (directions.map (·.share tolerance (scaleOf cols) b)).foldl (combine 1 1) (cols.map fun _ => 0)

/-- The solution that drops the directions at or below the tolerance. -/
def leastNorm (cols : List (List Float)) (b : List Float) (tolerance : Float) : List Float :=
  let scale := scaleOf cols
  let directions := singularDirections (cols.map (·.map (· / scale)))
  let solution := addShares cols directions b tolerance
  if solution.all Float.isFinite ∧ directions.all (·.isDetermined tolerance scale) then
    ((solveNormal? cols b).filter (·.all Float.isFinite)).getD solution
  else solution

/-- The decomposition of this library. -/
def decompose : Decomposition Float := fun width rows b tolerance =>
  let cols := columns width rows
  if (b :: cols).all (·.all Float.isFinite) then some (leastNorm cols b tolerance) else none

/-- The solver with the decomposition of this library. -/
def solve? : Solver Float :=
  solveBy decompose

end Trendline.LeastSquares
