import Trendline.Dataset.Basic
import Trendline.Predicate
import Trendline.Series

/-!
# Selecting rows

A list of predicates selects the rows that satisfy all of them, in their
order.  `selectSeries` takes two columns of these rows.  The columns are looked
up first, `x` before `y` before those of the predicates; cells are looked at
only in selected rows.
-/

namespace Trendline

/-- A predicate whose columns have been found. -/
inductive CellTest where
  | agreesWith (column : Nat) (value : Value)
  | columnsAgree (left right : Nat)

/-- Whether a row passes the test. -/
def CellTest.holds (row : Row) : CellTest → Bool
  | agreesWith column value => (row.cell column).agrees value
  | columnsAgree left right => (row.cell left).agrees (row.cell right)

namespace Dataset

/-- Finds the columns of a predicate. -/
def resolve (d : Dataset) : Predicate → Except DataError CellTest
  | .equals column value => do return .agreesWith (← d.columnIndex column) value
  | .columnsEqual left right => do
    let l ← d.columnIndex left
    let r ← d.columnIndex right
    return .columnsAgree l r

/-- Finds the columns of all predicates. -/
def resolveAll (d : Dataset) : List Predicate → Except DataError (List CellTest)
  | [] => .ok []
  | p :: rest => do
    let test ← d.resolve p
    let tests ← d.resolveAll rest
    return test :: tests

/-- The rows that satisfy every predicate. -/
def matchingRows (d : Dataset) (predicates : List Predicate) : Except DataError (List Row) := do
  let tests ← d.resolveAll predicates
  return d.rows.filter fun row => tests.all (·.holds row)

/-- The numbers of two columns in each of the rows. -/
def pointsOf (d : Dataset) (x y : Nat) : List Row → Except DataError (List (Float × Float))
  | [] => .ok []
  | row :: rest => do
    let px ← d.numberAt row x
    let py ← d.numberAt row y
    let points ← d.pointsOf x y rest
    return (px, py) :: points

/-- What a selected series is called. -/
def selectionLabel (predicates : List Predicate) (y : String) : String :=
  match predicates with
  | [] => y
  | _ => y ++ " [" ++ String.intercalate ", " (predicates.map Predicate.display) ++ "]"

/-- The points of two columns in the rows that satisfy every predicate. -/
def selectSeries (d : Dataset) (predicates : List Predicate) (x y : String) :
    Except DataError (Series Float) := do
  let xColumn ← d.columnIndex x
  let yColumn ← d.columnIndex y
  let rows ← d.matchingRows predicates
  let points ← d.pointsOf xColumn yColumn rows
  return ⟨selectionLabel predicates y, points⟩

end Dataset

end Trendline
