import Trendline.Failure
import Trendline.Value

/-!
# Datasets

A dataset is a table of cells under named columns.  All its rows are as wide as
the header, and a row remembers the line it was read from.  Where two columns
share a name, the name means the last of them.
-/

namespace Trendline

/-- The cells of a row, and the line the row comes from. -/
structure Row where
  line : Nat
  values : List Value
  deriving Inhabited

/-- A table of cells. -/
structure Dataset where
  /-- The name of the table in messages. -/
  source : String
  columns : List String
  rows : List Row
  deriving Inhabited

/-- What stands in a cell that was not given. -/
def Value.empty : Value :=
  .text ""

namespace Row

/-- The cell of a column. -/
def cell (row : Row) (column : Nat) : Value :=
  row.values.getD column Value.empty

/-- The row with exactly so many cells: longer ones are cut and shorter ones filled. -/
def resize (width : Nat) (row : Row) : Row :=
  { row with
    values := row.values.take width ++ List.replicate (width - row.values.length) Value.empty }

@[simp] theorem length_resize (width : Nat) (row : Row) :
    (row.resize width).values.length = width := by
  simp [resize]
  omega

end Row

namespace Dataset

/-- The dataset of rows of any width. -/
def ofRows (source : String) (columns : List String) (rows : List Row) : Dataset :=
  { source, columns, rows := rows.map (Row.resize columns.length) }

/-- The dataset of cells, with lines as if they stood below a header. -/
def ofValues (source : String) (columns : List String) (rows : List (List Value)) : Dataset :=
  ofRows source columns (rows.mapIdx fun i values => ⟨i + 2, values⟩)

/-- The number of rows. -/
def size (d : Dataset) : Nat :=
  d.rows.length

/-- The last position of a name. -/
def lastIndex? (name : String) : List String → Option Nat
  | [] => none
  | column :: rest =>
    match lastIndex? name rest with
    | some i => some (i + 1)
    | none => if column = name then some 0 else none

/-- The position of a column. -/
def columnIndex (d : Dataset) (name : String) : Except DataError Nat :=
  match lastIndex? name d.columns with
  | some i => .ok i
  | none => .error (.missingColumn d.source name)

/-- Whether there is a column of that name. -/
def hasColumn (d : Dataset) (name : String) : Bool :=
  d.columns.contains name

/-- Fails for the first name that is no column. -/
def requireColumns (d : Dataset) : List String → Except DataError Unit
  | [] => .ok ()
  | name :: rest => do
    let _ ← d.columnIndex name
    d.requireColumns rest

/-- The number in a cell. -/
def numberAt (d : Dataset) (row : Row) (column : Nat) : Except DataError Float :=
  match row.cell column with
  | .number x => .ok x
  | .text s => .error (.invalidValue d.source row.line (d.columns.getD column "") s)

/-- The number in the first row, if there is a row. -/
def firstNumber (d : Dataset) (name : String) : Except DataError (Option Float) := do
  let column ← d.columnIndex name
  match d.rows with
  | [] => return none
  | row :: _ => return some (← d.numberAt row column)

/-- The values, without those that agree with an earlier one. -/
def distinctFrom (seen : List Value) : List Value → List Value
  | [] => []
  | v :: rest =>
    if seen.any (·.agrees v) then distinctFrom seen rest
    else v :: distinctFrom (seen ++ [v]) rest

/-- The distinct values of a column, in the order of their first appearance. -/
def distinctValues (d : Dataset) (name : String) : Except DataError (List Value) := do
  let column ← d.columnIndex name
  return distinctFrom [] (d.rows.map (·.cell column))

end Dataset

end Trendline
