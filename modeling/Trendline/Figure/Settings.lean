import Trendline.Dataset.Load
import Trendline.Figure.Basic
import Trendline.Groups

/-!
# Building figures

What every figure is built from: the directory of the tables, the groups that
a grouped figure overlays, and the sorting window that the query figures keep.
-/

namespace Trendline

/-- The settings that all figures share. -/
structure FigureSettings where
  dataDir : String
  groups : List Value := [.number 2, .number 128, .number 512]
  window : Option Value := none

/-- The table of a name in the data directory. -/
def FigureSettings.table (s : FigureSettings) (files : FileTree) (name : String) :
    Noted DataError Dataset :=
  Dataset.load files (Path.join s.dataDir name)

/-- Fits a series, adds it to a figure and notes what happened. -/
def Figure.addNoted (f : Figure Float) (s : Series Float) (style : SeriesStyle) :
    Noted DataError (Figure Float) := do
  let result := fitStraight s style.space
  .noteAll (fitNotes s.label result ++ f.addNotes s result style)
  return f.addFitted s style

/-- A column of a table as a labelled series. -/
def Dataset.labelledSeries (d : Dataset) (predicates : List Predicate) (x y label : String) :
    Except DataError (Series Float) := do
  let s ← d.selectSeries predicates x y
  return s.withLabel label

/-- A series of a figure: its column, its label, and how it is drawn. -/
structure ColumnSeries where
  column : String
  label : String
  style : SeriesStyle

/-- Adds columns of a table against the same `x`. -/
def Figure.addColumns (d : Dataset) (predicates : List Predicate) (x : String) :
    List ColumnSeries → Figure Float → Noted DataError (Figure Float)
  | [], f => return f
  | c :: rest, f => do
    let s ← .ofExcept (d.labelledSeries predicates x c.column c.label)
    let f ← f.addNoted s c.style
    Figure.addColumns d predicates x rest f

end Trendline
