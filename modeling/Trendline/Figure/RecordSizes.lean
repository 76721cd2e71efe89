import Trendline.Figure.Settings

/-!
# The sizes of records and their aggregations

Both tables vary the counts of numerical and of categorical attributes
independently.  The figures keep the rows in which the two are the same, so
that `x` is the number of attributes of each sort.
-/

namespace Trendline

/-- The column of the abscissae. -/
def recordX : String :=
  "NumberNumerical"

/-- The rows with as many numerical as categorical attributes. -/
def diagonal : List Predicate :=
  [.columnsEqual "NumberNumerical" "NumberCategorical"]

/-- The size of an aggregation alone. -/
def recordAggregation (files : FileTree) (s : FigureSettings) : Noted DataError (Figure Float) := do
  let d ← s.table files "record_aggregation_size.csv"
  Figure.addColumns d diagonal recordX
    [⟨"Size", "Record Aggregation", ⟨.linear, .circle, 0, false, "Linear Fit"⟩⟩]
    { kind := .recordAggregation
      title := "Record Aggregation Size"
      xLabel := "Number of Attributes In Record"
      yLabel := "Size of Record Aggregation (in bytes)" }

/-- The sizes of a record and of its aggregation. -/
def recordSizes (files : FileTree) (s : FigureSettings) : Noted DataError (Figure Float) := do
  let d ← s.table files "record_and_record_aggregation_size.csv"
  Figure.addColumns d diagonal recordX
    [⟨"RecordSize", "Record", ⟨.linear, .circle, 0, false, ""⟩⟩,
      ⟨"RecordAggregationSize", "Record Aggregation", ⟨.linear, .triangle, 1, false, ""⟩⟩]
    { kind := .recordSizes
      title := "Record and Record Aggregation Size"
      xLabel := "Number of Attributes In Record"
      yLabel := "Size (in bytes)" }

end Trendline
