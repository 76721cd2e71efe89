/-!
# The catalogue of figures

The five figures that can be built, with the name a user types, the name a
user reads, and the name that files get.
-/

namespace Trendline

/-- A figure of the catalogue. -/
inductive FigureKind where
  | recordAggregation
  | recordSizes
  | historyTree
  | queryProof
  | queryProofUnsorted
  deriving DecidableEq, Repr, Inhabited

namespace FigureKind

/-- All figures, in the order they are listed in. -/
def all : List FigureKind :=
  [recordAggregation, recordSizes, historyTree, queryProof, queryProofUnsorted]

/-- The name on the command line. -/
def name : FigureKind → String
  | recordAggregation => "record-aggregation"
  | recordSizes => "record-sizes"
  | historyTree => "history-tree"
  | queryProof => "query-proof"
  | queryProofUnsorted => "query-proof-unsorted"

/-- The name in lists and messages. -/
def displayName : FigureKind → String
  | recordAggregation => "Record Aggregation Size"
  | recordSizes => "Record vs Aggregation Size"
  | historyTree => "History Tree Size"
  | queryProof => "Query Proof Size"
  | queryProofUnsorted => "Query Proof Size (unsorted)"

/-- The name of files that hold the figure. -/
def slug : FigureKind → String
  | recordAggregation => "record_aggregation"
  | recordSizes => "record_sizes"
  | historyTree => "history_tree"
  | queryProof => "query_proof"
  | queryProofUnsorted => "query_proof_unsorted"

/-- The figure of that name. -/
def ofName? (s : String) : Option FigureKind :=
  all.find? (·.name == s)

end FigureKind

end Trendline
