import Trendline.Figure.Settings

/-!
# The sizes of query proofs

Two tables of the same form, one of sorted and one of unsorted records.  A
sorting window selects rows.  Every row repeats the sizes for all records, so
the levels are taken from the first one.
-/

namespace Trendline

/-- The column of the abscissae. -/
def queryX : String :=
  "NumberOfRecordsMatching"

/-- The columns without which there is no figure. -/
def queryColumns : List String :=
  [queryX, "ProofSize", "SizeOfRecordsMatching", "SizeOfRecordsAll", "SizeOfProofAll"]

/-- The title, which names the window. -/
def queryTitle (kind : FigureKind) (window : Option Value) : String :=
  match kind, window with
  | .queryProofUnsorted, some w => "Query Proof Size (Unsorted Records, w = " ++ w.display ++ ")"
  | .queryProofUnsorted, none => "Query Proof Size (Unsorted Records)"
  | _, some w => "Query Proof Size (w = " ++ w.display ++ ")"
  | _, none => "Query Proof Size"

/-- Adds the number in the first row of a column as a level. -/
def Figure.addLevel (f : Figure Float) (d : Dataset) (column label : String) (dashed : Bool) :
    Except DataError (Figure Float) := do
  match ← d.firstNumber column with
  | some y => return { f with levels := f.levels ++ [⟨label, y, dashed⟩] }
  | none => return f

/-- The figure of a query table. -/
def queryProof (files : FileTree) (s : FigureSettings) (fileName : String) (kind : FigureKind) :
    Noted DataError (Figure Float) := do
  let d ← s.table files fileName
  .ofExcept (d.requireColumns queryColumns)
  let predicates := s.window.toList.map fun w => Predicate.equals "w" w
  let f ← Figure.addColumns d predicates queryX
    [⟨"ProofSize", "Proof Size", ⟨.linear, .triangle, 0, false, ""⟩⟩,
      ⟨"SizeOfRecordsMatching", "Size of Matching Records", ⟨.linear, .circle, 1, false, ""⟩⟩]
    { kind
      title := queryTitle kind s.window
      xLabel := "Number of Records Matching"
      yLabel := "Size (in bytes)" }
  let f ← .ofExcept (f.addLevel d "SizeOfRecordsAll" "Size of All Records" true)
  .ofExcept (f.addLevel d "SizeOfProofAll" "Proof Size of All Records" false)

end Trendline
