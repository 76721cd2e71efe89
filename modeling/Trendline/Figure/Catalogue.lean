import Trendline.Figure.HistoryTree
import Trendline.Figure.QueryProof
import Trendline.Figure.RecordSizes

/-!
# Building the figures of the catalogue

Each figure is built from its own tables.  When all are built, a figure that
fails does not keep the others from being built; its place holds the reason.
-/

namespace Trendline

/-- The note about a figure that was built. -/
def Figure.builtNote (f : Figure Float) (kind : FigureKind) : Note :=
  let name := kind.displayName
  let fits := f.fits.length
  let skipped := f.skipped.length
  ⟨.info, "size_curves::figures", s!"built {name}: {fits} fits, {skipped} skipped"⟩

/-- A figure from its tables. -/
def figureOf (files : FileTree) (s : FigureSettings) : FigureKind → Noted DataError (Figure Float)
  | .recordAggregation => recordAggregation files s
  | .recordSizes => recordSizes files s
  | .historyTree => historyTree files s
  | .queryProof => queryProof files s "query_proof_size.csv" .queryProof
  | .queryProofUnsorted => queryProof files s "query_proof_unsorted_size.csv" .queryProofUnsorted

/-- Builds a figure of the catalogue. -/
def buildFigure (files : FileTree) (s : FigureSettings) (kind : FigureKind) :
    Noted DataError (Figure Float) := do
  let f ← figureOf files s kind
  .note (f.builtNote kind)
  return f

/-- A figure of the catalogue, or the reason that it cannot be built. -/
structure CatalogueEntry where
  kind : FigureKind
  figure : Except String (Figure Float)
  /-- What was noted on the way. -/
  notes : List Note := []

/-- The note about a figure that cannot be built. -/
def failedNote (kind : FigureKind) (reason : String) : Note :=
  let name := kind.displayName
  ⟨.warn, "size_curves::app::pipeline", s!"cannot build {name}: {reason}"⟩

/-- Builds a figure for the catalogue. -/
def buildEntry (files : FileTree) (s : FigureSettings) (kind : FigureKind) : CatalogueEntry :=
  let m := buildFigure files s kind
  match m.result with
  | .ok f => ⟨kind, .ok f, m.notes⟩
  | .error e => ⟨kind, .error e.message, m.notes ++ [failedNote kind e.message]⟩

/-- Builds all figures of the catalogue. -/
def buildAll (files : FileTree) (s : FigureSettings) : List CatalogueEntry :=
  FigureKind.all.map (buildEntry files s)

end Trendline
