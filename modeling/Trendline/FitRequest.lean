import Trendline.Dataset.Load
import Trendline.Groups
import Trendline.Report.FitTable

/-!
# Fit requests

A request names a file, two columns, the rows to keep and how to fit them, as
one series or one for each group.  A single series without a fit fails the
request; a group without one is reported as skipped.
-/

namespace Trendline

/-- What is to be fitted. -/
structure FitRequest where
  file : String
  x : String
  y : String
  predicates : List Predicate := []
  groupBy : Option String := none
  /-- The groups; every distinct value of the column if there are none. -/
  groups : List Value := []
  space : Space := .linear
  degree : UInt64 := 1

/-- What a request gave. -/
inductive FitOutcome where
  | single (series : Series Float) (fit : Fit Float)
  | grouped (column : String) (fits : GroupFits)

namespace FitOutcome

/-- The fits as rows of a table. -/
def rows : FitOutcome → List (FittedSeries Float)
  | single series fit => [⟨series.label, fit⟩]
  | grouped _ fits => fits.rows

/-- The groups without a fit. -/
def skipped : FitOutcome → List (SkippedSeries Float)
  | single .. => []
  | grouped column fits => fits.skippedSeries column

/-- The outcome as it is printed. -/
def report : FitOutcome → String
  | single series fit => Report.fitTable [⟨series.label, fit⟩]
  | grouped _ fits => fits.report

end FitOutcome

namespace FitRequest

/-- Where the file of a request is: as given if it exists, and else in the data directory. -/
def locate (files : FileTree) (file dataDir : String) : String :=
  if Path.isAbsolute file || files.contains file then file else Path.join dataDir file

/-- The failure of a single series. -/
def fitFailure (series : Series Float) (e : FitError Float) : Failure :=
  let label := series.label
  let reason := e.message
  ⟨3, s!"Cannot fit '{label}': {reason}"⟩

/-- The note about a single series. -/
def fittingNote (d : Dataset) (series : Series Float) : Note :=
  let points := series.size
  let source := d.source
  ⟨.info, "size_curves::app::pipeline", s!"fitting {points} points from '{source}'"⟩

/-- Fits the selected rows as one series. -/
def runSingle (d : Dataset) (r : FitRequest) : Noted (Stop Failure) FitOutcome := do
  let series ← (Noted.ofExcept (d.selectSeries r.predicates r.x r.y)).mapError (.refused ∘ .ofData)
  .note (fittingNote d series)
  let fit := fitSeries series r.space r.degree
  .noteAll (fitNotes series.label fit)
  let fit ← (Noted.ofExcept fit).mapError (.map (fitFailure series))
  return .single series fit

/-- The groups of a request. -/
def groupsIn (d : Dataset) (r : FitRequest) (column : String) : Except DataError (List Value) :=
  if r.groups.isEmpty then d.distinctValues column else .ok r.groups

/-- Fits the selected rows of each group. -/
def runGrouped (d : Dataset) (r : FitRequest) (column : String) :
    Noted (Stop DataError) FitOutcome := do
  let groups ← .ofExcept ((groupsIn d r column).mapError .refused)
  let spec : GroupSpec :=
    { column, groups, predicates := r.predicates, x := r.x, y := r.y, space := r.space
      degree := r.degree }
  let fits ← fitGroupsNoted d spec
  return .grouped column fits

/-- Loads, selects and fits.  A degree of zero fails before the file is looked for. -/
def run (files : FileTree) (dataDir : String) (r : FitRequest) :
    Noted (Stop Failure) FitOutcome :=
  if r.degree = 0 then .ofExcept (.error (.refused (.ofFit .zeroDegree)))
  else do
    let d ← (Dataset.load files (locate files r.file dataDir)).mapError (.refused ∘ .ofData)
    match r.groupBy with
    | none => runSingle d r
    | some column => (runGrouped d r column).mapError (.map .ofData)

end FitRequest

end Trendline
