import Trendline.Chart.Picture
import Trendline.CommandLine.Command
import Trendline.Figure.Catalogue
import Trendline.Program.Session
import Trendline.Report.Export
import Trendline.Report.Summary

/-!
# Running commands

What a fit, a plot and a sample print and write.
-/

namespace Trendline

open CommandLine

/-- The note about exported fits. -/
def exportedNote (outcome : FitOutcome) (path : String) : Note :=
  let fits := outcome.rows.length
  let skipped := outcome.skipped.length
  ⟨.info, "size_curves::io::export", s!"exported {fits} fits ({skipped} skipped) to {path}"⟩

/-- Writes the fits of an outcome to a file. -/
def exportFits (outcome : FitOutcome) (path : String) : Session Unit := do
  let table := Report.exportCsv outcome.rows outcome.skipped
  let text ← .ofExcept (table.mapError fun m => .refused (.writing "export CSV row" m.message))
  .change (·.saveText "export CSV " path text)
  .note (exportedNote outcome path)

/-- Fits, prints the fits, and exports them if asked to. -/
def CommandLine.FitCommand.run (c : FitCommand) (dataDir : String) : Session Unit := do
  let outcome ← .ofNoted fun files => c.request.run files dataDir
  if c.json then
    .print ((Report.exportJson outcome.rows outcome.skipped).pretty ++ "\n")
  else
    .print outcome.report
  match c.exportPath with
  | some path => exportFits outcome path
  | none => return

/-- The settings of figures; without groups the usual ones are overlaid. -/
def figureSettings (dataDir : String) (groups : List Value) (window : Option Value) :
    FigureSettings :=
  if groups.isEmpty then { dataDir, window } else { dataDir, groups, window }

/-- Saves a figure as a drawing. -/
def saveFigure (f : Figure Float) (path : String) : Session Unit := do
  .change (·.saveDrawing f path)
  .note (f.savedNote path)

/-- Builds a figure, prints it, and saves it if asked to. -/
def CommandLine.PlotCommand.run (c : PlotCommand) (dataDir : String) : Session Unit := do
  let settings := figureSettings dataDir c.groups c.window
  let f ← .ofNoted fun files => (buildFigure files settings c.kind).mapError (.refused ∘ .ofData)
  unless c.noPicture do
    .print (Chart.pictureText f c.width c.height ++ "\n")
  .print f.summary
  match c.svgPath with
  | some path => do
    saveFigure f path
    .print ("wrote " ++ path ++ "\n")
  | none => return

/-- The note about a written table. -/
def writtenNote (table : Csv.Table) (path : String) : Note :=
  let rows := table.rows.length
  ⟨.info, "size_curves::io::export", s!"wrote {rows} rows to {path}"⟩

/-- Writes tables into a directory, and returns their paths. -/
def writeTables (dir : String) : List Csv.Table → Session (List String)
  | [] => return []
  | table :: rest => do
    let path := Path.join dir table.fileName
    let text ← .ofExcept (table.text.mapError .refused)
    .change (·.saveText "" path text)
    .note (writtenNote table path)
    let paths ← writeTables dir rest
    return path :: paths

/-- Makes a directory and the ones above it. -/
def makeDirectories (dir : String) : Session Unit :=
  .change fun files =>
    (files.makeDirectories dir).mapError fun e =>
      .writing (fileName "directory " dir) e.message

/-- Generates the tables of a sample and writes them. -/
def CommandLine.SampleCommand.run (c : SampleCommand) (dataDir : String) : Session Unit := do
  let dir := c.out.getD dataDir
  let tables ← .ofExcept (Sample.generate c.settings)
  .note (Sample.generatedNote tables)
  makeDirectories dir
  let paths ← writeTables dir tables
  .print (String.join (paths.map fun path => "wrote " ++ path ++ "\n"))

end Trendline
