import Trendline.Report.FitTable
import Trendline.Viewer.Basic
import Trendline.Viewer.Chart

/-!
# The screen of the viewer

A row of blocks at the top and one at the bottom, each three cells high, tell
what is shown and what can be done.  Between them the list of figures is on the
left, and the selected one on the right: its chart, and below it the table of
its fits.
-/

namespace Trendline.Viewer

open Text (Cell Grid)

/-- The height of the blocks at the top and at the bottom. -/
def barHeight : UInt16 :=
  3

/-- The width of the list of figures. -/
def listWidth : UInt16 :=
  30

/-- Draws a block with lines of text in it. -/
def drawTextBlock (a : Area) (title : String) (lines : List String) (g : Screen) : Screen :=
  writeLines a.withinBorder lines (drawBlock a title g)

/-- The line at the top. -/
def headerLine (s : FigureSettings) : String :=
  let dir := s.dataDir
  let groups := String.intercalate "," (s.groups.map Value.display)
  let window := (s.window.map Value.display).getD "all"
  s!"sizes | serialized size benchmarks | data: {dir} | groups: {groups} | w: {window}"

/-- The line at the bottom. -/
def footerLine (v : Viewer) : String :=
  "↑/↓ select  r reload  s save svg  q quit | " ++ v.status

/-- The lines of the list, the selected one marked. -/
def listLines (v : Viewer) : List String :=
  v.entries.mapIdx fun i entry =>
    (if i = v.selected then "» " else "  ") ++ entry.kind.displayName

/-- Draws the list of figures, from the first one that lets the selected one be seen. -/
def drawList (v : Viewer) (a : Area) (g : Screen) : Screen :=
  let height := a.withinBorder.height.toNat
  drawTextBlock a "Figures" (v.listLines.drop (v.selected + 1 - height)) g

/-- The lines of the table of fits. -/
def fitLines (f : Figure Float) : List String :=
  Text.lines (Report.fitTable f.fits) ++ f.skipped.map fun s =>
    let label := s.label
    let reason := s.error.message
    s!"skipped {label}: {reason}"

/-- The greatest height of the table of fits. -/
def greatestTableHeight : Nat :=
  14

/-- The height of the table of fits, with its border. -/
def tableHeight (f : Figure Float) : UInt16 :=
  let coefficients := (f.fits.filter fun r => 1 < r.fit.degree).length
  let rows := 2 + f.fits.length + coefficients + f.skipped.length
  .ofNat (min (rows + 2) greatestTableHeight)

/-- Draws a figure, or the reason that there is none. -/
def drawEntry (entry : CatalogueEntry) (a : Area) (g : Screen) : Screen :=
  match entry.figure with
  | .ok f =>
    let table := a.base (tableHeight f)
    let g := drawChart f (a.aboveBase (tableHeight f)) g
    drawTextBlock table "Fits" (fitLines f) g
  | .error reason => drawTextBlock a entry.kind.displayName (Text.lines reason) g

/-- The screen of a terminal of a size. -/
def screen (v : Viewer) (width height : UInt16) : Screen :=
  let whole : Area := ⟨0, 0, width, height⟩
  let header := whole.top barHeight
  let rest := whole.belowTop barHeight
  let footer := rest.base barHeight
  let body := rest.aboveBase barHeight
  let g := Grid.fill Cell.blank width.toNat height.toNat
  let g := drawTextBlock header "" [headerLine v.settings] g
  let g := v.drawList (body.side listWidth) g
  let g := match v.current? with
    | some entry => drawEntry entry (body.besideSide listWidth) g
    | none => g
  drawTextBlock footer "" [v.footerLine] g

end Trendline.Viewer

/-- What a terminal shows, without the blanks at the ends of the rows. -/
def Trendline.Stage.lines (s : Trendline.Stage) : List String :=
  (s.viewer.screen s.width s.height).rows.map fun row =>
    String.ofList (Trendline.Text.trimEndBy (· == ' ') (Trendline.Text.Cell.textOf 0 row))
