import Trendline.Figure.Basic
import Trendline.Report.FitTable

/-!
# The summary of a figure

What is printed about a figure: its title and axes, the table of its fits, the
series that were skipped, and the heights of its levels.
-/

namespace Trendline.Figure

open Trendline.Report

/-- The summary of a figure. -/
def summary (fig : Figure Float) : String :=
  let title := fig.title
  let xName := fig.xLabel
  let yName := fig.yLabel
  let fits := if fig.fits.isEmpty then "No series could be fitted.\n" else fitTable fig.fits
  let levels := fig.levels.map fun level =>
    let label := level.label
    let height := Decimal.fixed 0 level.y
    s!"{label}: {height}\n"
  s!"=== {title} ===\nx: {xName} | y: {yName}\n\n" ++ fits ++ skippedLines fig.skipped ++
    String.join levels

end Trendline.Figure
