import Trendline.Groups
import Trendline.Text.Column

/-!
# Fit tables

The table of fits that is printed: one line for each series, under a header and
a rule, and then the coefficients of the fits that two columns cannot show.
Series without a fit follow, each with its reason.
-/

namespace Trendline.Report

open Trendline.Text

/-- The cells of a line: the first two flush left, the others flush right. -/
structure TableLine where
  series : String
  space : String
  n : String
  slope : String
  intercept : String
  rSquared : String
  rmse : String

/-- The line without blanks at its end, and a line feed. -/
def TableLine.text (t : TableLine) : String :=
  let cells := [padEnd 28 ' ' t.series, padEnd 10 ' ' t.space, padStart 5 t.n, padStart 14 t.slope,
    padStart 14 t.intercept, padStart 8 t.rSquared, padStart 12 t.rmse]
  String.ofList (trimEndBy isBlank (String.intercalate " " cells).toList) ++ "\n"

/-- The names of the columns. -/
def header : TableLine :=
  ⟨"series", "space", "n", "slope", "intercept", "r2", "rmse"⟩

/-- The rule below the names. -/
def rule : TableLine :=
  let dashes := fun n => String.ofList (List.replicate n '-')
  ⟨dashes 28, dashes 10, dashes 5, dashes 14, dashes 14, dashes 8, dashes 12⟩

/-- The line of a fit. -/
def fitLine (r : FittedSeries Float) : TableLine :=
  let q := r.fit.quality
  { series := shorten 28 r.label
    space := r.fit.space.name
    n := toString q.n
    slope := Decimal.fixed 4 r.fit.slope
    intercept := Decimal.fixed 4 r.fit.intercept
    rSquared := Decimal.fixed 4 q.rSquared
    rmse := Decimal.fixed 4 q.rmse }

/-- All coefficients of a fit. -/
def coefficientsLine (r : FittedSeries Float) : String :=
  let label := r.label
  let degree := r.fit.degree.toNat
  let coefficients := String.intercalate ", " (r.fit.coefficients.map (Decimal.fixed 6))
  s!"- {label} (degree {degree}): [{coefficients}]\n"

/-- The table of fits. -/
def fitTable (rows : List (FittedSeries Float)) : String :=
  String.join <|
    header.text :: rule.text :: rows.map (fun r => (fitLine r).text) ++
      (rows.filter fun r => 1 < r.fit.degree).map coefficientsLine

/-- The lines about series without a fit. -/
def skippedLines (skipped : List (SkippedSeries Float)) : String :=
  String.join <| skipped.map fun s =>
    let label := s.label
    let reason := s.error.message
    s!"  (skipped {label}) {reason}\n"

end Trendline.Report

namespace Trendline.GroupFits

open Trendline.Report

/-- The fits as rows of a table. -/
def rows (g : GroupFits) : List (FittedSeries Float) :=
  g.fits.map fun f => ⟨f.series.label, f.fit⟩

/-- The skipped groups, named like the fitted ones. -/
def skippedSeries (column : String) (g : GroupFits) : List (SkippedSeries Float) :=
  g.skipped.map fun (group, error) => ⟨groupLabel column group, error⟩

/-- The report on a grouped fit. -/
def report (g : GroupFits) : String :=
  let skipped := g.skipped.map fun (group, error) => SkippedSeries.mk group.display error
  (if g.rows.isEmpty then "No group could be fitted.\n" else fitTable g.rows) ++ skippedLines skipped

end Trendline.GroupFits
