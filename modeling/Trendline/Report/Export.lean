import Trendline.Csv.Writer
import Trendline.Fit
import Trendline.Json.Basic

/-!
# Exporting fits

Fits as a CSV table, with one record for each fit and then one for each skipped
series, and as a JSON document.  The table has ten places; the document has the
digits that read back, and `null` for what is not a number.
-/

namespace Trendline.Report

/-- The columns of the table. -/
def exportHeader : List String :=
  ["series", "space", "degree", "n", "slope", "intercept", "r_squared", "rmse", "sse",
    "coefficients", "error"]

/-- The record of a fit. -/
def fitRecord (r : FittedSeries Float) : List String :=
  let fit := r.fit
  let q := fit.quality
  let number := Decimal.fixed 10
  [r.label, fit.space.name, toString fit.degree.toNat, toString q.n, number fit.slope,
    number fit.intercept, number q.rSquared, number q.rmse, number q.sse,
    String.intercalate " " (fit.coefficients.map number), ""]

/-- The record of a skipped series. -/
def skippedRecord (s : SkippedSeries Float) : List String :=
  s.label :: List.replicate 9 "" ++ [s.error.message]

/-- The table of fits and skipped series. -/
def exportCsv (rows : List (FittedSeries Float)) (skipped : List (SkippedSeries Float)) :
    Except Csv.LengthMismatch String :=
  Csv.write exportHeader (rows.map fitRecord ++ skipped.map skippedRecord)

/-- A double in a document. -/
def numberJson (x : Float) : Json :=
  if x.isFinite then .number (Decimal.Style.document.write x) else .null

/-- The quality of a fit in a document. -/
def qualityJson (q : Quality Float) : Json :=
  .object [("sse", numberJson q.sse), ("rmse", numberJson q.rmse),
    ("r_squared", numberJson q.rSquared), ("n", .ofNat q.n)]

/-- A fit in a document. -/
def fitJson (r : FittedSeries Float) : Json :=
  .object [("series", .string r.label), ("space", .string r.fit.space.name),
    ("degree", .ofNat r.fit.degree.toNat),
    ("coefficients", .array (r.fit.coefficients.map numberJson)),
    ("quality", qualityJson r.fit.quality)]

/-- A skipped series in a document. -/
def skippedJson (s : SkippedSeries Float) : Json :=
  .object [("series", .string s.label), ("error", .string s.error.message)]

/-- The document of fits and skipped series. -/
def exportJson (rows : List (FittedSeries Float)) (skipped : List (SkippedSeries Float)) : Json :=
  .object [("fits", .array (rows.map fitJson)), ("skipped", .array (skipped.map skippedJson))]

end Trendline.Report
