import Trendline.Json.Reader
import Trendline.Csv.Table
import Trendline.Dataset.Csv
import Trendline.Report.Summary
import Trendline.Report.Export
import Trendline.Chart.Picture
import Trendline.Chart.Drawing
import Trendline.Sample.Tables
import Trendline.Figure.Catalogue
import Trendline.Program.Run
import Trendline.Log.Filter
import Trendline.Viewer.Screen
import Trendline.Main
import Trendline.Proofs.LeastSquares.Recovery
import Trendline.Proofs.Groups.Outcomes
import Trendline.Proofs.Dataset.Partition
import Trendline.Proofs.Chart.Segment
import Trendline.Proofs.Dataset.Series
import Trendline.Proofs.Text.Blank
import Trendline.Proofs.Text.Utf8
import Trendline.Proofs.Value.Parse
import Trendline.Proofs.Dataset.Csv
import Trendline.Proofs.Csv.Reader
import Trendline.Proofs.Csv.RoundTrip
import Trendline.Proofs.Dataset.Reload
import Trendline.Proofs.Report.Export
import Trendline.Proofs.Figure.Building
import Trendline.Proofs.Groups.Lookup
import Trendline.Proofs.FitRequest.MissingColumn
import Trendline.Proofs.FitRequest.Alone
import Trendline.Proofs.Figure.HistoryTree
import Trendline.Proofs.Chart.PictureText
import Trendline.Proofs.Viewer.Presses
import Trendline.Proofs.Fit.RowOrder
import Trendline.Proofs.Sample.Figures
import Trendline.Proofs.Fit.Outcomes
import Trendline.Proofs.LeastSquares.Vandermonde
import Trendline.Proofs.Fit.SameAbscissa
import Trendline.Proofs.Fit.Finite
import Trendline.Proofs.CommandLine.Values
import Trendline.Proofs.Predicate.Display
import Trendline.Proofs.Dataset.Lines
import Trendline.Proofs.Fit.Curve
import Trendline.Proofs.Chart.Cells
import Trendline.Proofs.Report.Document
import Trendline.Proofs.Viewer.AxisLabels
import Trendline.Proofs.Fit.FewPoints
import Trendline.Proofs.Sample.SizeModel
import Trendline.Proofs.CommandLine.DefaultCommand
import Trendline.Proofs.Viewer.TickRoom
import Trendline.Proofs.Dataset.Positions
import Trendline.Proofs.Figure.Samples
import Trendline.Proofs.LeastSquares.Horner
