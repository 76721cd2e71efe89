import Trendline.Figure.Basic
import Trendline.Proofs.Fit.Positive

/-!
# What becomes of a series

A series that is added to a figure becomes an `Entry`, with a scatter layer, a
curve and a line of the fit table, or it is listed as skipped.  `outcome` says
which, from the series, its fit and the scales of the axes alone, and `record`
writes an outcome into the figure.

* `fault?_layers`: why a fitted series cannot be shown.
* `addResult_eq`: adding a series records its outcome.
* `Holds`: the figure holds the outcomes of a list, and nothing else.
-/

namespace Trendline.Figure

variable {α : Type}

/-- A series that is shown, with the points of its curve. -/
structure Entry (α : Type) where
  series : Series α
  fit : Fit α
  style : SeriesStyle
  curve : List (α × α)

namespace Entry

/-- The scatter layer of the series. -/
def scatter (e : Entry α) : ScatterLayer α :=
  ⟨e.series.label, e.series.points, e.style.marker, e.style.color⟩

/-- The curve of the fit. -/
def line (e : Entry α) : LineLayer α :=
  ⟨e.style.lineLabel, e.curve, e.style.dashed, e.style.color⟩

/-- The line in the table of fits. -/
def fitted (e : Entry α) : FittedSeries α :=
  ⟨e.series.label, e.fit⟩

end Entry

/-- What became of a series. -/
inductive Outcome (α : Type) where
  | added (entry : Entry α)
  | skipped (series : SkippedSeries α)

namespace Outcome

/-- The entry, if the series is shown. -/
def entry? : Outcome α → Option (Entry α)
  | added e => some e
  | skipped _ => none

/-- The series and the reason, if it is skipped. -/
def skipped? : Outcome α → Option (SkippedSeries α)
  | added _ => none
  | skipped x => some x

theorem length_entries_add_length_skipped (outcomes : List (Outcome α)) :
    (outcomes.filterMap entry?).length + (outcomes.filterMap skipped?).length =
      outcomes.length := by
  induction outcomes with
  | nil => rfl
  | cons o rest ih =>
    cases o with
    | added e =>
      simp only [List.filterMap_cons, entry?, skipped?, List.length_cons]
      omega
    | skipped x =>
      simp only [List.filterMap_cons, entry?, skipped?, List.length_cons]
      omega

end Outcome

/-- Writes an outcome into the figure. -/
def record (f : Figure α) : Outcome α → Figure α
  | .added e =>
    { f with
      scatters := f.scatters ++ [e.scatter]
      lines := f.lines ++ [e.line]
      fits := f.fits ++ [e.fitted] }
  | .skipped x => { f with skipped := f.skipped ++ [x] }

@[simp] theorem xScale_record (f : Figure α) (o : Outcome α) :
    (f.record o).xScale = f.xScale := by
  cases o <;> rfl

@[simp] theorem yScale_record (f : Figure α) (o : Outcome α) :
    (f.record o).yScale = f.yScale := by
  cases o <;> rfl

/-- The layers, the fits and the skipped series of a figure are those of the outcomes, in order. -/
structure Holds (f : Figure α) (outcomes : List (Outcome α)) : Prop where
  scatters : f.scatters = (outcomes.filterMap Outcome.entry?).map Entry.scatter
  lines : f.lines = (outcomes.filterMap Outcome.entry?).map Entry.line
  fits : f.fits = (outcomes.filterMap Outcome.entry?).map Entry.fitted
  skipped : f.skipped = outcomes.filterMap Outcome.skipped?

theorem Holds.record {f : Figure α} {outcomes : List (Outcome α)} (h : f.Holds outcomes)
    (o : Outcome α) : (f.record o).Holds (outcomes ++ [o]) := by
  cases o with
  | added e =>
    constructor <;>
      simp [Figure.record, h.scatters, h.lines, h.fits, h.skipped, Outcome.entry?,
        Outcome.skipped?]
  | skipped x =>
    constructor <;>
      simp [Figure.record, h.scatters, h.lines, h.fits, h.skipped, Outcome.entry?,
        Outcome.skipped?]

theorem Holds.length_eq {f : Figure α} {outcomes : List (Outcome α)} (h : f.Holds outcomes) :
    f.fits.length + f.skipped.length = outcomes.length := by
  rw [h.fits, h.skipped, List.length_map, Outcome.length_entries_add_length_skipped]

variable [Scalar α]

/-! ## The outcome of a series -/

/-- The points that the curve of a fit is drawn through. -/
def curveOf (f : Figure α) (s : Series α) (fit : Fit α) : List (α × α) :=
  (sampleXs s.xs f.xScale).map fun x => (x, fit.predict x)

/-- Why a fitted series cannot be shown on the axes, if it cannot. -/
def misfit? (f : Figure α) (s : Series α) (fit : Fit α) : Option (FitError α) :=
  (if f.xScale = .log then nonPositive? .x s.xs else none).or <|
    (if f.yScale = .log then nonPositive? .y s.ys else none).or <|
      if f.yScale = .log then fit.curveFault? (sampleXs s.xs f.xScale) else none

/-- What becomes of a series with a fit or without one. -/
def outcome (f : Figure α) (s : Series α) (result : Except (FitError α) (Fit α))
    (style : SeriesStyle) : Outcome α :=
  match result with
  | .error e => .skipped ⟨s.label, e⟩
  | .ok fit =>
    match f.misfit? s fit with
    | some e => .skipped ⟨s.label, e⟩
    | none => .added ⟨s, fit, style, f.curveOf s fit⟩

theorem outcome_congr {f g : Figure α} (hx : f.xScale = g.xScale) (hy : f.yScale = g.yScale)
    (s : Series α) (result : Except (FitError α) (Fit α)) (style : SeriesStyle) :
    f.outcome s result style = g.outcome s result style := by
  simp only [outcome, misfit?, curveOf, hx, hy]

theorem length_sampleXs (xs : List α) (scale : AxisScale) :
    (sampleXs xs scale).length = sampleCount := by
  unfold sampleXs
  split
  · exact List.length_replicate
  · rw [List.length_map, List.length_range]

/-- What the logarithmic axes ask of a series and its fit: positive data, and a positive curve. -/
def Admits (f : Figure α) (s : Series α) (fit : Fit α) : Prop :=
  (f.xScale = .log → ∀ x ∈ s.xs, Scalar.isPositive x = true) ∧
    (f.yScale = .log → (∀ y ∈ s.ys, Scalar.isPositive y = true) ∧
      ∃ ys, fit.predictPositive (sampleXs s.xs f.xScale) = .ok ys)

/-- **A fitted series is shown** when the axes admit it. -/
theorem misfit?_eq_none_iff {f : Figure α} {s : Series α} {fit : Fit α} :
    f.misfit? s fit = none ↔ f.Admits s fit := by
  rw [misfit?, Admits, Option.or_eq_none_iff, Option.or_eq_none_iff, ← fault?_eq_none_iff,
    Fit.fault?_predictPositive]
  cases f.xScale <;> cases f.yScale <;> simp [nonPositive?_eq_none_iff]

theorem outcome_of_admits {f : Figure α} {s : Series α} {fit : Fit α} (h : f.Admits s fit)
    (style : SeriesStyle) :
    f.outcome s (.ok fit) style = .added ⟨s, fit, style, f.curveOf s fit⟩ := by
  rw [outcome, misfit?_eq_none_iff.mpr h]

theorem outcome_of_misfit? {f : Figure α} {s : Series α} {fit : Fit α} {e : FitError α}
    (h : f.misfit? s fit = some e) (style : SeriesStyle) :
    f.outcome s (.ok fit) style = .skipped ⟨s.label, e⟩ := by
  rw [outcome, h]

/-! ## Layers -/

/-- The check of a column that an axis shows. -/
def checkFor (scale : AxisScale) (axis : Axis) (values : List α) :
    Except (FitError α) (List α) :=
  if scale = .log then lnAll axis values else .ok []

/-- The values of a curve on an axis. -/
def curveFor (scale : AxisScale) (fit : Fit α) (xs : List α) : Except (FitError α) (List α) :=
  match scale with
  | .log => fit.predictPositive xs
  | .linear => .ok (fit.predictCurve xs)

theorem layers_eq_bind (f : Figure α) (s : Series α) (fit : Fit α) (style : SeriesStyle) :
    f.layers s fit style =
      checkFor f.xScale .x s.xs >>= fun _ => checkFor f.yScale .y s.ys >>= fun _ =>
        curveFor f.yScale fit (sampleXs s.xs f.xScale) >>= fun ys =>
          pure (⟨s.label, s.points, style.marker, style.color⟩,
            ⟨style.lineLabel, (sampleXs s.xs f.xScale).zip ys, style.dashed, style.color⟩) := by
  unfold layers checkFor curveFor
  cases f.xScale <;> cases f.yScale <;> rfl

theorem fault?_checkFor (scale : AxisScale) (axis : Axis) (values : List α) :
    fault? (checkFor scale axis values) =
      if scale = .log then nonPositive? axis values else none := by
  rw [checkFor]
  split
  · exact fault?_lnAll axis values
  · rfl

theorem fault?_curveFor (scale : AxisScale) (fit : Fit α) (xs : List α) :
    fault? (curveFor scale fit xs) = if scale = .log then fit.curveFault? xs else none := by
  cases scale with
  | linear => rfl
  | log => exact fit.fault?_predictPositive xs

theorem eq_predictCurve_of_curveFor {scale : AxisScale} {fit : Fit α} {xs ys : List α}
    (h : curveFor scale fit xs = .ok ys) : ys = fit.predictCurve xs := by
  cases scale with
  | linear => exact (Except.ok.inj h).symm
  | log => exact (fit.predictPositive_eq_ok_iff.mp h).2

theorem fault?_layers (f : Figure α) (s : Series α) (fit : Fit α) (style : SeriesStyle) :
    fault? (f.layers s fit style) = f.misfit? s fit := by
  rw [layers_eq_bind, misfit?, ← fault?_checkFor, ← fault?_checkFor, ← fault?_curveFor]
  refine fault?_bind fun _ _ => fault?_bind fun _ _ => ?_
  rw [fault?_bind_pure]

theorem eq_of_layers_eq_ok {f : Figure α} {s : Series α} {fit : Fit α} {style : SeriesStyle}
    {layers : ScatterLayer α × LineLayer α} (h : f.layers s fit style = .ok layers) :
    layers = (Entry.scatter ⟨s, fit, style, f.curveOf s fit⟩,
      Entry.line ⟨s, fit, style, f.curveOf s fit⟩) := by
  rw [layers_eq_bind] at h
  obtain ⟨_, -, h⟩ := bind_eq_ok_iff.mp h
  obtain ⟨_, -, h⟩ := bind_eq_ok_iff.mp h
  obtain ⟨ys, hys, h⟩ := bind_eq_ok_iff.mp h
  obtain rfl := eq_predictCurve_of_curveFor hys
  have hzip : (sampleXs s.xs f.xScale).zip (fit.predictCurve (sampleXs s.xs f.xScale)) =
      f.curveOf s fit := by
    rw [Fit.predictCurve, ← List.map_prod_left_eq_zip]
    rfl
  rw [← Except.ok.inj h, hzip]
  rfl

/-- **Adding a series** records its outcome. -/
theorem addResult_eq (f : Figure α) (s : Series α) (result : Except (FitError α) (Fit α))
    (style : SeriesStyle) : f.addResult s result style = f.record (f.outcome s result style) := by
  cases result with
  | error e => rfl
  | ok fit =>
    have hparts : f.partsOf s (.ok fit) style =
        f.layers s fit style >>= fun layers => pure (fit, layers.1, layers.2) := rfl
    have hfault := f.fault?_layers s fit style
    rw [addResult, hparts, outcome]
    cases h : f.layers s fit style with
    | error e =>
      rw [h] at hfault
      rw [← hfault]
      rfl
    | ok layers =>
      rw [h] at hfault
      rw [← hfault, eq_of_layers_eq_ok h]
      rfl

end Trendline.Figure
