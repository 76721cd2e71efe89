import Mathlib.Analysis.SpecialFunctions.Pow.Real
import Trendline.Proofs.LeastSquares.Guards
import Trendline.Proofs.LeastSquares.Normal

/-!
# A curve is recovered from its points

The points of a curve are taken into the fit space, a line is fitted there, and
its predictions are taken back.  Over the reals this leads back to the curve the
points were taken from, in each of the three spaces.

* `predict_eq_curve`: predictions are on a line, on a power law, or on a curve of
  logarithmic growth, as the space says.
* `toSpace_sample`: in the fit space the points of a curve are on a line.
* `fitSeriesWith_sample`: from two points with spread abscissae on, the fit to
  the points of a curve is exact, and is that curve.
-/

namespace Trendline

open LeastSquares

noncomputable section

/-- The curve of a line `b + m u` in a fit space, in data space. -/
def Space.curve (b m x : ℝ) : Space → ℝ
  | linear => b + m * x
  | logLog => Real.exp b * x ^ m
  | semiLogX => b + m * Real.log x

/-- The points of a curve at some abscissae. -/
def Fit.sample (fit : Fit ℝ) (label : String) (xs : List ℝ) : Series ℝ :=
  ⟨label, xs.map fun x => (x, fit.predict x)⟩

end

/-! ## Into the fit space -/

variable {source : Fit ℝ} {b m : ℝ}

theorem predict_eq (hc : source.coefficients = [b, m]) (x : ℝ) :
    source.predict x =
      if source.space.logsY then Real.exp (b + m * inSpace source.space.logsX x)
      else b + m * inSpace source.space.logsX x := by
  rw [Fit.predict, hc, evaluate_line]
  rfl

/-- **Predictions in data space** are those of the curve the space is named for. -/
theorem predict_eq_curve (hc : source.coefficients = [b, m]) {x : ℝ}
    (hx : source.inDomain x = true) : source.predict x = source.space.curve b m x := by
  rw [predict_eq hc, inSpace]
  cases hs : source.space with
  | linear => rfl
  | semiLogX => rfl
  | logLog =>
    have hpos : 0 < x := by simpa [Fit.inDomain, hs, Space.logsX] using hx
    show Real.exp (b + m * Real.log x) = Real.exp b * x ^ m
    rw [Real.rpow_def_of_pos hpos, ← Real.exp_add, mul_comm m]

theorem xs_sample (source : Fit ℝ) (label : String) (xs : List ℝ) :
    (source.sample label xs).xs = xs := by
  rw [Fit.sample, Series.xs, List.map_map]
  exact List.map_id xs

theorem ys_sample (source : Fit ℝ) (label : String) (xs : List ℝ) :
    (source.sample label xs).ys = xs.map source.predict := by
  rw [Fit.sample, Series.ys, List.map_map]
  rfl

theorem suited_of_inDomain {xs : List ℝ} (hx : ∀ x ∈ xs, source.inDomain x = true) :
    Suited source.space.logsX xs := by
  intro hlogs x hmem
  simpa [Fit.inDomain, hlogs] using hx x hmem

/-- The ordinates of a curve have a place in its space, where they are on its line. -/
theorem suited_predict (hc : source.coefficients = [b, m]) (xs : List ℝ) :
    Suited source.space.logsY (xs.map source.predict) ∧
      (xs.map source.predict).map (inSpace source.space.logsY) =
        (xs.map (inSpace source.space.logsX)).map fun u => b + m * u := by
  rw [funext (predict_eq hc), List.map_map, List.map_map]
  unfold inSpace Suited
  cases source.space.logsY with
  | false => exact ⟨nofun, rfl⟩
  | true =>
    refine ⟨fun _ y hy => ?_, List.map_congr_left fun x _ => Real.log_exp _⟩
    obtain ⟨x, -, rfl⟩ := List.mem_map.mp hy
    exact Scalar.isPositive_iff.mpr (Real.exp_pos _)

/-- In the fit space the points of a curve are on its line. -/
theorem toSpace_sample (hc : source.coefficients = [b, m]) (label : String) {xs : List ℝ}
    (hx : ∀ x ∈ xs, source.inDomain x = true) :
    (source.sample label xs).toSpace source.space =
      .ok (xs.map (inSpace source.space.logsX),
        (xs.map (inSpace source.space.logsX)).map fun u => b + m * u) := by
  obtain ⟨hy, hline⟩ := suited_predict hc xs
  have hx : Suited source.space.logsX (source.sample label xs).xs :=
    (xs_sample source label xs).symm ▸ suited_of_inDomain hx
  have hy : Suited source.space.logsY (source.sample label xs).ys :=
    (ys_sample source label xs).symm ▸ hy
  rw [toSpace_of_suited hx hy, Series.us, Series.vs, xs_sample, ys_sample, hline]

/-! ## The exact fit -/

/-- Points on a line have no residuals. -/
theorem sse_of_line (b m : ℝ) (u : List ℝ) :
    (Line.mk b m).sse (u.zip (u.map fun x => b + m * x)) = 0 := by
  have hzip : u.zip (u.map fun x => b + m * x) = u.map fun x => (x, b + m * x) := by
    have h := List.zip_map' (f := id) (g := fun x : ℝ => b + m * x) (l := u)
    rwa [List.map_id] at h
  rw [Line.sse, hzip, List.map_map]
  refine List.sum_eq_zero fun r hr => ?_
  obtain ⟨x, _, rfl⟩ := List.mem_map.mp hr
  simp [Line.residual]

/-- The centred line through points on a line is that line. -/
theorem centredLine_of_line {u : List ℝ} (hv : 0 < variation u) (b m : ℝ) :
    centredLine u (u.map fun x => b + m * x) = ⟨b, m⟩ := by
  have hlen : u.length = (u.map fun x => b + m * x).length := by simp
  have hu : u ≠ [] := by
    rintro rfl
    exact lt_irrefl 0 hv
  have hzero := sse_of_line b m u
  have hle := sse_centredLine_le hlen hu hv ⟨b, m⟩
  refine (eq_centredLine_of_sse_eq hlen hu hv ?_).symm
  rw [hzero] at hle ⊢
  exact le_antisymm (sse_nonneg _ _) hle

/-- A line found in the fit space is the fit of the series. -/
theorem fitSeriesWith_one (solve : Solver ℝ) {s : Series ℝ} {space : Space} {u v : List ℝ}
    {ℓ : Line ℝ} (hsize : 2 ≤ s.size) (hs : s.toSpace space = .ok (u, v)) (hu : 2 ≤ u.length)
    (hfit : fitLine u v = .ok ℓ) :
    fitSeriesWith solve s space 1 =
      .ok ⟨space, 1, [ℓ.intercept, ℓ.slope], Quality.of u v [ℓ.intercept, ℓ.slope]⟩ := by
  have hpoints : (1 : UInt64).toNat < s.size := hsize
  rw [fitSeriesWith_of_size (by decide) (by decide) hpoints, hs]
  show (fitPolynomial solve u v 1).mapError (Stop.map (FitError.inUnitsOf s)) >>= _ = _
  rw [fitPolynomial_one_eq_map v hu, hfit]
  rfl

/-- The quality of an exact fit. -/
theorem quality_of_line (b m : ℝ) (u : List ℝ) :
    Quality.of u (u.map fun x => b + m * x) [b, m] = ⟨0, 0, 1, u.length⟩ := by
  have hlen : u.length = (u.map fun x => b + m * x).length := by simp
  have hsse : (Quality.of u (u.map fun x => b + m * x) [b, m]).sse = 0 :=
    (sse_quality u _ ⟨b, m⟩).trans (sse_of_line b m u)
  have hrmse : (Quality.of u (u.map fun x => b + m * x) [b, m]).rmse = 0 := by
    show Real.sqrt ((Quality.of u (u.map fun x => b + m * x) [b, m]).sse / u.length) = 0
    rw [hsse, zero_div, Real.sqrt_zero]
  have hsquared : (Quality.of u (u.map fun x => b + m * x) [b, m]).rSquared = 1 := by
    rw [rSquared_quality hlen ⟨b, m⟩, sse_of_line, zero_div, sub_zero, ite_self]
  show Quality.mk (Quality.of u _ [b, m]).sse (Quality.of u _ [b, m]).rmse
    (Quality.of u _ [b, m]).rSquared u.length = _
  rw [hsse, hrmse, hsquared]

/-- **The fit to the points of a curve is that curve**, in every space: from two points on whose
abscissae in the fit space are not found to be the same, the fit succeeds with the coefficients of
the curve and without an error, and predicts the curve everywhere. -/
theorem fitSeriesWith_sample (solve : Solver ℝ) (label : String) {xs : List ℝ}
    (hc : source.coefficients = [b, m]) (hx : ∀ x ∈ xs, source.inDomain x = true)
    (hn : 2 ≤ xs.length)
    (hs : ∀ u v x, (source.sample label xs).toSpace source.space = .ok (u, v) →
      fitLine u v ≠ .error (.degenerate x)) :
    ∃ fit, fitSeriesWith solve (source.sample label xs) source.space 1 = .ok fit ∧
      fit.space = source.space ∧ fit.coefficients = [b, m] ∧ fit.quality = ⟨0, 0, 1, xs.length⟩ ∧
      (∀ ts, fit.predictCurve ts = source.predictCurve ts) ∧
      ∀ ts, (∀ t ∈ ts, fit.inDomain t = true) →
        fit.predictCurve ts = ts.map (source.space.curve b m) := by
  have hspace := toSpace_sample hc label hx
  have hlength : (xs.map (inSpace source.space.logsX)).length = xs.length := List.length_map _
  generalize xs.map (inSpace source.space.logsX) = u at hspace hlength
  have hu : 2 ≤ u.length := hlength ▸ hn
  have hfit : fitLine u (u.map fun x => b + m * x) = .ok ⟨b, m⟩ := by
    have hline := fitLine_eq (List.length_map fun x => b + m * x).symm hu
    split at hline
    · rename_i hlt
      rw [hline, centredLine_of_line (lt_of_le_of_lt (threshold_nonneg _) hlt)]
    · exact absurd hline (hs _ _ _ hspace)
  have hok := fitSeriesWith_one solve (by simpa [Fit.sample, Series.size] using hn) hspace hu hfit
  rw [quality_of_line, hlength] at hok
  refine ⟨_, hok, rfl, rfl, rfl, fun ts => ?_, fun ts ht => ?_⟩
  · refine List.map_congr_left fun t _ => ?_
    rw [predict_eq hc, predict_eq rfl]
  · exact List.map_congr_left fun t hmem => predict_eq_curve rfl (ht t hmem)

/-- The curve `x ^ 2`, from its points at `e` and `e ^ 3`. -/
theorem fitSeriesWith_sample_square :
    let square : Fit ℝ := ⟨.logLog, 1, [0, 2], ⟨0, 0, 1, 0⟩⟩
    let xs : List ℝ := [Real.exp 1, Real.exp 3]
    (∀ x ∈ xs, square.inDomain x = true) ∧ 2 ≤ xs.length ∧
    (∀ u v x, (square.sample "squares" xs).toSpace .logLog = .ok (u, v) →
      fitLine u v ≠ .error (.degenerate x)) ∧
    ∃ fit, fitSeriesWith (fun _ _ _ => none) (square.sample "squares" xs) .logLog 1 = .ok fit ∧
      fit.coefficients = [0, 2] := by
  intro square xs
  have hx : ∀ x ∈ xs, square.inDomain x = true := by
    intro x hmem
    have hpos : 0 < x := by
      rcases List.mem_pair.mp hmem with rfl | rfl <;> exact Real.exp_pos _
    simpa [Fit.inDomain] using Or.inr hpos
  have hs : ∀ u v x, (square.sample "squares" xs).toSpace .logLog = .ok (u, v) →
      fitLine u v ≠ .error (.degenerate x) := by
    intro u v x h
    have hspace := (toSpace_sample (b := 0) (m := 2) rfl "squares" hx).symm.trans h
    have habscissae : xs.map (inSpace square.space.logsX) = [1, 3] := by
      show [Real.log (Real.exp 1), Real.log (Real.exp 3)] = [1, 3]
      rw [Real.log_exp, Real.log_exp]
    rw [habscissae] at hspace
    obtain ⟨rfl, rfl⟩ := Prod.mk.inj (Except.ok.inj hspace)
    have hmean : average [1, 3] = 2 := by norm_num [average]
    have hlt : threshold [1, 3] < variation [1, 3] := by
      rw [threshold, variation, hmean, roundOff_of_one_le (by norm_num)]
      norm_num
    rw [fitLine_eq (by simp) (by simp), if_pos hlt]
    intro h
    cases h
  obtain ⟨fit, hok, -, hcoefficients, -⟩ :=
    @fitSeriesWith_sample square 0 2 (fun _ _ _ => none) "squares" xs rfl hx (by simp [xs]) hs
  exact ⟨hx, by simp [xs], hs, fit, hok, hcoefficients⟩

/-- One point does not determine a line, though its abscissa is not refused as degenerate. -/
theorem not_fitSeriesWith_sample_singleton :
    ¬ ∀ (solve : Solver ℝ) (label : String) (source : Fit ℝ) (b m : ℝ) (xs : List ℝ),
      source.coefficients = [b, m] → (∀ x ∈ xs, source.inDomain x = true) →
      (∀ u v x, (source.sample label xs).toSpace source.space = .ok (u, v) →
        fitLine u v ≠ .error (.degenerate x)) →
      ∃ fit, fitSeriesWith solve (source.sample label xs) source.space 1 = .ok fit ∧
        fit.coefficients = [b, m] := by
  intro h
  obtain ⟨fit, hok, -⟩ := h (fun _ _ _ => none) "" ⟨.linear, 1, [0, 1], ⟨0, 0, 1, 0⟩⟩ 0 1 [5] rfl
    (fun x _ => rfl) (fun u v x hs => by
      obtain ⟨rfl, rfl⟩ := Prod.mk.inj (Except.ok.inj hs)
      exact nofun)
  exact nomatch hok

end Trendline
