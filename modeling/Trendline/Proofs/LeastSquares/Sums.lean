import Mathlib.Tactic.Ring
import Trendline.Fit
import Trendline.Proofs.Reals

/-!
# The sums of a fit, over the reals

The program adds up means, spreads and squared errors in loops of their own.
Over the reals each of them is a sum over the list of points, and the closed
form of `fitLine` is `centredLine`.

* `spread_eq`, `covariation_eq`, `squaredError_line`, `squaredTotal_eq`: the
  loops as sums.
* `fitLine_eq`: from two points on, `fitLine` returns `centredLine` or finds the
  abscissae to be the same.
-/

namespace Trendline

noncomputable section

/-- What a line leaves of the ordinate of a point. -/
def Line.residual (ℓ : Line ℝ) (p : ℝ × ℝ) : ℝ :=
  p.2 - ℓ.intercept - ℓ.slope * p.1

/-- The sum of the squared residuals of a line. -/
def Line.sse (ℓ : Line ℝ) (pairs : List (ℝ × ℝ)) : ℝ :=
  (pairs.map fun p => ℓ.residual p ^ 2).sum

namespace LeastSquares

/-- The arithmetic mean. -/
def average (xs : List ℝ) : ℝ :=
  xs.sum / xs.length

/-- The sum of the squared deviations from the mean. -/
def variation (xs : List ℝ) : ℝ :=
  (xs.map fun x => (x - average xs) ^ 2).sum

/-- The line through the point of the means with the slope of the centred sums. -/
def centredLine (u y : List ℝ) : Line ℝ :=
  let slope := ((u.zip y).map fun p => (p.1 - average u) * (p.2 - average y)).sum / variation u
  ⟨average y - slope * average u, slope⟩

end LeastSquares

end

namespace LeastSquares

/-! ## The loops -/

theorem mean_eq (xs : List ℝ) : mean xs.length xs = average xs := by
  rw [mean, Scalar.sum_eq]
  rfl

theorem spread_eq (c : ℝ) (pairs : List (ℝ × ℝ)) :
    spread c pairs = ((pairs.map (·.1)).map fun x => (x - c) ^ 2).sum := by
  rw [List.map_map]
  refine (Scalar.foldl_add_map (fun p : ℝ × ℝ => (p.1 - c) * (p.1 - c)) pairs 0).trans ?_
  rw [zero_add]
  exact congrArg List.sum (List.map_congr_left fun p _ => (sq (p.1 - c)).symm)

theorem covariation_eq (c d : ℝ) (pairs : List (ℝ × ℝ)) :
    covariation c d pairs = (pairs.map fun p => (p.1 - c) * (p.2 - d)).sum :=
  (Scalar.foldl_add_map (fun p : ℝ × ℝ => (p.1 - c) * (p.2 - d)) pairs 0).trans (zero_add _)

theorem squaredTotal_eq (c : ℝ) (pairs : List (ℝ × ℝ)) :
    squaredTotal c pairs = ((pairs.map (·.2)).map fun v => (v - c) ^ 2).sum := by
  rw [List.map_map]
  refine (Scalar.foldl_add_map (fun p : ℝ × ℝ => (p.2 - c) * (p.2 - c)) pairs 0).trans ?_
  rw [zero_add]
  exact congrArg List.sum (List.map_congr_left fun p _ => (sq (p.2 - c)).symm)

/-- Horner's scheme on two coefficients is a line. -/
theorem evaluate_line (b m u : ℝ) : Polynomial.evaluate [b, m] u = b + m * u := by
  show (0 * u + m) * u + b = b + m * u
  ring

theorem squaredError_line (ℓ : Line ℝ) (pairs : List (ℝ × ℝ)) :
    squaredError [ℓ.intercept, ℓ.slope] pairs = ℓ.sse pairs := by
  refine (Scalar.foldl_add_map (fun p : ℝ × ℝ =>
    (p.2 - Polynomial.evaluate [ℓ.intercept, ℓ.slope] p.1) *
      (p.2 - Polynomial.evaluate [ℓ.intercept, ℓ.slope] p.1)) pairs 0).trans ?_
  rw [zero_add]
  refine congrArg List.sum (List.map_congr_left fun p _ => ?_)
  rw [evaluate_line, Line.residual]
  ring

/-! ## The quality -/

theorem sse_quality (u y : List ℝ) (ℓ : Line ℝ) :
    (Quality.of u y [ℓ.intercept, ℓ.slope]).sse = ℓ.sse (u.zip y) :=
  squaredError_line ℓ (u.zip y)

theorem squaredTotal_zip {u y : List ℝ} (hlen : u.length = y.length) :
    squaredTotal (mean u.length y) (u.zip y) = variation y := by
  rw [squaredTotal_eq, List.map_snd_zip hlen.ge, hlen, mean_eq, variation]

theorem rSquared_quality {u y : List ℝ} (hlen : u.length = y.length) (ℓ : Line ℝ) :
    (Quality.of u y [ℓ.intercept, ℓ.slope]).rSquared =
      if 0 < variation y then 1 - ℓ.sse (u.zip y) / variation y else 1 := by
  rw [← squaredError_line, ← squaredTotal_zip hlen]
  rfl

/-! ## The closed form -/

theorem roundOff_eq (c : ℝ) : roundOff c = max |c| Scalar.leastNormal * (1 / 10 ^ 12) := by
  rw [roundOff, Scalar.greatest_eq]
  show _ * (((1 : ℕ) : ℝ) / 10 ^ 12) = _
  rw [Nat.cast_one]
  rfl

theorem roundOff_pos (c : ℝ) : 0 < roundOff c := by
  have h : 0 < max |c| Scalar.leastNormal := lt_max_of_lt_right Scalar.leastNormal_pos
  rw [roundOff_eq]
  positivity

/-- From `1` on the round-off of a mean is relative to it. -/
theorem roundOff_of_one_le {c : ℝ} (h : 1 ≤ |c|) : roundOff c = |c| * (1 / 10 ^ 12) := by
  rw [roundOff_eq, max_eq_left (Scalar.leastNormal_le_one.trans h)]

/-- The spread that the abscissae have to exceed, more than what rounding leaves of none. -/
noncomputable def threshold (u : List ℝ) : ℝ :=
  u.length * roundOff (average u) * roundOff (average u)

theorem threshold_nonneg (u : List ℝ) : 0 ≤ threshold u := by
  have h := roundOff_pos (average u)
  rw [threshold]
  positivity

theorem spread_zip {u y : List ℝ} (hlen : u.length = y.length) :
    spread (average u) (u.zip y) = variation u := by
  rw [spread_eq, List.map_fst_zip hlen.le, variation]

/-- **From two points on** the fit is the centred line, unless the abscissae are the same. -/
theorem fitLine_eq {u y : List ℝ} (hlen : u.length = y.length) (hn : 2 ≤ u.length) :
    fitLine u y =
      if threshold u < variation u then .ok (centredLine u y)
      else .error (.degenerate (u.headD 0)) := by
  obtain ⟨a, b, rest, rfl⟩ : ∃ a b rest, u = a :: b :: rest := by
    match u, hn with
    | a :: b :: rest, _ => exact ⟨a, b, rest, rfl⟩
  rw [← spread_zip hlen, fitLine, mean_eq, threshold, hlen, mean_eq, centredLine]
  simp only [← covariation_eq, ← spread_zip hlen]
  rfl

theorem of_fitLine_eq_ok {u y : List ℝ} {ℓ : Line ℝ} (hlen : u.length = y.length)
    (h : fitLine u y = .ok ℓ) : 2 ≤ u.length ∧ 0 < variation u ∧ ℓ = centredLine u y := by
  have hn : 2 ≤ u.length := by
    match u, h with
    | [], h | [_], h => exact nomatch h
    | _ :: _ :: _, _ => simp
  rw [fitLine_eq hlen hn] at h
  split at h
  · rename_i hlt
    exact ⟨hn, lt_of_le_of_lt (threshold_nonneg u) hlt, (Except.ok.inj h).symm⟩
  · exact nomatch h

end LeastSquares

end Trendline
