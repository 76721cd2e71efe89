import Mathlib.Tactic.FieldSimp
import Mathlib.Tactic.Linarith
import Mathlib.Tactic.NormNum
import Mathlib.Algebra.BigOperators.Ring.List
import Trendline.Proofs.LeastSquares.Sums

/-!
# The normal equations

The line that `fitLine` computes from centred sums is the least-squares line
through the points, and there is no second one.

* `sum_residual_centredLine`, `sum_mul_residual_centredLine`: the residuals are
  orthogonal to the constants and to the abscissae (the **normal equations**).
* `sse_eq_add`: where they hold, the squared error of any other line is that of
  the first plus the squared distance between the two.
* `sum_sq_affine`: this distance is `n (b + m ū)² + m² Σ (u i - ū)²`, so for
  abscissae that are spread only the line itself has distance `0`.
* `fitLine_isLeast`: the fit has the least squared error, and its quality lies
  between that of the mean and that of an exact fit.
-/

namespace Trendline.LeastSquares

/-! ## Deviations from a mean -/

theorem sum_sub_average {xs : List ℝ} (h : xs ≠ []) :
    (xs.map fun x => x - average xs).sum = 0 := by
  have hn : (xs.length : ℝ) ≠ 0 := by simpa using h
  simp only [sub_eq_add_neg, List.sum_map_add, List.map_id', List.map_const', List.sum_replicate,
    nsmul_eq_mul, average]
  field_simp
  ring

theorem variation_nonneg (xs : List ℝ) : 0 ≤ variation xs :=
  List.sum_nonneg (by simp only [List.mem_map]; rintro _ ⟨x, _, rfl⟩; exact sq_nonneg _)

theorem sse_nonneg (ℓ : Line ℝ) (pairs : List (ℝ × ℝ)) : 0 ≤ ℓ.sse pairs :=
  List.sum_nonneg (by simp only [List.mem_map]; rintro _ ⟨p, _, rfl⟩; exact sq_nonneg _)

variable {u y : List ℝ}

/-- A sum over points that looks at the abscissae only. -/
theorem sum_map_zip_fst (hlen : u.length = y.length) (f : ℝ → ℝ) :
    ((u.zip y).map fun p => f p.1).sum = (u.map f).sum := by
  conv_rhs => rw [← List.map_fst_zip hlen.le, List.map_map]
  rfl

/-- A sum over points that looks at the ordinates only. -/
theorem sum_map_zip_snd (hlen : u.length = y.length) (f : ℝ → ℝ) :
    ((u.zip y).map fun p => f p.2).sum = (y.map f).sum := by
  conv_rhs => rw [← List.map_snd_zip hlen.ge, List.map_map]
  rfl

/-! ## Orthogonality -/

theorem residual_centredLine (u y : List ℝ) (p : ℝ × ℝ) :
    (centredLine u y).residual p =
      (p.2 - average y) + -(centredLine u y).slope * (p.1 - average u) := by
  rw [Line.residual, show (centredLine u y).intercept =
    average y - (centredLine u y).slope * average u from rfl]
  ring

theorem sum_residual_centredLine (hlen : u.length = y.length) (hu : u ≠ []) :
    ((u.zip y).map (centredLine u y).residual).sum = 0 := by
  have hy : y ≠ [] := by
    rintro rfl
    exact hu (List.eq_nil_of_length_eq_zero hlen)
  rw [funext (residual_centredLine u y), List.sum_map_add, List.sum_map_mul_left,
    sum_map_zip_snd hlen (fun v => v - average y), sum_map_zip_fst hlen (fun x => x - average u),
    sum_sub_average hy, sum_sub_average hu]
  ring

/-- The slope makes the residuals orthogonal to the centred abscissae. -/
theorem sum_centred_mul_residual (hlen : u.length = y.length) (hv : variation u ≠ 0) :
    ((u.zip y).map fun p => (p.1 - average u) * (centredLine u y).residual p).sum = 0 := by
  have expand : ∀ p : ℝ × ℝ, (p.1 - average u) * (centredLine u y).residual p =
      (p.1 - average u) * (p.2 - average y) +
        -(centredLine u y).slope * (p.1 - average u) ^ 2 := by
    intro p
    rw [residual_centredLine]
    ring
  rw [funext expand, List.sum_map_add, List.sum_map_mul_left,
    sum_map_zip_fst hlen (fun x => (x - average u) ^ 2)]
  show _ + -(_ / variation u) * variation u = 0
  rw [neg_mul, div_mul_cancel₀ _ hv, add_neg_cancel]

theorem sum_mul_residual_centredLine (hlen : u.length = y.length) (hu : u ≠ [])
    (hv : variation u ≠ 0) :
    ((u.zip y).map fun p => p.1 * (centredLine u y).residual p).sum = 0 := by
  have expand : ∀ p : ℝ × ℝ, p.1 * (centredLine u y).residual p =
      (p.1 - average u) * (centredLine u y).residual p +
        average u * (centredLine u y).residual p := by
    intro p
    ring
  rw [funext expand, List.sum_map_add, List.sum_map_mul_left, sum_centred_mul_residual hlen hv,
    sum_residual_centredLine hlen hu]
  ring

/-! ## The distance between two lines -/

/-- **Pythagoras**: where the normal equations hold, the error of another line is
larger by the squared distance of the two lines over the abscissae. -/
theorem sse_eq_add {pairs : List (ℝ × ℝ)} {ℓ : Line ℝ}
    (h0 : (pairs.map ℓ.residual).sum = 0) (h1 : (pairs.map fun p => p.1 * ℓ.residual p).sum = 0)
    (k : Line ℝ) :
    k.sse pairs = ℓ.sse pairs +
      (pairs.map fun p => ((k.intercept - ℓ.intercept) + (k.slope - ℓ.slope) * p.1) ^ 2).sum := by
  have expand : ∀ p : ℝ × ℝ, k.residual p ^ 2 =
      (ℓ.residual p ^ 2 + ((k.intercept - ℓ.intercept) + (k.slope - ℓ.slope) * p.1) ^ 2) +
        (-2 * (k.intercept - ℓ.intercept) * ℓ.residual p +
          -2 * (k.slope - ℓ.slope) * (p.1 * ℓ.residual p)) := by
    intro p
    simp only [Line.residual]
    ring
  rw [Line.sse, funext expand, List.sum_map_add, List.sum_map_add, List.sum_map_add,
    List.sum_map_mul_left, List.sum_map_mul_left, h0, h1, Line.sse]
  ring

/-- The squares of an affine function, taken apart at the mean of its arguments. -/
theorem sum_sq_affine {xs : List ℝ} (h : xs ≠ []) (b m : ℝ) :
    (xs.map fun x => (b + m * x) ^ 2).sum =
      xs.length * (b + m * average xs) ^ 2 + m ^ 2 * variation xs := by
  have expand : ∀ x : ℝ, (b + m * x) ^ 2 =
      (b + m * average xs) ^ 2 + (2 * m * (b + m * average xs) * (x - average xs) +
        m ^ 2 * (x - average xs) ^ 2) := by
    intro x
    ring
  rw [funext expand, List.sum_map_add, List.sum_map_add, List.sum_map_mul_left,
    List.sum_map_mul_left, sum_sub_average h, variation, List.map_const', List.sum_replicate,
    nsmul_eq_mul]
  ring

/-- The error of any line, measured from that of the centred line. -/
theorem sse_eq_centredLine_add (hlen : u.length = y.length) (hu : u ≠ []) (hv : variation u ≠ 0)
    (k : Line ℝ) :
    k.sse (u.zip y) = (centredLine u y).sse (u.zip y) +
      (u.length * ((k.intercept - (centredLine u y).intercept) +
          (k.slope - (centredLine u y).slope) * average u) ^ 2 +
        (k.slope - (centredLine u y).slope) ^ 2 * variation u) := by
  rw [sse_eq_add (sum_residual_centredLine hlen hu) (sum_mul_residual_centredLine hlen hu hv) k,
    ← sum_sq_affine hu]
  exact congrArg _ (sum_map_zip_fst hlen fun x =>
    ((k.intercept - (centredLine u y).intercept) + (k.slope - (centredLine u y).slope) * x) ^ 2)

theorem sse_centredLine_le (hlen : u.length = y.length) (hu : u ≠ []) (hv : 0 < variation u)
    (k : Line ℝ) : (centredLine u y).sse (u.zip y) ≤ k.sse (u.zip y) := by
  rw [sse_eq_centredLine_add hlen hu hv.ne' k]
  exact le_add_of_nonneg_right (by positivity)

/-- Only the centred line itself has its squared error. -/
theorem eq_centredLine_of_sse_eq (hlen : u.length = y.length) (hu : u ≠ [])
    (hv : 0 < variation u) {k : Line ℝ}
    (h : k.sse (u.zip y) = (centredLine u y).sse (u.zip y)) : k = centredLine u y := by
  have hn : (0 : ℝ) < u.length := by simpa [List.length_pos_iff] using hu
  have hsum := sse_eq_centredLine_add hlen hu hv.ne' k
  rw [h] at hsum
  have hslope : k.slope - (centredLine u y).slope = 0 := by
    have hle : (k.slope - (centredLine u y).slope) ^ 2 * variation u ≤ 0 := by
      nlinarith [sq_nonneg ((k.intercept - (centredLine u y).intercept) +
        (k.slope - (centredLine u y).slope) * average u)]
    exact pow_eq_zero_iff two_ne_zero |>.mp
      (le_antisymm (nonpos_of_mul_nonpos_left hle hv) (sq_nonneg _))
  have hintercept : k.intercept - (centredLine u y).intercept = 0 := by
    rw [hslope] at hsum
    have hzero : (u.length : ℝ) * (k.intercept - (centredLine u y).intercept) ^ 2 = 0 := by
      linarith
    exact pow_eq_zero_iff two_ne_zero |>.mp ((mul_eq_zero.mp hzero).resolve_left hn.ne')
  obtain ⟨b, m⟩ := k
  exact congr (congrArg Line.mk (sub_eq_zero.mp hintercept)) (sub_eq_zero.mp hslope)

/-! ## The quality of the fit -/

/-- The error of the centred line is at most that of the mean. -/
theorem sse_centredLine_le_variation (hlen : u.length = y.length) (hu : u ≠ [])
    (hv : 0 < variation u) : (centredLine u y).sse (u.zip y) ≤ variation y := by
  have hmean : (Line.mk (average y) 0).sse (u.zip y) = variation y := by
    rw [variation, ← sum_map_zip_snd hlen, Line.sse]
    refine congrArg List.sum (List.map_congr_left fun p _ => ?_)
    rw [Line.residual]
    ring
  rw [← hmean]
  exact sse_centredLine_le hlen hu hv _

/-- **The fit is the least-squares line.**  Every other line has a larger squared error, the
residuals satisfy the normal equations, and the quality reports that least error and a share of
the variation between `0` and `1`; without any variation the error is `0`. -/
theorem fitLine_isLeast {ℓ : Line ℝ} (hlen : u.length = y.length) (h : fitLine u y = .ok ℓ) :
    (∀ k : Line ℝ, ℓ.sse (u.zip y) ≤ k.sse (u.zip y) ∧
      (k.sse (u.zip y) = ℓ.sse (u.zip y) → k = ℓ)) ∧
    ((u.zip y).map ℓ.residual).sum = 0 ∧
    ((u.zip y).map fun p => p.1 * ℓ.residual p).sum = 0 ∧
    (Quality.of u y [ℓ.intercept, ℓ.slope]).sse = ℓ.sse (u.zip y) ∧
    0 ≤ (Quality.of u y [ℓ.intercept, ℓ.slope]).rSquared ∧
    (Quality.of u y [ℓ.intercept, ℓ.slope]).rSquared ≤ 1 ∧
    (squaredTotal (mean u.length y) (u.zip y) = 0 →
      (Quality.of u y [ℓ.intercept, ℓ.slope]).sse = 0) := by
  obtain ⟨hn, hv, rfl⟩ := of_fitLine_eq_ok hlen h
  have hu : u ≠ [] := by
    rintro rfl
    simp at hn
  have hle := sse_centredLine_le_variation hlen hu hv
  have hnonneg := sse_nonneg (centredLine u y) (u.zip y)
  rw [sse_quality, rSquared_quality hlen, squaredTotal_zip hlen]
  refine ⟨fun k => ⟨sse_centredLine_le hlen hu hv k, eq_centredLine_of_sse_eq hlen hu hv⟩,
    sum_residual_centredLine hlen hu, sum_mul_residual_centredLine hlen hu hv.ne', rfl, ?_, ?_,
    fun h0 => ?_⟩
  · split
    · rename_i hy
      rw [sub_nonneg, div_le_one hy]
      exact hle
    · exact zero_le_one
  · split
    · exact sub_le_self 1 (div_nonneg hnonneg (variation_nonneg y))
    · exact le_rfl
  · exact le_antisymm (h0 ▸ hle) hnonneg

/-- Three points off a line: the fit is `1 / 6 + u / 2`, and no other line is as close. -/
theorem fitLine_isLeast_three_points :
    ([0, 1, 2] : List ℝ).length = ([0, 1, 1] : List ℝ).length ∧
    fitLine ([0, 1, 2] : List ℝ) [0, 1, 1] = .ok ⟨1 / 6, 1 / 2⟩ ∧
    ∀ k : Line ℝ, k.sse [(0, 0), (1, 1), (2, 1)] = Line.sse ⟨1 / 6, 1 / 2⟩ [(0, 0), (1, 1), (2, 1)] →
      k = ⟨1 / 6, 1 / 2⟩ := by
  have hfit : fitLine ([0, 1, 2] : List ℝ) [0, 1, 1] = .ok ⟨1 / 6, 1 / 2⟩ := by
    have hmean : average [0, 1, 2] = 1 := by norm_num [average]
    have hvar : variation [0, 1, 2] = 2 := by norm_num [variation, hmean]
    have hlt : threshold [0, 1, 2] < 2 := by
      rw [threshold, hmean, roundOff_of_one_le (by norm_num)]
      norm_num
    rw [fitLine_eq (by rfl) (by simp), hvar, if_pos hlt, centredLine, hmean, hvar]
    norm_num [average]
  have hlen : ([0, 1, 2] : List ℝ).length = ([0, 1, 1] : List ℝ).length := rfl
  exact ⟨hlen, hfit, fun k => ((fitLine_isLeast hlen hfit).1 k).2⟩

end Trendline.LeastSquares
