import Trendline.Proofs.Dataset.Series
import Trendline.Proofs.LeastSquares.Recovery

/-!
# The order of the rows

Over the reals a line is fitted to points, not to a list of them.  All that the
order of the rows decides is which of several unsuitable values an error names.

* `selectSeries_perm`: rows in another order give the points in another order.
* `centredLine_perm`, `threshold_perm`, `quality_perm`: the sums of a fit do not
  depend on the order.
* `fitSeriesWith_placeless`: a fit to a line, without the place of its error, is
  a function of the points that does not look at their order.
* `fitSeriesWith_selectSeries_perm`: so the order of the rows makes no difference.
-/

namespace Trendline

/-! ## Selection -/

namespace Dataset

theorem selected_perm {d : Dataset} {rows : List Row} (h : rows.Perm d.rows)
    (predicates : List Predicate) :
    ({ d with rows } : Dataset).selected predicates |>.Perm (d.selected predicates) :=
  h.filter _

/-- **Rows in another order** give the same points in another order. -/
theorem selectSeries_perm {d : Dataset} {rows : List Row} (h : rows.Perm d.rows)
    {predicates : List Predicate} {x y : String} {s : Series Float}
    (hs : d.selectSeries predicates x y = .ok s) :
    ∃ s', ({ d with rows } : Dataset).selectSeries predicates x y = .ok s' ∧ s'.label = s.label ∧
      s'.points.Perm s.points := by
  obtain ⟨hnames, hlabel, hpoints⟩ := selectSeries_eq_ok_iff.mp hs
  obtain ⟨points, hpoints', hperm⟩ :=
    List.perm_comp_forall₂ (selected_perm h predicates) hpoints
  exact ⟨⟨s.label, points⟩, selectSeries_eq_ok_iff.mpr ⟨hnames, hlabel, hpoints'⟩, rfl, hperm⟩

end Dataset

/-! ## Sums -/

namespace LeastSquares

theorem average_perm {xs xs' : List ℝ} (h : xs'.Perm xs) : average xs' = average xs := by
  rw [average, average, h.sum_eq, h.length_eq]

theorem variation_perm {xs xs' : List ℝ} (h : xs'.Perm xs) : variation xs' = variation xs := by
  rw [variation, variation, average_perm h, (h.map _).sum_eq]

theorem threshold_perm {xs xs' : List ℝ} (h : xs'.Perm xs) : threshold xs' = threshold xs := by
  rw [threshold, threshold, average_perm h, h.length_eq]

variable {points points' : List (ℝ × ℝ)}

theorem zip_fst_snd (points : List (ℝ × ℝ)) :
    (points.map (·.1)).zip (points.map (·.2)) = points := by
  rw [List.zip_map']
  exact List.map_id points

theorem centredLine_perm (h : points'.Perm points) :
    centredLine (points'.map (·.1)) (points'.map (·.2)) =
      centredLine (points.map (·.1)) (points.map (·.2)) := by
  rw [centredLine, centredLine, zip_fst_snd, zip_fst_snd, average_perm (h.map _),
    average_perm (h.map _), variation_perm (h.map _), (h.map _).sum_eq]

/-- The quality of a line, as the sums it is made of. -/
theorem quality_eq (points : List (ℝ × ℝ)) (ℓ : Line ℝ) :
    Quality.of (points.map (·.1)) (points.map (·.2)) [ℓ.intercept, ℓ.slope] =
      ⟨ℓ.sse points, √(ℓ.sse points / points.length),
        if 0 < variation (points.map (·.2)) then
          1 - ℓ.sse points / variation (points.map (·.2)) else 1, points.length⟩ := by
  have hlen : (points.map (·.1)).length = (points.map (·.2)).length := by simp
  have hsse := sse_quality (points.map (·.1)) (points.map (·.2)) ℓ
  have hsquared := rSquared_quality hlen ℓ
  rw [zip_fst_snd] at hsse hsquared
  have hn : points.length = (points.map (·.1)).length := (List.length_map _).symm
  rw [← hsquared, ← hsse, hn]
  rfl

theorem quality_perm (h : points'.Perm points) (ℓ : Line ℝ) :
    Quality.of (points'.map (·.1)) (points'.map (·.2)) [ℓ.intercept, ℓ.slope] =
      Quality.of (points.map (·.1)) (points.map (·.2)) [ℓ.intercept, ℓ.slope] := by
  have hsse : ℓ.sse points' = ℓ.sse points := (h.map _).sum_eq
  rw [quality_eq, quality_eq, hsse, variation_perm (h.map _), h.length_eq]

end LeastSquares

/-! ## Fits -/

open LeastSquares

/-- An error without the place and the value it was found at. -/
def FitError.placeless : FitError ℝ → FitError ℝ
  | nonPositive axis _ _ => nonPositive axis 0 0
  | degenerate _ => degenerate 0
  | e => e

/-- The line through points in a fit space, unless their abscissae are the same. -/
noncomputable def fitThrough (space : Space) (points : List (ℝ × ℝ)) :
    Except (FitError ℝ) (Fit ℝ) :=
  let u := points.map (·.1)
  let v := points.map (·.2)
  let ℓ := centredLine u v
  if threshold u < variation u then
    .ok ⟨space, 1, [ℓ.intercept, ℓ.slope], Quality.of u v [ℓ.intercept, ℓ.slope]⟩
  else .error (.degenerate 0)

theorem fitThrough_perm {points points' : List (ℝ × ℝ)} (h : points'.Perm points)
    (space : Space) : fitThrough space points' = fitThrough space points := by
  rw [fitThrough, fitThrough, threshold_perm (h.map _), variation_perm (h.map _),
    centredLine_perm h]
  simp only [quality_perm h]

theorem suited_perm {values values' : List ℝ} (h : values'.Perm values) (logs : Bool) :
    Suited logs values' ↔ Suited logs values := by
  unfold Suited
  simp only [h.mem_iff]

/-- A coordinate that has no place in the space names one of its values. -/
theorem placeless_axisInSpace {logs : Bool} {values : List ℝ} (axis : Axis)
    (h : ¬ Suited logs values) :
    ∃ e, axisInSpace logs axis values = .error e ∧ e.placeless = .nonPositive axis 0 0 := by
  rcases exists_ok_or_error (axisInSpace logs axis values) with ⟨w, hw⟩ | ⟨e, he⟩
  · exact absurd (axisInSpace_eq_ok_iff.mp hw).1 h
  · obtain ⟨-, index, value, -, rfl⟩ := axisInSpace_eq_error_iff.mp he
    exact ⟨_, he, rfl⟩

namespace Series

/-- The points in a fit space. -/
noncomputable def pointsIn (space : Space) (s : Series ℝ) : List (ℝ × ℝ) :=
  s.points.map (Prod.map (inSpace space.logsX) (inSpace space.logsY))

theorem us_eq_map (space : Space) (s : Series ℝ) : s.us space = (s.pointsIn space).map (·.1) := by
  rw [us, xs, pointsIn, List.map_map, List.map_map]
  rfl

theorem vs_eq_map (space : Space) (s : Series ℝ) : s.vs space = (s.pointsIn space).map (·.2) := by
  rw [vs, ys, pointsIn, List.map_map, List.map_map]
  rfl

end Series

variable {solve : Solver ℝ} {s : Series ℝ} {space : Space}

/-- A line is fitted to the points in the fit space. -/
theorem fitSeriesWith_of_suited (hsize : (1 : UInt64).toNat < s.size)
    (hx : Suited space.logsX s.xs) (hy : Suited space.logsY s.ys) :
    (fitSeriesWith solve s space 1).mapError (Stop.map FitError.placeless) =
      (fitThrough space (s.pointsIn space)).mapError .refused := by
  have hu : 2 ≤ (s.us space).length := (s.length_us space).symm ▸ hsize
  have hlen : (s.us space).length = (s.vs space).length := by rw [s.length_us, s.length_vs]
  have hline := fitLine_eq hlen hu
  rw [fitSeriesWith_of_admitted (by decide) ⟨by decide, hsize, hx, hy⟩, fitInSpace,
    fitPolynomial_one_eq_map _ hu, fitThrough, ← s.us_eq_map, ← s.vs_eq_map]
  split at hline
  case isTrue hlt =>
    rw [hline, if_pos hlt]
    rfl
  case isFalse hle =>
    rw [hline, if_neg hle]
    rfl

/-- **A fit to a line as a function of the points**, without the place of its error. -/
theorem fitSeriesWith_placeless (solve : Solver ℝ) (s : Series ℝ) (space : Space) :
    (fitSeriesWith solve s space 1).mapError (Stop.map FitError.placeless) =
      Except.mapError .refused (
        if s.size < 2 then .error (.insufficientData 2 s.size)
        else if ¬ Suited space.logsX s.xs then .error (.nonPositive .x 0 0)
        else if ¬ Suited space.logsY s.ys then .error (.nonPositive .y 0 0)
        else fitThrough space (s.pointsIn space)) := by
  by_cases hsize : s.size < 2
  · rw [if_pos hsize, fitSeriesWith_of_few (by decide) (by decide) (Nat.le_of_lt_succ hsize)]
    rfl
  rw [if_neg hsize]
  have hpoints : (1 : UInt64).toNat < s.size := Nat.not_lt.mp hsize
  have hspace := toSpace_eq_bind space s
  by_cases hx : Suited space.logsX s.xs
  · rw [if_neg (not_not_intro hx)]
    by_cases hy : Suited space.logsY s.ys
    · rw [if_neg (not_not_intro hy)]
      exact fitSeriesWith_of_suited hpoints hx hy
    · obtain ⟨e, he, hplaceless⟩ := placeless_axisInSpace .y hy
      rw [axisInSpace_eq_ok_iff.mpr ⟨hx, rfl⟩, he] at hspace
      rw [if_pos hy, fitSeriesWith_of_toSpace_eq_error (by decide) (by decide) hpoints hspace,
        ← hplaceless]
      rfl
  · obtain ⟨e, he, hplaceless⟩ := placeless_axisInSpace .x hx
    rw [he] at hspace
    rw [if_pos hx, fitSeriesWith_of_toSpace_eq_error (by decide) (by decide) hpoints hspace,
      ← hplaceless]
    rfl

theorem fitSeriesWith_perm {s s' : Series ℝ} (h : s'.points.Perm s.points) (solve : Solver ℝ)
    (space : Space) :
    (fitSeriesWith solve s' space 1).mapError (Stop.map FitError.placeless) =
      (fitSeriesWith solve s space 1).mapError (Stop.map FitError.placeless) := by
  have hsize : s'.size = s.size := h.length_eq
  have hx := suited_perm (h.map (·.1)) space.logsX
  have hy := suited_perm (h.map (·.2)) space.logsY
  have hfit : fitThrough space (s'.pointsIn space) = fitThrough space (s.pointsIn space) :=
    fitThrough_perm (h.map _) space
  rw [fitSeriesWith_placeless, fitSeriesWith_placeless, hsize, hfit]
  exact congrArg _ (if_congr Iff.rfl rfl
    (if_congr (not_congr hx) rfl (if_congr (not_congr hy) rfl rfl)))

/-- A series of doubles as a series of reals, each double for the real it stands for. -/
def Series.ofDoubles (value : Float → ℝ) (s : Series Float) : Series ℝ :=
  ⟨s.label, s.points.map (Prod.map value value)⟩

/-- **The order of the rows does not matter.**  A selection that succeeds does so on the rows in any
other order, and selects the same points in another order.  In every fit space the line through
these is the same, coefficients and quality alike, or there is none for either: then both fits end
with the same error, but for the place and the value that it names. -/
theorem fitSeriesWith_selectSeries_perm {d : Dataset} {rows : List Row} (h : rows.Perm d.rows)
    {predicates : List Predicate} {x y : String} {s : Series Float}
    (hs : d.selectSeries predicates x y = .ok s) :
    ∃ s', ({ d with rows } : Dataset).selectSeries predicates x y = .ok s' ∧ s'.label = s.label ∧
      s'.points.Perm s.points ∧
      ∀ (value : Float → ℝ) (solve : Solver ℝ) (space : Space),
        (fitSeriesWith solve (s'.ofDoubles value) space 1).mapError
            (Stop.map FitError.placeless) =
          (fitSeriesWith solve (s.ofDoubles value) space 1).mapError
            (Stop.map FitError.placeless) := by
  obtain ⟨s', hs', hlabel, hperm⟩ := Dataset.selectSeries_perm h hs
  exact ⟨s', hs', hlabel, hperm, fun value solve space =>
    fitSeriesWith_perm (hperm.map _) solve space⟩

/-- The rows of two groups, in reverse. -/
theorem fitSeriesWith_selectSeries_perm_reverse :
    let d : Dataset := ⟨"sizes.csv", ["Group", "X", "Y"],
      [⟨2, [.text "a", .number 1, .number 2]⟩, ⟨3, [.text "b", .number 5, .text "none"]⟩,
        ⟨4, [.text "a", .number 3, .number 4]⟩]⟩
    let inGroup := [Predicate.equals "Group" (.text "a")]
    d.rows.reverse.Perm d.rows ∧
    d.selectSeries inGroup "X" "Y" = .ok ⟨Dataset.selectionLabel inGroup "Y", [(1, 2), (3, 4)]⟩ ∧
    ∃ s', ({ d with rows := d.rows.reverse } : Dataset).selectSeries inGroup "X" "Y" = .ok s' ∧
      s'.points.Perm [(1, 2), (3, 4)] ∧
      ∀ (value : Float → ℝ) (space : Space),
        (fitSeriesWith (fun _ _ _ => none) (s'.ofDoubles value) space 1).mapError
            (Stop.map FitError.placeless) =
          (fitSeriesWith (fun _ _ _ => none)
            (Series.ofDoubles value ⟨s'.label, [(1, 2), (3, 4)]⟩) space 1).mapError
            (Stop.map FitError.placeless) := by
  intro d inGroup
  have hrows : d.rows.reverse.Perm d.rows := List.reverse_perm _
  have hs : d.selectSeries inGroup "X" "Y" =
      .ok ⟨Dataset.selectionLabel inGroup "Y", [(1, 2), (3, 4)]⟩ := rfl
  obtain ⟨s', hs', hlabel, hperm, hfit⟩ := fitSeriesWith_selectSeries_perm hrows hs
  refine ⟨hrows, hs, s', hs', hperm, fun value space => ?_⟩
  rw [hlabel]
  exact hfit value (fun _ _ _ => none) space

end Trendline
