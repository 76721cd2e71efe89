import Mathlib.Data.List.Range
import Mathlib.Order.Bounds.Basic
import Trendline.Proofs.Extended
import Trendline.Proofs.Figure.Outcome

/-!
# The abscissae of a curve

A curve is drawn through samples that go from the least abscissa of its data to the greatest one.
Over the reals they begin and end exactly there, and the steps between them are equal on the axis:
differences on a linear one, ratios on a logarithmic one.

* `exists_extremes?`: the two ends are the least and the greatest value.
* `between_mono`, `between_sub`, `div_between`: a place on the way from one end to the other.
* `sampleXs_spaced`: the samples cover the range of the data evenly.
-/

namespace Trendline

/-- The reals as themselves. -/
noncomputable def Evaluation.reals : Evaluation ℝ where
  number := id
  lt_iff _ _ := Iff.rfl
  defined {a} _ := Scalar.isUndefined_real a

/-! ## The ends -/

theorem exists_extremes? {xs : List ℝ} (h : xs ≠ []) :
    ∃ lo hi, extremes? xs = some (lo, hi) ∧ IsLeast {x | x ∈ xs} lo ∧
      IsGreatest {x | x ∈ xs} hi := by
  obtain ⟨x, rest, rfl⟩ := List.exists_cons_of_ne_nil h
  have hdefined : (x :: rest).filter (!Scalar.isUndefined ·) = x :: rest :=
    List.filter_eq_self.mpr fun a _ => by rw [Scalar.isUndefined_real, Bool.not_false]
  refine ⟨_, _, by rw [extremes?, hdefined], ?_, ?_⟩
  · exact Evaluation.reals.foldl_least fun _ _ => rfl
  · exact Evaluation.reals.foldl_greatest fun _ _ => rfl

/-- Only which values there are matters, not their order or how often. -/
theorem extremes?_congr {xs ys : List ℝ} (h : ∀ x, x ∈ ys ↔ x ∈ xs) :
    extremes? ys = extremes? xs := by
  cases xs with
  | nil =>
    have hys : ys = [] := List.eq_nil_iff_forall_not_mem.mpr fun x hx => nomatch (h x).mp hx
    rw [hys]
  | cons x rest =>
    have hys : ys ≠ [] := List.ne_nil_of_mem ((h x).mpr List.mem_cons_self)
    obtain ⟨lo, hi, hends, hlo, hhi⟩ := exists_extremes? (List.cons_ne_nil x rest)
    obtain ⟨lo', hi', hends', hlo', hhi'⟩ := exists_extremes? hys
    simp only [h] at hlo' hhi'
    rw [hends, hends', hlo.unique hlo', hhi.unique hhi']

/-! ## On the way -/

variable {scale : AxisScale} {lo hi : ℝ} (hpos : scale = .log → 0 < lo) (hle : lo ≤ hi)

theorem between_linear (lo hi t : ℝ) : AxisScale.linear.between lo hi t = lo + t * (hi - lo) :=
  rfl

theorem between_log (lo hi t : ℝ) : AxisScale.log.between lo hi t =
    Real.exp (Real.log lo + t * (Real.log hi - Real.log lo)) :=
  rfl

include hpos in
theorem between_zero : scale.between lo hi 0 = lo := by
  cases scale with
  | linear => rw [between_linear, zero_mul, add_zero]
  | log => rw [between_log, zero_mul, add_zero, Real.exp_log (hpos rfl)]

include hpos hle

theorem between_one : scale.between lo hi 1 = hi := by
  cases scale with
  | linear => rw [between_linear, one_mul, add_sub_cancel]
  | log => rw [between_log, one_mul, add_sub_cancel, Real.exp_log ((hpos rfl).trans_le hle)]

theorem between_mono {t t' : ℝ} (h : t ≤ t') : scale.between lo hi t ≤ scale.between lo hi t' := by
  cases scale with
  | linear =>
    rw [between_linear, between_linear]
    gcongr
  | log =>
    have hlog : Real.log lo ≤ Real.log hi := Real.log_le_log (hpos rfl) hle
    rw [between_log, between_log]
    gcongr

omit hpos hle

theorem between_sub (t t' : ℝ) : AxisScale.linear.between lo hi t' -
    AxisScale.linear.between lo hi t = (t' - t) * (hi - lo) := by
  rw [between_linear, between_linear]
  ring

theorem div_between (t t' : ℝ) : AxisScale.log.between lo hi t' / AxisScale.log.between lo hi t =
    Real.exp ((t' - t) * (Real.log hi - Real.log lo)) := by
  rw [between_log, between_log, ← Real.exp_sub]
  congr 1
  ring

/-! ## Samples -/

/-- Whether the steps of a list are equal on an axis. -/
def AxisScale.EvenlySpaced : AxisScale → List ℝ → Prop
  | linear, l => ∃ d, l.IsChain fun a b => b - a = d
  | log, l => ∃ q, l.IsChain fun a b => 0 < a ∧ b / a = q

theorem sampleXs_eq {xs : List ℝ} (h : extremes? xs = some (lo, hi)) :
    sampleXs xs scale = (List.range 48).map fun i : Nat => scale.between lo hi (i / 47) := by
  rw [sampleXs, h]
  rfl

theorem evenlySpaced_map (lo hi : ℝ) :
    scale.EvenlySpaced ((List.range 48).map fun i : Nat => scale.between lo hi (i / 47)) := by
  have hstep : ∀ i : Nat, ((i + 1 : Nat) : ℝ) / 47 - i / 47 = 1 / 47 := by
    intro i
    push_cast
    ring
  cases scale with
  | linear =>
    refine ⟨1 / 47 * (hi - lo), (List.isChain_map _).mpr ((List.isChain_range _ _).mpr ?_)⟩
    intro i _
    rw [between_sub, hstep]
  | log =>
    refine ⟨Real.exp (1 / 47 * (Real.log hi - Real.log lo)),
      (List.isChain_map _).mpr ((List.isChain_range _ _).mpr ?_)⟩
    intro i _
    rw [div_between, hstep]
    exact ⟨Real.exp_pos _, rfl⟩

/-- **The samples of a curve** go from the least abscissa to the greatest in equal steps, whatever
the order of the abscissae is.  So the curve that is drawn covers the range of its data, and no
more. -/
theorem sampleXs_spaced {xs : List ℝ} (hne : xs ≠ []) (hxs : scale = .log → ∀ x ∈ xs, 0 < x) :
    (∃ lo hi, IsLeast {x | x ∈ xs} lo ∧ IsGreatest {x | x ∈ xs} hi ∧
      (sampleXs xs scale).head? = some lo ∧ (sampleXs xs scale).getLast? = some hi) ∧
    (sampleXs xs scale).length = 48 ∧ (sampleXs xs scale).Pairwise (· ≤ ·) ∧
    scale.EvenlySpaced (sampleXs xs scale) ∧
    (∀ ys : List ℝ, ys.Perm xs → sampleXs ys scale = sampleXs xs scale) ∧
    ∀ (f : Figure ℝ) (s : Series ℝ) (fit : Fit ℝ) (style : SeriesStyle) layers,
      f.xScale = scale → s.xs = xs → f.layers s fit style = .ok layers →
      layers.2.points.map (·.1) = sampleXs xs scale := by
  obtain ⟨lo, hi, hends, hlo, hhi⟩ := exists_extremes? hne
  have hpos : scale = .log → 0 < lo := fun h => hxs h lo hlo.1
  have hle : lo ≤ hi := hlo.2 hhi.1
  have hsamples := @sampleXs_eq scale lo hi xs hends
  refine ⟨⟨lo, hi, hlo, hhi, ?_, ?_⟩, Figure.length_sampleXs xs scale, ?_, ?_,
    fun ys hperm => ?_, ?_⟩
  · have hzero : ((0 : Nat) : ℝ) / 47 = 0 := by norm_num
    rw [hsamples, List.head?_map, List.head?_range, if_neg (by decide), Option.map_some, hzero,
      between_zero hpos]
  · have hone : ((47 : Nat) : ℝ) / 47 = 1 := by norm_num
    rw [hsamples, List.getLast?_map, List.getLast?_range, if_neg (by decide), Option.map_some]
    show some (scale.between lo hi (((47 : Nat) : ℝ) / 47)) = some hi
    rw [hone, between_one hpos hle]
  · rw [hsamples, List.pairwise_map]
    refine List.pairwise_lt_range.imp fun h => between_mono hpos hle ?_
    gcongr
  · rw [hsamples]
    exact evenlySpaced_map lo hi
  · rw [sampleXs, sampleXs, extremes?_congr fun x => hperm.mem_iff]
  · rintro f s fit style layers rfl rfl h
    rw [Figure.eq_of_layers_eq_ok h]
    exact (List.map_map).trans (List.map_id _)

/-- Sizes out of order, one of them twice. -/
def unorderedSizes : List ℝ :=
  [10, 100, 1, 100].map Nat.cast

theorem sampleXs_spaced_unorderedSizes :
    (unorderedSizes ≠ [] ∧ ∀ x ∈ unorderedSizes, 0 < x) ∧
    (sampleXs unorderedSizes .log).head? = some 1 ∧
    (sampleXs unorderedSizes .log).getLast? = some 100 ∧
    (sampleXs unorderedSizes .log).Pairwise (· ≤ ·) ∧
    sampleXs unorderedSizes.reverse .log = sampleXs unorderedSizes .log := by
  have hne : unorderedSizes ≠ [] := List.cons_ne_nil _ _
  have hxs : ∀ x ∈ unorderedSizes, 0 < x := by norm_num [unorderedSizes]
  obtain ⟨⟨lo, hi, hlo, hhi, hhead, hlast⟩, -, hsorted, -, hperm, -⟩ :=
    @sampleXs_spaced .log unorderedSizes hne fun _ => hxs
  have hleast : IsLeast {x | x ∈ unorderedSizes} 1 := by
    constructor
    · simp [unorderedSizes]
    · simp [unorderedSizes, lowerBounds]
  have hgreatest : IsGreatest {x | x ∈ unorderedSizes} 100 := by
    constructor
    · simp [unorderedSizes]
    · norm_num [unorderedSizes, upperBounds]
  rw [hlo.unique hleast] at hhead
  rw [hhi.unique hgreatest] at hlast
  exact ⟨⟨hne, hxs⟩, hhead, hlast, hsorted, hperm _ (List.reverse_perm _)⟩

end Trendline
