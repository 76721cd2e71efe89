import Trendline.Chart.Axis
import Trendline.Proofs.Figure.Bounds

/-!
# The ranges of a chart

A chart shows the box around its figure with a margin on every side.  The margin
is a part of the extent, and never less than a little, so that over numbers
without rounding no range is empty.  (Doubles can be too coarse for the least
margin: from `2 ^ 24` on they are further apart than twice that.)

* `widen_number`: the range with its margins.
* `displayBounds_least`: the box is the least around all that is drawn, and the
  ranges of the chart reach beyond it.
-/

namespace Trendline

open Extended

namespace Chart

/-- The margin around a range. -/
noncomputable def margin (part least low high : ℝ) : ℝ :=
  max (|high - low| * part) least

theorem margin_pos (part : ℝ) {least : ℝ} (h : 0 < least) (low high : ℝ) :
    0 < margin part least low high :=
  lt_max_of_lt_right h

/-- The least margins, some decimal place, are positive. -/
theorem decimal_pos (k : Nat) : 0 < ((1 : ℕ) : ℝ) / 10 ^ k := by
  positivity

theorem widen_number (part least low high : ℝ) :
    widen (number part) (number least) (number low) (number high) =
      (number (low - margin part least low high), number (high + margin part least low high)) := by
  simp only [widen, number_sub, abs_number, number_mul, greatest_number, number_add, margin]

/-- The ranges of a chart are numbers, and reach beyond a box on all four sides. -/
structure Surrounds (c b : Bounds Extended) : Prop where
  numbers : ∃ xMin xMax yMin yMax, c = ⟨number xMin, number xMax, number yMin, number yMax⟩
  left : c.xMin < b.xMin
  right : b.xMax < c.xMax
  below : c.yMin < b.yMin
  above : b.yMax < c.yMax

end Chart

/-- The sides of a box of numbers, in order. -/
structure Figure.BoxOf (b : Bounds Extended) (xMin xMax yMin yMax : ℝ) : Prop where
  eq : b = ⟨number xMin, number xMax, number yMin, number yMax⟩
  x_le : xMin ≤ xMax
  y_le : yMin ≤ yMax

theorem Figure.IsLeastBox.exists_boxOf {f : Figure Extended} {b : Bounds Extended}
    (h : f.IsLeastBox Evaluation.extended b) : ∃ xMin xMax yMin yMax, BoxOf b xMin xMax yMin yMax := by
  obtain ⟨xMin, hxMin⟩ := isFinite_iff.mp h.xMin.isFinite
  obtain ⟨xMax, hxMax⟩ := isFinite_iff.mp h.xMax.isFinite
  obtain ⟨yMin, hyMin⟩ := isFinite_iff.mp h.yMin.isFinite
  obtain ⟨yMax, hyMax⟩ := isFinite_iff.mp h.yMax.isFinite
  have hx := (h.insideX _ h.xMin).2
  have hy := (h.insideY _ h.yMin).2
  rw [hxMin, hxMax] at hx
  rw [hyMin, hyMax] at hy
  refine ⟨xMin, xMax, yMin, yMax, ?_, hx, hy⟩
  rw [← hxMin, ← hxMax, ← hyMin, ← hyMax]

namespace Chart

variable {α : Type} [Scalar α]

theorem chartBounds_eq_none_iff {fig : Figure α} :
    chartBounds fig = none ↔ fig.displayBounds = none := by
  rw [chartBounds, Option.map_eq_none_iff]

/-- **No range of a chart is empty**: each reaches beyond the box on both sides. -/
theorem exists_surrounds {fig : Figure Extended} {b : Bounds Extended}
    (h : fig.displayBounds = some b) : ∃ c, chartBounds fig = some c ∧ Surrounds c b := by
  obtain ⟨xMin, xMax, yMin, yMax, hbox⟩ :=
    (Figure.isLeastBox_displayBounds Evaluation.extended h).exists_boxOf
  obtain rfl := hbox.eq
  refine ⟨_, by rw [chartBounds, h, Option.map_some], ?_⟩
  simp only [ofDecimal_eq, widen_number]
  have hx := margin_pos (((5 : ℕ) : ℝ) / 10 ^ 2) (decimal_pos 9) xMin xMax
  have hy := margin_pos (((5 : ℕ) : ℝ) / 10 ^ 2) (decimal_pos 9) yMin yMax
  exact
    { numbers := ⟨_, _, _, _, rfl⟩
      left := (number_lt _ _).mpr (sub_lt_self _ hx)
      right := (number_lt _ _).mpr (lt_add_of_pos_right _ hx)
      below := (number_lt _ _).mpr (sub_lt_self _ hy)
      above := (number_lt _ _).mpr (lt_add_of_pos_right _ hy) }

/-- What the box around a figure and the ranges of its chart are, the finite scalars read as
numbers. -/
structure LeastBounds (R : Evaluation α) (fig : Figure α) : Prop where
  none_iff : fig.displayBounds = none ↔ ∀ q, ¬ fig.Draws q
  least : ∀ b, fig.displayBounds = some b → fig.IsLeastBox R b
  reordered : ∀ g, fig.Reordered g →
    g.displayBounds.map (Bounds.numbers R) = fig.displayBounds.map (Bounds.numbers R)
  chart_none_iff : chartBounds fig = none ↔ fig.displayBounds = none

theorem leastBounds (R : Evaluation α) (fig : Figure α) : LeastBounds R fig where
  none_iff := Figure.displayBounds_eq_none_iff
  least _ h := Figure.isLeastBox_displayBounds R h
  reordered _ h := (h.displayBounds_eq R).symm
  chart_none_iff := chartBounds_eq_none_iff

/-- **The box around a figure is the least one.**  There is none if no point is drawn, and then the
chart has no ranges; otherwise it holds every drawn point, in height also every drawn level, and
each of its sides is at one of them, in whatever order layers and points come.  Without rounding,
the ranges of the chart reach beyond it on all four sides. -/
theorem displayBounds_least :
    (∀ fig : Figure Float, LeastBounds Evaluation.doubles fig) ∧
    ∀ fig : Figure Extended, LeastBounds Evaluation.extended fig ∧
      ∀ b, fig.displayBounds = some b → ∃ c, chartBounds fig = some c ∧ Surrounds c b :=
  ⟨fun fig => leastBounds Evaluation.doubles fig, fun fig =>
    ⟨leastBounds Evaluation.extended fig, fun _ h => exists_surrounds h⟩⟩

end Chart

end Trendline
