import Trendline.Proofs.Chart.Bounds
import Trendline.Proofs.Chart.Picture

/-!
# The cells of a picture

Over numbers without rounding, a frame spans all that is drawn.  The way from the
first to the last cell of an axis is divided as the range is, and the nearest cell
is taken: so cells come in the order of the values, the ends of the range go to the
ends of the axis, and no value leaves the grid.

* `cellAt`, `partOf`: the cell at a part of the way, and the part of a value.
* `exists_spans_x`, `exists_spans_y`: both ranges of a frame hold what is drawn.
* `Spans.columns`, `Spans.rows`: the cells of values in these ranges.
* `inGrid`: nothing is drawn outside the grid.
* `frame?_places`: where a picture puts what it shows.
-/

namespace Trendline.Chart

open Extended

/-! ## Parts of the way -/

/-- The cell at a part of the way along `n` cells: the nearest one. -/
noncomputable def cellAt (n : Nat) (t : ℝ) : Nat :=
  Scalar.round (t * (n - 1))

variable {n : Nat} {s t : ℝ}

theorem cellAt_mono (hn : 1 ≤ n) (h : s ≤ t) : cellAt n s ≤ cellAt n t := by
  have hlast : (0 : ℝ) ≤ n - 1 := by
    rw [sub_nonneg]
    exact_mod_cast hn
  exact Nat.floor_mono (add_le_add_left (mul_le_mul_of_nonneg_right h hlast) _)

theorem round_natCast (k : Nat) : Scalar.round (k : ℝ) = k := by
  show ⌊(k : ℝ) + 1 / 2⌋₊ = k
  rw [add_comm, Nat.floor_add_natCast (by norm_num), Nat.floor_eq_zero.mpr (by norm_num), zero_add]

theorem cellAt_zero (n : Nat) : cellAt n 0 = 0 := by
  rw [cellAt, zero_mul, ← Nat.cast_zero, round_natCast]

theorem cellAt_one (hn : 1 ≤ n) : cellAt n 1 = n - 1 := by
  rw [cellAt, one_mul, ← Nat.cast_pred hn, round_natCast]

theorem cellAt_lt (hn : 1 ≤ n) (h : t ≤ 1) : cellAt n t < n := by
  have hle := cellAt_mono hn h
  rw [cellAt_one hn] at hle
  omega

/-- The part of the way from `low` to `high`. -/
noncomputable def partOf (low high v : ℝ) : ℝ :=
  (v - low) / (high - low)

theorem partOf_nonneg {low high v : ℝ} (h : low < high) (hv : low ≤ v) : 0 ≤ partOf low high v :=
  div_nonneg (sub_nonneg.mpr hv) (sub_pos.mpr h).le

theorem partOf_le_one {low high v : ℝ} (h : low < high) (hv : v ≤ high) : partOf low high v ≤ 1 :=
  div_le_one_of_le₀ (sub_le_sub_right hv low) (sub_pos.mpr h).le

theorem partOf_lt {low high v w : ℝ} (h : low < high) (hv : v < w) :
    partOf low high v < partOf low high w :=
  div_lt_div_of_pos_right (sub_lt_sub_right hv low) (sub_pos.mpr h)

theorem partOf_low (low high : ℝ) : partOf low high low = 0 := by
  rw [partOf, sub_self, zero_div]

theorem partOf_high {low high : ℝ} (h : low < high) : partOf low high high = 1 :=
  div_self (sub_pos.mpr h).ne'

/-! ## Ranges -/

/-- A range of an axis as numbers, with all that is drawn inside. -/
structure Spans (low high : Extended) (Drawn : Extended → Prop) (l h : ℝ) : Prop where
  low_eq : low = number l
  high_eq : high = number h
  lt : l < h
  inside : ∀ v, Drawn (number v) → l ≤ v ∧ v ≤ h

/-- With a margin, a range holds more than what is drawn. -/
theorem exists_spans_widen {Drawn : Extended → Prop} {l h : ℝ} (part : ℝ) {least : ℝ}
    (hleast : 0 < least) (hle : l ≤ h) (hinside : ∀ v, Drawn (number v) → l ≤ v ∧ v ≤ h) :
    ∃ lo hi, Spans (widen (number part) (number least) (number l) (number h)).1
      (widen (number part) (number least) (number l) (number h)).2 Drawn lo hi := by
  have hmargin := margin_pos part hleast l h
  rw [widen_number]
  refine ⟨l - margin part least l h, h + margin part least l h, rfl, rfl, by linarith, ?_⟩
  intro v hv
  obtain ⟨hlow, hhigh⟩ := hinside v hv
  constructor <;> linarith

/-! ## Frames -/

variable {fig : Figure Extended} {f : Frame Extended} {b : Bounds Extended}

/-- **From side to side a frame holds all that is drawn**, and without a margin if two values
differ: then its ends are drawn. -/
theorem exists_spans_x (h : fig.displayBounds = some b) (width height : Nat) :
    ∃ lo hi, Spans (Frame.ofBounds b width height).xLow (Frame.ofBounds b width height).xHigh
      fig.DrawsX lo hi ∧ ∀ x x', fig.DrawsX (number x) → fig.DrawsX (number x') → x < x' →
        fig.DrawsX (number lo) ∧ fig.DrawsX (number hi) := by
  have hleast := Figure.isLeastBox_displayBounds Evaluation.extended h
  obtain ⟨xMin, xMax, yMin, yMax, hbox⟩ := hleast.exists_boxOf
  obtain rfl := hbox.eq
  have hinside : ∀ x, fig.DrawsX (number x) → xMin ≤ x ∧ x ≤ xMax :=
    fun x hx => hleast.insideX _ hx
  by_cases hlt : number xMin < number xMax
  · refine ⟨xMin, xMax, ?_, fun _ _ _ _ _ => ⟨hleast.xMin, hleast.xMax⟩⟩
    simp only [Frame.ofBounds, if_pos hlt]
    exact ⟨rfl, rfl, hlt, hinside⟩
  · obtain ⟨lo, hi, hspans⟩ := exists_spans_widen (((5 : ℕ) : ℝ) / 10 ^ 2)
      (decimal_pos 12) hbox.x_le hinside
    refine ⟨lo, hi, ?_, fun x x' hx hx' hxx' => ?_⟩
    · simp only [Frame.ofBounds, if_neg hlt]
      exact hspans
    · exact absurd (((hinside x hx).1.trans_lt hxx').trans_le (hinside x' hx').2) hlt

/-- **From below to above a frame holds all that is drawn**, always with a margin. -/
theorem exists_spans_y (h : fig.displayBounds = some b) (width height : Nat) :
    ∃ lo hi, Spans (Frame.ofBounds b width height).yLow (Frame.ofBounds b width height).yHigh
      fig.DrawsY lo hi := by
  have hleast := Figure.isLeastBox_displayBounds Evaluation.extended h
  obtain ⟨xMin, xMax, yMin, yMax, hbox⟩ := hleast.exists_boxOf
  obtain rfl := hbox.eq
  exact exists_spans_widen (((5 : ℕ) : ℝ) / 10 ^ 2) (decimal_pos 12) hbox.y_le
    fun y hy => hleast.insideY _ hy

namespace Spans

variable {lo hi v : ℝ}

/-- Inside the range nothing is clamped. -/
theorem position_eq {low high : Extended} {Drawn : Extended → Prop}
    (hs : Spans low high Drawn lo hi) (hv : Drawn (number v)) :
    position low high (number v) = (number v - low) / (high - low) ∧
      position low high (number v) = number (partOf lo hi v) := by
  obtain ⟨rfl, rfl, hlt, hinside⟩ := hs
  obtain ⟨hlow, hhigh⟩ := hinside v hv
  have hpart : (number v - number lo) / (number hi - number lo) = number (partOf lo hi v) := by
    rw [number_sub, number_sub, number_div _ (sub_pos.mpr hlt).ne', partOf]
  have hnonneg : ¬ number (partOf lo hi v) < (0 : Extended) :=
    not_lt.mpr (partOf_nonneg hlt hlow)
  have hleOne : ¬ (1 : Extended) < number (partOf lo hi v) :=
    not_lt.mpr (partOf_le_one hlt hhigh)
  rw [position, hpart, Scalar.clampUnit, if_neg hnonneg, if_neg hleOne]
  exact ⟨rfl, rfl⟩

theorem column_eq (hs : Spans f.xLow f.xHigh fig.DrawsX lo hi) (hv : fig.DrawsX (number v)) :
    f.column (number v) = cellAt (max f.width 2) (partOf lo hi v) := by
  simp only [Frame.column, (hs.position_eq hv).2, ofNat_eq, one_eq, number_sub, number_mul,
    round_number, cellAt]

theorem row_eq (hs : Spans f.yLow f.yHigh fig.DrawsY lo hi) (hv : fig.DrawsY (number v)) :
    f.row (number v) = cellAt (max f.height 2) (1 - partOf lo hi v) := by
  simp only [Frame.row, (hs.position_eq hv).2, ofNat_eq, one_eq, number_sub, number_mul,
    round_number, cellAt]
  rw [sub_mul, one_mul]

end Spans

/-! ## Columns and rows -/

/-- Where the columns of a frame put the abscissae that a figure draws: nothing is clamped, none
leaves the grid, columns come in the order of the values, and the first and the last column are
those of the leftmost and of the rightmost values, if there are two. -/
structure Frame.Columns (f : Frame Extended) (fig : Figure Extended) : Prop where
  unclamped : ∀ x, fig.DrawsX x → position f.xLow f.xHigh x = (x - f.xLow) / (f.xHigh - f.xLow)
  lt_width : ∀ x, fig.DrawsX x → f.column x < f.width
  le_of_lt : ∀ x x', fig.DrawsX x → fig.DrawsX x' → x < x' → f.column x ≤ f.column x'
  leftmost : ∀ x x', fig.DrawsX x → fig.DrawsX x' → x < x' →
    (∀ w, fig.DrawsX w → ¬ w < x) → f.column x = 0
  rightmost : ∀ x x', fig.DrawsX x → fig.DrawsX x' → x < x' →
    (∀ w, fig.DrawsX w → ¬ x' < w) → f.column x' = f.width - 1

/-- Where the rows of a frame put the heights that a figure draws, the highest first: nothing is
clamped, and none leaves the grid. -/
structure Frame.Rows (f : Frame Extended) (fig : Figure Extended) : Prop where
  unclamped : ∀ y, fig.DrawsY y → position f.yLow f.yHigh y = (y - f.yLow) / (f.yHigh - f.yLow)
  lt_height : ∀ y, fig.DrawsY y → f.row y < f.height
  le_of_lt : ∀ y y', fig.DrawsY y → fig.DrawsY y' → y < y' → f.row y' ≤ f.row y

theorem Spans.columns {lo hi : ℝ} (hs : Spans f.xLow f.xHigh fig.DrawsX lo hi)
    (hends : ∀ x x', fig.DrawsX (number x) → fig.DrawsX (number x') → x < x' →
      fig.DrawsX (number lo) ∧ fig.DrawsX (number hi)) (hwidth : 2 ≤ f.width) :
    f.Columns fig := by
  have hpos : 1 ≤ f.width := by omega
  have hcolumn : ∀ r, fig.DrawsX (number r) →
      f.column (number r) = cellAt f.width (partOf lo hi r) := by
    intro r hr
    rw [hs.column_eq hr, max_eq_left hwidth]
  constructor
  case unclamped =>
    intro x hx
    obtain ⟨r, rfl⟩ := isFinite_iff.mp hx.isFinite
    exact (hs.position_eq hx).1
  case lt_width =>
    intro x hx
    obtain ⟨r, rfl⟩ := isFinite_iff.mp hx.isFinite
    rw [hcolumn r hx]
    exact cellAt_lt hpos (partOf_le_one hs.lt (hs.inside r hx).2)
  all_goals
    intro x x' hx hx' hlt
    obtain ⟨r, rfl⟩ := isFinite_iff.mp hx.isFinite
    obtain ⟨r', rfl⟩ := isFinite_iff.mp hx'.isFinite
    rw [number_lt] at hlt
  case le_of_lt =>
    rw [hcolumn r hx, hcolumn r' hx']
    exact cellAt_mono hpos (partOf_lt hs.lt hlt).le
  case leftmost =>
    intro hleast
    obtain rfl : r = lo :=
      le_antisymm (not_lt.mp (hleast _ (hends r r' hx hx' hlt).1)) (hs.inside r hx).1
    rw [hcolumn r hx, partOf_low, cellAt_zero]
  case rightmost =>
    intro hgreatest
    obtain rfl : r' = hi :=
      le_antisymm (hs.inside r' hx').2 (not_lt.mp (hgreatest _ (hends r r' hx hx' hlt).2))
    rw [hcolumn r' hx', partOf_high hs.lt, cellAt_one hpos]

theorem Spans.rows {lo hi : ℝ} (hs : Spans f.yLow f.yHigh fig.DrawsY lo hi)
    (hheight : 2 ≤ f.height) : f.Rows fig := by
  have hpos : 1 ≤ f.height := by omega
  have hrow : ∀ r, fig.DrawsY (number r) →
      f.row (number r) = cellAt f.height (1 - partOf lo hi r) := by
    intro r hr
    rw [hs.row_eq hr, max_eq_left hheight]
  constructor
  case unclamped =>
    intro y hy
    obtain ⟨r, rfl⟩ := isFinite_iff.mp hy.isFinite
    exact (hs.position_eq hy).1
  case lt_height =>
    intro y hy
    obtain ⟨r, rfl⟩ := isFinite_iff.mp hy.isFinite
    rw [hrow r hy]
    exact cellAt_lt hpos (sub_le_self 1 (partOf_nonneg hs.lt (hs.inside r hy).1))
  case le_of_lt =>
    intro y y' hy hy' hlt
    obtain ⟨r, rfl⟩ := isFinite_iff.mp hy.isFinite
    obtain ⟨r', rfl⟩ := isFinite_iff.mp hy'.isFinite
    rw [hrow r hy, hrow r' hy']
    exact cellAt_mono hpos (sub_le_sub_left (partOf_lt hs.lt hlt).le 1)

/-! ## The grid -/

/-- Whether a cell is in the grid of a frame. -/
def Frame.Holds {α : Type} (f : Frame α) (cell : Nat × Nat) : Prop :=
  cell.1 < f.width ∧ cell.2 < f.height

theorem Frame.Holds.onSegment {α : Type} {f : Frame α} {a b : Nat × Nat} (ha : f.Holds a)
    (hb : f.Holds b) {i j : Nat} (h : onSegment a b i j = true) : f.Holds (i, j) := by
  rw [Chart.onSegment, List.contains_iff_mem] at h
  obtain ⟨⟨-, hi⟩, -, hj⟩ := (follows_segment a.1 a.2 b.1 b.2).boxed _ h
  obtain ⟨ha₁, ha₂⟩ := ha
  obtain ⟨hb₁, hb₂⟩ := hb
  constructor
  · show i < f.width
    dsimp only at hi
    omega
  · show j < f.height
    dsimp only at hj
    omega

/-- A curve stays in the grid if its points do. -/
theorem Frame.holds_of_onCurve {α : Type} {f : Frame α} {cells : List (Option (Nat × Nat))}
    (hcells : ∀ a, some a ∈ cells → f.Holds a) {i j : Nat} (h : onCurve cells i j = true) :
    f.Holds (i, j) := by
  rw [onCurve, Bool.or_eq_true, List.contains_iff_mem, List.any_eq_true] at h
  rcases h with h | ⟨⟨a, b⟩, hmem, hway⟩
  · exact hcells _ h
  · obtain ⟨ha, hb⟩ := List.of_mem_zip hmem
    cases a with
    | none => cases hway
    | some a =>
      cases b with
      | none => cases hway
      | some b => exact (hcells a ha).onSegment (hcells b (List.mem_of_mem_tail hb)) hway

/-- All that a picture draws is in its grid: points, the ways of curves, and levels from the first
to the last column. -/
structure InGrid (fig : Figure Extended) (f : Frame Extended) : Prop where
  points : ∀ mark ∈ markers fig f, f.Holds mark.1
  curves : ∀ line ∈ fig.lines, ∀ i j,
    onCurve (line.points.map (cellOf? fig f)) i j = true → f.Holds (i, j)
  levels : ∀ y, fig.DrawsLevel y → ∀ i j,
    onSegment (0, f.row y) (f.width - 1, f.row y) i j = true → f.Holds (i, j)

theorem holds_cellOf? (hc : f.Columns fig) (hr : f.Rows fig) {p : Extended × Extended}
    (hp : (∃ layer ∈ fig.scatters, p ∈ layer.points) ∨ ∃ line ∈ fig.lines, p ∈ line.points)
    {cell : Nat × Nat} (h : cellOf? fig f p = some cell) : f.Holds cell := by
  obtain ⟨hvisible, hcell⟩ := Option.ite_none_right_eq_some.mp h
  obtain rfl := Option.some.inj hcell
  rw [Figure.isVisible, Bool.and_eq_true] at hvisible
  have hdraws : fig.Draws (fig.display p) := ⟨⟨p, hp, rfl⟩, hvisible.1, hvisible.2⟩
  exact ⟨hc.lt_width _ ⟨_, hdraws, rfl⟩, hr.lt_height _ (.inl ⟨_, hdraws, rfl⟩)⟩

theorem inGrid (hc : f.Columns fig) (hr : f.Rows fig) (hwidth : 2 ≤ f.width) :
    InGrid fig f where
  points mark hmark := by
    obtain ⟨layer, hlayer, hmark⟩ := List.mem_flatMap.mp hmark
    obtain ⟨cell, hcell, rfl⟩ := List.mem_map.mp hmark
    obtain ⟨p, hp, hcell⟩ := List.mem_filterMap.mp hcell
    exact holds_cellOf? hc hr (.inl ⟨layer, hlayer, hp⟩) hcell
  curves line hline i j := by
    refine Frame.holds_of_onCurve fun a ha => ?_
    obtain ⟨p, hp, hcell⟩ := List.mem_map.mp ha
    exact holds_cellOf? hc hr (.inr ⟨line, hline, hp⟩) hcell
  levels y hy i j := by
    have hrow := hr.lt_height y (.inr hy)
    exact Frame.Holds.onSegment ⟨by omega, hrow⟩ ⟨by omega, hrow⟩

/-- **A picture shows all that is drawn, in its place.**  With data there is a frame; what is
drawn has its column and its row there, in order and from side to side, and no cell outside the grid
is ever drawn into. -/
theorem frame?_places (hdata : ∃ q, fig.Draws q) (width height : Nat) :
    ∃ f, frame? fig width height = some f ∧ f.width = max width 10 ∧ f.height = max height 5 ∧
      f.Columns fig ∧ f.Rows fig ∧ InGrid fig f := by
  obtain ⟨q, hq⟩ := hdata
  obtain ⟨b, hb⟩ := Option.ne_none_iff_exists'.mp fun hnone =>
    Figure.displayBounds_eq_none_iff.mp hnone q hq
  obtain ⟨lo, hi, hx, hends⟩ := exists_spans_x hb (max width leastWidth) (max height leastHeight)
  obtain ⟨lo', hi', hy⟩ := exists_spans_y hb (max width leastWidth) (max height leastHeight)
  have hwidth : 2 ≤ max width leastWidth := le_max_of_le_right (by decide)
  have hheight : 2 ≤ max height leastHeight := le_max_of_le_right (by decide)
  have hcolumns := hx.columns hends hwidth
  have hrows := hy.rows hheight
  exact ⟨_, by rw [frame?, hb, Option.map_some], rfl, rfl, hcolumns, hrows,
    inGrid hcolumns hrows hwidth⟩

/-- A figure of two points. -/
theorem frame?_places_pair :
    let fig : Figure Extended :=
      { kind := .recordSizes, title := "", xLabel := "", yLabel := ""
        scatters := [⟨"", [(number 1, number 2), (number 3, number 5)], .circle, 0⟩] }
    (∃ q, fig.Draws q) ∧ ∃ f, frame? fig 80 24 = some f ∧ f.width = max 80 10 ∧
      f.height = max 24 5 ∧ f.Columns fig ∧ f.Rows fig ∧ InGrid fig f := by
  intro fig
  have hdata : ∃ q, fig.Draws q := ⟨(number 1, number 2),
    ⟨(number 1, number 2), .inl ⟨_, List.mem_singleton_self _, List.mem_cons_self⟩, rfl⟩,
    rfl, rfl⟩
  exact ⟨hdata, frame?_places hdata 80 24⟩

end Trendline.Chart
