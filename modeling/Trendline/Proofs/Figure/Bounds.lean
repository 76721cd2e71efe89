import Mathlib.Data.List.Forall2
import Trendline.Figure.Basic
import Trendline.Proofs.Extended

/-!
# The box around a figure

A point is drawn if both its coordinates are numbers on the axes of the figure,
and a level is drawn if its height is.  The box around a figure is the least one
that holds every drawn point, and is high enough for every drawn level.

* `displayBounds_eq_none_iff`: there is a box unless no point is drawn.
* `isLeastBox_displayBounds`: it is the least box.
* `IsLeastBox.unique`: the least box depends on what is drawn alone, so it stays
  when layers and points change places.
-/

namespace Trendline

open Scalar

namespace Bounds

variable {α : Type} [Scalar α]

theorem foldl_insert : ∀ (points : List (α × α)) (b : Bounds α), points.foldl insert b =
    { xMin := (points.map (·.1)).foldl least b.xMin
      xMax := (points.map (·.1)).foldl greatest b.xMax
      yMin := (points.map (·.2)).foldl least b.yMin
      yMax := (points.map (·.2)).foldl greatest b.yMax } := by
  intro points
  induction points with
  | nil => intro b; rfl
  | cons p rest ih => intro b; rw [List.foldl_cons, ih]; rfl

theorem foldl_insertLevel : ∀ (levels : List α) (b : Bounds α), levels.foldl insertLevel b =
    { b with yMin := levels.foldl least b.yMin, yMax := levels.foldl greatest b.yMax } := by
  intro levels
  induction levels with
  | nil => intro b; rfl
  | cons y rest ih => intro b; rw [List.foldl_cons, ih]; rfl

/-- The numbers of a box. -/
def numbers (R : Evaluation α) (b : Bounds α) : Bounds ℝ :=
  ⟨R.number b.xMin, R.number b.xMax, R.number b.yMin, R.number b.yMax⟩

end Bounds

namespace Figure

variable {α : Type} [Scalar α]

/-! ## What is drawn -/

/-- A drawn point: that of a scatter layer or a curve, with numbers on both axes. -/
structure Draws (f : Figure α) (q : α × α) : Prop where
  source : ∃ p, ((∃ layer ∈ f.scatters, p ∈ layer.points) ∨ ∃ line ∈ f.lines, p ∈ line.points) ∧
    f.display p = q
  x : isFinite q.1 = true
  y : isFinite q.2 = true

/-- A drawn level: its height on the axis is a number. -/
structure DrawsLevel (f : Figure α) (y : α) : Prop where
  source : ∃ level ∈ f.levels, f.yScale.apply level.y = y
  y : isFinite y = true

/-- The abscissa of a drawn point. -/
def DrawsX (f : Figure α) (x : α) : Prop :=
  ∃ q, f.Draws q ∧ q.1 = x

/-- The height of a drawn point or of a drawn level. -/
def DrawsY (f : Figure α) (y : α) : Prop :=
  (∃ q, f.Draws q ∧ q.2 = y) ∨ f.DrawsLevel y

variable {f g : Figure α}

theorem mem_visiblePoints_iff {q : α × α} : q ∈ f.visiblePoints ↔ f.Draws q := by
  rw [visiblePoints, List.mem_filter, isVisible, Bool.and_eq_true, List.mem_map]
  simp only [List.mem_append, List.mem_flatMap]
  exact ⟨fun ⟨h, hx, hy⟩ => ⟨h, hx, hy⟩, fun ⟨h, hx, hy⟩ => ⟨h, hx, hy⟩⟩

theorem mem_visibleLevels_iff {y : α} : y ∈ f.visibleLevels ↔ f.DrawsLevel y := by
  rw [visibleLevels, List.mem_filter, List.mem_map]
  exact ⟨fun ⟨h, hy⟩ => ⟨h, hy⟩, fun ⟨h, hy⟩ => ⟨h, hy⟩⟩

theorem DrawsX.isFinite {x : α} (h : f.DrawsX x) : isFinite x = true := by
  obtain ⟨q, hq, rfl⟩ := h
  exact hq.x

theorem DrawsY.isFinite {y : α} (h : f.DrawsY y) : isFinite y = true := by
  rcases h with ⟨q, hq, rfl⟩ | h
  · exact hq.y
  · exact h.y

theorem mem_map_fst_visiblePoints_iff {x : α} :
    x ∈ f.visiblePoints.map (·.1) ↔ f.DrawsX x := by
  rw [List.mem_map, DrawsX]
  simp only [mem_visiblePoints_iff]

theorem mem_heights_iff {y : α} :
    y ∈ f.visiblePoints.map (·.2) ++ f.visibleLevels ↔ f.DrawsY y := by
  rw [List.mem_append, List.mem_map, DrawsY, mem_visibleLevels_iff]
  simp only [mem_visiblePoints_iff]

/-! ## The least box -/

/-- A box holds all that is drawn, and has something drawn on each of its sides. -/
structure IsLeastBox (R : Evaluation α) (f : Figure α) (b : Bounds α) : Prop where
  insideX : ∀ x, f.DrawsX x → R.number b.xMin ≤ R.number x ∧ R.number x ≤ R.number b.xMax
  insideY : ∀ y, f.DrawsY y → R.number b.yMin ≤ R.number y ∧ R.number y ≤ R.number b.yMax
  xMin : f.DrawsX b.xMin
  xMax : f.DrawsX b.xMax
  yMin : f.DrawsY b.yMin
  yMax : f.DrawsY b.yMax

theorem displayBounds_of_cons {p : α × α} {rest : List (α × α)}
    (h : f.visiblePoints = p :: rest) : f.displayBounds = some
      { xMin := (rest.map (·.1)).foldl least p.1
        xMax := (rest.map (·.1)).foldl greatest p.1
        yMin := (rest.map (·.2) ++ f.visibleLevels).foldl least p.2
        yMax := (rest.map (·.2) ++ f.visibleLevels).foldl greatest p.2 } := by
  rw [displayBounds, h]
  dsimp only
  rw [Bounds.foldl_insert, Bounds.foldl_insertLevel, List.foldl_append, List.foldl_append]
  rfl

/-- **There is a box** unless no point is drawn. -/
theorem displayBounds_eq_none_iff : f.displayBounds = none ↔ ∀ q, ¬ f.Draws q := by
  simp only [← mem_visiblePoints_iff, ← List.eq_nil_iff_forall_not_mem]
  cases h : f.visiblePoints with
  | nil => simp [displayBounds, h]
  | cons p rest => simp [displayBounds_of_cons h]

/-- **The box around a figure is the least one.** -/
theorem isLeastBox_displayBounds (R : Evaluation α) {b : Bounds α} (h : f.displayBounds = some b) :
    f.IsLeastBox R b := by
  cases hpoints : f.visiblePoints with
  | nil =>
    rw [displayBounds, hpoints] at h
    cases h
  | cons p rest =>
    rw [displayBounds_of_cons hpoints] at h
    obtain rfl := Option.some.inj h
    have hx : ∀ x, x ∈ p.1 :: rest.map (·.1) ↔ f.DrawsX x := by
      intro x
      rw [← mem_map_fst_visiblePoints_iff, hpoints, List.map_cons]
    have hy : ∀ y, y ∈ p.2 :: (rest.map (·.2) ++ f.visibleLevels) ↔ f.DrawsY y := by
      intro y
      rw [← mem_heights_iff, hpoints, List.map_cons, List.cons_append]
    have hxFinite := fun x hmem => ((hx x).mp hmem).isFinite
    have hyFinite := fun y hmem => ((hy y).mp hmem).isFinite
    obtain ⟨hxMin, hxLeast⟩ := R.foldl_least hxFinite
    obtain ⟨hxMax, hxGreatest⟩ := R.foldl_greatest hxFinite
    obtain ⟨hyMin, hyLeast⟩ := R.foldl_least hyFinite
    obtain ⟨hyMax, hyGreatest⟩ := R.foldl_greatest hyFinite
    exact
      { insideX := fun x hdraws => ⟨hxLeast x ((hx x).mpr hdraws), hxGreatest x ((hx x).mpr hdraws)⟩
        insideY := fun y hdraws => ⟨hyLeast y ((hy y).mpr hdraws), hyGreatest y ((hy y).mpr hdraws)⟩
        xMin := (hx _).mp hxMin
        xMax := (hx _).mp hxMax
        yMin := (hy _).mp hyMin
        yMax := (hy _).mp hyMax }

/-- **The least box depends on what is drawn alone.** -/
theorem IsLeastBox.unique {R : Evaluation α} {b c : Bounds α} (hb : f.IsLeastBox R b)
    (hc : g.IsLeastBox R c) (hx : ∀ x, f.DrawsX x ↔ g.DrawsX x)
    (hy : ∀ y, f.DrawsY y ↔ g.DrawsY y) : b.numbers R = c.numbers R := by
  rw [Bounds.numbers, Bounds.numbers, Bounds.mk.injEq]
  exact
    ⟨le_antisymm (hb.insideX _ ((hx _).mpr hc.xMin)).1 (hc.insideX _ ((hx _).mp hb.xMin)).1,
      le_antisymm (hc.insideX _ ((hx _).mp hb.xMax)).2 (hb.insideX _ ((hx _).mpr hc.xMax)).2,
      le_antisymm (hb.insideY _ ((hy _).mpr hc.yMin)).1 (hc.insideY _ ((hy _).mp hb.yMin)).1,
      le_antisymm (hc.insideY _ ((hy _).mp hb.yMax)).2 (hb.insideY _ ((hy _).mpr hc.yMax)).2⟩

/-! ## Other orders -/

/-- Layers in another order, each with its points in another order. -/
def SameLayers {L : Type} (points : L → List (α × α)) (l l' : List L) : Prop :=
  ∃ m, l.Perm m ∧ List.Forall₂ (fun a b => (points a).Perm (points b)) m l'

/-- The layers of a figure, the points in them and the levels in another order. -/
structure Reordered (f g : Figure α) : Prop where
  xScale : f.xScale = g.xScale
  yScale : f.yScale = g.yScale
  scatters : SameLayers ScatterLayer.points f.scatters g.scatters
  lines : SameLayers LineLayer.points f.lines g.lines
  levels : f.levels.Perm g.levels

omit [Scalar α] in
theorem SameLayers.exists_mem_iff {L : Type} {points : L → List (α × α)} {l l' : List L}
    (h : SameLayers points l l') {p : α × α} :
    (∃ layer ∈ l, p ∈ points layer) ↔ ∃ layer ∈ l', p ∈ points layer := by
  obtain ⟨m, hperm, hall⟩ := h
  simp only [hperm.mem_iff]
  clear hperm
  induction hall with
  | nil => rfl
  | cons hpoints _ ih => simp only [List.mem_cons, exists_eq_or_imp, hpoints.mem_iff, ih]

namespace Reordered

variable (h : f.Reordered g)

include h

theorem draws_iff {q : α × α} : f.Draws q ↔ g.Draws q := by
  have hdisplay : f.display = g.display := by
    funext p
    rw [display, display, h.xScale, h.yScale]
  constructor
  · rintro ⟨⟨p, hp, hq⟩, hx, hy⟩
    rw [h.scatters.exists_mem_iff, h.lines.exists_mem_iff] at hp
    exact ⟨⟨p, hp, hdisplay ▸ hq⟩, hx, hy⟩
  · rintro ⟨⟨p, hp, hq⟩, hx, hy⟩
    rw [← h.scatters.exists_mem_iff, ← h.lines.exists_mem_iff] at hp
    exact ⟨⟨p, hp, hdisplay ▸ hq⟩, hx, hy⟩

theorem drawsLevel_iff {y : α} : f.DrawsLevel y ↔ g.DrawsLevel y := by
  have hsource : (∃ level ∈ f.levels, f.yScale.apply level.y = y) ↔
      ∃ level ∈ g.levels, g.yScale.apply level.y = y := by
    simp only [h.levels.mem_iff, h.yScale]
  exact ⟨fun ⟨hs, hy⟩ => ⟨hsource.mp hs, hy⟩, fun ⟨hs, hy⟩ => ⟨hsource.mpr hs, hy⟩⟩

/-- **The box stays when layers and points change places.** -/
theorem displayBounds_eq (R : Evaluation α) :
    f.displayBounds.map (Bounds.numbers R) = g.displayBounds.map (Bounds.numbers R) := by
  have hx : ∀ x, f.DrawsX x ↔ g.DrawsX x := fun x => by simp only [DrawsX, h.draws_iff]
  have hy : ∀ y, f.DrawsY y ↔ g.DrawsY y := fun y => by
    simp only [DrawsY, h.draws_iff, h.drawsLevel_iff]
  have hnone : f.displayBounds = none ↔ g.displayBounds = none := by
    simp only [displayBounds_eq_none_iff, h.draws_iff]
  cases hf : f.displayBounds with
  | none => rw [hnone.mp hf]
  | some b =>
    cases hg : g.displayBounds with
    | none =>
      rw [hnone.mpr hg] at hf
      cases hf
    | some c =>
      exact congrArg some
        ((isLeastBox_displayBounds R hf).unique (isLeastBox_displayBounds R hg) hx hy)

end Reordered

end Figure

end Trendline
