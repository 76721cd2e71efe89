import Mathlib.Data.List.Forall2
import Trendline.Proofs.Viewer.Areas

/-!
# Labels around a chart

A chart with room for labels leaves nine columns to its left and two to its right, a row above and
two below.  Words count every place in such a frame, so all labels have one, and none of them is
where another kind of label is, or in the chart.

* `Inset`: where the chart is in its frame.
* `XTick`, `YTick`, `XTitle`: where the labels of each kind are.
* `exists_axisLabels?`: the labels of a chart are all placed.
* `axisLabels?_chartLayout`: a chart and its labels are where they belong.
-/

namespace Trendline.Viewer

namespace Area

/-- Whether a column goes through an area. -/
def HasColumn (a : Area) (x : UInt16) : Prop :=
  a.x.toNat ≤ x.toNat ∧ x.toNat < a.right

/-- Whether a row goes through an area. -/
def HasRow (a : Area) (y : UInt16) : Prop :=
  a.y.toNat ≤ y.toNat ∧ y.toNat < a.bottom

end Area

/-! ## The chart -/

/-- How a chart with room for labels stands in its frame. -/
structure Inset (frame chart : Area) : Prop where
  x : chart.x.toNat = frame.x.toNat + 9
  y : chart.y.toNat = frame.y.toNat + 1
  width : frame.width.toNat = chart.width.toNat + 11
  height : frame.height.toNat = chart.height.toNat + 3
  wide : 11 ≤ chart.width.toNat
  high : 6 ≤ chart.height.toNat

variable {frame chart : Area} {insets : Insets}

theorem eq_of_chartLayout (h : chartLayout frame = (chart, none)) : chart = frame := by
  rw [chartLayout] at h
  split at h
  · exact (Prod.mk.inj h).1.symm
  · cases (Prod.mk.inj h).2

theorem inset_of_chartLayout (hframe : frame.IsCounted)
    (h : chartLayout frame = (chart, some insets)) : Inset frame chart := by
  obtain ⟨hright, hbottom⟩ := hframe
  simp only [Area.right, Area.bottom] at hright hbottom
  rw [chartLayout] at h
  split at h
  · cases (Prod.mk.inj h).2
  · rename_i hroom
    rw [not_or, UInt16.not_le, UInt16.not_le, UInt16.lt_iff_toNat_lt, UInt16.lt_iff_toNat_lt]
      at hroom
    have hwidth : 21 < frame.width.toNat := hroom.1
    have hheight : 8 < frame.height.toNat := hroom.2
    obtain rfl := (Prod.mk.inj h).1
    have hx : (frame.x + Insets.usual.left).toNat = frame.x.toNat + 9 :=
      toNat_add_of_lt (b := Insets.usual.left) (by simp [Insets.usual]; omega)
    have hy : (frame.y + Insets.usual.top).toNat = frame.y.toNat + 1 :=
      toNat_add_of_lt (b := Insets.usual.top) (by simp [Insets.usual]; omega)
    have hw : (frame.width - Insets.usual.left - Insets.usual.right).toNat =
        frame.width.toNat - 9 - 2 := toNat_sub_sub (by simp [Insets.usual]; omega)
    have hh : (frame.height - Insets.usual.top - Insets.usual.bottom).toNat =
        frame.height.toNat - 1 - 2 := toNat_sub_sub (by simp [Insets.usual]; omega)
    constructor <;> dsimp only <;> omega

theorem Inset.within (h : Inset frame chart) : chart.Within frame := by
  obtain ⟨hx, hy, hwidth, hheight, -, -⟩ := h
  refine ⟨by omega, ?_, by omega, ?_⟩ <;> simp only [Area.right, Area.bottom] <;> omega

theorem Inset.width_ne_zero (h : Inset frame chart) : frame.width ≠ 0 := by
  intro h0
  have hzero : frame.width.toNat = 0 := congrArg UInt16.toNat h0
  have hwidth := h.width
  omega

theorem Inset.within_yTitleArea (h : Inset frame chart) : (yTitleArea frame).Within frame := by
  have hheight := h.height
  have hwidth := toNat_monus frame.width Insets.usual.right
  have hone : (1 : UInt16).toNat = 1 := rfl
  refine ⟨le_rfl, ?_, le_rfl, ?_⟩ <;> simp only [yTitleArea, Area.right, Area.bottom] <;> omega

/-! ## Ticks -/

theorem toNat_tickOffset_le (last : UInt16) {i : Nat} (hi : i < tickCount) :
    (tickOffset last i).toNat ≤ last.toNat := by
  have hlast := last.toNat_lt
  have hi' : i ≤ 4 := Nat.le_of_lt_succ hi
  have hmul : last.toNat * i ≤ last.toNat * 4 := Nat.mul_le_mul_left _ hi'
  have hoffset : (2 * last.toNat * i + (tickCount - 1)) / (2 * (tickCount - 1)) ≤ last.toNat := by
    rw [Nat.mul_assoc]
    simp only [tickCount]
    omega
  rw [tickOffset, UInt16.toNat_ofNat_of_lt' (hoffset.trans_lt hlast)]
  exact hoffset

section

variable (hframe : frame.IsCounted) (h : Inset frame chart)

include hframe h

/-- Every tick of the horizontal axis is below a column of the chart. -/
theorem exists_xTickColumn? {i : Nat} (hi : i < tickCount) :
    ∃ x, xTickColumn? chart i = some x ∧ chart.HasColumn x := by
  obtain ⟨hright, -⟩ := hframe.of_within h.within
  have hwide := h.wide
  have hone : (1 : UInt16).toNat = 1 := rfl
  simp only [Area.right] at hright
  obtain ⟨last, hlast, hlast'⟩ := exists_sub? (a := chart.width) (b := 1) (by omega)
  have hoffset := toNat_tickOffset_le last hi
  obtain ⟨x, hx, hx'⟩ := exists_add? (a := chart.x) (b := tickOffset last i) (by omega)
  refine ⟨x, ?_, ?_⟩
  · rw [xTickColumn?, hlast]
    exact hx
  · rw [Area.HasColumn, Area.right]
    omega

/-- Every tick of the vertical axis is beside a row of the chart. -/
theorem exists_yTickRow? {i : Nat} (hi : i < tickCount) :
    ∃ y, yTickRow? chart i = some y ∧ chart.HasRow y := by
  obtain ⟨-, hbottom⟩ := hframe.of_within h.within
  have hhigh := h.high
  have hone : (1 : UInt16).toNat = 1 := rfl
  simp only [Area.bottom] at hbottom
  obtain ⟨last, hlast, hlast'⟩ := exists_sub? (a := chart.height) (b := 1) (by omega)
  have hoffset := toNat_tickOffset_le last hi
  obtain ⟨base, hbase, hbase'⟩ := exists_add? (a := chart.y) (b := last) (by omega)
  obtain ⟨y, hy, hy'⟩ := exists_sub? (a := base) (b := tickOffset last i) (by omega)
  refine ⟨y, ?_, ?_⟩
  · rw [yTickRow?, hlast, Option.bind_eq_bind, Option.bind_some, hbase]
    exact hy
  · rw [Area.HasRow, Area.bottom]
    omega

end

/-! ## Labels -/

/-- Where the label of a tick of the horizontal axis is: around the column of the tick, in the row
above the last one of the frame. -/
structure XTick (frame chart : Area) (i : Nat) (s : String) (l : Label) : Prop where
  text : l.text = s
  column : ∃ x, xTickColumn? chart i = some x ∧
    l.area.x.toNat = x.toNat - (UInt16.ofNat (s.utf8ByteSize / 2)).toNat
  row : l.area.y.toNat + 2 = frame.bottom
  inside : frame.HasRow l.area.y
  width : l.area.width = cellCount s
  height : l.area.height = 1

/-- Where the label of a tick of the vertical axis is: in the row of the tick, with one column
between it and the chart. -/
structure YTick (frame chart : Area) (i : Nat) (s : String) (l : Label) : Prop where
  text : l.text = s
  row : yTickRow? chart i = some l.area.y
  left : frame.x.toNat ≤ l.area.x.toNat
  right : l.area.right + 1 = chart.x.toNat
  width : l.area.width = cellCount s
  height : l.area.height = 1

/-- Where the title of the horizontal axis is: below the chart, in the last row of the frame. -/
structure XTitle (frame chart a : Area) : Prop where
  x : a.x = chart.x
  width : a.width = chart.width
  row : a.y.toNat + 1 = frame.bottom
  height : a.height = 1
  within : a.Within frame

section

variable (hframe : frame.IsCounted) (h : Inset frame chart)

include hframe h

theorem exists_xTickLabel? {i : Nat} (hi : i < tickCount) (s : String) :
    ∃ l, xTickLabel? frame chart i s = some (some l) ∧ XTick frame chart i s l := by
  have hbottom := hframe.bottom
  obtain ⟨-, hchart, -, hheight, -, hhigh⟩ := id h
  have hone : (1 : UInt16).toNat = 1 := rfl
  simp only [Area.bottom] at hbottom
  obtain ⟨x, hx, -⟩ := exists_xTickColumn? hframe h hi
  obtain ⟨y, hy, hy'⟩ := exists_add? (a := chart.y) (b := chart.height) (by omega)
  obtain ⟨bottom, hsum, hsum'⟩ := exists_add? (a := frame.y) (b := frame.height) (by omega)
  obtain ⟨last, hlast, hlast'⟩ := exists_sub? (a := bottom) (b := 1) (by omega)
  have habove : ¬ last ≤ y := by
    rw [UInt16.le_iff_toNat_le]
    omega
  refine ⟨⟨⟨monus x (.ofNat (s.utf8ByteSize / 2)), y, cellCount s, 1⟩, s⟩, ?_,
    rfl, ⟨x, hx, toNat_monus _ _⟩, ?_, ⟨?_, ?_⟩, rfl, rfl⟩
  · simp only [xTickLabel?, hx, hy, hsum, hlast, Option.bind_eq_bind, Option.bind_some,
      if_neg habove]
    rfl
  all_goals simp only [Area.bottom]; omega

/-- The label of a tick of the vertical axis is left out if it is longer than eight characters. -/
theorem exists_yTickLabel? (hx : 1 ≤ frame.x) {i : Nat} (hi : i < tickCount) (s : String) :
    ∃ l?, yTickLabel? frame chart i s = some l? ∧
      if cellCount s ≤ 8 then ∃ l, l? = some l ∧ YTick frame chart i s l else l? = none := by
  have hright := hframe.right
  obtain ⟨hchart, -, hwidth, -, hwide, -⟩ := id h
  have hroom : (monus Insets.usual.left 1).toNat = 8 := rfl
  simp only [Area.right] at hright
  rw [UInt16.le_iff_toNat_le] at hx
  have hone : (1 : UInt16).toNat = 1 := rfl
  have height : (8 : UInt16).toNat = 8 := rfl
  obtain ⟨y, hy, -⟩ := exists_yTickRow? hframe h hi
  obtain ⟨stop, hstop, hstop'⟩ :=
    exists_add? (a := frame.x) (b := monus Insets.usual.left 1) (by omega)
  have hstart := toNat_monus stop (cellCount s)
  have hlabel : yTickLabel? frame chart i s = some (if monus stop (cellCount s) < frame.x then none
      else some ⟨⟨monus stop (cellCount s), y, cellCount s, 1⟩, s⟩) := by
    simp only [yTickLabel?, hy, hstop, Option.bind_eq_bind, Option.bind_some]
    rfl
  refine ⟨_, hlabel, ?_⟩
  -- a start that would be left of the terminal is taken for its first column, which no frame has
  have hiff : monus stop (cellCount s) < frame.x ↔ ¬ cellCount s ≤ 8 := by
    rw [UInt16.lt_iff_toNat_lt, UInt16.le_iff_toNat_le]
    omega
  split
  · rename_i hfits
    rw [if_neg (fun hlt => hiff.mp hlt hfits)]
    rw [UInt16.le_iff_toNat_le] at hfits
    refine ⟨_, rfl, rfl, hy, ?_, ?_, rfl, rfl⟩
    all_goals simp only [Area.right]; omega
  · rename_i hlong
    rw [if_pos (hiff.mpr hlong)]

theorem exists_xTitleArea? :
    ∃ a, xTitleArea? frame chart = some (some a) ∧ XTitle frame chart a := by
  have hbottom := hframe.bottom
  obtain ⟨hx, hchart, hwidth, hheight, -, hhigh⟩ := id h
  have hone : (1 : UInt16).toNat = 1 := rfl
  simp only [Area.bottom] at hbottom
  obtain ⟨base, hbase, hbase'⟩ := exists_add? (a := chart.y) (b := chart.height) (by omega)
  obtain ⟨y, hy, hy'⟩ := exists_add? (a := base) (b := 1) (by omega)
  obtain ⟨bottom, hsum, hsum'⟩ := exists_add? (a := frame.y) (b := frame.height) (by omega)
  have habove : y < bottom := by
    rw [UInt16.lt_iff_toNat_lt]
    omega
  refine ⟨⟨chart.x, y, chart.width, 1⟩, ?_, rfl, rfl, ?_, rfl, ⟨?_, ?_, ?_, ?_⟩⟩
  · simp only [xTitleArea?, hbase, hy, hsum, Option.bind_eq_bind, Option.bind_some, if_pos habove]
    rfl
  all_goals simp only [Area.bottom, Area.right]; omega

end

/-! ## All labels -/

/-- Where the labels of a chart are, given the texts of its ticks from the first to the last. -/
structure Labelled (frame chart : Area) (xTexts yTexts : List String) (labels : AxisLabels) :
    Prop where
  xTicks : List.Forall₂ (fun (s, i) l => XTick frame chart i s l) xTexts.zipIdx labels.xTicks
  yTicks : List.Forall₂ (fun (s, i) l => YTick frame chart i s l)
    (yTexts.zipIdx.filter fun (s, _) => cellCount s ≤ 8) labels.yTicks
  xTitle : ∃ a, labels.xTitle = some a ∧ XTitle frame chart a
  yTitle : labels.yTitle.Within frame

theorem exists_mapM {α β : Type} {f : α → Option β} {R : α → β → Prop} {l : List α}
    (h : ∀ a ∈ l, ∃ b, f a = some b ∧ R a b) : ∃ bs, l.mapM f = some bs ∧ List.Forall₂ R l bs := by
  induction l with
  | nil => exact ⟨[], rfl, .nil⟩
  | cons a rest ih =>
    obtain ⟨⟨b, hb, hab⟩, hrest⟩ := List.forall_mem_cons.mp h
    obtain ⟨bs, hbs, hall⟩ := ih hrest
    refine ⟨b :: bs, ?_, .cons hab hall⟩
    rw [List.mapM_cons, hb, hbs]
    rfl

theorem forall₂_filterMap {α β : Type} {R : α → β → Prop} {p : α → Bool} {as : List α}
    {os : List (Option β)}
    (h : List.Forall₂ (fun a o => if p a then ∃ b, o = some b ∧ R a b else o = none) as os) :
    List.Forall₂ R (as.filter p) (os.filterMap id) := by
  induction h with
  | nil => exact .nil
  | @cons a o as os ha _ ih =>
    split at ha
    · rename_i hp
      obtain ⟨b, rfl, hab⟩ := ha
      rw [List.filter_cons_of_pos hp]
      exact .cons hab ih
    · rename_i hp
      subst ha
      rwa [List.filter_cons_of_neg hp]

theorem lt_of_mem_zipIdx {α : Type} {l : List α} {a : α} {i : Nat} (h : (a, i) ∈ l.zipIdx) :
    i < l.length :=
  (List.mem_zipIdx' h).1

/-- **All labels are placed**, whatever their texts are. -/
theorem exists_axisLabels? (hframe : frame.IsCounted) (h : Inset frame chart) (hx : 1 ≤ frame.x)
    {xTexts yTexts : List String}
    (hxs : xTexts.length = tickCount) (hys : yTexts.length = tickCount) :
    ∃ labels, axisLabels? frame chart xTexts yTexts = some labels ∧
      Labelled frame chart xTexts yTexts labels := by
  -- no label of the horizontal axis is left out
  obtain ⟨xs, hxTicks, hxs'⟩ := exists_mapM (l := xTexts.zipIdx)
    (f := fun (s, i) => xTickLabel? frame chart i s)
    (R := fun (s, i) o => if true then ∃ l, o = some l ∧ XTick frame chart i s l else o = none)
    (fun (s, i) hmem => by
      obtain ⟨l, hl, hplace⟩ := exists_xTickLabel? hframe h (hxs ▸ lt_of_mem_zipIdx hmem) s
      exact ⟨_, hl, l, rfl, hplace⟩)
  obtain ⟨ys, hyTicks, hys'⟩ := exists_mapM (l := yTexts.zipIdx)
    (f := fun (s, i) => yTickLabel? frame chart i s)
    (R := fun (s, i) o => if cellCount s ≤ 8 then ∃ l, o = some l ∧ YTick frame chart i s l
      else o = none)
    (fun (s, i) hmem => exists_yTickLabel? hframe h hx (hys ▸ lt_of_mem_zipIdx hmem) s)
  obtain ⟨title, htitle, hplace⟩ := exists_xTitleArea? hframe h
  refine ⟨⟨xs.filterMap id, ys.filterMap id, some title, yTitleArea frame⟩, ?_, ?_⟩
  · rw [axisLabels?, hxTicks, hyTicks, htitle]
    rfl
  · refine ⟨?_, forall₂_filterMap (hys'.imp fun _ _ hy => ?_), ⟨title, rfl, hplace⟩,
      h.within_yTitleArea⟩
    · have hall := forall₂_filterMap hxs'
      rwa [List.filter_true] at hall
    · simpa using hy

/-- **A chart and its labels.**  A frame without room is all chart.  Otherwise every place around
the chart can be counted: the chart is within its frame, no tick is outside of the chart, and the
labels of all ticks are beside it, as far as they fit. -/
theorem axisLabels?_chartLayout (hx : 1 ≤ frame.x) (hframe : frame.IsCounted)
    (f : Figure Float) (b : Bounds Float) :
    (∀ chart, chartLayout frame = (chart, none) → chart = frame) ∧
    ∀ chart insets, chartLayout frame = (chart, some insets) →
      chart.Within frame ∧ 11 ≤ chart.width.toNat ∧ 6 ≤ chart.height.toNat ∧
      (∀ i < tickCount, ∃ x y, xTickColumn? chart i = some x ∧ chart.HasColumn x ∧
        yTickRow? chart i = some y ∧ chart.HasRow y) ∧
      ∃ labels, axisLabels? frame chart (tickTexts f.xScale b.xMin b.xMax)
          (tickTexts f.yScale b.yMin b.yMax) = some labels ∧
        Labelled frame chart (tickTexts f.xScale b.xMin b.xMax)
          (tickTexts f.yScale b.yMin b.yMax) labels := by
  refine ⟨fun chart h => eq_of_chartLayout h, fun chart insets h => ?_⟩
  have hinset := inset_of_chartLayout hframe h
  have hlength : ∀ (scale : AxisScale) (low high : Float),
      (tickTexts scale low high).length = tickCount := fun scale low high => by
    rw [tickTexts, List.length_map, List.length_range]
  refine ⟨hinset.within, hinset.wide, hinset.high, fun i hi => ?_,
    exists_axisLabels? hframe hinset hx (hlength _ _ _) (hlength _ _ _)⟩
  obtain ⟨x, hcolumn, hx⟩ := exists_xTickColumn? hframe hinset hi
  obtain ⟨y, hrow, hy⟩ := exists_yTickRow? hframe hinset hi
  exact ⟨x, y, hcolumn, hx, hrow, hy⟩

/-- The last frame of the largest terminal, as small as one with room for labels can be. -/
def lastFrame : Area :=
  ⟨65513, 65526, 22, 9⟩

def lastChart : Area :=
  ⟨65522, 65527, 11, 6⟩

/-- Levels up to two thousand millions, whose labels are too long but for the lowest one. -/
def highBounds : Bounds Float :=
  ⟨0, 8, 0, 2000000000⟩

theorem axisLabels?_chartLayout_lastFrame :
    (1 ≤ lastFrame.x ∧ lastFrame.IsCounted ∧
      chartLayout lastFrame = (lastChart, some .usual)) ∧
    lastChart.Within lastFrame ∧
    ∃ labels, axisLabels? lastFrame lastChart (tickTexts .linear 0 8)
        (tickTexts .linear 0 2000000000) = some labels ∧
      Labelled lastFrame lastChart (tickTexts .linear 0 8) (tickTexts .linear 0 2000000000)
        labels := by
  have hcounted : lastFrame.IsCounted := ⟨by decide, by decide⟩
  have hplaces := (axisLabels?_chartLayout (by decide) hcounted
    ⟨.recordAggregation, "", "", "", .linear, .linear, [], [], [], [], []⟩ highBounds).2 _ _ rfl
  exact ⟨⟨by decide, hcounted, rfl⟩, hplaces.1, hplaces.2.2.2.2⟩

/-- **No terminal is too small or too large**: whatever a chart is drawn into, its labels have
places. -/
theorem exists_axisLabels?_terminal {width height n : UInt16} {a : Area}
    (ha : a = ((((⟨0, 0, width, height⟩ : Area).belowTop barHeight).aboveBase barHeight).besideSide
      listWidth).aboveBase n)
    (h : chartLayout a.withinBorder = (chart, some insets)) {xTexts yTexts : List String}
    (hxs : xTexts.length = tickCount) (hys : yTexts.length = tickCount) :
    ∃ labels, axisLabels? a.withinBorder chart xTexts yTexts = some labels ∧
      Labelled a.withinBorder chart xTexts yTexts labels := by
  have hcounted : a.IsCounted := ha ▸ isCounted_chartArea width height n
  have hframe := hcounted.of_within (Area.within_withinBorder hcounted)
  have hinset := inset_of_chartLayout hframe h
  have hx := Area.one_le_withinBorder_x hcounted hinset.width_ne_zero
  exact exists_axisLabels? hframe hinset hx hxs hys

end Trendline.Viewer
