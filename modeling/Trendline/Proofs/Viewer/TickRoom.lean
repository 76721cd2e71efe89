import Trendline.Proofs.Chart.TickText
import Trendline.Proofs.Viewer.AxisLabels
import Trendline.Viewer.Screen

/-!
# Room for the labels below a chart

A label beside a chart is left out if it is too long.  One below it is always drawn, half of it to
either side of its tick, and nothing keeps it in the frame.  On every terminal the first tick has
room for nineteen characters, and the last one for eight.

* `XTickSpan`: which columns a label takes, and when these are in the frame.
* `XTick.left_iff`, `XTick.right_iff`: the two ends of a label.
* `xTicks_span`: the labels below the chart of any figure on any terminal.
* `not_xTicks_within`: labels that begin to the left of their frame, or end outside of the
  terminal.
-/

namespace Trendline.Viewer

open Chart (tickText digitRoom)

/-! ## The frame on a terminal -/

/-- What `screen` draws a figure into, border and all: what is beside the list, but for the table of
fits. -/
def chartArea (f : Figure Float) (width height : UInt16) : Area :=
  ((((⟨0, 0, width, height⟩ : Area).belowTop barHeight).aboveBase barHeight).besideSide
    listWidth).aboveBase (tableHeight f)

/-- The frame of the chart of a figure on a terminal. -/
def chartFrame (f : Figure Float) (width height : UInt16) : Area :=
  (chartArea f width height).withinBorder

theorem right_chartArea (f : Figure Float) (width height : UInt16) :
    (chartArea f width height).right = width.toNat := by
  have hside := Area.right_besideSide listWidth (isCounted_body width height)
  have hwidth : (⟨0, 0, width, height⟩ : Area).right = width.toNat := Nat.zero_add _
  exact hside.trans hwidth

/-! ## Room -/

/-- The offset of a tick of the horizontal axis. -/
def xTickOffset (chart : Area) (i : Nat) : Nat :=
  (tickOffset (chart.width - 1) i).toNat

/-- How long a label may be not to begin to the left of the frame. -/
def leftRoom (chart : Area) (i : Nat) : Nat :=
  2 * (Insets.usual.left.toNat + xTickOffset chart i) + 1

/-- How long a label may be not to end to the right of the border of the frame. -/
def rightRoom (chart : Area) (i : Nat) : Nat :=
  2 * (chart.width.toNat + Insets.usual.right.toNat + 1 - xTickOffset chart i)

/-- How long the label of a tick may be. -/
def tickRoom (chart : Area) (i : Nat) : Nat :=
  min (leftRoom chart i) (rightRoom chart i)

/-- Whether an area is in the columns of a frame, or on the border to the right of it. -/
def Area.WithinColumns (a frame : Area) : Prop :=
  frame.x.toNat ≤ a.x.toNat ∧ a.right ≤ frame.right + 1

/-- What is drawn for a value below its tick: a cell for each character, in columns that are in the
frame if the label is short enough, and so if the value is small enough. -/
structure XTickSpan (frame chart : Area) (i : Nat) (v : Float) (l : Label) : Prop where
  text : l.text = tickText v
  width : l.area.width.toNat = l.text.length
  row : frame.HasRow l.area.y
  height : l.area.height = 1
  left : frame.x.toNat ≤ l.area.x.toNat ↔ l.text.length ≤ leftRoom chart i
  right : l.area.right ≤ frame.right + 1 ↔
    l.text.length ≤ rightRoom chart i ∧ l.text.length ≤ frame.right + 1
  within : l.area.WithinColumns frame ↔ l.text.length ≤ tickRoom chart i
  value : l.area.WithinColumns frame ↔
    (v.isFinite = true → |Double.value v| + 1 / 2 < 10 ^ digitRoom (tickRoom chart i) v)

variable {frame chart : Area} {insets : Insets} {i : Nat} {s : String} {l : Label}

theorem toNat_usual_left : Insets.usual.left.toNat = 9 := rfl

theorem toNat_usual_right : Insets.usual.right.toNat = 2 := rfl

theorem toNat_width_sub_one (h : Inset frame chart) :
    (chart.width - 1).toNat = chart.width.toNat - 1 := by
  have hwide := h.wide
  have hone : (1 : UInt16).toNat = 1 := rfl
  exact UInt16.toNat_sub_of_le _ _ (UInt16.le_iff_toNat_le.mpr (by omega))

theorem xTickOffset_le (h : Inset frame chart) (hi : i < tickCount) :
    xTickOffset chart i ≤ chart.width.toNat - 1 :=
  toNat_width_sub_one h ▸ toNat_tickOffset_le (chart.width - 1) hi

theorem xTickOffset_zero (chart : Area) : xTickOffset chart 0 = 0 := by
  rw [xTickOffset, tickOffset, Nat.mul_zero]
  rfl

theorem xTickOffset_last (h : Inset frame chart) :
    xTickOffset chart 4 = chart.width.toNat - 1 := by
  have hlt := (chart.width - 1).toNat_lt
  have hlast : (2 * (chart.width - 1).toNat * 4 + (tickCount - 1)) / (2 * (tickCount - 1)) =
      (chart.width - 1).toNat := by
    simp only [tickCount]
    omega
  rw [xTickOffset, tickOffset, hlast, UInt16.toNat_ofNat_of_lt' hlt, toNat_width_sub_one h]

theorem tickRoom_zero (h : Inset frame chart) : tickRoom chart 0 = 19 := by
  have hwide := h.wide
  rw [tickRoom, leftRoom, rightRoom, xTickOffset_zero, toNat_usual_left, toNat_usual_right]
  omega

theorem rightRoom_last (h : Inset frame chart) : rightRoom chart 4 = 8 := by
  have hwide := h.wide
  rw [rightRoom, xTickOffset_last h, toNat_usual_right]
  omega

theorem tickRoom_last (h : Inset frame chart) : tickRoom chart 4 = 8 := by
  have hwide := h.wide
  rw [tickRoom, rightRoom_last h, leftRoom, xTickOffset_last h]
  omega

/-- Labels of at most eight characters have room at every tick. -/
theorem eight_le_tickRoom (h : Inset frame chart) (hi : i < tickCount) : 8 ≤ tickRoom chart i := by
  have hwide := h.wide
  have hoffset := xTickOffset_le h hi
  rw [tickRoom, leftRoom, rightRoom, toNat_usual_left, toNat_usual_right]
  omega

/-! ## The ends of a label -/

theorem toNat_xTickColumn? {x : UInt16} (h : xTickColumn? chart i = some x) :
    x.toNat = chart.x.toNat + xTickOffset chart i := by
  rw [xTickColumn?, Option.bind_eq_bind, Option.bind_eq_some_iff] at h
  obtain ⟨last, hlast, hx⟩ := h
  have hlast' : last = chart.width - 1 := by
    rw [sub?] at hlast
    split at hlast
    · exact (Option.some.inj hlast).symm
    · cases hlast
  rw [← add?_eq_some_iff.mp hx, hlast']
  rfl

namespace XTick

variable (hl : XTick frame chart i s l) (hbytes : s.utf8ByteSize = s.length) (hs : s.length ≤ 310)

include hl hbytes hs

theorem toNat_width : l.area.width.toNat = s.length := by
  rw [hl.width, cellCount, hbytes]
  exact UInt16.toNat_ofNat_of_lt' (by rw [UInt16.size]; omega)

/-- A label that would begin to the left of the terminal is taken to its first column. -/
theorem toNat_x (h : Inset frame chart) : l.area.x.toNat =
    frame.x.toNat + Insets.usual.left.toNat + xTickOffset chart i - s.length / 2 := by
  obtain ⟨x, hcolumn, hx⟩ := hl.column
  have hhalf : (UInt16.ofNat (s.length / 2)).toNat = s.length / 2 :=
    UInt16.toNat_ofNat_of_lt' (by rw [UInt16.size]; omega)
  rw [hx, toNat_xTickColumn? hcolumn, hbytes, hhalf, h.x]
  rfl

theorem left_iff (h : Inset frame chart) (hx : 1 ≤ frame.x.toNat) :
    frame.x.toNat ≤ l.area.x.toNat ↔ s.length ≤ leftRoom chart i := by
  rw [hl.toNat_x hbytes hs h, leftRoom]
  omega

theorem right_iff (h : Inset frame chart) (hi : i < tickCount) :
    l.area.right ≤ frame.right + 1 ↔
      s.length ≤ rightRoom chart i ∧ s.length ≤ frame.right + 1 := by
  have hoffset := xTickOffset_le h hi
  have hwidth := h.width
  have hwide := h.wide
  rw [Area.right, Area.right, hl.toNat_x hbytes hs h, hl.toNat_width hbytes hs, rightRoom,
    toNat_usual_left, toNat_usual_right]
  omega

theorem withinColumns_iff (h : Inset frame chart) (hx : 1 ≤ frame.x.toNat) (hi : i < tickCount) :
    l.area.WithinColumns frame ↔ s.length ≤ tickRoom chart i := by
  rw [Area.WithinColumns, hl.left_iff hbytes hs h hx, hl.right_iff hbytes hs h hi, tickRoom,
    Nat.le_min]
  have hwidth := h.width
  have hoffset := xTickOffset_le h hi
  have hwide := h.wide
  -- what has room on both sides is not longer than the frame
  constructor
  · rintro ⟨hstart, hstop, -⟩
    exact ⟨hstart, hstop⟩
  · rintro ⟨hstart, hstop⟩
    refine ⟨hstart, hstop, ?_⟩
    rw [leftRoom, toNat_usual_left] at hstart
    rw [rightRoom, toNat_usual_right] at hstop
    rw [Area.right]
    omega

end XTick

theorem XTick.span {v : Float} (hl : XTick frame chart i (tickText v) l) (h : Inset frame chart)
    (hx : 1 ≤ frame.x.toNat) (hi : i < tickCount) : XTickSpan frame chart i v l := by
  have hbytes := Chart.utf8ByteSize_tickText v
  have hlong := Chart.length_tickText_le v
  have hwithin := hl.withinColumns_iff hbytes hlong h hx hi
  have hroom := eight_le_tickRoom h hi
  exact {
    text := hl.text
    width := by rw [hl.text]; exact hl.toNat_width hbytes hlong
    row := hl.inside
    height := hl.height
    left := by rw [hl.text]; exact hl.left_iff hbytes hlong h hx
    right := by rw [hl.text]; exact hl.right_iff hbytes hlong h hi
    within := by rw [hl.text]; exact hwithin
    value := hwithin.trans (Chart.length_tickText_le_iff (by omega) v) }

/-! ## All labels -/

/-- The value at a tick, in data units. -/
def tickValue (scale : AxisScale) (low high : Float) (i : Nat) : Float :=
  let v := low + Scalar.ofNat i / Scalar.ofNat (tickCount - 1) * (high - low)
  match scale with
  | .linear => v
  | .log => v.exp

theorem length_tickTexts (scale : AxisScale) (low high : Float) :
    (tickTexts scale low high).length = tickCount := by
  rw [tickTexts, List.length_map, List.length_range]

theorem zipIdx_tickTexts (scale : AxisScale) (low high : Float) :
    (tickTexts scale low high).zipIdx =
      (List.range tickCount).map fun i => (tickText (tickValue scale low high i), i) := by
  cases scale <;> rfl

/-- **Labels below a chart.**  On every terminal with room for labels the frame and its border end
where the terminal ends, and each of the five labels below the chart is in the frame exactly if it
has at most as many characters as its tick has room for.  There is room for eight characters
everywhere, and for no more at the last tick: its label is in the frame, and in the terminal,
exactly if its value has at most eight digits, or seven and a minus sign. -/
theorem xTicks_span (f : Figure Float) (b : Bounds Float) {width height : UInt16}
    (h : chartLayout (chartFrame f width height) = (chart, some insets)) :
    (chartFrame f width height).right + 1 = width.toNat ∧
    tickRoom chart 0 = 19 ∧ tickRoom chart 4 = 8 ∧ rightRoom chart 4 = 8 ∧
    (∀ i < tickCount, 8 ≤ tickRoom chart i) ∧
    ∃ labels, axisLabels? (chartFrame f width height) chart (tickTexts f.xScale b.xMin b.xMax)
        (tickTexts f.yScale b.yMin b.yMax) = some labels ∧
      List.Forall₂
        (fun i l => XTickSpan (chartFrame f width height) chart i
          (tickValue f.xScale b.xMin b.xMax i) l)
        (List.range tickCount) labels.xTicks := by
  have hcounted : (chartArea f width height).IsCounted := isCounted_chartArea width height _
  have hframe := hcounted.of_within (Area.within_withinBorder hcounted)
  have hinset : Inset (chartFrame f width height) chart := inset_of_chartLayout hframe h
  have hwidth := hinset.width_ne_zero
  have hx := Area.one_le_withinBorder_x hcounted hwidth
  obtain ⟨labels, hlabels, hplaced⟩ := exists_axisLabels?_terminal rfl h
    (length_tickTexts f.xScale b.xMin b.xMax) (length_tickTexts f.yScale b.yMin b.yMax)
  have hticks := hplaced.xTicks
  rw [zipIdx_tickTexts, List.forall₂_map_left_iff] at hticks
  have hall := (List.forall₂_and_left _ _).mpr ⟨fun i hi => List.mem_range.mp hi, hticks⟩
  exact ⟨(Area.right_withinBorder hcounted hwidth).trans (right_chartArea f width height),
    tickRoom_zero hinset, tickRoom_last hinset, rightRoom_last hinset,
    fun i hi => eight_le_tickRoom hinset hi, labels, hlabels,
    hall.imp fun i l ⟨hi, hl⟩ => hl.span hinset hx hi⟩

/-- A figure of two points. -/
def twoPoints (x x' : Float) : Figure Float :=
  ⟨.recordAggregation, "", "", "", .linear, .linear, [⟨"", [(x, 1), (x', 2)], .circle, 0⟩],
    [], [], [], []⟩

theorem xTicks_span_billion :
    chartLayout (chartFrame (twoPoints 0 1000000000) 100 30) = (⟨40, 5, 57, 15⟩, some .usual) ∧
    tickRoom ⟨40, 5, 57, 15⟩ 4 = 8 ∧
    ∃ labels, axisLabels? (chartFrame (twoPoints 0 1000000000) 100 30) ⟨40, 5, 57, 15⟩
        (tickTexts .linear (-50000000) 1050000000) (tickTexts .linear 1 2) = some labels ∧
      List.Forall₂
        (fun i l => XTickSpan (chartFrame (twoPoints 0 1000000000) 100 30) ⟨40, 5, 57, 15⟩ i
          (tickValue .linear (-50000000) 1050000000 i) l)
        (List.range tickCount) labels.xTicks := by
  have hlayout : chartLayout (chartFrame (twoPoints 0 1000000000) 100 30) =
      (⟨40, 5, 57, 15⟩, some .usual) := by decide
  obtain ⟨-, -, hroom, -, -, hlabels⟩ :=
    xTicks_span (twoPoints 0 1000000000) ⟨-50000000, 1050000000, 1, 2⟩ hlayout
  exact ⟨hlayout, hroom, hlabels⟩

/-- The labels that are drawn below the chart of a figure. -/
def xTicks (f : Figure Float) (width height : UInt16) : List Label :=
  match Chart.chartBounds f, chartLayout (chartFrame f width height) with
  | some b, (chart, some _) =>
    ((axisLabels? (chartFrame f width height) chart (tickTexts f.xScale b.xMin b.xMax)
      (tickTexts f.yScale b.yMin b.yMax)).map (·.xTicks)).getD []
  | _, _ => []

/-- The last label of values up to a thousand million ends outside of the terminal, so its last
digit is missing; a first label of 22 characters begins in the list of figures. -/
theorem not_xTicks_within :
    (∃ l ∈ xTicks (twoPoints 0 1000000000) 100 30,
      l.text = "1050000000" ∧ ¬ l.area.right ≤ (100 : UInt16).toNat) ∧
    ∃ l ∈ xTicks (twoPoints (-105e18) (-5e18)) 160 30, l.text = "-110000000000000000000" ∧
      ¬ (chartFrame (twoPoints (-105e18) (-5e18)) 160 30).x ≤ l.area.x := by
  decide +kernel

end Trendline.Viewer
