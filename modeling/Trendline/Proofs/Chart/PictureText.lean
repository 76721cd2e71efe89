import Trendline.Proofs.Chart.Frame
import Trendline.Proofs.Chart.Picture
import Trendline.Proofs.Text.Lines

/-!
# The text of a picture

A picture is told line by line: the title, the ranges of the axes, the rows of
the grid, and the legend with the points first, then the curves and the levels.
-/

namespace Trendline.Chart

open Trendline.Text

/-! ## One line each -/

theorem lastMarker?_mem {marks : List ((Nat × Nat) × Char)} {i j : Nat} {c : Char}
    (h : lastMarker? marks i j = some c) : ∃ mark ∈ marks, mark.2 = c := by
  obtain ⟨mark, hlast, rfl⟩ := Option.map_eq_some_iff.mp h
  exact ⟨mark, (List.mem_filter.mp (List.mem_of_getLast? hlast)).1, rfl⟩

theorem glyph_ne_newline (m : Marker) : m.glyph ≠ '\n' := by
  cases m <;> decide

variable {fig : Figure Float} {f : Frame Float}

theorem shown_ne_newline (i j : Nat) : shown fig f i j ≠ '\n' := by
  rw [shown]
  cases h : lastMarker? (markers fig f) i j with
  | some c =>
    obtain ⟨mark, hmark, rfl⟩ := lastMarker?_mem h
    obtain ⟨layer, -, hlayer⟩ := List.mem_flatMap.mp hmark
    obtain ⟨cell, -, rfl⟩ := List.mem_map.mp hlayer
    exact glyph_ne_newline layer.marker
  | none =>
    dsimp only
    split
    · decide
    · split <;> decide

/-- The texts of a figure that a picture shows, on one line each. -/
structure PlainTexts (fig : Figure Float) : Prop where
  title : OneLine fig.title
  xLabel : OneLine fig.xLabel
  yLabel : OneLine fig.yLabel
  scatters : ∀ layer ∈ fig.scatters, OneLine layer.label
  lines : ∀ line ∈ fig.lines, OneLine line.label
  levels : ∀ level ∈ fig.levels, OneLine level.label

namespace PlainTexts

theorem oneLine_rangeLine (h : PlainTexts fig) (f : Frame Float) : OneLine (rangeLine fig f) := by
  unfold rangeLine
  simp only [toString, oneLine_append, h.xLabel, h.yLabel, oneLine_fixed, and_true]
  decide

theorem oneLine_legendLines (h : PlainTexts fig) : ∀ s ∈ legendLines fig, OneLine s := by
  intro s hs
  unfold legendLines at hs
  simp only [List.mem_append, List.mem_map, List.mem_filter] at hs
  rcases hs with (⟨layer, hlayer, rfl⟩ | ⟨line, ⟨hline, -⟩, rfl⟩) | ⟨level, hlevel, rfl⟩
  · have hglyph : OneLine (toString layer.marker.glyph) := by
      cases layer.marker <;> decide
    have hlabel := h.scatters layer hlayer
    simp only [oneLine_append]
    exact ⟨⟨⟨by decide, hglyph⟩, by decide⟩, hlabel⟩
  · have hlabel := h.lines line hline
    simp only [oneLine_append]
    exact ⟨by decide, hlabel⟩
  · have hlabel := h.levels level hlevel
    simp only [oneLine_append]
    exact ⟨⟨⟨⟨by decide, hlabel⟩, by decide⟩, oneLine_fixed 0 level.y⟩, by decide⟩

end PlainTexts

/-! ## The text -/

theorem exists_displayBounds
    (h : ∃ p ∈ fig.scatters.flatMap (·.points) ++ fig.lines.flatMap (·.points),
      Figure.isVisible (fig.display p) = true) : ∃ b, fig.displayBounds = some b := by
  obtain ⟨p, hp, hvisible⟩ := h
  have hmem : fig.display p ∈ fig.visiblePoints :=
    List.mem_filter.mpr ⟨List.mem_map_of_mem hp, hvisible⟩
  unfold Figure.displayBounds
  cases hpoints : fig.visiblePoints with
  | nil => exact absurd (hpoints ▸ hmem) List.not_mem_nil
  | cons first rest => exact ⟨_, rfl⟩

/-- **What the text of a picture shows.**  The title, the ranges, the rows of the grid, the legend
of the points, of the named curves and of the levels follow each other, one line each; every cell is
as `shown` says.  As long as sizes are exact as doubles, no point is put outside the grid. -/
theorem pictureText_shows (fig : Figure Float) (width height : Nat)
    (hpoint : ∃ p ∈ fig.scatters.flatMap (·.points) ++ fig.lines.flatMap (·.points),
      Figure.isVisible (fig.display p) = true)
    (htexts : PlainTexts fig) :
    ∃ b, fig.displayBounds = some b ∧
      let f := Frame.ofBounds b (max width 10) (max height 5)
      let rows := (List.range (max height 5)).map fun j =>
        String.ofList ((List.range (max width 10)).map (shown fig f · j))
      (pictureText fig width height).toList.splitOn '\n' =
          ([fig.title, rangeLine fig f] ++ rows ++
            (fig.scatters.map fun layer =>
              "  " ++ layer.marker.glyph.toString ++ " " ++ layer.label) ++
            ((fig.lines.filter (·.label != "")).map fun line => "  - " ++ line.label) ++
            fig.levels.map fun level =>
              "  = " ++ level.label ++ " (" ++ Decimal.fixed 0 level.y ++ ")").map String.toList ++
          [[]] ∧
        (width ≤ 2 ^ 53 → height ≤ 2 ^ 53 → ∀ p : Float × Float,
          (f.cellOf p).1 < max width 10 ∧ (f.cellOf p).2 < max height 5) := by
  obtain ⟨b, hb⟩ := exists_displayBounds hpoint
  refine ⟨b, hb, ?_⟩
  intro f rows
  constructor
  · have hframe : frame? fig width height = some f := by
      rw [frame?, hb]
      rfl
    have hlines : pictureLines fig width height =
        [fig.title, rangeLine fig f] ++ rows ++ legendLines fig := by
      rw [pictureLines, hframe]
      dsimp only
      rw [lines_picture]
      rfl
    have hrows : ∀ s ∈ rows, OneLine s := by
      intro s hs
      obtain ⟨j, -, rfl⟩ := List.mem_map.mp hs
      rw [oneLine_ofList]
      intro hmem
      obtain ⟨i, -, hchar⟩ := List.mem_map.mp hmem
      exact shown_ne_newline i j hchar
    have hall : ∀ s ∈ pictureLines fig width height, OneLine s := by
      rw [hlines]
      intro s hs
      simp only [List.mem_append, List.mem_cons, List.not_mem_nil, or_false] at hs
      rcases hs with ((rfl | rfl) | hs) | hs
      · exact htexts.title
      · exact htexts.oneLine_rangeLine f
      · exact hrows s hs
      · exact htexts.oneLine_legendLines s hs
    rw [pictureText, splitOn_join _ hall, hlines]
    simp only [legendLines, List.append_assoc]
    rfl
  · intro hwidth hheight p
    exact ⟨column_lt f p.1 (by show 2 ≤ max width 10; omega) (by show max width 10 ≤ _; omega),
      row_lt f p.2 (by show 2 ≤ max height 5; omega) (by show max height 5 ≤ _; omega)⟩

/-- Two points, a level line and a flat curve. -/
def smallPicture : Figure Float :=
  { kind := .queryProof
    title := "T"
    xLabel := "x"
    yLabel := "y"
    scatters := [⟨"obs", [(1, 100), (10, 110)], .circle, 0⟩]
    lines := [⟨"fit", [(1, 100), (10, 100)], false, 0⟩]
    levels := [⟨"all", 105, true⟩] }

theorem pictureText_smallPicture : (pictureText smallPicture 10 5).toList.splitOn '\n' =
    ["T", "x: x [1.000, 10.000] | y: y [99.50, 110.50]", "         o", "          ", "==========",
      "          ", "o---------", "  o obs", "  - fit", "  = all (105)", ""].map String.toList := by
  have htexts : PlainTexts smallPicture :=
    ⟨by decide, by decide, by decide, by decide, by decide, by decide⟩
  obtain ⟨b, hb, htext, -⟩ := pictureText_shows smallPicture 10 5
    ⟨(1, 100), List.mem_cons_self, by decide +kernel⟩ htexts
  have hbounds : smallPicture.displayBounds = some ⟨1, 10, 100, 110⟩ := by decide +kernel
  obtain rfl : b = ⟨1, 10, 100, 110⟩ := by
    rw [hbounds] at hb
    exact (Option.some.inj hb).symm
  rw [htext]
  decide +kernel

end Trendline.Chart
