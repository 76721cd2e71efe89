import Trendline.Proofs.Chart.Segment

/-!
# What a picture shows

Levels and curves are inked: they only fill cells that are blank, so that what
is drawn first stays.  Points are put over everything, so that what is drawn last
stays.  `shown` says what comes of this for a cell, without any drawing.

* `Inks`: drawing that fills the blank cells of an area; `Inks.comp` and
  `Inks.foldl` put areas together.
* `inks_drawLevel`, `inks_drawCurve`: the areas of levels and curves.
* `cell?_foldl_put`: the last point in a cell stays.
* `cell?_picture`: every cell of the picture is as `shown` says.
-/

namespace Trendline.Chart

open Trendline.Text

/-! ## Inking -/

/-- A cell after `c` is drawn into it, if it is blank. -/
def ink (c old : Char) : Char :=
  if old = ' ' then c else old

/-- Drawing that fills the blank cells of an area, and changes nothing else. -/
structure Inks (c : Char) (area : Nat → Nat → Bool) (draw : Grid Char → Grid Char) : Prop where
  shape : ∀ g, (draw g).shape = g.shape
  cell : ∀ g i j, (draw g).cell? i j =
    if area i j then (g.cell? i j).map (ink c) else g.cell? i j

namespace Inks

variable {c : Char} {A B : Nat → Nat → Bool} {m n : Grid Char → Grid Char}

theorem congr (hm : Inks c A m) (h : ∀ i j, A i j = B i j) : Inks c B m where
  shape := hm.shape
  cell g i j := by rw [hm.cell, h]

theorem id (c : Char) : Inks c (fun _ _ => false) fun g => g where
  shape _ := rfl
  cell _ _ _ := rfl

theorem comp (hm : Inks c A m) (hn : Inks c B n) :
    Inks c (fun i j => A i j || B i j) fun g => n (m g) where
  shape g := (hn.shape _).trans (hm.shape g)
  cell g i j := by
    -- what the first drawing has filled is not blank any more
    have htwice : ink c ∘ ink c = ink c := by
      funext old
      by_cases hold : old = ' '
      · simp [ink, hold]
      · simp [ink, hold]
    rw [hn.cell, hm.cell]
    cases A i j <;> cases B i j <;> simp [htwice]

theorem foldl {β : Type} {area : β → Nat → Nat → Bool} {draw : Grid Char → β → Grid Char} :
    ∀ (l : List β), (∀ b ∈ l, Inks c (area b) fun g => draw g b) →
      Inks c (fun i j => l.any (area · i j)) fun g => l.foldl draw g := by
  intro l
  induction l with
  | nil =>
    intro _
    exact id c
  | cons b rest ih =>
    intro h
    obtain ⟨hb, hrest⟩ := List.forall_mem_cons.mp h
    refine (hb.comp (ih hrest)).congr fun i j => ?_
    rw [List.any_cons]

end Inks

/-- Whether a segment goes through a cell. -/
def onSegment (a b : Nat × Nat) (i j : Nat) : Bool :=
  (segment a.1 a.2 b.1 b.2).contains ((i : ℤ), (j : ℤ))

theorem inks_drawSegment (c : Char) (a b : Nat × Nat) :
    Inks c (onSegment a b) (drawSegment c a b) where
  shape := shape_drawSegment a.1 a.2 b.1 b.2 c
  cell g i j := by
    simp only [onSegment, List.contains_iff_mem]
    exact cell?_drawSegment a.1 a.2 b.1 b.2 c g i j

/-! ## Levels -/

theorem onSegment_row (last r i j : Nat) :
    onSegment (0, r) (last, r) i j = (decide (i ≤ last) && r == j) := by
  rw [Bool.eq_iff_iff, onSegment, List.contains_iff_mem, Bool.and_eq_true, decide_eq_true_iff,
    beq_iff_eq]
  constructor
  · intro h
    obtain ⟨⟨-, hi⟩, hlow, hhigh⟩ := (follows_segment 0 r last r).boxed _ h
    omega
  · rintro ⟨hi, rfl⟩
    have hgap : gap 0 last = last := by rw [gap]; omega
    have hflat : gap r r = 0 := by rw [gap]; omega
    have hcount : Walk.stepCount 0 r last r = last := by
      rw [Walk.stepCount_eq, hgap, hflat, Nat.max_zero]
    refine (mem_segment_iff 0 r last r).mpr ⟨i, by omega, ?_⟩
    rw [cellAfter, hcount, hgap, hflat]
    have hstay : progress 0 last i = 0 := Nat.le_zero.mp (progress_le (Nat.zero_le last) hi)
    rcases Nat.eq_zero_or_pos last with rfl | hpos
    · obtain rfl : i = 0 := by omega
      simp [progress_zero]
    · simp [progress_self hpos, hstay, way, hpos]

variable {α : Type} [Scalar α]

theorem inks_drawLevel (f : Frame α) (y : α) :
    Inks '=' (fun i j => decide (i ≤ f.width - 1) && f.row y == j) fun g => drawLevel f g y :=
  (inks_drawSegment '=' _ _).congr fun i j => onSegment_row _ _ i j

/-! ## Curves -/

/-- Whether the way from one point of a curve to the next goes through a cell.  There is none from
or to a point without a place. -/
def onWay (i j : Nat) : Option (Nat × Nat) × Option (Nat × Nat) → Bool
  | (some a, some b) => onSegment a b i j
  | _ => false

/-- Whether a curve goes through a cell: it is the cell of a point, or on the way between
neighbours. -/
def onCurve (cells : List (Option (Nat × Nat))) (i j : Nat) : Bool :=
  cells.contains (some (i, j)) || (cells.zip cells.tail).any (onWay i j)

theorem onSegment_stop (a b : Nat × Nat) : onSegment a b b.1 b.2 = true := by
  rw [onSegment, List.contains_iff_mem]
  exact List.mem_of_getLast? (follows_segment a.1 a.2 b.1 b.2).last

theorem onSegment_self (a : Nat × Nat) (i j : Nat) :
    onSegment a a i j = (some (i, j) == some a) := by
  rw [Bool.eq_iff_iff, beq_iff_eq, Option.some_inj]
  constructor
  · intro h
    rw [onSegment, List.contains_iff_mem] at h
    obtain ⟨⟨hlow, hhigh⟩, hlow', hhigh'⟩ := (follows_segment a.1 a.2 a.1 a.2).boxed _ h
    apply Prod.ext <;> dsimp only at * <;> omega
  · intro h
    obtain ⟨rfl, rfl⟩ := Prod.mk.inj h
    exact onSegment_stop a a

theorem onSegment_getD (previous : Option (Nat × Nat)) (a : Nat × Nat) (i j : Nat) :
    onSegment (previous.getD a) a i j =
      (some (i, j) == some a || onWay i j (previous, some a)) := by
  cases previous with
  | none =>
    show onSegment a a i j = (_ || false)
    rw [Bool.or_false, onSegment_self]
  | some b =>
    show onSegment b a i j = (_ || onSegment b a i j)
    cases h : (some (i, j) == some a) with
    | false => rfl
    | true =>
      obtain rfl := Option.some.inj (beq_iff_eq.mp h)
      exact onSegment_stop b _

theorem inks_drawCurve : ∀ (cells : List (Option (Nat × Nat))) (previous : Option (Nat × Nat)),
    Inks '-' (fun i j =>
        cells.contains (some (i, j)) || ((previous :: cells).zip cells).any (onWay i j))
      (drawCurve previous cells) := by
  intro cells
  induction cells with
  | nil =>
    intro previous
    exact Inks.id '-'
  | cons cell rest ih =>
    intro previous
    cases cell with
    | none =>
      refine (ih none).congr fun i j => ?_
      have hway : onWay i j (previous, none) = false := by cases previous <;> rfl
      rw [List.zip_cons_cons, List.any_cons, hway, List.contains_cons]
      rfl
    | some a =>
      -- the first point after an interruption is drawn as the segment to itself
      refine ((inks_drawSegment '-' _ _).comp (ih (some a))).congr fun i j => ?_
      rw [List.zip_cons_cons, List.any_cons, List.contains_cons, onSegment_getD]
      cases some (i, j) == some a <;> cases onWay i j (previous, some a) <;> simp

theorem inks_curve (cells : List (Option (Nat × Nat))) :
    Inks '-' (onCurve cells) (drawCurve none cells) := by
  refine (inks_drawCurve cells none).congr fun i j => ?_
  cases cells with
  | nil => rfl
  | cons cell rest =>
    rw [List.zip_cons_cons, List.any_cons]
    rfl

/-! ## Points -/

/-- The marker that is drawn last in a cell. -/
def lastMarker? (marks : List ((Nat × Nat) × Char)) (i j : Nat) : Option Char :=
  ((marks.filter (·.1 == (i, j))).getLast?).map (·.2)

theorem lastMarker?_cons (mark : (Nat × Nat) × Char) (rest : List ((Nat × Nat) × Char))
    (i j : Nat) : lastMarker? (mark :: rest) i j =
      (lastMarker? rest i j).or (if mark.1 = (i, j) then some mark.2 else none) := by
  rw [lastMarker?, lastMarker?, List.filter_cons]
  by_cases h : mark.1 = (i, j)
  · rw [if_pos (beq_iff_eq.mpr h), if_pos h, List.getLast?_cons]
    cases (rest.filter (·.1 == (i, j))).getLast? <;> rfl
  · rw [if_neg (mt beq_iff_eq.mp h), if_neg h, Option.or_none]

/-- **The last point in a cell stays.** -/
theorem cell?_foldl_put : ∀ (marks : List ((Nat × Nat) × Char)) (g : Grid Char) (i j : Nat),
    (marks.foldl (fun g mark => g.put mark.2 mark.1.1 mark.1.2) g).cell? i j =
      (g.cell? i j).map fun old => (lastMarker? marks i j).getD old := by
  intro marks
  induction marks with
  | nil =>
    intro g i j
    exact Option.map_id'.symm
  | cons mark rest ih =>
    intro g i j
    obtain ⟨⟨x, y⟩, c⟩ := mark
    rw [List.foldl_cons, ih, Grid.put, Grid.cell?_update, lastMarker?_cons]
    by_cases h : i = x ∧ j = y
    · obtain ⟨rfl, rfl⟩ := h
      rw [if_pos ⟨rfl, rfl⟩, if_pos rfl, Option.map_map]
      cases lastMarker? rest i j <;> rfl
    · have h' : ¬ ((x, y) = (i, j)) := by
        intro heq
        obtain ⟨rfl, rfl⟩ := Prod.mk.inj heq
        exact h ⟨rfl, rfl⟩
      rw [if_neg h, if_neg h', Option.or_none]

theorem shape_foldl_put : ∀ (marks : List ((Nat × Nat) × Char)) (g : Grid Char),
    (marks.foldl (fun g mark => g.put mark.2 mark.1.1 mark.1.2) g).shape = g.shape := by
  intro marks
  induction marks with
  | nil =>
    intro g
    rfl
  | cons mark rest ih =>
    intro g
    rw [List.foldl_cons, ih, Grid.put, Grid.shape_update]

/-! ## The picture -/

/-- The points in the order they are drawn in: their cells and markers. -/
def markers (fig : Figure α) (f : Frame α) : List ((Nat × Nat) × Char) :=
  fig.scatters.flatMap fun layer =>
    (layer.points.filterMap (cellOf? fig f)).map fun cell => (cell, layer.marker.glyph)

/-- Whether a level has its place in a row. -/
def onLevel (fig : Figure α) (f : Frame α) (j : Nat) : Bool :=
  fig.visibleLevels.any (f.row · == j)

/-- What a cell shows: the last point in it, else a level in its row, else a curve through it. -/
def shown (fig : Figure α) (f : Frame α) (i j : Nat) : Char :=
  match lastMarker? (markers fig f) i j with
  | some marker => marker
  | none =>
    if onLevel fig f j then '='
    else if fig.lines.any fun line => onCurve (line.points.map (cellOf? fig f)) i j then '-'
    else ' '

variable (fig : Figure α) (f : Frame α)

theorem foldl_drawPoints (g : Grid Char) : fig.scatters.foldl (drawPoints fig f) g =
    (markers fig f).foldl (fun g mark => g.put mark.2 mark.1.1 mark.1.2) g := by
  rw [markers, List.foldl_flatMap]
  congr 1
  funext g layer
  rw [List.foldl_map]
  rfl

theorem inks_levels : Inks '=' (fun i j => fig.visibleLevels.any fun y =>
      decide (i ≤ f.width - 1) && f.row y == j)
    fun g => fig.visibleLevels.foldl (drawLevel f) g :=
  Inks.foldl fig.visibleLevels fun y _ => inks_drawLevel f y

theorem inks_curves : Inks '-' (fun i j => fig.lines.any fun line =>
      onCurve (line.points.map (cellOf? fig f)) i j)
    fun g => fig.lines.foldl
      (fun g line => drawCurve none (line.points.map (cellOf? fig f)) g) g :=
  Inks.foldl fig.lines fun line _ => inks_curve (line.points.map (cellOf? fig f))

theorem shape_picture : (picture fig f).shape = List.replicate f.height f.width := by
  rw [picture, foldl_drawPoints, shape_foldl_put]
  rw [(inks_curves fig f).shape, (inks_levels fig f).shape]
  simp [Grid.shape, Grid.fill]

variable {fig f}

/-- **Every cell of the picture is as `shown` says.** -/
theorem cell?_picture {i j : Nat} (hi : i < f.width) (hj : j < f.height) :
    (picture fig f).cell? i j = some (shown fig f i j) := by
  have hblank : (Grid.fill ' ' f.width f.height).cell? i j = some ' ' := by
    simp [Grid.cell?, Grid.fill, hi, hj]
  have hcolumn : decide (i ≤ f.width - 1) = true := decide_eq_true (by omega)
  rw [picture, foldl_drawPoints, cell?_foldl_put]
  rw [(inks_curves fig f).cell, (inks_levels fig f).cell, hblank, shown, onLevel]
  simp only [hcolumn, Bool.true_and]
  cases lastMarker? (markers fig f) i j with
  | some marker => split <;> split <;> rfl
  | none => split <;> split <;> rfl

theorem lines_picture : (picture fig f).lines = (List.range f.height).map fun j =>
    String.ofList ((List.range f.width).map (shown fig f · j)) := by
  have hrows := Grid.rows_of_cell? (shape_picture fig f) fun i hi j hj => cell?_picture hi hj
  rw [Grid.lines, hrows, List.map_map]
  rfl

end Trendline.Chart
