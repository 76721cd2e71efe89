import Mathlib.Algebra.Order.Field.Basic
import Mathlib.Algebra.Order.Field.Rat
import Mathlib.Data.List.Nodup
import Mathlib.Data.List.Range
import Mathlib.Tactic.FieldSimp
import Mathlib.Tactic.Linarith
import Mathlib.Tactic.NormNum
import Mathlib.Tactic.Ring
import Trendline.Chart.Picture
import Trendline.Proofs.Text.Grid

/-!
# The way of a segment

A walk from one cell to another that takes `n` steps, `n` being the longer of
the two distances, is after `k` steps where the straight line is after the
`k`-th of `n` equal parts, rounded to a cell (`progress`).  The account that the
walk keeps of its error is what it needs to know to round without a division.

* `progress_succ`: the test of the error decides whether rounding goes up.
* `iterate_next`: where the walk is after `k` steps.
* `progress_inj`: no two steps end in one cell.
* `hasArrived_iterate_iff`: it arrives after `n` steps and not before.
* `segment_eq`: the cells of the segment are the cells of these steps.
* `follows_segment`: they lead from the one end to the other, along the line.
* `cell?_drawSegment`: what is drawn.
* `drawSegment_follows`: the statement about the grid that is drawn into.
-/

namespace Trendline.Chart

open Trendline.Text

/-! ## Parts of a distance -/

/-- The `k`-th of `n` equal parts of the distance `d`, rounded to the nearest cell, halves up. -/
def progress (d n k : Nat) : Nat :=
  (2 * (d * k) + n) / (2 * n)

section

variable {d n k : Nat}

theorem progress_eq_iff (hn : 0 < n) {p : Nat} :
    progress d n k = p ↔
      2 * (n * p) ≤ 2 * (d * k) + n ∧ 2 * (d * k) + n < 2 * (n * p) + 2 * n := by
  rw [progress, Nat.div_eq_iff (by omega)]
  have hp : p * (2 * n) = 2 * (n * p) := by ring
  omega

theorem progress_spec (hn : 0 < n) :
    2 * (n * progress d n k) ≤ 2 * (d * k) + n ∧
      2 * (d * k) + n < 2 * (n * progress d n k) + 2 * n :=
  (progress_eq_iff hn).mp rfl

/-- **The error decides the rounding.**  One part further, the distance is one cell longer exactly
when the line has passed the middle between the two cells. -/
theorem progress_succ (hn : 0 < n) (hd : d ≤ n) :
    progress d n (k + 1) =
      if n * (2 * progress d n k + 1) ≤ 2 * (d * (k + 1)) then progress d n k + 1
      else progress d n k := by
  obtain ⟨hlow, hhigh⟩ := progress_spec (d := d) (k := k) hn
  have hmiddle : n * (2 * progress d n k + 1) = 2 * (n * progress d n k) + n := by ring
  have hup : n * (progress d n k + 1) = n * progress d n k + n := by ring
  have hnext : d * (k + 1) = d * k + d := by ring
  split <;> rw [progress_eq_iff hn] <;> omega

/-- Along the longer axis every step is a cell. -/
theorem progress_self (hn : 0 < n) : progress n n k = k :=
  (progress_eq_iff hn).mpr (by omega)

theorem progress_zero : progress d n 0 = 0 := by
  rcases Nat.eq_zero_or_pos n with rfl | hn
  · simp [progress]
  · exact (progress_eq_iff hn).mpr (by omega)

theorem progress_last (hd : d ≤ n) : progress d n n = d := by
  rcases Nat.eq_zero_or_pos n with rfl | hn
  · simp [progress, Nat.le_zero.mp hd]
  · have hcomm : d * n = n * d := Nat.mul_comm d n
    exact (progress_eq_iff hn).mpr (by omega)

theorem progress_mono {k' : Nat} (h : k ≤ k') : progress d n k ≤ progress d n k' := by
  have hmul : d * k ≤ d * k' := Nat.mul_le_mul_left d h
  exact Nat.div_le_div_right (by omega)

theorem progress_le (hd : d ≤ n) (hk : k ≤ n) : progress d n k ≤ d :=
  (progress_mono hk).trans (progress_last hd).le

theorem progress_succ_cases (hn : 0 < n) (hd : d ≤ n) :
    progress d n (k + 1) = progress d n k ∨ progress d n (k + 1) = progress d n k + 1 := by
  rw [progress_succ hn hd]
  split <;> simp

/-- One axis against the other: along the longer one the test always passes, along the shorter one
it rounds. -/
theorem progress_succ_max {e : Nat} (hpos : 0 < max d e) :
    progress d (max d e) (k + 1) =
      if e * (2 * progress d (max d e) k + 1) ≤ 2 * (d * (progress e (max d e) k + 1)) then
        progress d (max d e) k + 1
      else progress d (max d e) k := by
  rcases Nat.le_total e d with h | h
  · rw [max_eq_left h] at hpos ⊢
    rw [progress_self hpos, progress_self hpos, if_pos]
    obtain ⟨-, hhigh⟩ := progress_spec (d := e) (k := k) hpos
    linarith
  · rw [max_eq_right h] at hpos ⊢
    rw [progress_self hpos, progress_succ hpos h]

/-- The cells gone along the two axes are in proportion, up to half a cell. -/
theorem progress_cross {e : Nat} (hpos : 0 < max d e) :
    2 * (d * progress e (max d e) k) ≤ 2 * (e * progress d (max d e) k) + max d e ∧
      2 * (e * progress d (max d e) k) ≤ 2 * (d * progress e (max d e) k) + max d e := by
  rcases Nat.le_total e d with h | h
  · rw [max_eq_left h] at hpos ⊢
    rw [progress_self hpos]
    have := progress_spec (d := e) (k := k) hpos
    omega
  · rw [max_eq_right h] at hpos ⊢
    rw [progress_self hpos]
    have := progress_spec (d := d) (k := k) hpos
    omega

/-- Along one of the two axes no two steps have gone as far. -/
theorem progress_inj {e k' : Nat} (hk : k ≤ max d e) (hk' : k' ≤ max d e)
    (hd : progress d (max d e) k = progress d (max d e) k')
    (he : progress e (max d e) k = progress e (max d e) k') : k = k' := by
  rcases Nat.eq_zero_or_pos (max d e) with hzero | hpos
  · omega
  · rcases Nat.le_total e d with h | h
    · rw [max_eq_left h] at hpos hd
      rwa [progress_self hpos, progress_self hpos] at hd
    · rw [max_eq_right h] at hpos he
      rwa [progress_self hpos, progress_self hpos] at he

end

/-! ## One axis -/

/-- The distance between two cells along an axis. -/
def gap (a b : Nat) : Nat :=
  ((b : ℤ) - a).natAbs

/-- The direction from one cell to another along an axis. -/
def way (a b : Nat) : ℤ :=
  if a < b then 1 else -1

section

variable (a b : Nat)

theorem way_eq_or : way a b = 1 ∨ way a b = -1 := by
  rw [way]
  split <;> simp

theorem way_mul_gap : way a b * gap a b = (b : ℤ) - a := by
  rw [way, gap]
  split <;> omega

variable {a b}

/-- So many cells from `a` towards `b` is `b` exactly when it is the whole distance. -/
theorem add_way_mul_eq_iff {i : Nat} : (a : ℤ) + way a b * i = b ↔ i = gap a b := by
  rw [way, gap]
  split <;> omega

theorem way_mul_injective {i j : Nat} (h : (a : ℤ) + way a b * i = a + way a b * j) : i = j := by
  rcases way_eq_or a b with hw | hw <;> rw [hw] at h <;> omega

theorem min_le_add_way_mul {i : Nat} (hi : i ≤ gap a b) :
    min (a : ℤ) b ≤ a + way a b * i ∧ a + way a b * i ≤ max (a : ℤ) b := by
  rw [gap] at hi
  rw [way]
  split <;> omega

theorem abs_way_mul_sub_le {i j : Nat} (h : j = i ∨ j = i + 1) :
    |(a + way a b * j : ℤ) - (a + way a b * i)| ≤ 1 := by
  rw [abs_le]
  rcases way_eq_or a b with hw | hw <;> rw [hw] <;> omega

end

/-! ## Where the walk is -/

/-- The walk when it has gone `i` columns and `j` rows. -/
def Walk.gone (x0 y0 x1 y1 i j : Nat) : Walk :=
  { start x0 y0 x1 y1 with
    x := x0 + way x0 x1 * i
    y := y0 + way y0 y1 * j
    error := gap x0 x1 * (j + 1) - gap y0 y1 * (i + 1) }

/-- The cell the walk is in. -/
def Walk.cell (w : Walk) : ℤ × ℤ :=
  (w.x, w.y)

namespace Walk

variable (x0 y0 x1 y1 : Nat)

theorem stepCount_eq : stepCount x0 y0 x1 y1 = max (gap x0 x1) (gap y0 y1) :=
  rfl

theorem gone_zero : gone x0 y0 x1 y1 0 0 = start x0 y0 x1 y1 := by
  simp [gone, start, gap, sub_eq_add_neg]

variable {x0 y0 x1 y1}

theorem hasArrived_gone_iff {i j : Nat} :
    (gone x0 y0 x1 y1 i j).hasArrived = true ↔ i = gap x0 x1 ∧ j = gap y0 y1 := by
  rw [hasArrived, Bool.and_eq_true, beq_iff_eq, beq_iff_eq]
  exact and_congr add_way_mul_eq_iff add_way_mul_eq_iff

/-- What one step does: it goes on along an axis unless this leads too far from the line. -/
theorem next_gone (i j : Nat) :
    (gone x0 y0 x1 y1 i j).next = gone x0 y0 x1 y1
      (if gap y0 y1 * (2 * i + 1) ≤ 2 * (gap x0 x1 * (j + 1)) then i + 1 else i)
      (if gap x0 x1 * (2 * j + 1) ≤ 2 * (gap y0 y1 * (i + 1)) then j + 1 else j) := by
  have halongX : -(gap y0 y1 : ℤ) ≤ 2 * (gap x0 x1 * (j + 1) - gap y0 y1 * (i + 1)) ↔
      gap y0 y1 * (2 * i + 1) ≤ 2 * (gap x0 x1 * (j + 1)) := by
    zify
    constructor <;> intro h <;> linarith
  have halongY : 2 * (gap x0 x1 * (j + 1) - gap y0 y1 * (i + 1)) ≤ (gap x0 x1 : ℤ) ↔
      gap x0 x1 * (2 * j + 1) ≤ 2 * (gap y0 y1 * (i + 1)) := by
    zify
    constructor <;> intro h <;> linarith
  have hdx : (start x0 y0 x1 y1).dx = gap x0 x1 := rfl
  have hdy : (start x0 y0 x1 y1).dy = -(gap y0 y1 : ℤ) := rfl
  have hsx : (start x0 y0 x1 y1).sx = way x0 x1 := rfl
  have hsy : (start x0 y0 x1 y1).sy = way y0 y1 := rfl
  simp only [next, gone, hdx, hdy, hsx, hsy, halongX, halongY]
  congr 1
  · split <;> push_cast <;> ring
  · split <;> push_cast <;> ring
  · split <;> split <;> push_cast <;> ring

variable (x0 y0 x1 y1) in
/-- After `k` steps the walk has gone the `k`-th of its parts along each axis. -/
theorem iterate_next : ∀ {k : Nat}, k ≤ stepCount x0 y0 x1 y1 →
    next^[k] (start x0 y0 x1 y1) =
      gone x0 y0 x1 y1 (progress (gap x0 x1) (stepCount x0 y0 x1 y1) k)
        (progress (gap y0 y1) (stepCount x0 y0 x1 y1) k) := by
  intro k
  induction k with
  | zero =>
    intro _
    rw [progress_zero, progress_zero, gone_zero]
    rfl
  | succ k ih =>
    intro hk
    have hpos : 0 < max (gap x0 x1) (gap y0 y1) := (Nat.succ_pos k).trans_le hk
    rw [Function.iterate_succ_apply', ih (by omega), next_gone, stepCount_eq,
      ← progress_succ_max hpos]
    rw [max_comm] at hpos ⊢
    rw [← progress_succ_max hpos]

/-- **The walk arrives after the longer of the two distances**, and not before. -/
theorem hasArrived_iterate_iff {k : Nat} (hk : k ≤ stepCount x0 y0 x1 y1) :
    (next^[k] (start x0 y0 x1 y1)).hasArrived = true ↔ k = stepCount x0 y0 x1 y1 := by
  rw [iterate_next x0 y0 x1 y1 hk, hasArrived_gone_iff]
  rw [stepCount_eq] at hk ⊢
  constructor
  · rintro ⟨hx, hy⟩
    apply progress_inj hk le_rfl
    · rw [hx, progress_last (le_max_left _ _)]
    · rw [hy, progress_last (le_max_right _ _)]
  · rintro rfl
    exact ⟨progress_last (le_max_left _ _), progress_last (le_max_right _ _)⟩

/-- The cells of a walk that arrives after `n` steps are those of these steps, if it may take as
many. -/
theorem cellsWithin_eq : ∀ {fuel n : Nat} {w : Walk}, n ≤ fuel →
    (∀ k < n, (next^[k] w).hasArrived = false) → (next^[n] w).hasArrived = true →
    cellsWithin fuel w = (List.range (n + 1)).map fun k => (next^[k] w).cell := by
  intro fuel
  induction fuel with
  | zero =>
    intro n w hn _ _
    rw [Nat.le_zero.mp hn]
    rfl
  | succ fuel ih =>
    intro n w hn hbefore harrived
    rw [cellsWithin]
    cases n with
    | zero =>
      have hw : w.hasArrived = true := harrived
      rw [if_pos hw]
      rfl
    | succ n =>
      have hw : ¬ w.hasArrived = true := by
        rw [Bool.not_eq_true]
        exact hbefore 0 (Nat.succ_pos n)
      rw [if_neg hw, List.range_succ_eq_map, List.map_cons, List.map_map,
        ih (Nat.le_of_succ_le_succ hn) (fun k hk => hbefore (k + 1) (by omega)) harrived]
      rfl

end Walk

/-! ## The cells of a segment -/

section

variable (x0 y0 x1 y1 : Nat)

open Walk

theorem cellsWithin_start {fuel : Nat} (h : stepCount x0 y0 x1 y1 ≤ fuel) :
    cellsWithin fuel (start x0 y0 x1 y1) =
      (List.range (stepCount x0 y0 x1 y1 + 1)).map fun k => (next^[k] (start x0 y0 x1 y1)).cell := by
  refine cellsWithin_eq h (fun k hk => ?_) ((hasArrived_iterate_iff le_rfl).mpr rfl)
  rw [← Bool.not_eq_true, hasArrived_iterate_iff hk.le]
  exact hk.ne

/-- Where the segment is after `k` steps. -/
def cellAfter (k : Nat) : ℤ × ℤ :=
  (x0 + way x0 x1 * progress (gap x0 x1) (stepCount x0 y0 x1 y1) k,
    y0 + way y0 y1 * progress (gap y0 y1) (stepCount x0 y0 x1 y1) k)

theorem segment_eq : segment x0 y0 x1 y1 =
    (List.range (stepCount x0 y0 x1 y1 + 1)).map (cellAfter x0 y0 x1 y1) := by
  rw [segment, cellsWithin_start x0 y0 x1 y1 le_rfl]
  apply List.map_congr_left
  intro k hk
  rw [iterate_next x0 y0 x1 y1 (Nat.lt_succ_iff.mp (List.mem_range.mp hk))]
  rfl

end

/-- How far `v` is from the line through `(u0, v0)` and `(u1, v1)` at `u`. -/
def offsetAt (u0 v0 u1 v1 : Nat) (u v : ℤ) : ℚ :=
  |v - (v0 + (u - u0) * ((v1 - v0) / (u1 - u0)))|

/-- How far a cell is from the line through two cells, along the axis in which these are closer. -/
def lineOffset (x0 y0 x1 y1 : Nat) (p : ℤ × ℤ) : ℚ :=
  if gap y0 y1 ≤ gap x0 x1 then offsetAt x0 y0 x1 y1 p.1 p.2 else offsetAt y0 x0 y1 x1 p.2 p.1

/-- Cells that lead from one cell to another along the straight line between them. -/
structure Follows (x0 y0 x1 y1 : Nat) (cells : List (ℤ × ℤ)) : Prop where
  head : cells.head? = some ((x0 : ℤ), (y0 : ℤ))
  last : cells.getLast? = some ((x1 : ℤ), (y1 : ℤ))
  length : cells.length = Walk.stepCount x0 y0 x1 y1 + 1
  nodup : cells.Nodup
  neighbours : cells.IsChain fun p q => |q.1 - p.1| ≤ 1 ∧ |q.2 - p.2| ≤ 1
  boxed : ∀ p ∈ cells, (min (x0 : ℤ) x1 ≤ p.1 ∧ p.1 ≤ max (x0 : ℤ) x1) ∧
    min (y0 : ℤ) y1 ≤ p.2 ∧ p.2 ≤ max (y0 : ℤ) y1
  near : ∀ p ∈ cells, lineOffset x0 y0 x1 y1 p ≤ 1 / 2

theorem offsetAt_le {u0 v0 u1 v1 : Nat} (h : gap v0 v1 ≤ gap u0 u1) (k : Nat) :
    offsetAt u0 v0 u1 v1 (u0 + way u0 u1 * k)
      (v0 + way v0 v1 * progress (gap v0 v1) (gap u0 u1) k : ℤ) ≤ 1 / 2 := by
  have hu : (u1 : ℚ) - u0 = way u0 u1 * gap u0 u1 := by exact_mod_cast (way_mul_gap u0 u1).symm
  have hv : (v1 : ℚ) - v0 = way v0 v1 * gap v0 v1 := by exact_mod_cast (way_mul_gap v0 v1).symm
  rw [offsetAt, hu, hv]
  rcases Nat.eq_zero_or_pos (gap u0 u1) with hzero | hpos
  · have hzero' : gap v0 v1 = 0 := by omega
    simp [hzero, hzero', progress]
  · obtain ⟨hlow, hhigh⟩ := progress_spec (d := gap v0 v1) (k := k) hpos
    generalize progress (gap v0 v1) (gap u0 u1) k = j at *
    generalize gap u0 u1 = a at *
    generalize gap v0 v1 = b at *
    have ha : (0 : ℚ) < a := by exact_mod_cast hpos
    have hlow' : 2 * ((a : ℚ) * j) ≤ 2 * (b * k) + a := by exact_mod_cast hlow
    have hhigh' : 2 * ((b : ℚ) * k) + a < 2 * (a * j) + 2 * a := by exact_mod_cast hhigh
    have hway : (way u0 u1 : ℚ) ≠ 0 := by rcases way_eq_or u0 u1 with hw | hw <;> simp [hw]
    have hone : |(way v0 v1 : ℚ)| = 1 := by rcases way_eq_or v0 v1 with hw | hw <;> simp [hw]
    -- both directions drop out, and the offset is that of the numbers of cells gone
    have hoffset : ((v0 + way v0 v1 * j : ℤ) : ℚ) -
        (v0 + (((u0 + way u0 u1 * k : ℤ) : ℚ) - u0) * (way v0 v1 * b / (way u0 u1 * a))) =
        way v0 v1 * ((a * j - b * k) / a) := by
      push_cast
      field_simp
      ring
    rw [hoffset, abs_mul, hone, one_mul, abs_div, abs_of_pos ha, div_le_iff₀ ha, abs_le]
    constructor <;> linarith

section

variable (x0 y0 x1 y1 : Nat)

open Walk

theorem lineOffset_cellAfter {k : Nat} (hk : k ≤ stepCount x0 y0 x1 y1) :
    lineOffset x0 y0 x1 y1 (cellAfter x0 y0 x1 y1 k) ≤ 1 / 2 := by
  rw [stepCount_eq] at hk
  rw [lineOffset, cellAfter, stepCount_eq]
  split
  · rename_i h
    rw [max_eq_left h]
    rcases Nat.eq_zero_or_pos (gap x0 x1) with hzero | hpos
    · obtain rfl : k = 0 := by omega
      simpa [progress_zero] using offsetAt_le h 0
    · rw [progress_self hpos]
      exact offsetAt_le h k
  · rename_i h
    have h' : gap x0 x1 ≤ gap y0 y1 := by omega
    rw [max_eq_right h', progress_self (by omega)]
    exact offsetAt_le h' k

theorem cellAfter_injOn {k k' : Nat} (hk : k ≤ stepCount x0 y0 x1 y1)
    (hk' : k' ≤ stepCount x0 y0 x1 y1) (h : cellAfter x0 y0 x1 y1 k = cellAfter x0 y0 x1 y1 k') :
    k = k' := by
  obtain ⟨hx, hy⟩ := Prod.mk.inj h
  exact progress_inj hk hk' (way_mul_injective hx) (way_mul_injective hy)

theorem mem_segment_iff {p : ℤ × ℤ} : p ∈ segment x0 y0 x1 y1 ↔
    ∃ k ≤ stepCount x0 y0 x1 y1, cellAfter x0 y0 x1 y1 k = p := by
  simp only [segment_eq, List.mem_map, List.mem_range, Nat.lt_succ_iff]

/-- **The cells of a segment lead from one end to the other, along the line.** -/
theorem follows_segment : Follows x0 y0 x1 y1 (segment x0 y0 x1 y1) where
  head := by
    rw [segment_eq, List.range_succ_eq_map]
    simp [cellAfter, progress_zero]
  last := by
    rw [segment_eq, List.range_succ]
    simp only [List.map_append, List.map_cons, List.map_nil, List.getLast?_append,
      List.getLast?_singleton, Option.some_or, cellAfter, stepCount_eq]
    rw [progress_last (le_max_left _ _), progress_last (le_max_right _ _), way_mul_gap, way_mul_gap]
    simp
  length := by simp [segment_eq]
  nodup := by
    rw [segment_eq]
    refine List.Nodup.map_on (fun k hk k' hk' h => ?_) List.nodup_range
    rw [List.mem_range, Nat.lt_succ_iff] at hk hk'
    exact cellAfter_injOn x0 y0 x1 y1 hk hk' h
  neighbours := by
    rw [segment_eq, List.isChain_map, List.isChain_range_succ]
    intro k hk
    have hpos : 0 < stepCount x0 y0 x1 y1 := by omega
    exact ⟨abs_way_mul_sub_le (progress_succ_cases hpos (le_max_left _ _)),
      abs_way_mul_sub_le (progress_succ_cases hpos (le_max_right _ _))⟩
  boxed := by
    intro p hp
    obtain ⟨k, hk, rfl⟩ := (mem_segment_iff x0 y0 x1 y1).mp hp
    exact ⟨min_le_add_way_mul (progress_le (le_max_left _ _) hk),
      min_le_add_way_mul (progress_le (le_max_right _ _) hk)⟩
  near := by
    intro p hp
    obtain ⟨k, hk, rfl⟩ := (mem_segment_iff x0 y0 x1 y1).mp hp
    exact lineOffset_cellAfter x0 y0 x1 y1 hk

-- where the line passes between two cells, the later one is taken
example : segment 0 0 4 2 = [(0, 0), (1, 1), (2, 1), (3, 2), (4, 2)] := by decide

/-! ## The numbers of a walk -/

/-- The numbers that a step computes with. -/
def Walk.numbers (w : Walk) : List ℤ :=
  [w.x, w.y, w.toX, w.toY, w.sx, w.sy, w.dx, w.dy, w.error, 2 * w.error, w.error + w.dy,
    w.error + w.dx]

theorem abs_error_iterate {k : Nat} (hk : k ≤ stepCount x0 y0 x1 y1) :
    2 * |(next^[k] (start x0 y0 x1 y1)).error| ≤ 3 * (stepCount x0 y0 x1 y1 : ℤ) := by
  rw [iterate_next x0 y0 x1 y1 hk]
  simp only [gone, stepCount_eq]
  generalize gap x0 x1 = d
  generalize gap y0 y1 = e
  rcases Nat.eq_zero_or_pos (max d e) with hzero | hpos
  · obtain ⟨rfl, rfl⟩ : d = 0 ∧ e = 0 := by omega
    simp
  · obtain ⟨hlow, hhigh⟩ := progress_cross (k := k) hpos
    have hd : d ≤ max d e := le_max_left d e
    have he : e ≤ max d e := le_max_right d e
    generalize max d e = n at *
    zify at hlow hhigh hd he
    have hdist : 2 * |(d : ℤ) * (progress e n k + 1) - e * (progress d n k + 1)| =
        |2 * ((d : ℤ) * progress e n k - e * progress d n k) + 2 * ((d : ℤ) - e)| := by
      rw [← abs_two, ← abs_mul]
      congr 1
      simp only [abs_two]
      ring
    rw [hdist, abs_le]
    constructor <;> linarith

/-- **No number of the walk leaves sixty-four bits**, if the cells are below `2 ^ 60`. -/
theorem numbers_iterate (hx0 : x0 < 2 ^ 60) (hy0 : y0 < 2 ^ 60) (hx1 : x1 < 2 ^ 60)
    (hy1 : y1 < 2 ^ 60) {k : Nat} (hk : k ≤ stepCount x0 y0 x1 y1) :
    ∀ n ∈ (next^[k] (start x0 y0 x1 y1)).numbers, -2 ^ 63 ≤ n ∧ n < 2 ^ 63 := by
  have herror := abs_error_iterate x0 y0 x1 y1 hk
  obtain ⟨⟨hxlow, hxhigh⟩, hylow, hyhigh⟩ := (follows_segment x0 y0 x1 y1).boxed _
    ((mem_segment_iff x0 y0 x1 y1).mpr ⟨k, hk, rfl⟩)
  have hgapX : gap x0 x1 < 2 ^ 60 := by rw [gap]; omega
  have hgapY : gap y0 y1 < 2 ^ 60 := by rw [gap]; omega
  have hcount := stepCount_eq x0 y0 x1 y1
  have hnumbers : (next^[k] (start x0 y0 x1 y1)).numbers =
      let error := (next^[k] (start x0 y0 x1 y1)).error
      [(cellAfter x0 y0 x1 y1 k).1, (cellAfter x0 y0 x1 y1 k).2, (x1 : ℤ), (y1 : ℤ), way x0 x1,
        way y0 y1, (gap x0 x1 : ℤ), -(gap y0 y1 : ℤ), error, 2 * error,
        error + -(gap y0 y1 : ℤ), error + (gap x0 x1 : ℤ)] := by
    rw [iterate_next x0 y0 x1 y1 hk]
    rfl
  rw [hnumbers]
  generalize (next^[k] (start x0 y0 x1 y1)).error = error at herror
  have hlow := neg_abs_le error
  have hhigh := le_abs_self error
  rcases way_eq_or x0 x1 with hwx | hwx <;> rcases way_eq_or y0 y1 with hwy | hwy <;>
    simp only [List.forall_mem_cons, List.not_mem_nil, false_implies, implies_true, and_true, hwx,
      hwy] <;>
    omega

/-! ## Drawing -/

/-- No cell of a segment has a negative coordinate. -/
theorem mem_map_segment_iff {i j : Nat} :
    (i, j) ∈ (segment x0 y0 x1 y1).map (fun p => (p.1.toNat, p.2.toNat)) ↔
      ((i : ℤ), (j : ℤ)) ∈ segment x0 y0 x1 y1 := by
  rw [List.mem_map]
  constructor
  · rintro ⟨⟨x, y⟩, hp, heq⟩
    obtain ⟨hx, hy⟩ := Prod.mk.inj heq
    obtain ⟨⟨hxlow, -⟩, hylow, -⟩ := (follows_segment x0 y0 x1 y1).boxed _ hp
    obtain rfl : (i : ℤ) = x := by omega
    obtain rfl : (j : ℤ) = y := by omega
    exact hp
  · intro hp
    exact ⟨_, hp, by simp⟩

/-- The cells of a segment are written to one after the other. -/
theorem drawSegment_eq (c : Char) (g : Grid Char) : drawSegment c (x0, y0) (x1, y1) g =
    ((segment x0 y0 x1 y1).map fun p => (p.1.toNat, p.2.toNat)).foldl
      (fun g p => g.update (fun old => if old = ' ' then c else old) p.1 p.2) g := by
  rw [List.foldl_map]
  rfl

theorem shape_drawSegment (c : Char) (g : Grid Char) :
    (drawSegment c (x0, y0) (x1, y1) g).shape = g.shape := by
  rw [drawSegment_eq, Grid.shape_foldl_update]

/-- **What is drawn**: a character in the cells of the segment that are blank. -/
theorem cell?_drawSegment (c : Char) (g : Grid Char) (i j : Nat) :
    (drawSegment c (x0, y0) (x1, y1) g).cell? i j =
      if ((i : ℤ), (j : ℤ)) ∈ segment x0 y0 x1 y1 then
        (g.cell? i j).map fun old => if old = ' ' then c else old
      else g.cell? i j := by
  have htwice : ∀ old : Char, (if (if old = ' ' then c else old) = ' ' then c
      else if old = ' ' then c else old) = if old = ' ' then c else old := by
    intro old
    by_cases hold : old = ' '
    · simp [hold]
    · simp [hold]
  rw [drawSegment_eq, Grid.cell?_foldl_update htwice]
  simp only [mem_map_segment_iff]

/-- **Drawing a segment.**  The walk arrives after as many steps as the longer of the two distances,
however many it may take; its cells lead from the one end to the other, along the line; what is
blank in them becomes the character, and nothing else changes.  Below `2 ^ 60` all this is exact in
words of sixty-four bits. -/
theorem drawSegment_follows (c : Char) (g : Grid Char) :
    (∀ k ≤ stepCount x0 y0 x1 y1,
      (next^[k] (start x0 y0 x1 y1)).hasArrived = true ↔ k = stepCount x0 y0 x1 y1) ∧
    (segment x0 y0 x1 y1 =
      (List.range (stepCount x0 y0 x1 y1 + 1)).map fun k => (next^[k] (start x0 y0 x1 y1)).cell) ∧
    (∀ fuel, stepCount x0 y0 x1 y1 ≤ fuel →
      cellsWithin fuel (start x0 y0 x1 y1) = segment x0 y0 x1 y1) ∧
    Follows x0 y0 x1 y1 (segment x0 y0 x1 y1) ∧
    (∀ i j, (drawSegment c (x0, y0) (x1, y1) g).cell? i j =
      if ((i : ℤ), (j : ℤ)) ∈ segment x0 y0 x1 y1 then
        (g.cell? i j).map fun old => if old = ' ' then c else old
      else g.cell? i j) ∧
    (drawSegment c (x0, y0) (x1, y1) g).shape = g.shape ∧
    (x0 < 2 ^ 60 → y0 < 2 ^ 60 → x1 < 2 ^ 60 → y1 < 2 ^ 60 →
      ∀ k ≤ stepCount x0 y0 x1 y1, ∀ n ∈ (next^[k] (start x0 y0 x1 y1)).numbers,
        -2 ^ 63 ≤ n ∧ n < 2 ^ 63) := by
  have hsegment : segment x0 y0 x1 y1 = _ := cellsWithin_start x0 y0 x1 y1 le_rfl
  refine ⟨fun k hk => hasArrived_iterate_iff hk, hsegment, fun fuel hfuel => ?_,
    follows_segment x0 y0 x1 y1, cell?_drawSegment x0 y0 x1 y1 c g,
    shape_drawSegment x0 y0 x1 y1 c g, fun hx0 hy0 hx1 hy1 k hk =>
    numbers_iterate x0 y0 x1 y1 hx0 hy0 hx1 hy1 hk⟩
  rw [cellsWithin_start x0 y0 x1 y1 hfuel, hsegment]

end

end Trendline.Chart
