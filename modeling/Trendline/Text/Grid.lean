/-!
# Grids

A grid is a list of rows of cells, which hold characters or other things.  A
cell is addressed by its column and its row, both from zero; writing to a cell
outside the grid changes nothing.
-/

namespace Trendline.Text

/-- Rows of cells. -/
structure Grid (σ : Type) where
  rows : List (List σ)
  deriving DecidableEq, Repr

namespace Grid

variable {σ : Type}

/-- A grid with the same in all cells. -/
def fill (c : σ) (width height : Nat) : Grid σ :=
  ⟨List.replicate height (List.replicate width c)⟩

/-- What is in a cell, if the cell is in the grid. -/
def cell? (g : Grid σ) (x y : Nat) : Option σ :=
  (g.rows[y]?).bind (·[x]?)

/-- Changes what is in a cell. -/
def update (f : σ → σ) (x y : Nat) (g : Grid σ) : Grid σ :=
  ⟨g.rows.modify y (·.modify x f)⟩

/-- Writes into a cell. -/
def put (c : σ) (x y : Nat) (g : Grid σ) : Grid σ :=
  g.update (fun _ => c) x y

/-- Writes a character into a cell that is blank. -/
def putIfBlank (c : Char) (x y : Nat) (g : Grid Char) : Grid Char :=
  g.update (fun old => if old = ' ' then c else old) x y

/-- The rows as texts. -/
def lines (g : Grid Char) : List String :=
  g.rows.map String.ofList

theorem cell?_update (f : σ → σ) (x y i j : Nat) (g : Grid σ) :
    (g.update f x y).cell? i j =
      if i = x ∧ j = y then (g.cell? i j).map f else g.cell? i j := by
  unfold cell? update
  simp only [List.getElem?_modify]
  by_cases hj : y = j
  · subst hj
    cases g.rows[y]? with
    | none => simp
    | some row =>
      by_cases hi : x = i
      · subst hi; simp
      · simp [hi, Ne.symm hi]
  · simp [hj, Ne.symm hj]

end Grid

end Trendline.Text
