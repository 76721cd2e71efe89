import Trendline.Text.Grid

/-!
# Writing to many cells of a grid

* `cell?_foldl_update`: changing the cells of a list one after the other changes
  each of them, once if once is enough, and no other.
* `shape_foldl_update`: the grid keeps its shape.
* `rows_of_cell?`: a grid is known by its shape and its cells.
-/

namespace Trendline.Text.Grid

variable {σ : Type}

/-- The lengths of the rows. -/
def shape (g : Grid σ) : List Nat :=
  g.rows.map List.length

theorem shape_update (f : σ → σ) (x y : Nat) (g : Grid σ) : (g.update f x y).shape = g.shape := by
  apply List.ext_getElem?
  intro i
  simp only [shape, update, List.getElem?_map, List.getElem?_modify]
  cases g.rows[i]? with
  | none => rfl
  | some row => split <;> simp

theorem shape_foldl_update (f : σ → σ) : ∀ (cells : List (Nat × Nat)) (g : Grid σ),
    (cells.foldl (fun g p => g.update f p.1 p.2) g).shape = g.shape := by
  intro cells
  induction cells with
  | nil =>
    intro g
    rfl
  | cons p rest ih =>
    intro g
    rw [List.foldl_cons, ih, shape_update]

theorem cell?_foldl_update {f : σ → σ} (hf : ∀ c, f (f c) = f c) (i j : Nat) :
    ∀ (cells : List (Nat × Nat)) (g : Grid σ),
      (cells.foldl (fun g p => g.update f p.1 p.2) g).cell? i j =
        if (i, j) ∈ cells then (g.cell? i j).map f else g.cell? i j := by
  intro cells
  induction cells with
  | nil =>
    intro g
    simp
  | cons p rest ih =>
    intro g
    obtain ⟨x, y⟩ := p
    rw [List.foldl_cons, ih, cell?_update]
    by_cases hp : (i, j) = (x, y)
    · obtain ⟨rfl, rfl⟩ := Prod.mk.inj hp
      have hff : (f ∘ f) = f := funext hf
      simp [hff]
    · have hp' : ¬ (i = x ∧ j = y) := fun h => hp (Prod.ext h.1 h.2)
      simp [hp, hp']

theorem rows_of_cell? {g : Grid σ} {width height : Nat} {value : Nat → Nat → σ}
    (hshape : g.shape = List.replicate height width)
    (hcell : ∀ i < width, ∀ j < height, g.cell? i j = some (value i j)) :
    g.rows = (List.range height).map fun j => (List.range width).map (value · j) := by
  have hheight : g.rows.length = height := by
    simpa [shape] using congrArg List.length hshape
  apply List.ext_getElem
  · simp [hheight]
  · intro j hj hj'
    have hwidth : g.rows[j].length = width := by
      have hmem : g.rows[j].length ∈ g.shape := List.mem_map_of_mem (List.getElem_mem hj)
      rw [hshape] at hmem
      exact List.eq_of_mem_replicate hmem
    apply List.ext_getElem
    · simp [hwidth]
    · intro i hi hi'
      have h := hcell i (by omega) j (by omega)
      simpa [cell?, List.getElem?_eq_getElem, hj, hi] using h

end Trendline.Text.Grid
