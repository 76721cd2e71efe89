import Trendline.Proofs.Fit.Spaces
import Trendline.Proofs.LeastSquares.Vandermonde

/-!
# Powers and Horner's scheme

The solver knows a polynomial by the products of its coefficients with rows of powers, each row
filled from the constant on.  Residuals, predictions and curves evaluate it by Horner's scheme, from
the highest coefficient down.  Over the reals both are the same polynomial.

* `product_powersFrom`: a row that begins with any factor, against Horner's scheme.
* `squaredError_eq_sum`: the squared error of a fit is that of the system it was solved from.
* `designRow_evaluate`: the two sides agree for every degree, and so does all that is made of them.
-/

namespace Trendline.Polynomial

/-- The product of a row with coefficients. -/
def product (row c : List ℝ) : ℝ :=
  (List.zipWith (· * ·) row c).sum

/-- The factor that the row has accumulated is one that Horner's scheme has yet to take out. -/
theorem product_powersFrom (u : ℝ) : ∀ (c : List ℝ) (p : ℝ),
    product (powersFrom u p c.length) c = p * evaluate c u := by
  intro c
  induction c with
  | nil => exact fun p => (mul_zero p).symm
  | cons a rest ih =>
    intro p
    have hrow : product (powersFrom u p (a :: rest).length) (a :: rest) =
        p * a + product (powersFrom u (p * u) rest.length) rest :=
      List.sum_cons
    have hvalue : evaluate (a :: rest) u = evaluate rest u * u + a := rfl
    rw [hrow, ih, hvalue]
    ring

variable {degree : Nat} {c : List ℝ}

theorem product_designRow (h : c.length = degree + 1) (u : ℝ) :
    product (designRow (degree + 1) u) c = evaluate c u := by
  rw [designRow, ← h, product_powersFrom, one_mul]

theorem designRow_eq (count : Nat) (u : ℝ) :
    designRow count u = (List.range count).map (u ^ ·) := by
  rw [designRow, LeastSquares.powersFrom_eq]
  simp only [one_mul]

/-- Where a word counts the places of a row, the row is filled. -/
theorem fillRow?_of_toNat {d places : UInt64} (hplaces : places.toNat = d.toNat + 1) (u : ℝ) :
    fillRow? d u places.toNat = some (designRow (d.toNat + 1) u) := by
  have hcount : coefficientCount? d = some (d.toNat + 1) := if_pos (hplaces ▸ places.toNat_lt)
  rw [fillRow?, hplaces, if_pos hcount]

/-- The residuals of a polynomial are what it leaves of the right-hand side of the system. -/
theorem squaredError_eq_sum (h : c.length = degree + 1) (u y : List ℝ) :
    squaredError c (u.zip y) =
      (((u.map (designRow (degree + 1))).zip y).map fun p => (p.2 - product p.1 c) ^ 2).sum := by
  refine (Scalar.foldl_add_map (fun p : ℝ × ℝ =>
    (p.2 - evaluate c p.1) * (p.2 - evaluate c p.1)) (u.zip y) 0).trans ?_
  rw [zero_add, List.zip_map_left, List.map_map]
  refine congrArg List.sum (List.map_congr_left fun p _ => ?_)
  rw [Function.comp_apply, Prod.map_fst, Prod.map_snd, product_designRow h, id, sq]

/-- **One polynomial for the solver and for everyone else.**  For every degree a row holds the
powers of its place, from the constant on, and its product with coefficients is what Horner's scheme
makes of them.  The squared error of a fit is then that of the system whose rows the solver was
given, and a prediction is the product of its row. -/
theorem designRow_evaluate (h : c.length = degree + 1) :
    (∀ u : ℝ, designRow (degree + 1) u = (List.range (degree + 1)).map (u ^ ·) ∧
      product (designRow (degree + 1) u) c = evaluate c u) ∧
    (∀ (d places : UInt64) (u : ℝ), d.toNat = degree → places.toNat = degree + 1 →
      fillRow? d u places.toNat = some (designRow (degree + 1) u)) ∧
    (∀ u y : List ℝ, squaredError c (u.zip y) =
      (((u.map (designRow (degree + 1))).zip y).map fun p => (p.2 - product p.1 c) ^ 2).sum) ∧
    ∀ (fit : Fit ℝ) (x : ℝ), fit.coefficients = c →
      fit.predict x =
        let v := product (designRow (degree + 1) (inSpace fit.space.logsX x)) c
        if fit.space.logsY then Real.exp v else v := by
  refine ⟨fun u => ⟨designRow_eq _ u, product_designRow h u⟩, ?_, squaredError_eq_sum h, ?_⟩
  · rintro d places u rfl hplaces
    exact fillRow?_of_toNat hplaces u
  · rintro fit x rfl
    dsimp only
    rw [product_designRow h]
    rfl

/-- A cubic at two. -/
theorem designRow_evaluate_cubic :
    ([7, -1, 0, 2] : List ℝ).length = 3 + 1 ∧
    fillRow? 3 (2 : ℝ) 4 = some (designRow 4 2) ∧ product (designRow 4 2) [7, -1, 0, 2] = 21 := by
  have hlength : ([7, -1, 0, 2] : List ℝ).length = 3 + 1 := rfl
  obtain ⟨hrow, hfill, -⟩ := designRow_evaluate hlength
  refine ⟨hlength, hfill 3 4 2 rfl rfl, (hrow 2).2.trans ?_⟩
  show (((0 * 2 + 2) * 2 + 0) * 2 + -1) * 2 + 7 = (21 : ℝ)
  norm_num

end Trendline.Polynomial
