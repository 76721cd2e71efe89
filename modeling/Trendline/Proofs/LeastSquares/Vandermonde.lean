import Mathlib.Algebra.Polynomial.OfFn
import Mathlib.Algebra.Polynomial.Roots
import Mathlib.LinearAlgebra.Matrix.Rank
import Mathlib.Tactic.Abel
import Trendline.Proofs.LeastSquares.Distinct
import Trendline.Proofs.LeastSquares.Guards
import Trendline.Proofs.LeastSquares.Sums

/-!
# When the least-squares polynomial is determined

Read over the reals, the guard before the solver asks for more distinct abscissae
than the degree.  A polynomial of that degree has no more roots, so the columns of
the design matrix are then linearly independent; with fewer distinct abscissae the
product of the `X - u i` is a combination of the columns that vanishes.

* `designMatrix`: one row of powers for each abscissa.
* `linearIndependent_col_iff_lt_card`: the **Vandermonde argument**.
* `linearIndependent_col_iff_existsUnique`: columns are independent if and only if
  the least squares determine their coefficients.
* `reachesSolver_iff`: the solver is called if and only if there is one solution.
-/

namespace Trendline.LeastSquares

open Matrix

/-! ## Powers -/

theorem powersFrom_eq (u : ℝ) : ∀ (count : Nat) (p : ℝ),
    Polynomial.powersFrom u p count = (List.range count).map fun j => p * u ^ j := by
  intro count
  induction count with
  | zero => exact fun p => rfl
  | succ count ih =>
    intro p
    rw [Polynomial.powersFrom, ih, List.range_succ_eq_map, List.map_cons, List.map_map, pow_zero,
      mul_one]
    refine congrArg (p :: ·) (List.map_congr_left fun j _ => ?_)
    rw [Function.comp_apply, pow_succ']
    exact mul_assoc p u _

/-- The rows that the solver is given. -/
noncomputable def designMatrix (needed : Nat) (u : List ℝ) : Matrix (Fin u.length) (Fin needed) ℝ :=
  .of fun i j => (Polynomial.designRow needed u[i]).getD j 0

theorem designMatrix_apply (needed : Nat) (u : List ℝ) (i : Fin u.length) (j : Fin needed) :
    designMatrix needed u i j = u[i] ^ (j : Nat) := by
  rw [designMatrix, of_apply, Polynomial.designRow, powersFrom_eq]
  simp

theorem evaluate_ofFn (x : ℝ) : ∀ {n : Nat} (c : Fin n → ℝ),
    Polynomial.evaluate (List.ofFn c) x = ∑ j, c j * x ^ (j : Nat) := by
  intro n
  induction n with
  | zero => exact fun c => rfl
  | succ n ih =>
    intro c
    have hstep : Polynomial.evaluate (List.ofFn c) x =
        Polynomial.evaluate (List.ofFn fun j => c j.succ) x * x + c 0 := by
      rw [List.ofFn_succ]
      rfl
    rw [hstep, ih, Fin.sum_univ_succ, Finset.sum_mul, add_comm]
    simp only [Fin.val_zero, pow_zero, mul_one, Fin.val_succ, pow_succ, mul_assoc]

theorem designMatrix_mulVec {needed : Nat} {u : List ℝ} (c : Fin needed → ℝ) (i : Fin u.length) :
    (designMatrix needed u *ᵥ c) i = Polynomial.evaluate (List.ofFn c) u[i] := by
  rw [evaluate_ofFn, mulVec, dotProduct]
  simp only [designMatrix_apply, mul_comm]

theorem evaluate_ofFn_eq_eval {needed : Nat} (hneeded : 1 ≤ needed) (c : Fin needed → ℝ) (x : ℝ) :
    Polynomial.evaluate (List.ofFn c) x = (Polynomial.ofFn needed c).eval x := by
  rw [evaluate_ofFn, Polynomial.eval_eq_sum_range' (Polynomial.ofFn_natDegree_lt hneeded c),
    Finset.sum_range]
  refine Finset.sum_congr rfl fun j _ => ?_
  rw [Polynomial.ofFn_coeff_eq_val_of_lt c j.isLt]

/-! ## Distinct abscissae -/

theorem linearIndependent_col_iff_ker {m n : Type} [Fintype n] [DecidableEq n]
    {A : Matrix m n ℝ} : LinearIndependent ℝ A.col ↔ ∀ c, A *ᵥ c = 0 → c = 0 := by
  rw [← mulVec_injective_iff, ← ker_mulVecLin_eq_bot_iff, LinearMap.ker_eq_bot]
  rfl

/-- The product of the `X - u i` is a combination of the powers that vanishes over the abscissae. -/
theorem exists_ker_of_card_le {degree : Nat} {u : List ℝ} (h : u.toFinset.card ≤ degree) :
    ∃ c, designMatrix (degree + 1) u *ᵥ c = 0 ∧ c ≠ 0 := by
  let p : Polynomial ℝ := ∏ a ∈ u.toFinset, (Polynomial.X - Polynomial.C a)
  have hmonic : p.Monic := Polynomial.monic_prod_X_sub_C id u.toFinset
  have hdegree : p.natDegree < degree + 1 := by
    have hcard : p.natDegree = u.toFinset.card :=
      Polynomial.natDegree_finsetProd_X_sub_C_eq_card u.toFinset id
    omega
  have hofFn := Polynomial.ofFn_comp_toFn_eq_id_of_natDegree_lt hdegree
  refine ⟨Polynomial.toFn (degree + 1) p, funext fun i => ?_, fun hzero => hmonic.ne_zero ?_⟩
  · rw [designMatrix_mulVec, evaluate_ofFn_eq_eval (Nat.le_add_left 1 degree), hofFn,
      Polynomial.eval_prod]
    refine Finset.prod_eq_zero (List.mem_toFinset.mpr (List.getElem_mem i.isLt)) ?_
    rw [Polynomial.eval_sub, Polynomial.eval_X, Polynomial.eval_C]
    exact sub_self _
  · rw [← hofFn, hzero, map_zero]

/-- **The Vandermonde argument**: the powers are independent over enough distinct abscissae. -/
theorem linearIndependent_col_iff_lt_card (degree : Nat) (u : List ℝ) :
    LinearIndependent ℝ (designMatrix (degree + 1) u).col ↔ degree < u.toFinset.card := by
  rw [linearIndependent_col_iff_ker]
  constructor
  · intro hker
    by_contra hfew
    obtain ⟨c, hc, hne⟩ := exists_ker_of_card_le (Nat.not_lt.mp hfew)
    exact hne (hker c hc)
  · intro hmany c hc
    have heval : ∀ a ∈ u.toFinset, (Polynomial.ofFn (degree + 1) c).eval a = 0 := by
      intro a ha
      obtain ⟨i, hi, rfl⟩ := List.getElem_of_mem (List.mem_toFinset.mp ha)
      rw [← evaluate_ofFn_eq_eval (Nat.le_add_left 1 degree)]
      exact (designMatrix_mulVec c ⟨i, hi⟩).symm.trans (congrFun hc ⟨i, hi⟩)
    have hdegree := Polynomial.ofFn_natDegree_lt (Nat.le_add_left 1 degree) c
    have hzero := Polynomial.eq_zero_of_natDegree_lt_card_of_eval_eq_zero' _ u.toFinset heval
      (by omega)
    exact Polynomial.injective_ofFn (degree + 1) (hzero.trans (map_zero _).symm)

/-! ## Least squares -/

section

variable {m n : Type} [Fintype m] [Fintype n] {A : Matrix m n ℝ} {b : m → ℝ}

/-- The squared error of coefficients, as a system of equations has it. -/
def systemError (A : Matrix m n ℝ) (b : m → ℝ) (c : n → ℝ) : ℝ :=
  (b - A *ᵥ c) ⬝ᵥ (b - A *ᵥ c)

theorem dotProduct_self_nonneg (v : m → ℝ) : 0 ≤ v ⬝ᵥ v :=
  Finset.sum_nonneg fun i _ => mul_self_nonneg (v i)

theorem dotProduct_self_sub {v w : m → ℝ} (h : v ⬝ᵥ w = 0) :
    (v - w) ⬝ᵥ (v - w) = v ⬝ᵥ v + w ⬝ᵥ w := by
  rw [sub_dotProduct, dotProduct_sub, dotProduct_sub, dotProduct_comm w v, h]
  ring

/-- **Pythagoras**: other coefficients add the squared distance to the error. -/
theorem systemError_eq_add {c : n → ℝ} (hnormal : Aᵀ *ᵥ (b - A *ᵥ c) = 0) (d : n → ℝ) :
    systemError A b d = systemError A b c + (A *ᵥ (d - c)) ⬝ᵥ (A *ᵥ (d - c)) := by
  have hcross : (b - A *ᵥ c) ⬝ᵥ (A *ᵥ (d - c)) = 0 := by
    rw [dotProduct_mulVec, ← mulVec_transpose, hnormal, zero_dotProduct]
  have hsplit : b - A *ᵥ d = (b - A *ᵥ c) - A *ᵥ (d - c) := by
    rw [mulVec_sub]
    abel
  rw [systemError, systemError, hsplit, dotProduct_self_sub hcross]

/-- The normal equations of independent columns have a solution. -/
theorem exists_normal (h : ∀ c, A *ᵥ c = 0 → c = 0) (b : m → ℝ) :
    ∃ c, Aᵀ *ᵥ (b - A *ᵥ c) = 0 := by
  have hinjective : Function.Injective (Aᵀ * A).mulVecLin := by
    rw [← LinearMap.ker_eq_bot, ker_mulVecLin_transpose_mul_self]
    exact ker_mulVecLin_eq_bot_iff.mpr h
  obtain ⟨c, hc⟩ := LinearMap.injective_iff_surjective.mp hinjective (Aᵀ *ᵥ b)
  refine ⟨c, ?_⟩
  rw [mulVecLin_apply, ← mulVec_mulVec] at hc
  rw [mulVec_sub, hc, sub_self]

/-- Independent columns, and no others, have their coefficients determined by the least squares. -/
theorem linearIndependent_col_iff_existsUnique [DecidableEq n] (A : Matrix m n ℝ) (b : m → ℝ) :
    LinearIndependent ℝ A.col ↔ ∃! c, ∀ d, systemError A b c ≤ systemError A b d := by
  rw [linearIndependent_col_iff_ker]
  constructor
  · intro h
    obtain ⟨c, hnormal⟩ := exists_normal h b
    refine ⟨c, fun d => ?_, fun d hd => ?_⟩
    · rw [systemError_eq_add hnormal d]
      exact le_add_of_nonneg_right (dotProduct_self_nonneg _)
    · have hle := hd c
      rw [systemError_eq_add hnormal d] at hle
      have hzero := dotProduct_self_eq_zero.mp
        (le_antisymm (le_of_add_le_add_left (hle.trans_eq (add_zero _).symm))
          (dotProduct_self_nonneg (A *ᵥ (d - c))))
      exact sub_eq_zero.mp (h _ hzero)
  · rintro ⟨c, hleast, hunique⟩ e he
    have hsame : systemError A b (c + e) = systemError A b c := by
      rw [systemError, systemError, mulVec_add, he, add_zero]
    exact add_eq_left.mp (hunique (c + e) fun d => hsame.trans_le (hleast d))

end

/-- Coefficients of least squared error among all lists of so many coefficients. -/
structure IsLeastSquares (needed : Nat) (u y : List ℝ) (c : List ℝ) : Prop where
  length : c.length = needed
  least : ∀ d : List ℝ, d.length = needed →
    squaredError c (u.zip y) ≤ squaredError d (u.zip y)

variable {needed : Nat} {u y : List ℝ}

/-- The right-hand side that the solver is given. -/
def ordinates (u y : List ℝ) (i : Fin u.length) : ℝ :=
  y.getD i 0

theorem zip_eq_ofFn (hy : y.length = u.length) :
    u.zip y = List.ofFn fun i : Fin u.length => (u[i], ordinates u y i) := by
  refine List.ext_getElem (by simp [hy]) fun i hi hi' => ?_
  have hiu : i < u.length := by simpa using hi'
  have hiy : i < y.length := hiu.trans_eq hy.symm
  rw [List.getElem_zip, List.getElem_ofFn]
  simp [ordinates, hiy]

theorem squaredError_eq (hy : y.length = u.length) (c : Fin needed → ℝ) :
    squaredError (List.ofFn c) (u.zip y) =
      systemError (designMatrix needed u) (ordinates u y) c := by
  refine (Scalar.foldl_add_map (fun p : ℝ × ℝ =>
    (p.2 - Polynomial.evaluate (List.ofFn c) p.1) *
      (p.2 - Polynomial.evaluate (List.ofFn c) p.1)) (u.zip y) 0).trans ?_
  rw [zero_add, zip_eq_ofFn hy, List.map_ofFn, List.sum_ofFn]
  refine Finset.sum_congr rfl fun i _ => ?_
  rw [Pi.sub_apply, designMatrix_mulVec]
  rfl

theorem exists_ofFn {c : List ℝ} (h : c.length = needed) :
    ∃ v : Fin needed → ℝ, c = List.ofFn v := by
  subst h
  exact ⟨c.get, (List.ofFn_get c).symm⟩

theorem isLeastSquares_ofFn_iff (hy : y.length = u.length) (c : Fin needed → ℝ) :
    IsLeastSquares needed u y (List.ofFn c) ↔
      ∀ d, systemError (designMatrix needed u) (ordinates u y) c ≤
        systemError (designMatrix needed u) (ordinates u y) d := by
  constructor
  · intro h d
    rw [← squaredError_eq hy, ← squaredError_eq hy]
    exact h.least _ List.length_ofFn
  · intro h
    refine ⟨List.length_ofFn, fun d hd => ?_⟩
    obtain ⟨w, rfl⟩ := exists_ofFn hd
    rw [squaredError_eq hy, squaredError_eq hy]
    exact h _

/-- Independent columns, and no others, have one least-squares polynomial. -/
theorem linearIndependent_col_iff_existsUnique_isLeastSquares (hy : y.length = u.length) :
    LinearIndependent ℝ (designMatrix needed u).col ↔ ∃! c, IsLeastSquares needed u y c := by
  rw [linearIndependent_col_iff_existsUnique _ (ordinates u y)]
  constructor
  · rintro ⟨c, hc, hunique⟩
    refine ⟨List.ofFn c, (isLeastSquares_ofFn_iff hy c).mpr hc, fun d hd => ?_⟩
    obtain ⟨w, rfl⟩ := exists_ofFn hd.length
    exact congrArg List.ofFn (hunique _ ((isLeastSquares_ofFn_iff hy _).mp hd))
  · rintro ⟨c, hc, hunique⟩
    obtain ⟨v, rfl⟩ := exists_ofFn hc.length
    refine ⟨v, (isLeastSquares_ofFn_iff hy _).mp hc, fun d hd => ?_⟩
    exact List.ofFn_injective (hunique _ ((isLeastSquares_ofFn_iff hy d).mpr hd))

/-! ## The guard -/

/-- Whatever the solver is, the fit is what it finds. -/
def ReachesSolver (u y : List ℝ) (degree : UInt64) : Prop :=
  ∀ solve : Solver ℝ, fitPolynomial solve u y degree =
    (solve (degree.toNat + 1) (u.map (Polynomial.designRow (degree.toNat + 1))) y).elim
      (.error (.refused .illConditioned)) .ok

theorem countDistinct_real (u : List ℝ) : countDistinct u = u.toFinset.card := by
  rw [countDistinct_eq (Places.real u), List.map_id]

variable {degree : UInt64} (hdegree : degree.toNat + 1 < 2 ^ 64) (h2 : 2 ≤ degree.toNat)
  (hlen : degree.toNat < u.length)

include hdegree h2 hlen

theorem reachesSolver_iff_lt_card :
    ReachesSolver u y degree ↔ degree.toNat < u.toFinset.card := by
  constructor
  · intro h
    by_contra hfew
    have hsolved := h fun _ _ _ => some []
    rw [fitPolynomial_of_two_le y hdegree h2 hlen, countDistinct_real] at hsolved
    split at hsolved
    · cases hsolved
    · rw [if_pos (Nat.not_lt.mp hfew)] at hsolved
      cases hsolved
  · intro hmany solve
    rw [fitPolynomial_of_two_le y hdegree h2 hlen, countDistinct_real, if_neg (by omega),
      if_neg (by omega)]

/-- One abscissa only is reported as such, and the number of several if they are too few. -/
theorem fitPolynomial_of_card_le (hfew : u.toFinset.card ≤ degree.toNat) (solve : Solver ℝ) :
    (∀ x, fitPolynomial solve u y degree = .error (.refused (.degenerate x)) ↔ ∀ a ∈ u, a = x) ∧
      ((∃ a ∈ u, ∃ b ∈ u, a ≠ b) → fitPolynomial solve u y degree =
        .error (.refused (.insufficientData (degree.toNat + 1) u.toFinset.card))) := by
  have hone : u.toFinset.card ≤ 1 ↔ ∀ a ∈ u, ∀ b ∈ u, a = b := by
    simp only [Finset.card_le_one, List.mem_toFinset]
  rw [fitPolynomial_of_two_le y hdegree h2 hlen, countDistinct_real, if_pos hfew]
  by_cases hcard : u.toFinset.card ≤ 1
  · rw [if_pos hcard]
    have hall := hone.mp hcard
    have hhead : u.headD 0 ∈ u := by
      rw [List.headD_eq_head?_getD, List.head?_eq_some_head (List.ne_nil_of_length_pos (by omega))]
      exact List.head_mem _
    refine ⟨fun x => ⟨fun h a ha => ?_, fun h => ?_⟩, fun ⟨a, ha, b, hb, hne⟩ => ?_⟩
    · cases h
      exact hall a ha _ hhead
    · rw [h _ hhead]
    · exact absurd (hall a ha b hb) hne
  · rw [if_neg hcard]
    refine ⟨fun x => ⟨nofun, fun h => absurd (hone.mpr ?_) hcard⟩, fun _ => rfl⟩
    exact fun a ha b hb => (h a ha).trans (h b hb).symm

/-- **The solver is called** if and only if it has one solution to find. -/
theorem reachesSolver_iff (hy : y.length = u.length) :
    (ReachesSolver u y degree ↔
        LinearIndependent ℝ (designMatrix (degree.toNat + 1) u).col) ∧
      (ReachesSolver u y degree ↔ ∃! c, IsLeastSquares (degree.toNat + 1) u y c) ∧
      (¬ ReachesSolver u y degree → ∀ solve,
        (∀ x, fitPolynomial solve u y degree = .error (.refused (.degenerate x)) ↔ ∀ a ∈ u, a = x) ∧
        ((∃ a ∈ u, ∃ b ∈ u, a ≠ b) → fitPolynomial solve u y degree =
          .error (.refused (.insufficientData (degree.toNat + 1) u.toFinset.card)))) := by
  have hindependent : ReachesSolver u y degree ↔
      LinearIndependent ℝ (designMatrix (degree.toNat + 1) u).col := by
    rw [reachesSolver_iff_lt_card hdegree h2 hlen, linearIndependent_col_iff_lt_card]
  refine ⟨hindependent, hindependent.trans
    (linearIndependent_col_iff_existsUnique_isLeastSquares hy), fun hnot solve => ?_⟩
  rw [reachesSolver_iff_lt_card hdegree h2 hlen, Nat.not_lt] at hnot
  exact fitPolynomial_of_card_le hdegree h2 hlen hnot solve

omit hdegree h2 hlen in
/-- One parabola is closest to three points over three places. -/
theorem reachesSolver_iff_three_places : ∃! c, IsLeastSquares 3 [0, 1, 2] [0, 1, 4] c := by
  have hcard : 2 < ([0, 1, 2] : List ℝ).toFinset.card := by norm_num
  have hreaches : ReachesSolver [0, 1, 2] [0, 1, 4] 2 :=
    (reachesSolver_iff_lt_card (by decide) (by decide) (by decide)).mpr hcard
  exact (@reachesSolver_iff [0, 1, 2] [0, 1, 4] 2 (by decide) (by decide) (by decide)
    rfl).2.1.mp hreaches

end Trendline.LeastSquares
