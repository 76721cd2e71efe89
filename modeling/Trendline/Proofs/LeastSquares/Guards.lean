import Trendline.Proofs.Fit.Spaces

/-!
# What is asked of the abscissae

A line asks for a spread above the tolerance, a polynomial of a higher degree for
more distinct abscissae than its degree.  Past these checks the line is there,
and the polynomial is what the solver finds.

* `fitLine_eq_ite`: a line, by its one check.
* `fitPolynomial_one`, `fitPolynomial_of_two_le`: a polynomial, by its degree.
* `exists_fitSeriesWith_one`: abscissae with a spread have a line.
-/

namespace Trendline.LeastSquares

variable {α : Type} [Scalar α]

/-- The spread that the abscissae have to exceed. -/
def tolerance (n : Nat) (uMean : α) : α :=
  Scalar.ofNat n * roundOff uMean * roundOff uMean

/-- Whether the spread of the abscissae is more than round-off. -/
def HasSpread (u y : List α) : Prop :=
  tolerance u.length (mean u.length u) < spread (mean u.length u) (u.zip y)

instance (u y : List α) : Decidable (HasSpread u y) :=
  inferInstanceAs (Decidable (_ < _))

/-- The line in closed form. -/
def closedForm (u y : List α) : Line α :=
  let n := u.length
  let slope := covariation (mean n u) (mean n y) (u.zip y) / spread (mean n u) (u.zip y)
  ⟨mean n y - slope * mean n u, slope⟩

theorem fitLine_eq_ite {u : List α} (y : List α) (h : 2 ≤ u.length) :
    fitLine u y =
      if HasSpread u y then .ok (closedForm u y) else .error (.degenerate (u.headD 0)) := by
  match u, h with
  | first :: second :: rest, _ => rfl

variable {solve : Solver α} {degree : UInt64}

theorem fitPolynomial_one_eq_map {u : List α} (y : List α) (h : 2 ≤ u.length) :
    fitPolynomial solve u y 1 =
      ((fitLine u y).map fun line => [line.intercept, line.slope]).mapError .refused := by
  have hlen : ¬ u.length < (1 : UInt64).toNat + 1 := Nat.not_lt.mpr h
  rw [fitPolynomial, if_neg (by decide), checked_coefficientCount? (by decide), ok_bind,
    if_neg hlen, if_pos rfl]
  cases fitLine u y <;> rfl

theorem fitPolynomial_one {u : List α} (y : List α) (h : 2 ≤ u.length) :
    fitPolynomial solve u y 1 =
      if HasSpread u y then .ok [(closedForm u y).intercept, (closedForm u y).slope]
      else .error (.refused (.degenerate (u.headD 0))) := by
  rw [fitPolynomial_one_eq_map y h, fitLine_eq_ite y h]
  split <;> rfl

theorem ne_of_two_le (h : 2 ≤ degree.toNat) : degree ≠ 0 ∧ degree ≠ 1 := by
  constructor
  · rintro rfl
    exact absurd h (by decide)
  · rintro rfl
    exact absurd h (by decide)

theorem two_le_toNat (h0 : degree ≠ 0) (h1 : degree ≠ 1) : 2 ≤ degree.toNat := by
  have h0' : degree.toNat ≠ 0 := fun h => h0 (UInt64.toNat_inj.mp h)
  have h1' : degree.toNat ≠ 1 := fun h => h1 (UInt64.toNat_inj.mp h)
  omega

theorem fitPolynomial_of_two_le {u : List α} (y : List α) (hdegree : degree.toNat + 1 < 2 ^ 64)
    (h2 : 2 ≤ degree.toNat) (hlen : degree.toNat < u.length) :
    fitPolynomial solve u y degree =
      if countDistinct u ≤ 1 then .error (.refused (.degenerate (u.headD 0)))
      else if countDistinct u ≤ degree.toNat then
        .error (.refused (.insufficientData (degree.toNat + 1) (countDistinct u)))
      else
        (solve (degree.toNat + 1) (u.map (Polynomial.designRow (degree.toNat + 1))) y).elim
          (.error (.refused .illConditioned)) .ok := by
  obtain ⟨h0, h1⟩ := ne_of_two_le h2
  obtain ⟨first, rest, rfl⟩ : ∃ first rest, u = first :: rest := by
    cases u with
    | nil => exact absurd hlen (Nat.not_lt_zero _)
    | cons first rest => exact ⟨first, rest, rfl⟩
  rw [fitPolynomial, if_neg h0, checked_coefficientCount? hdegree, ok_bind, if_neg (by omega),
    if_neg h1, solvePolynomial]
  generalize countDistinct (first :: rest) = distinct
  by_cases hone : distinct ≤ 1
  · rw [if_pos (by omega), if_pos hone, if_pos hone]
    rfl
  by_cases hfew : distinct ≤ degree.toNat
  · rw [if_pos (by omega), if_neg hone, if_neg hone, if_pos hfew]
    rfl
  · rw [if_neg (by omega), if_neg hone, if_neg hfew]
    cases solve _ _ _ <;> rfl

/-- Abscissae with a spread have a line. -/
theorem exists_fitSeriesWith_one {s : Series α} {space : Space} (h : Admitted s space 1)
    (hspread : HasSpread (s.us space) (s.vs space)) :
    ∃ fit, fitSeriesWith solve s space 1 = .ok fit ∧
      fit.coefficients = [(closedForm (s.us space) (s.vs space)).intercept,
        (closedForm (s.us space) (s.vs space)).slope] := by
  have hlen : 2 ≤ (s.us space).length := by
    rw [s.length_us space]
    exact h.size
  rw [fitSeriesWith_of_admitted (by decide) h, fitInSpace, fitPolynomial_one _ hlen, if_pos hspread]
  exact ⟨_, rfl, rfl⟩

end Trendline.LeastSquares
