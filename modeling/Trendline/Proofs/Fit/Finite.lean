import Trendline.Proofs.LeastSquares.Overflow
import Trendline.Proofs.LeastSquares.Solution

/-!
# Coefficients that are numbers

The solver for higher degrees checks its solution and gives none that is not
finite, whatever the decomposition is.  The closed form of the line does not check:
its coefficients are numbers as long as nothing on the way to them overflows.

* `isFinite_of_fitSeries`: the coefficients of a fit are numbers, those of a line if
  its points are not too large or too many.
* `not_isFinite_of_fitSeries`: finite points can have a line without numbers.
-/

namespace Trendline

open Double LeastSquares

namespace LeastSquares

/-- From degree two on the coefficients are what the solver found. -/
theorem of_fitPolynomial_eq_ok {solve : Solver Float} {u y coefficients : List Float}
    {degree : UInt64} (hdegree : degree.toNat + 1 < 2 ^ 64) (h2 : 2 ≤ degree.toNat)
    (hlen : degree.toNat < u.length) (h : fitPolynomial solve u y degree = .ok coefficients) :
    ∃ width rows, solve width rows y = some coefficients := by
  rw [fitPolynomial_of_two_le y hdegree h2 hlen] at h
  split at h
  · cases h
  split at h
  · cases h
  cases hsolve : solve (degree.toNat + 1) (u.map (Polynomial.designRow (degree.toNat + 1))) y with
  | none =>
    rw [hsolve] at h
    cases h
  | some found =>
    rw [hsolve] at h
    obtain rfl := Except.ok.inj h
    exact ⟨_, _, hsolve⟩

end LeastSquares

/-- **The coefficients of a fit are numbers**, those of a line if its points are not too large or too
many, and those of a higher degree by any decomposition. -/
theorem isFinite_of_fitSeries {svd : Decomposition Float} {s : Series Float} {space : Space}
    {degree : UInt64} {fit : Fit Float}
    (hline : degree = 1 → s.size ≤ 2 ^ 24 ∧ (∀ a ∈ s.us space, Bounded 200 a) ∧
      ∀ a ∈ s.vs space, Bounded 200 a)
    (h : fitSeriesWith (solveBy svd) s space degree = .ok fit) :
    ∀ c ∈ fit.coefficients, c.isFinite = true := by
  obtain ⟨h0, hsize, hdegree, -, hfit⟩ := of_fitSeriesWith_eq_ok h
  have hlenu := s.length_us space
  by_cases h1 : degree = 1
  · subst h1
    obtain ⟨hn, hu, hv⟩ := hline rfl
    have hsize' : 2 ≤ s.size := hsize
    have hlenv := s.length_vs space
    rw [fitPolynomial_one _ (by omega)] at hfit
    split at hfit
    case isFalse => cases hfit
    case isTrue hspread =>
      obtain ⟨hintercept, hslope⟩ := isFinite_closedForm (hlenu.trans hlenv.symm) (by omega)
        (by omega) hu hv hspread
      rw [← Except.ok.inj hfit]
      simp [hintercept, hslope]
  · obtain ⟨width, rows, hsolve⟩ := of_fitPolynomial_eq_ok hdegree (two_le_toNat h0 h1)
      (hlenu.symm ▸ hsize) hfit
    exact (of_solveBy_eq_some hsolve).2

/-- The line through `(0, 1)`, `(1, 3)` and `(2, 5)`. -/
theorem isFinite_of_fitSeries_three_points :
    ∃ fit, fitSeries ⟨"line", [(0, 1), (1, 3), (2, 5)]⟩ .linear 1 = .ok fit ∧
      ∀ c ∈ fit.coefficients, c.isFinite = true := by
  have hbits : ∀ a ∈ ([0, 1, 2, 1, 3, 5] : List Float), magnitudeBits a ≤ powerBits 200 := by
    decide +kernel
  have hbounded : ∀ a ∈ ([0, 1, 2, 1, 3, 5] : List Float), Bounded 200 a := fun a ha =>
    bounded_of_bits (by decide) (hbits a ha)
  have hspread : HasSpread [(0 : Float), 1, 2] [1, 3, 5] := by decide +kernel
  obtain ⟨fit, hfit, -⟩ := @exists_fitSeriesWith_one Float _ (solveBy decompose)
    ⟨"line", [(0, 1), (1, 3), (2, 5)]⟩ .linear ⟨by decide, by decide, nofun, nofun⟩ hspread
  refine ⟨fit, hfit, isFinite_of_fitSeries (fun _ => ⟨by decide, fun a ha => ?_, fun a ha => ?_⟩) hfit⟩
  · exact hbounded a (List.mem_append_left [1, 3, 5] (show a ∈ [0, 1, 2] from ha))
  · exact hbounded a (List.mem_append_right [0, 1, 2] (show a ∈ [1, 3, 5] from ha))

/-- The double nearest to `10 ^ 308`. -/
def high : Float :=
  Float.ofBits 0x7fe1ccf385ebc8a0

/-- Two points as high as this have an infinite mean, and so a line without numbers. -/
theorem not_isFinite_of_fitSeries :
    ¬ ∀ (s : Series Float) (space : Space) (degree : UInt64) (fit : Fit Float),
      (∀ p ∈ s.points, p.1.isFinite = true ∧ p.2.isFinite = true) → 1 ≤ degree.toNat →
      fitSeries s space degree = .ok fit → ∀ c ∈ fit.coefficients, c.isFinite = true := by
  intro h
  have hpoints : ∀ p ∈ [((0 : Float), high), (1, high)], p.1.isFinite = true ∧ p.2.isFinite = true := by
    decide +kernel
  have hspread : HasSpread [(0 : Float), 1] [high, high] := by decide +kernel
  have hslope : (closedForm [(0 : Float), 1] [high, high]).slope.isFinite = false := by
    decide +kernel
  obtain ⟨fit, hfit, hcoefficients⟩ := @exists_fitSeriesWith_one Float _ solve?
    ⟨"high", [(0, high), (1, high)]⟩ .linear ⟨by decide, by decide, nofun, nofun⟩ hspread
  have hfinite := h _ _ _ fit hpoints (by decide) hfit
    (closedForm [(0 : Float), 1] [high, high]).slope (by
      rw [hcoefficients]
      exact List.mem_cons_of_mem _ List.mem_cons_self)
  rw [hslope] at hfinite
  cases hfinite

end Trendline
