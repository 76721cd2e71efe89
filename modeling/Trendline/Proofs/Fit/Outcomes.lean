import Trendline.Proofs.LeastSquares.Distinct
import Trendline.Proofs.LeastSquares.Guards
import Trendline.Proofs.LeastSquares.Solution

/-!
# How a fit ends

A fit is checked in several places: by its degree and its number of points, on the
way into the fit space, and by what its abscissae are there.  `Ends` says in one
place which outcome belongs to which series, and a fit ends in no other way.

* `Ends`: the outcomes of a fit, each with what it takes.
* `Ends.eq`, `exists_ends`: an outcome belongs to the series, and there is one.
* `fitSeriesWith_eq_iff`: a fit ends as `Ends` says.
-/

namespace Trendline

open LeastSquares

/-- The outcomes of a fit.  What an earlier outcome takes is excluded by the later ones. -/
inductive Ends (solve : Solver Float) (s : Series Float) (space : Space) (degree : UInt64) :
    Except (Stop (FitError Float)) (Fit Float) → Prop where
  | zeroDegree (hdegree : degree = 0) : Ends solve s space degree (.error (.refused .zeroDegree))
  | fewPoints (hdegree : degree ≠ 0) (hsize : s.size ≤ degree.toNat) :
    Ends solve s space degree (.error (.refused (.insufficientData (degree.toNat + 1) s.size)))
  | unsuitedX {index : Nat} {value : Float} (hdegree : degree ≠ 0) (hsize : degree.toNat < s.size)
    (hlogs : space.logsX = true) (hfirst : FirstUnsuited s.xs index value) :
    Ends solve s space degree (.error (.refused (.nonPositive .x index value)))
  | unsuitedY {index : Nat} {value : Float} (hdegree : degree ≠ 0) (hsize : degree.toNat < s.size)
    (hx : Suited space.logsX s.xs) (hlogs : space.logsY = true)
    (hfirst : FirstUnsuited s.ys index value) :
    Ends solve s space degree (.error (.refused (.nonPositive .y index value)))
  | noSpread {x : Float} (h : Admitted s space degree) (hdegree : degree = 1)
    (hspread : ¬ HasSpread (s.us space) (s.vs space)) (hx : s.xs.head? = some x) :
    Ends solve s space degree (.error (.refused (.degenerate x)))
  | oneAbscissa {x : Float} (h : Admitted s space degree) (hdegree : 2 ≤ degree.toNat)
    (hone : ∀ a ∈ s.us space, ∀ b ∈ s.us space, (a == b) = true) (hx : s.xs.head? = some x) :
    Ends solve s space degree (.error (.refused (.degenerate x)))
  | fewAbscissae (h : Admitted s space degree) (hdegree : 2 ≤ degree.toNat)
    (hmany : 1 < (s.us space).eraseDups.length)
    (hfew : (s.us space).eraseDups.length ≤ degree.toNat) :
    Ends solve s space degree
      (.error (.refused (.insufficientData (degree.toNat + 1) (s.us space).eraseDups.length)))
  | illConditioned (h : Admitted s space degree) (hdegree : 2 ≤ degree.toNat)
    (henough : degree.toNat < (s.us space).eraseDups.length)
    (hnone : solve (degree.toNat + 1) ((s.us space).map (Polynomial.designRow (degree.toNat + 1)))
      (s.vs space) = none) :
    Ends solve s space degree (.error (.refused .illConditioned))
  | line (h : Admitted s space degree) (hdegree : degree = 1)
    (hspread : HasSpread (s.us space) (s.vs space)) {coefficients : List Float}
    (hline : coefficients = [(closedForm (s.us space) (s.vs space)).intercept,
      (closedForm (s.us space) (s.vs space)).slope]) :
    Ends solve s space degree
      (.ok ⟨space, degree, coefficients, .of (s.us space) (s.vs space) coefficients⟩)
  | polynomial (h : Admitted s space degree) (hdegree : 2 ≤ degree.toNat)
    (henough : degree.toNat < (s.us space).eraseDups.length) {coefficients : List Float}
    (hsome : solve (degree.toNat + 1) ((s.us space).map (Polynomial.designRow (degree.toNat + 1)))
      (s.vs space) = some coefficients) :
    Ends solve s space degree
      (.ok ⟨space, degree, coefficients, .of (s.us space) (s.vs space) coefficients⟩)

variable {solve : Solver Float} {s : Series Float} {space : Space} {degree : UInt64}

/-! ## Distinct abscissae -/

section

variable (hx : ∀ x ∈ s.xs, x.isNaN = false)
  (hln : space.logsX = true → ∀ x ∈ s.xs, Scalar.isPositive x = true → (Scalar.ln x).isNaN = false)
  (hsuited : Suited space.logsX s.xs)

include hx hln hsuited

theorem isNaN_of_mem_us : ∀ a ∈ s.us space, a.isNaN = false := by
  intro a ha
  obtain ⟨x, hmem, rfl⟩ := List.mem_map.mp ha
  rw [inSpace]
  split
  · exact hln ‹_› x hmem (hsuited ‹_› x hmem)
  · exact hx x hmem

theorem countDistinct_us : countDistinct (s.us space) = (s.us space).eraseDups.length := by
  have hplaces := Places.double (isNaN_of_mem_us hx hln hsuited)
  rw [countDistinct_eq hplaces, length_eraseDups_eq hplaces]

theorem length_eraseDups_us_le_one_iff :
    (s.us space).eraseDups.length ≤ 1 ↔ ∀ a ∈ s.us space, ∀ b ∈ s.us space, (a == b) = true := by
  have hplaces := Places.double (isNaN_of_mem_us hx hln hsuited)
  rw [length_eraseDups_eq hplaces, Finset.card_le_one]
  constructor
  · intro h a ha b hb
    exact (hplaces.beq a ha b hb).mpr
      (h _ (List.mem_toFinset.mpr (List.mem_map_of_mem ha)) _
        (List.mem_toFinset.mpr (List.mem_map_of_mem hb)))
  · intro h p hp q hq
    obtain ⟨a, ha, rfl⟩ := List.mem_map.mp (List.mem_toFinset.mp hp)
    obtain ⟨b, hb, rfl⟩ := List.mem_map.mp (List.mem_toFinset.mp hq)
    exact (hplaces.beq a ha b hb).mp (h a ha b hb)

end

/-! ## The outcome -/

section

variable (hdegree : degree.toNat + 1 < 2 ^ 64) (hx : ∀ x ∈ s.xs, x.isNaN = false)
  (hln : space.logsX = true → ∀ x ∈ s.xs, Scalar.isPositive x = true → (Scalar.ln x).isNaN = false)

include hdegree hx hln

theorem fitPolynomial_us (h : Admitted s space degree) (h2 : 2 ≤ degree.toNat) :
    fitPolynomial solve (s.us space) (s.vs space) degree =
      if (s.us space).eraseDups.length ≤ 1 then
        .error (.refused (.degenerate ((s.us space).headD 0)))
      else if (s.us space).eraseDups.length ≤ degree.toNat then
        .error (.refused (.insufficientData (degree.toNat + 1) (s.us space).eraseDups.length))
      else
        (solve (degree.toNat + 1) ((s.us space).map (Polynomial.designRow (degree.toNat + 1)))
          (s.vs space)).elim (.error (.refused .illConditioned)) .ok := by
  rw [fitPolynomial_of_two_le _ hdegree h2 (h.size.trans_eq (s.length_us space).symm),
    countDistinct_us hx hln h.suitedX]

/-- An outcome that a series can have is the one its fit has. -/
theorem Ends.eq {r : Except (Stop (FitError Float)) (Fit Float)} (h : Ends solve s space degree r) :
    fitSeriesWith solve s space degree = r := by
  cases h with
  | zeroDegree h0 => rw [fitSeriesWith, if_pos h0]
  | fewPoints h0 hsize => exact fitSeriesWith_of_few hdegree h0 hsize
  | unsuitedX h0 hsize hlogs hfirst =>
    refine fitSeriesWith_of_toSpace_eq_error hdegree h0 hsize ?_
    rw [toSpace_eq_bind, axisInSpace_eq_error_iff.mpr ⟨hlogs, _, _, hfirst, rfl⟩]
    rfl
  | unsuitedY h0 hsize hsuited hlogs hfirst =>
    refine fitSeriesWith_of_toSpace_eq_error hdegree h0 hsize ?_
    rw [toSpace_eq_bind, axisInSpace_eq_ok_iff.mpr ⟨hsuited, rfl⟩]
    show (axisInSpace space.logsY .y s.ys).bind _ = _
    rw [axisInSpace_eq_error_iff.mpr ⟨hlogs, _, _, hfirst, rfl⟩]
    rfl
  | noSpread h h1 hspread hhead =>
    subst h1
    have hlen : 2 ≤ (s.us space).length := h.size.trans_eq (s.length_us space).symm
    rw [fitSeriesWith_of_admitted hdegree h,
      fitInSpace_of_error ((fitPolynomial_one _ hlen).trans (if_neg hspread)),
      inUnitsOf_degenerate hhead]
  | line h h1 hspread hline =>
    subst h1 hline
    have hlen : 2 ≤ (s.us space).length := h.size.trans_eq (s.length_us space).symm
    rw [fitSeriesWith_of_admitted hdegree h,
      fitInSpace_of_ok ((fitPolynomial_one _ hlen).trans (if_pos hspread))]
  | oneAbscissa h h2 hone hhead =>
    have hfit := @fitPolynomial_us solve s space degree hdegree hx hln h h2
    rw [fitSeriesWith_of_admitted hdegree h, fitInSpace_of_error (hfit.trans (if_pos
      ((length_eraseDups_us_le_one_iff hx hln h.suitedX).mpr hone))), inUnitsOf_degenerate hhead]
  | fewAbscissae h h2 hmany hfew =>
    have hfit := @fitPolynomial_us solve s space degree hdegree hx hln h h2
    rw [if_neg (by omega), if_pos hfew] at hfit
    rw [fitSeriesWith_of_admitted hdegree h, fitInSpace_of_error hfit]
    rfl
  | illConditioned h h2 henough hnone =>
    have hfit := @fitPolynomial_us solve s space degree hdegree hx hln h h2
    rw [if_neg (by omega), if_neg (by omega), hnone] at hfit
    rw [fitSeriesWith_of_admitted hdegree h, fitInSpace_of_error hfit]
    rfl
  | polynomial h h2 henough hsome =>
    have hfit := @fitPolynomial_us solve s space degree hdegree hx hln h h2
    rw [if_neg (by omega), if_neg (by omega), hsome] at hfit
    rw [fitSeriesWith_of_admitted hdegree h, fitInSpace_of_ok hfit]

omit hdegree in
/-- Every fit has an outcome. -/
theorem exists_ends : ∃ r, Ends solve s space degree r := by
  by_cases h0 : degree = 0
  · exact ⟨_, .zeroDegree h0⟩
  by_cases hsize : s.size ≤ degree.toNat
  · exact ⟨_, .fewPoints h0 hsize⟩
  rw [Nat.not_le] at hsize
  cases hu : axisInSpace space.logsX .x s.xs with
  | error e =>
    obtain ⟨hlogs, i, v, hfirst, -⟩ := axisInSpace_eq_error_iff.mp hu
    exact ⟨_, .unsuitedX h0 hsize hlogs hfirst⟩
  | ok u =>
  obtain ⟨hsuitedX, -⟩ := axisInSpace_eq_ok_iff.mp hu
  cases hv : axisInSpace space.logsY .y s.ys with
  | error e =>
    obtain ⟨hlogs, i, v, hfirst, -⟩ := axisInSpace_eq_error_iff.mp hv
    exact ⟨_, .unsuitedY h0 hsize hsuitedX hlogs hfirst⟩
  | ok v =>
  obtain ⟨hsuitedY, -⟩ := axisInSpace_eq_ok_iff.mp hv
  have h : Admitted s space degree := ⟨h0, hsize, hsuitedX, hsuitedY⟩
  obtain ⟨x, hhead⟩ := head?_xs hsize
  by_cases h1 : degree = 1
  · by_cases hspread : HasSpread (s.us space) (s.vs space)
    · exact ⟨_, .line h h1 hspread rfl⟩
    · exact ⟨_, .noSpread h h1 hspread hhead⟩
  have h2 : 2 ≤ degree.toNat := two_le_toNat h0 h1
  by_cases hone : ∀ a ∈ s.us space, ∀ b ∈ s.us space, (a == b) = true
  · exact ⟨_, .oneAbscissa h h2 hone hhead⟩
  rw [← length_eraseDups_us_le_one_iff hx hln hsuitedX, Nat.not_le] at hone
  by_cases hfew : (s.us space).eraseDups.length ≤ degree.toNat
  · exact ⟨_, .fewAbscissae h h2 hone hfew⟩
  rw [Nat.not_le] at hfew
  cases hsolve : solve (degree.toNat + 1)
    ((s.us space).map (Polynomial.designRow (degree.toNat + 1))) (s.vs space) with
  | none => exact ⟨_, .illConditioned h h2 hfew hsolve⟩
  | some coefficients => exact ⟨_, .polynomial h h2 hfew hsolve⟩

end

/-- A fit has the space and the degree it was asked for, and counts its points. -/
theorem Ends.of_ok (hsolve : ∀ width rows rhs xs, solve width rows rhs = some xs → xs.length = width)
    {fit : Fit Float} (h : Ends solve s space degree (.ok fit)) :
    fit.space = space ∧ fit.degree = degree ∧ fit.coefficients.length = degree.toNat + 1 ∧
      fit.quality.n = s.size := by
  cases h with
  | line h h1 hspread hline =>
    subst h1 hline
    exact ⟨rfl, rfl, rfl, s.length_us space⟩
  | polynomial h h2 henough hsome =>
    exact ⟨rfl, rfl, hsolve _ _ _ _ hsome, s.length_us space⟩

/-- A degenerate series is reported by its first abscissa, as the series has it. -/
theorem Ends.of_degenerate {x : Float}
    (h : Ends solve s space degree (.error (.refused (.degenerate x)))) : s.xs.head? = some x := by
  cases h with
  | noSpread _ _ _ hhead => exact hhead
  | oneAbscissa _ _ _ hhead => exact hhead

/-- **How a fit ends**, for a solver that gives one coefficient for each unknown. -/
theorem fitSeriesWith_eq_iff (hdegree : degree.toNat + 1 < 2 ^ 64)
    (hsolve : ∀ width rows rhs xs, solve width rows rhs = some xs → xs.length = width)
    (hx : ∀ x ∈ s.xs, x.isNaN = false)
    (hln : space.logsX = true →
      ∀ x ∈ s.xs, Scalar.isPositive x = true → (Scalar.ln x).isNaN = false) :
    (∀ r, fitSeriesWith solve s space degree = r ↔ Ends solve s space degree r) ∧
      (∀ fit, fitSeriesWith solve s space degree = .ok fit →
        fit.space = space ∧ fit.degree = degree ∧
          fit.coefficients.length = degree.toNat + 1 ∧ fit.quality.n = s.size) ∧
      ∀ x, fitSeriesWith solve s space degree = .error (.refused (.degenerate x)) →
        s.xs.head? = some x := by
  have hiff : ∀ r, fitSeriesWith solve s space degree = r ↔ Ends solve s space degree r := by
    intro r
    constructor
    · rintro rfl
      obtain ⟨r, hr⟩ := @exists_ends solve s space degree hx hln
      rwa [hr.eq hdegree hx hln]
    · exact Ends.eq hdegree hx hln
  exact ⟨hiff, fun fit h => Ends.of_ok hsolve ((hiff _).mp h), fun x h =>
    Ends.of_degenerate ((hiff _).mp h)⟩

/-- Three points over two places, which is one place too few for a parabola. -/
def twoPlaces : Series Float :=
  ⟨"two places", [(0, 1), (1, 1), (1, 2)]⟩

theorem fitSeriesWith_eq_iff_twoPlaces :
    fitSeriesWith solve? twoPlaces .linear 2 = .error (.refused (.insufficientData 3 2)) := by
  have hdistinct : (twoPlaces.us .linear).eraseDups.length = 2 := by decide +kernel
  have hadmitted : Admitted twoPlaces .linear 2 := ⟨by decide, by decide, nofun, nofun⟩
  have hends := (@fitSeriesWith_eq_iff solve? twoPlaces .linear 2 (by decide)
    (fun _ _ _ _ => length_of_solve?) (by decide +kernel) nofun).1
  refine (hends _).mpr ?_
  rw [← hdistinct]
  exact .fewAbscissae hadmitted (by decide) (by rw [hdistinct]; decide) hdistinct.le

end Trendline
