import Trendline.Proofs.Fit.Positive

/-!
# The checked curve and the plain one

`predictCurve` evaluates a fit everywhere, `predictPositive` only where the
curve can be drawn on a logarithmic axis.  A place is unfit in one of two ways:
`x` is outside the domain of the fit, or the curve is no positive number there.

* `FirstUnfit`: the first unfit place of a list, with what is wrong there.
* `curveFault?_eq_some_iff`: this place is the one that is reported.
* `predictPositive_outcomes`: the checked curve is the plain one or a report.
-/

namespace Trendline.Fit

variable {α : Type} [Scalar α]

/-- The domain of a fit: all scalars, or the numbers above zero if the space takes logarithms of
`x`. -/
def Domain (fit : Fit α) (x : α) : Prop :=
  fit.space ≠ .linear → Scalar.isFinite x = true ∧ 0 < x

/-- Whether the curve is a number above zero. -/
def IsPositive (fit : Fit α) (x : α) : Prop :=
  Scalar.isFinite (fit.predict x) = true ∧ 0 < fit.predict x

/-- What is wrong at an unfit place: the axis, and the value there. -/
inductive Unfit (fit : Fit α) (x : α) : Axis → α → Prop
  | outside (h : ¬ fit.Domain x) : Unfit fit x .x x
  | notPositive (h : fit.Domain x) (hy : ¬ fit.IsPositive x) : Unfit fit x .y (fit.predict x)

/-- The first unfit place of a list, and what is wrong there. -/
structure FirstUnfit (fit : Fit α) (xs : List α) (i : Nat) (axis : Axis) (value : α) : Prop where
  place : ∃ x, xs[i]? = some x ∧ fit.Unfit x axis value
  before : ∀ j < i, ∀ x, xs[j]? = some x → fit.Domain x ∧ fit.IsPositive x

variable {fit : Fit α} {x : α}

theorem inDomain_iff : fit.inDomain x = true ↔ fit.Domain x := by
  rw [inDomain, Domain]
  cases fit.space <;> simp [Space.logsX, Scalar.isPositive]

theorem isPositiveAt_iff : fit.isPositiveAt x = true ↔ fit.Domain x ∧ fit.IsPositive x := by
  rw [isPositiveAt, Bool.and_eq_true, inDomain_iff, Scalar.isPositive, Bool.and_eq_true,
    decide_eq_true_iff, IsPositive]

/-- **The error for an unfit place** tells what is wrong there. -/
theorem faultAt_eq_iff (h : fit.isPositiveAt x = false) {i : Nat} {e : FitError α} :
    fit.faultAt x i = e ↔ ∃ axis value, fit.Unfit x axis value ∧ e = .nonPositive axis i value := by
  rw [← Bool.not_eq_true, isPositiveAt_iff] at h
  rw [faultAt]
  cases hx : fit.inDomain x with
  | true =>
    have hdomain := inDomain_iff.mp hx
    have hy : ¬ fit.IsPositive x := fun hy => h ⟨hdomain, hy⟩
    rw [if_pos rfl]
    constructor
    · rintro rfl
      exact ⟨.y, _, .notPositive hdomain hy, rfl⟩
    · rintro ⟨_, _, hout | hpos, rfl⟩
      · exact absurd hdomain hout
      · rfl
  | false =>
    have hout : ¬ fit.Domain x := by rw [← inDomain_iff, hx]; exact Bool.false_ne_true
    rw [if_neg Bool.false_ne_true]
    constructor
    · rintro rfl
      exact ⟨.x, x, .outside hout, rfl⟩
    · rintro ⟨_, _, hout' | hdomain, rfl⟩
      · rfl
      · exact absurd hdomain hout

/-- **The first unfit place is the one that is reported.** -/
theorem curveFault?_eq_some_iff {xs : List α} {e : FitError α} : fit.curveFault? xs = some e ↔
    ∃ i axis value, fit.FirstUnfit xs i axis value ∧ e = .nonPositive axis i value := by
  rw [curveFault?, Option.map_eq_some_iff]
  constructor
  · rintro ⟨⟨x, i⟩, hfind, hfault⟩
    obtain ⟨hx, j, hj, hplace, hbefore⟩ := List.find?_eq_some_iff_getElem.mp hfind
    rw [List.getElem_zipIdx, Prod.mk.injEq, Nat.zero_add] at hplace
    obtain ⟨rfl, rfl⟩ := hplace
    rw [List.length_zipIdx] at hj
    obtain ⟨axis, value, hunfit, he⟩ := (faultAt_eq_iff (by simpa using hx)).mp hfault
    refine ⟨j, axis, value, ⟨⟨_, List.getElem?_eq_getElem hj, hunfit⟩, ?_⟩, he⟩
    intro k hk w hw
    obtain ⟨hk', rfl⟩ := List.getElem?_eq_some_iff.mp hw
    have hgood := hbefore k hk
    rw [List.getElem_zipIdx, Bool.not_not] at hgood
    exact isPositiveAt_iff.mp hgood
  · rintro ⟨i, axis, value, ⟨⟨x, hplace, hunfit⟩, hbefore⟩, rfl⟩
    obtain ⟨hi, rfl⟩ := List.getElem?_eq_some_iff.mp hplace
    have hbad : fit.isPositiveAt xs[i] = false := by
      rw [← Bool.not_eq_true, isPositiveAt_iff]
      rintro ⟨hdomain, hy⟩
      cases hunfit with
      | outside hout => exact hout hdomain
      | notPositive _ hneg => exact hneg hy
    refine ⟨(xs[i], i), List.find?_eq_some_iff_getElem.mpr ⟨by simp [hbad], i, ?_, ?_, ?_⟩,
      (faultAt_eq_iff hbad).mpr ⟨axis, value, hunfit, rfl⟩⟩
    · rwa [List.length_zipIdx]
    · rw [List.getElem_zipIdx, Nat.zero_add]
    · intro j hj
      rw [List.getElem_zipIdx, Bool.not_not]
      exact isPositiveAt_iff.mpr (hbefore j hj _ (List.getElem?_eq_getElem (Nat.lt_trans hj hi)))

/-- **The checked curve agrees with the plain one.**  It is given when every `x` is in the domain and
the curve is a number above zero at each, and then it is the plain curve; otherwise the first place
that is unfit is reported, with `x` if that is outside the domain and else with the value of the
curve. -/
theorem predictPositive_outcomes (fit : Fit α) (xs : List α) :
    (∀ ys, fit.predictPositive xs = .ok ys ↔
      (∀ x ∈ xs, fit.Domain x ∧ fit.IsPositive x) ∧ ys = fit.predictCurve xs) ∧
    ∀ e, fit.predictPositive xs = .error e ↔
      ∃ i axis value, fit.FirstUnfit xs i axis value ∧ e = .nonPositive axis i value := by
  constructor
  · intro ys
    rw [predictPositive_eq_ok_iff]
    simp only [isPositiveAt_iff]
  · intro e
    rw [← fault?_eq_some_iff, fault?_predictPositive, curveFault?_eq_some_iff]

end Trendline.Fit
