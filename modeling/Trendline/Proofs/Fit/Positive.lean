import Trendline.Fit
import Trendline.Proofs.Errors

/-!
# Values for a logarithmic axis

Both checks for a logarithmic axis go through a list and stop at the first value
that is no positive number: `lnAll` over data, `predictPositive` over the values
of a curve.

* `fault?_lnAll`, `fault?_predictPositive`: which error a check ends with.
* `nonPositive?_eq_none_iff`, `predictPositive_eq_ok_iff`: when a check passes,
  and what it gives.
-/

namespace Trendline

variable {α : Type} [Scalar α]

/-- The error for the first value that is no positive number. -/
def nonPositive? (axis : Axis) (values : List α) : Option (FitError α) :=
  (values.zipIdx.find? (!Scalar.isPositive ·.1)).map fun (value, index) =>
    .nonPositive axis index value

theorem fault?_lnFrom (axis : Axis) : ∀ (values : List α) (start : Nat),
    fault? (lnFrom axis start values) =
      ((values.zipIdx start).find? (!Scalar.isPositive ·.1)).map fun (value, index) =>
        .nonPositive axis index value := by
  intro values
  induction values with
  | nil => intro _; rfl
  | cons value rest ih =>
    intro start
    rw [lnFrom, List.zipIdx_cons]
    cases h : Scalar.isPositive value with
    | true =>
      rw [if_pos rfl, fault?_bind_pure, ih, List.find?_cons_of_neg (by simp [h])]
    | false =>
      rw [if_neg Bool.false_ne_true, List.find?_cons_of_pos (by simp [h])]
      rfl

theorem fault?_lnAll (axis : Axis) (values : List α) :
    fault? (lnAll axis values) = nonPositive? axis values :=
  fault?_lnFrom axis values 0

theorem nonPositive?_eq_none_iff {axis : Axis} {values : List α} :
    nonPositive? axis values = none ↔ ∀ v ∈ values, Scalar.isPositive v = true := by
  rw [nonPositive?, Option.map_eq_none_iff, List.find?_eq_none]
  constructor
  · intro h v hv
    obtain ⟨i, hi, rfl⟩ := List.getElem_of_mem hv
    simpa using h (values[i], i) (List.mk_mem_zipIdx_iff_getElem?.mpr (List.getElem?_eq_getElem hi))
  · rintro h ⟨v, i⟩ hv
    simpa using h v (List.fst_mem_of_mem_zipIdx hv)

namespace Fit

variable (fit : Fit α)

/-- Whether the curve is defined at `x` and has a positive number there. -/
def isPositiveAt (x : α) : Bool :=
  fit.inDomain x && Scalar.isPositive (fit.predict x)

/-- The error for a place where the curve is not defined or not positive. -/
def faultAt (x : α) (index : Nat) : FitError α :=
  if fit.inDomain x then .nonPositive .y index (fit.predict x) else .nonPositive .x index x

/-- The error for the first such place. -/
def curveFault? (xs : List α) : Option (FitError α) :=
  (xs.zipIdx.find? (!fit.isPositiveAt ·.1)).map fun (x, index) => fit.faultAt x index

theorem predictPositiveFrom_cons (index : Nat) (x : α) (rest : List α) :
    fit.predictPositiveFrom index (x :: rest) =
      if fit.isPositiveAt x then
        (fit.predictPositiveFrom (index + 1) rest) >>= fun ys => pure (fit.predict x :: ys)
      else .error (fit.faultAt x index) := by
  rw [predictPositiveFrom, predictChecked, isPositiveAt, faultAt]
  cases fit.inDomain x with
  | false => rfl
  | true =>
    show (if Scalar.isPositive (fit.predict x) then _ else _) = _
    cases Scalar.isPositive (fit.predict x) <;> rfl

theorem fault?_predictPositiveFrom : ∀ (xs : List α) (start : Nat),
    fault? (fit.predictPositiveFrom start xs) =
      ((xs.zipIdx start).find? (!fit.isPositiveAt ·.1)).map fun (x, index) =>
        fit.faultAt x index := by
  intro xs
  induction xs with
  | nil => intro _; rfl
  | cons x rest ih =>
    intro start
    rw [predictPositiveFrom_cons, List.zipIdx_cons]
    cases h : fit.isPositiveAt x with
    | true => rw [if_pos rfl, fault?_bind_pure, ih, List.find?_cons_of_neg (by simp [h])]
    | false =>
      rw [if_neg Bool.false_ne_true, List.find?_cons_of_pos (by simp [h])]
      rfl

theorem fault?_predictPositive (xs : List α) :
    fault? (fit.predictPositive xs) = fit.curveFault? xs :=
  fit.fault?_predictPositiveFrom xs 0

theorem predictPositiveFrom_eq_ok_iff : ∀ {xs : List α} {start : Nat} {ys : List α},
    fit.predictPositiveFrom start xs = .ok ys ↔
      (∀ x ∈ xs, fit.isPositiveAt x = true) ∧ ys = fit.predictCurve xs := by
  intro xs
  induction xs with
  | nil =>
    intro start ys
    exact ⟨fun h => ⟨nofun, (Except.ok.inj h).symm⟩, fun h => congrArg Except.ok h.2.symm⟩
  | cons x rest ih =>
    intro start ys
    rw [predictPositiveFrom_cons, List.forall_mem_cons]
    cases fit.isPositiveAt x with
    | true =>
      rw [if_pos rfl, bind_eq_ok_iff]
      constructor
      · rintro ⟨zs, hzs, h⟩
        obtain ⟨hrest, rfl⟩ := ih.mp hzs
        exact ⟨⟨rfl, hrest⟩, (Except.ok.inj h).symm⟩
      · rintro ⟨⟨-, hrest⟩, rfl⟩
        exact ⟨_, ih.mpr ⟨hrest, rfl⟩, rfl⟩
    | false => simp

/-- **The check of a curve passes** when the curve is a positive number at every place, and gives
these numbers. -/
theorem predictPositive_eq_ok_iff {xs ys : List α} :
    fit.predictPositive xs = .ok ys ↔
      (∀ x ∈ xs, fit.isPositiveAt x = true) ∧ ys = fit.predictCurve xs :=
  fit.predictPositiveFrom_eq_ok_iff

theorem exists_predictPositive_iff {xs : List α} :
    (∃ ys, fit.predictPositive xs = .ok ys) ↔ ∀ x ∈ xs, fit.isPositiveAt x = true := by
  simp only [predictPositive_eq_ok_iff, exists_and_left, exists_eq, and_true]

end Fit

end Trendline
