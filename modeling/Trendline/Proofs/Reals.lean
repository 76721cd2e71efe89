import Mathlib.Analysis.SpecialFunctions.Log.Basic
import Mathlib.Analysis.SpecialFunctions.Sqrt
import Trendline.Scalar

/-!
# The reals as scalars

Over the reals nothing rounds: every number is finite, no operation leaves the
numbers, and `ln` and `exp` undo each other.  Read over this instance, a fit is
the mathematics that the program approximates.

* `sum_eq`, `foldl_add_map`: adding from left to right is the sum of the list.
* `greatest_eq`, `isPositive_iff`: the comparisons are those of the order.
-/

namespace Trendline

noncomputable instance : Scalar ℝ where
  zero := 0
  one := 1
  add a b := a + b
  sub a b := a - b
  mul a b := a * b
  div a b := a / b
  neg a := -a
  lt a b := a < b
  beq a b := decide (a = b)
  decLt a b := Real.decidableLT a b
  ofNat n := n
  ofDecimal m k := m / 10 ^ k
  leastNormal := 1 / 2 ^ 1022
  undefined := 0
  isFinite _ := true
  abs a := |a|
  sqrt := Real.sqrt
  ln := Real.log
  exp := Real.exp
  round a := ⌊a + 1 / 2⌋₊

namespace Scalar

@[simp] theorem ofNat_real (n : Nat) : (ofNat n : ℝ) = n := rfl

@[simp] theorem abs_real (a : ℝ) : abs a = |a| := rfl

@[simp] theorem sqrt_real (a : ℝ) : sqrt a = Real.sqrt a := rfl

@[simp] theorem ln_real (a : ℝ) : ln a = Real.log a := rfl

@[simp] theorem exp_real (a : ℝ) : exp a = Real.exp a := rfl

theorem leastNormal_pos : (0 : ℝ) < leastNormal := by
  show (0 : ℝ) < 1 / 2 ^ 1022
  positivity

theorem leastNormal_le_one : (leastNormal : ℝ) ≤ 1 :=
  div_le_one_of_le₀ (one_le_pow₀ one_le_two) (by positivity)

@[simp] theorem isUndefined_real (a : ℝ) : isUndefined a = false := by
  show (!decide (a = a)) = false
  simp

@[simp] theorem isPositive_iff {a : ℝ} : isPositive a = true ↔ 0 < a := by
  show (true && decide (0 < a)) = true ↔ 0 < a
  simp

theorem greatest_eq (a b : ℝ) : greatest a b = max a b := by
  rw [greatest, isUndefined_real, if_neg (by decide), max_def_lt]

/-- Adding a term for each element from left to right is the sum of the terms. -/
theorem foldl_add_map {β : Type} (f : β → ℝ) : ∀ (l : List β) (a : ℝ),
    l.foldl (fun total x => total + f x) a = a + (l.map f).sum := by
  intro l
  induction l with
  | nil => intro a; simp
  | cons x rest ih => intro a; rw [List.foldl_cons, ih, List.map_cons, List.sum_cons, add_assoc]

theorem sum_eq (xs : List ℝ) : sum xs = xs.sum := by
  show xs.foldl (fun total x => total + x) (-0) = xs.sum
  rw [foldl_add_map (fun x => x), List.map_id', neg_zero, zero_add]

end Scalar

end Trendline
