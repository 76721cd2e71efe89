import Trendline.Proofs.Double.AtLeast
import Trendline.Proofs.Reals

/-!
# Numbers without rounding

Doubles round, and they have values that are no numbers.  `Extended` keeps the
second and drops the first: a real number, one of two infinities, or no number.
An operation on numbers is exact; the logarithm of zero is an infinity, and that
of a negative number is no number.

An `Evaluation` tells which number a finite scalar is, so that what only compares
scalars is said once for doubles and for numbers without rounding.

* `Evaluation.doubles`, `Evaluation.extended`: the two of them.
* `Evaluation.foldl_least`, `Evaluation.foldl_greatest`: choosing from a list.
-/

namespace Trendline

/-- A real number, an infinity, or no number. -/
inductive Extended where
  | number (r : ℝ)
  | infinity (negative : Bool)
  | undefined

namespace Extended

noncomputable section

/-- The number of a finite one. -/
def toReal : Extended → ℝ
  | number r => r
  | _ => 0

/-- Whether it is below zero. -/
def isNegative : Extended → Prop
  | number r => r < 0
  | infinity negative => negative = true
  | undefined => False

open Classical in
/-- The infinity with the sign of a product. -/
def signed (a b : Extended) : Extended :=
  infinity (decide (a.isNegative) != decide (b.isNegative))

def neg : Extended → Extended
  | number r => number (-r)
  | infinity negative => infinity !negative
  | undefined => undefined

def add : Extended → Extended → Extended
  | number a, number b => number (a + b)
  | number _, infinity s => infinity s
  | infinity s, number _ => infinity s
  | infinity s, infinity t => if s = t then infinity s else undefined
  | _, _ => undefined

open Classical in
def mul : Extended → Extended → Extended
  | number a, number b => number (a * b)
  | number a, infinity s => if a = 0 then undefined else signed (number a) (infinity s)
  | infinity s, number a => if a = 0 then undefined else signed (infinity s) (number a)
  | infinity s, infinity t => signed (infinity s) (infinity t)
  | _, _ => undefined

open Classical in
def div : Extended → Extended → Extended
  | number a, number b =>
    if b ≠ 0 then number (a / b) else if a = 0 then undefined else infinity (decide (a < 0))
  | number _, infinity _ => number 0
  | infinity s, number a => signed (infinity s) (number a)
  | _, _ => undefined

def abs : Extended → Extended
  | number r => number |r|
  | infinity _ => infinity false
  | undefined => undefined

open Classical in
def sqrt : Extended → Extended
  | number r => if 0 ≤ r then number √r else undefined
  | infinity false => infinity false
  | _ => undefined

open Classical in
def ln : Extended → Extended
  | number r => if 0 < r then number (Real.log r) else if r = 0 then infinity true else undefined
  | infinity false => infinity false
  | _ => undefined

def exp : Extended → Extended
  | number r => number (Real.exp r)
  | infinity false => infinity false
  | infinity true => number 0
  | undefined => undefined

def lt : Extended → Extended → Prop
  | number a, number b => a < b
  | infinity s, number _ => s = true
  | number _, infinity s => s = false
  | infinity s, infinity t => s = true ∧ t = false
  | _, _ => False

open Classical in
def beq : Extended → Extended → Bool
  | number a, number b => decide (a = b)
  | infinity s, infinity t => s == t
  | _, _ => false

/-- The nearest natural number, a half away from zero. -/
def round : Extended → Nat
  | number r => Scalar.round r
  | infinity false => Double.wordMax
  | _ => 0

def isNumber : Extended → Bool
  | number _ => true
  | _ => false

instance : Scalar Extended where
  zero := number 0
  one := number 1
  add := add
  sub a b := add a (neg b)
  mul := mul
  div := div
  neg := neg
  lt := lt
  beq := beq
  decLt _ _ := Classical.propDecidable _
  ofNat n := number n
  ofDecimal m k := number (Scalar.ofDecimal m k)
  leastNormal := number Scalar.leastNormal
  undefined := undefined
  isFinite := isNumber
  abs := abs
  sqrt := sqrt
  ln := ln
  exp := exp
  round := round

/-! ## Exact operations -/

theorem isFinite_iff {a : Extended} : Scalar.isFinite a = true ↔ ∃ r, a = number r := by
  cases a with
  | number r => exact ⟨fun _ => ⟨r, rfl⟩, fun _ => rfl⟩
  | infinity s => exact ⟨fun h => absurd h Bool.false_ne_true, fun ⟨_, h⟩ => nomatch h⟩
  | undefined => exact ⟨fun h => absurd h Bool.false_ne_true, fun ⟨_, h⟩ => nomatch h⟩

theorem one_eq : (1 : Extended) = number 1 := rfl

@[simp] theorem number_add (a b : ℝ) : number a + number b = number (a + b) := rfl

@[simp] theorem number_sub (a b : ℝ) : number a - number b = number (a - b) := by
  rw [sub_eq_add_neg]
  rfl

@[simp] theorem number_mul (a b : ℝ) : number a * number b = number (a * b) := rfl

theorem number_div (a : ℝ) {b : ℝ} (h : b ≠ 0) : number a / number b = number (a / b) :=
  if_pos h

@[simp] theorem number_lt (a b : ℝ) : number a < number b ↔ a < b := Iff.rfl

@[simp] theorem abs_number (a : ℝ) : Scalar.abs (number a) = number |a| := rfl

@[simp] theorem round_number (a : ℝ) : Scalar.round (number a) = Scalar.round a := rfl

@[simp] theorem ofNat_eq (n : Nat) : (Scalar.ofNat n : Extended) = number n := rfl

@[simp] theorem ofDecimal_eq (m k : Nat) : (Scalar.ofDecimal m k : Extended) = number (m / 10 ^ k) :=
  rfl

@[simp] theorem isUndefined_number (a : ℝ) : Scalar.isUndefined (number a) = false := by
  show (!decide (a = a)) = false
  simp

theorem greatest_number (a b : ℝ) :
    Scalar.greatest (number a) (number b) = number (max a b) := by
  rw [Scalar.greatest, isUndefined_number, if_neg Bool.false_ne_true]
  by_cases h : a < b
  · rw [if_pos ((number_lt a b).mpr h), max_eq_right h.le]
  · rw [if_neg (mt (number_lt a b).mp h), max_eq_left (not_lt.mp h)]

end

end Extended

/-! ## Evaluations -/

open Scalar

/-- Which number each finite scalar is; finite scalars are compared as their numbers. -/
structure Evaluation (α : Type) [Scalar α] where
  number : α → ℝ
  lt_iff : ∀ {a b : α}, isFinite a = true → isFinite b = true → (a < b ↔ number a < number b)
  defined : ∀ {a : α}, isFinite a = true → isUndefined a = false

namespace Evaluation

/-- Doubles as the numbers they stand for. -/
noncomputable def doubles : Evaluation Float where
  number x := (Double.value x : ℝ)
  lt_iff ha hb := by
    rw [Rat.cast_lt]
    exact Double.lt_iff_value ha hb
  defined := Double.isUndefined_of_isFinite

/-- Numbers without rounding as themselves. -/
noncomputable def extended : Evaluation Extended where
  number := Extended.toReal
  lt_iff ha hb := by
    obtain ⟨a, rfl⟩ := Extended.isFinite_iff.mp ha
    obtain ⟨b, rfl⟩ := Extended.isFinite_iff.mp hb
    exact Iff.rfl
  defined ha := by
    obtain ⟨a, rfl⟩ := Extended.isFinite_iff.mp ha
    exact Extended.isUndefined_number a

variable {α : Type} [Scalar α] (R : Evaluation α)

/-- A choice between two finite scalars that prefers what comes first in an order of numbers. -/
structure Prefers (r : ℝ → ℝ → Prop) (pick : α → α → α) : Prop where
  pick_eq : ∀ {a b : α}, isFinite a = true → pick a b = a ∨ pick a b = b
  rel : ∀ {a b : α}, isFinite a = true → isFinite b = true →
    r (R.number (pick a b)) (R.number a) ∧ r (R.number (pick a b)) (R.number b)

theorem prefers_least : R.Prefers (· ≤ ·) least where
  pick_eq {a b} ha := by
    rw [least, R.defined ha, if_neg Bool.false_ne_true]
    exact (ite_eq_or_eq _ b a).symm
  rel {a b} ha hb := by
    rw [least, R.defined ha, if_neg Bool.false_ne_true]
    by_cases h : b < a
    · rw [if_pos h]
      exact ⟨((R.lt_iff hb ha).mp h).le, le_rfl⟩
    · rw [if_neg h]
      exact ⟨le_rfl, not_lt.mp (mt (R.lt_iff hb ha).mpr h)⟩

theorem prefers_greatest : R.Prefers (· ≥ ·) greatest where
  pick_eq {a b} ha := by
    rw [greatest, R.defined ha, if_neg Bool.false_ne_true]
    exact (ite_eq_or_eq _ b a).symm
  rel {a b} ha hb := by
    rw [greatest, R.defined ha, if_neg Bool.false_ne_true]
    by_cases h : a < b
    · rw [if_pos h]
      exact ⟨((R.lt_iff ha hb).mp h).le, le_rfl⟩
    · rw [if_neg h]
      exact ⟨le_rfl, not_lt.mp (mt (R.lt_iff ha hb).mpr h)⟩

/-- **The choice from a list** is one of its elements, and preferred to all of them. -/
theorem Prefers.foldl {r : ℝ → ℝ → Prop} {pick : α → α → α} (h : R.Prefers r pick)
    (hrefl : ∀ x, r x x) (htrans : ∀ {x y z}, r x y → r y z → r x z) :
    ∀ (l : List α) (a : α), (∀ x ∈ a :: l, isFinite x = true) →
      l.foldl pick a ∈ a :: l ∧ ∀ x ∈ a :: l, r (R.number (l.foldl pick a)) (R.number x) := by
  intro l
  induction l with
  | nil =>
    intro a _
    exact ⟨List.mem_singleton_self a, List.forall_mem_singleton.mpr (hrefl _)⟩
  | cons b rest ih =>
    intro a hfinite
    obtain ⟨ha, hfinite⟩ := List.forall_mem_cons.mp hfinite
    obtain ⟨hb, hrest⟩ := List.forall_mem_cons.mp hfinite
    have hpick : isFinite (pick a b) = true := by
      rcases h.pick_eq (b := b) ha with heq | heq
      · rwa [heq]
      · rwa [heq]
    obtain ⟨hmem, hrel⟩ := ih (pick a b) (List.forall_mem_cons.mpr ⟨hpick, hrest⟩)
    obtain ⟨hfirst, hothers⟩ := List.forall_mem_cons.mp hrel
    obtain ⟨hra, hrb⟩ := h.rel ha hb
    rw [List.foldl_cons]
    constructor
    · rcases List.mem_cons.mp hmem with heq | hmem
      · rw [heq]
        rcases h.pick_eq (b := b) ha with heq' | heq'
        · rw [heq']
          exact List.mem_cons_self
        · rw [heq']
          exact List.mem_cons_of_mem _ List.mem_cons_self
      · exact List.mem_cons_of_mem _ (List.mem_cons_of_mem _ hmem)
    · exact List.forall_mem_cons.mpr ⟨htrans hfirst hra,
        List.forall_mem_cons.mpr ⟨htrans hfirst hrb, hothers⟩⟩

theorem foldl_least {l : List α} {a : α} (h : ∀ x ∈ a :: l, isFinite x = true) :
    l.foldl least a ∈ a :: l ∧ ∀ x ∈ a :: l, R.number (l.foldl least a) ≤ R.number x :=
  R.prefers_least.foldl R le_refl le_trans l a h

theorem foldl_greatest {l : List α} {a : α} (h : ∀ x ∈ a :: l, isFinite x = true) :
    l.foldl greatest a ∈ a :: l ∧ ∀ x ∈ a :: l, R.number x ≤ R.number (l.foldl greatest a) :=
  R.prefers_greatest.foldl R le_refl (fun h h' => le_trans h' h) l a h

end Evaluation

end Trendline
