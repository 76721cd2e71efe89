import Mathlib.Algebra.Order.Field.Basic
import Mathlib.Algebra.Order.Field.Power
import Mathlib.Tactic.FieldSimp
import Mathlib.Tactic.NormNum
import Mathlib.Tactic.Ring
import Trendline.Proofs.Decimal.Quotient
import Trendline.Proofs.Double.Bits

/-!
# The nearest double

Exact statements about the rounding of a quotient to a double, in rational
numbers.

* `floorLog2_spec`: the logarithm of a quotient.
* `RoundsTo`: the interval of the numbers nearest to `m * 2 ^ q`.
* `nearestBits_of_roundsTo`: a quotient in this interval is rounded to the
  pattern of `m * 2 ^ q`.
-/

namespace Trendline.Double

open Trendline.Decimal

/-! ## Logarithms -/

/-- A quotient divided by `2 ^ e`. -/
def scaled (num den : Nat) (e : Int) : Nat × Nat :=
  if 0 ≤ e then (num, den * Nat.pow 2 e.toNat) else (num * Nat.pow 2 (-e).toNat, den)

theorem zpow_toNat {b : ℚ} {e : Int} (h : 0 ≤ e) : b ^ e.toNat = b ^ e := by
  rw [← zpow_natCast, Int.toNat_of_nonneg h]

theorem scaled_snd_pos {num den : Nat} (hden : 0 < den) (e : Int) : 0 < (scaled num den e).2 := by
  unfold scaled
  split
  · exact Nat.mul_pos hden (Nat.two_pow_pos _)
  · exact hden

theorem scaled_div (num den : Nat) (e : Int) :
    ((scaled num den e).1 : ℚ) / (scaled num den e).2 = num / den / 2 ^ e := by
  unfold scaled
  split
  · rename_i h
    simp only [Nat.pow_eq]
    push_cast
    rw [zpow_toNat h, div_div]
  · rename_i h
    simp only [Nat.pow_eq]
    push_cast
    rw [zpow_toNat (by omega), zpow_neg]
    rw [div_eq_mul_inv _ ((2 : ℚ) ^ e)]
    ring

theorem floorLog2_eq (num den : Nat) :
    floorLog2 num den =
      if (scaled num den ((num.log2 : Int) - den.log2)).1 <
          (scaled num den ((num.log2 : Int) - den.log2)).2 then
        (num.log2 : Int) - den.log2 - 1
      else (num.log2 : Int) - den.log2 := by
  unfold floorLog2 scaled
  rfl

theorem zpow_log2_le {n : Nat} (h : 0 < n) : (2 : ℚ) ^ (n.log2 : Int) ≤ n := by
  rw [zpow_natCast]
  exact_mod_cast Nat.log2_self_le (Nat.ne_of_gt h)

theorem lt_zpow_log2 (n : Nat) : (n : ℚ) < 2 ^ ((n.log2 : Int) + 1) := by
  have h : n < 2 ^ (n.log2 + 1) := Nat.lt_log2_self
  rw [← Nat.cast_succ, zpow_natCast]
  exact_mod_cast h

/-- A quotient lies between the power of two at its logarithm and the next one. -/
theorem floorLog2_spec {num den : Nat} (hnum : 0 < num) (hden : 0 < den) :
    (2 : ℚ) ^ floorLog2 num den ≤ num / den ∧ (num / den : ℚ) < 2 ^ (floorLog2 num den + 1) := by
  have hd : (0 : ℚ) < den := by exact_mod_cast hden
  have two : (2 : ℚ) ≠ 0 := by norm_num
  have hpow : ∀ e : Int, (0 : ℚ) < 2 ^ e := fun e => zpow_pos (by norm_num) e
  rw [floorLog2_eq]
  generalize hl : (num.log2 : Int) - den.log2 = l
  have hs : (0 : ℚ) < (scaled num den l).2 := by exact_mod_cast scaled_snd_pos hden l
  have hscaled : (scaled num den l).1 < (scaled num den l).2 ↔ (num / den : ℚ) < 2 ^ l := by
    rw [← div_lt_one (hpow l), ← scaled_div, div_lt_one hs]
    exact_mod_cast Iff.rfl
  by_cases h : (scaled num den l).1 < (scaled num den l).2
  · rw [if_pos h, sub_add_cancel]
    refine ⟨?_, hscaled.mp h⟩
    rw [le_div_iff₀ hd]
    calc (2 : ℚ) ^ (l - 1) * den ≤ 2 ^ (l - 1) * 2 ^ ((den.log2 : Int) + 1) := by
          exact mul_le_mul_of_nonneg_left (lt_zpow_log2 den).le (hpow _).le
      _ = 2 ^ (num.log2 : Int) := by
          rw [← zpow_add₀ two]
          congr 1
          omega
      _ ≤ num := zpow_log2_le hnum
  · rw [if_neg h]
    refine ⟨not_lt.mp (mt hscaled.mpr h), ?_⟩
    rw [div_lt_iff₀ hd]
    calc (num : ℚ) < 2 ^ ((num.log2 : Int) + 1) := lt_zpow_log2 num
      _ = 2 ^ (l + 1) * 2 ^ (den.log2 : Int) := by
          rw [← zpow_add₀ two]
          congr 1
          omega
      _ ≤ 2 ^ (l + 1) * den := mul_le_mul_of_nonneg_left (zpow_log2_le hden) (hpow _).le

theorem le_floorLog2_iff {num den : Nat} (hnum : 0 < num) (hden : 0 < den) {l : Int} :
    l ≤ floorLog2 num den ↔ (2 : ℚ) ^ l ≤ num / den := by
  have one_lt : (1 : ℚ) < 2 := by norm_num
  obtain ⟨hlow, hhigh⟩ := floorLog2_spec hnum hden
  constructor
  · intro h
    exact (zpow_le_zpow_right₀ one_lt.le h).trans hlow
  · intro h
    have := (zpow_lt_zpow_iff_right₀ one_lt).mp (h.trans_lt hhigh)
    omega

/-- The same with a power of two taken out. -/
theorem add_le_floorLog2_iff {num den : Nat} (hnum : 0 < num) (hden : 0 < den) {l q : Int} :
    l + q ≤ floorLog2 num den ↔ (2 : ℚ) ^ l ≤ (num / den : ℚ) / 2 ^ q := by
  rw [le_floorLog2_iff hnum hden, zpow_add₀ (by norm_num), le_div_iff₀ (zpow_pos (by norm_num) q)]

/-! ## The unit -/

/-- The power of two of the unit that quotients of this size are rounded to. -/
def unitExponent (num den : Nat) : Int :=
  max (-1074) (floorLog2 num den - 52)

theorem nearestBits_eq {num den : Nat} (hnum : 0 < num) :
    nearestBits num den =
      min infinityBits ((unitExponent num den + 1074).toNat * 2 ^ 52 +
        roundDiv .toEven (scaled num den (unitExponent num den)).1
          (scaled num den (unitExponent num den)).2) := by
  unfold nearestBits
  rw [if_neg (Nat.ne_of_gt hnum)]
  rfl

/-! ## The interval of a double -/

/-- A mantissa and a power of two as they stand in a pattern. -/
structure Canonical (m : Nat) (q : Int) : Prop where
  pos : 0 < m
  lt : m < 2 ^ 53
  low : -1074 ≤ q
  high : q ≤ 971
  full : -1074 < q → 2 ^ 52 ≤ m

theorem canonical_unpack {bits : Nat} (h0 : bits ≠ 0) (h : bits < infinityBits) :
    Canonical (unpack bits).1 (unpack bits).2 := by
  have hI := infinityBits_eq
  rcases Nat.lt_or_ge bits (2 ^ 52) with hlt | hge
  · rw [unpack_of_lt hlt]
    exact ⟨by dsimp only; omega, by dsimp only; omega, by norm_num, by norm_num,
      fun h => absurd h (by norm_num)⟩
  · rw [unpack_of_le hge]
    exact ⟨by dsimp only; omega, by dsimp only; omega, by dsimp only; omega, by dsimp only; omega,
      fun _ => by dsimp only; omega⟩

/-- Where the numbers that round to `m * 2 ^ q` begin, in quarters of `2 ^ q`. -/
def lowQuarters (m : Nat) (q : Int) : Nat :=
  if m = Nat.pow 2 52 ∧ -1074 < q then 4 * m - 1 else 4 * m - 2

/-- Whether a number is nearest to `m * 2 ^ q`. -/
def RoundsTo (m : Nat) (q : Int) (x : ℚ) : Prop :=
  Within m (lowQuarters m q * 2 ^ (q - 2)) ((4 * m + 2 : Nat) * 2 ^ (q - 2)) x

theorem zpow_sub_two (q : Int) : (2 : ℚ) ^ (q - 2) = 2 ^ q / 4 := by
  rw [zpow_sub₀ (by norm_num)]
  norm_num

theorem roundsTo_iff {m : Nat} {q : Int} {x : ℚ} :
    RoundsTo m q x ↔ Within m (lowQuarters m q / 4) (m + 1 / 2) (x / 2 ^ q) := by
  have hpow : (0 : ℚ) < 2 ^ q := zpow_pos (by norm_num) q
  rw [within_div_iff hpow, RoundsTo, zpow_sub_two]
  have h1 : (lowQuarters m q : ℚ) * (2 ^ q / 4) = lowQuarters m q / 4 * 2 ^ q := by ring
  have h2 : ((4 * m + 2 : Nat) : ℚ) * (2 ^ q / 4) = (m + 1 / 2) * 2 ^ q := by
    push_cast
    ring
  rw [h1, h2]

theorem le_lowQuarters (m : Nat) (q : Int) : (m : ℚ) - 1 / 2 ≤ lowQuarters m q / 4 := by
  have h : 4 * m ≤ lowQuarters m q + 2 := by
    unfold lowQuarters
    split <;> omega
  have h' : (4 * m : ℚ) ≤ lowQuarters m q + 2 := by exact_mod_cast h
  linarith

theorem lowQuarters_le {m : Nat} (hm : 0 < m) (q : Int) :
    (lowQuarters m q : ℚ) / 4 ≤ m - 1 / 4 := by
  have h : lowQuarters m q + 1 ≤ 4 * m := by
    unfold lowQuarters
    split <;> omega
  have h' : (lowQuarters m q + 1 : ℚ) ≤ 4 * m := by exact_mod_cast h
  linarith

theorem RoundsTo.pos {m : Nat} {q : Int} {x : ℚ} (hm : 0 < m) (h : RoundsTo m q x) : 0 < x := by
  have hpow : (0 : ℚ) < 2 ^ q := zpow_pos (by norm_num) q
  have hm' : (1 : ℚ) ≤ m := by exact_mod_cast hm
  have hlow := (roundsTo_iff.mp h).1
  have := le_lowQuarters m q
  have : 0 < x / 2 ^ q := by linarith
  exact (div_pos_iff_of_pos_right hpow).mp this

theorem roundsTo_self {m : Nat} {q : Int} (hm : 0 < m) : RoundsTo m q (m * 2 ^ q) := by
  have hpow : (2 : ℚ) ^ q ≠ 0 := (zpow_pos (by norm_num) q).ne'
  have hquarters := lowQuarters_le hm q
  rw [roundsTo_iff, mul_div_cancel_right₀ _ hpow]
  exact ⟨by linarith, by linarith, .inr ⟨by linarith, by linarith⟩⟩

/-! ## Rounding into the interval -/

/-- Only a power of two is rounded to from below the range of its mantissa. -/
theorem RoundsTo.eq_of_lt {m : Nat} {q : Int} {x : ℚ} (hc : Canonical m q) (h : RoundsTo m q x)
    (hq : -1074 < q) (hx : x / 2 ^ q < 2 ^ (52 : Int)) :
    m = 2 ^ 52 ∧ (2 : ℚ) ^ (52 : Int) - 1 / 4 ≤ x / 2 ^ q := by
  have hlow := le_lowQuarters m q
  have hwithin := (roundsTo_iff.mp h).1
  have hfull := hc.full hq
  have hm : m = 2 ^ 52 := by
    by_contra hne
    have hlt : (2 : ℚ) ^ (52 : Int) + 1 ≤ m := by exact_mod_cast (show 2 ^ 52 + 1 ≤ m by omega)
    linarith
  have hquarters : (lowQuarters m q : ℚ) / 4 = 2 ^ (52 : Int) - 1 / 4 := by
    rw [lowQuarters, if_pos ⟨hm, hq⟩, hm]
    norm_num
  exact ⟨hm, hquarters ▸ hwithin⟩

section

variable {m : Nat} {q : Int} {num den : Nat} (hc : Canonical m q) (hnum : 0 < num) (hden : 0 < den)
  (h : RoundsTo m q (num / den))

include hc hnum hden h

theorem floorLog2_lt_of_roundsTo : floorLog2 num den < 53 + q := by
  have hlt : (m : ℚ) + 1 ≤ 2 ^ (53 : Int) := by exact_mod_cast hc.lt
  have hhigh := (roundsTo_iff.mp h).2.1
  rw [← not_le, add_le_floorLog2_iff hnum hden, not_le]
  linarith

theorem unitExponent_eq (hx : (2 : ℚ) ^ (52 : Int) ≤ (num / den : ℚ) / 2 ^ q ∨ q = -1074) :
    unitExponent num den = q := by
  have hlt := floorLog2_lt_of_roundsTo hc hnum hden h
  have hlow := hc.low
  unfold unitExponent
  rcases hx with hx | hx
  · have := (add_le_floorLog2_iff hnum hden).mpr hx
    omega
  · omega

/-- Just below a power of two the units are half as large. -/
theorem unitExponent_eq_sub_one (hq : -1074 < q)
    (hx : (num / den : ℚ) / 2 ^ q < 2 ^ (52 : Int)) : unitExponent num den = q - 1 := by
  obtain ⟨-, hnear⟩ := h.eq_of_lt hc hq hx
  have hhigh : ¬ 52 + q ≤ floorLog2 num den := by
    rw [add_le_floorLog2_iff hnum hden, not_le]
    exact hx
  have hlow : 51 + q ≤ floorLog2 num den := by
    rw [add_le_floorLog2_iff hnum hden]
    refine le_trans ?_ hnear
    norm_num
  unfold unitExponent
  omega

/-- The mantissa of a number that rounds to `m * 2 ^ q`, in the unit of the number. -/
theorem exists_mantissa :
    ∃ k, Within k (k - 1 / 2) (k + 1 / 2) ((num / den : ℚ) / 2 ^ unitExponent num den) ∧
      (unitExponent num den + 1074).toNat * 2 ^ 52 + k = (q + 1074).toNat * 2 ^ 52 + m := by
  have hlow := hc.low
  by_cases hx : (2 : ℚ) ^ (52 : Int) ≤ (num / den : ℚ) / 2 ^ q ∨ q = -1074
  · rw [unitExponent_eq hc hnum hden h hx]
    exact ⟨m, (roundsTo_iff.mp h).mono (le_lowQuarters m q) le_rfl, rfl⟩
  · obtain ⟨hlt, hq⟩ := not_or.mp hx
    have hlt' := not_le.mp hlt
    have hq' : -1074 < q := by omega
    obtain ⟨hm, hnear⟩ := h.eq_of_lt hc hq' hlt'
    have hhalf : (num / den : ℚ) / 2 ^ (q - 1) = 2 * ((num / den : ℚ) / 2 ^ q) := by
      rw [zpow_sub₀ (by norm_num)]
      field_simp
    rw [unitExponent_eq_sub_one hc hnum hden h hq' hlt', hhalf]
    -- the mantissa has one digit more, and it is even
    refine ⟨2 ^ 53, ⟨?_, ?_, .inl (by decide)⟩, by omega⟩
    · push_cast
      norm_num at hnear ⊢
      linarith
    · push_cast
      norm_num at hlt' ⊢
      linarith

/-- **A quotient is rounded to the double whose interval it lies in.** -/
theorem nearestBits_of_roundsTo : nearestBits num den = (q + 1074).toNat * 2 ^ 52 + m := by
  obtain ⟨k, hk, hbits⟩ := exists_mantissa hc hnum hden h
  rw [← scaled_div] at hk
  rw [nearestBits_eq hnum, roundDiv_toEven_eq (scaled_snd_pos hden _) hk, hbits]
  apply Nat.min_eq_right
  have hI := infinityBits_eq
  have := hc.lt
  have := hc.high
  omega

end

end Trendline.Double
