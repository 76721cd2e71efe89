import Trendline.Decimal.Reader
import Trendline.Proofs.Decimal.Shortest

/-!
# The double of a numeral

* `nearest_bits`: a numeral that rounds to `m * 2 ^ q` is read as this double;
  the guards against huge exponents never cut one off.
* `nearest_eq_of_roundsTo`: the same for the mantissa of a given double.
-/

namespace Trendline.Decimal

open Trendline.Double

theorem value_lt_pow (n : Numeral) : n.value < 10 ^ (n.exponent + digitCount n.digits) := by
  have h : (n.digits : ℚ) < 10 ^ digitCount n.digits := by exact_mod_cast lt_pow_digitCount n.digits
  rw [Numeral.value, zpow_add₀ (by norm_num), zpow_natCast, mul_comm]
  exact mul_lt_mul_of_pos_left h (zpow_pos (by norm_num) _)

theorem pow_le_value {n : Numeral} (hn : 0 < n.digits) :
    (10 : ℚ) ^ (n.exponent + digitCount n.digits - 1) ≤ n.value := by
  have hpos : 0 < digitCount n.digits := Nat.length_toDigits_pos
  have hexp : n.exponent + digitCount n.digits - 1 =
      n.exponent + ((digitCount n.digits - 1 : Nat) : Int) := by omega
  have h : (10 : ℚ) ^ (digitCount n.digits - 1) ≤ n.digits := by exact_mod_cast pow_digitCount_le hn
  rw [hexp, Numeral.value, zpow_add₀ (by norm_num), zpow_natCast, mul_comm]
  exact mul_le_mul_of_nonneg_right h (zpow_pos (by norm_num) _).le

section

variable {m : Nat} {q : Int} {x : ℚ}

/-- No number that rounds to a double is smaller than half the least one. -/
theorem le_of_roundsTo (hc : Canonical m q) (h : RoundsTo m q x) : (2 : ℚ) ^ (-1075 : Int) ≤ x := by
  have hm : (1 : ℚ) ≤ m := by exact_mod_cast hc.pos
  have hlow := le_lowQuarters m q
  have hpow : (2 : ℚ) ^ (-1074 : Int) ≤ 2 ^ q := zpow_le_zpow_right₀ (by norm_num) hc.low
  have h1 := (roundsTo_iff.mp h).1
  rw [le_div_iff₀ (zpow_pos (by norm_num) q)] at h1
  have hhalf : (2 : ℚ) ^ (-1075 : Int) = 1 / 2 * 2 ^ (-1074 : Int) := by
    rw [show (-1075 : Int) = -1074 - 1 by norm_num, zpow_sub₀ (by norm_num)]
    ring
  rw [hhalf]
  calc (1 / 2 : ℚ) * 2 ^ (-1074 : Int) ≤ lowQuarters m q / 4 * 2 ^ q :=
        mul_le_mul (by linarith) hpow (by positivity) (by linarith)
    _ ≤ x := h1

/-- No number that rounds to a double is larger than the next power of two. -/
theorem le_two_pow_of_roundsTo (hc : Canonical m q) (h : RoundsTo m q x) :
    x ≤ (2 : ℚ) ^ (1024 : Int) := by
  have hm : (m : ℚ) + 1 ≤ 2 ^ 53 := by exact_mod_cast hc.lt
  have hpow : (2 : ℚ) ^ q ≤ 2 ^ (971 : Int) := zpow_le_zpow_right₀ (by norm_num) hc.high
  have h2 := (roundsTo_iff.mp h).2.1
  rw [div_le_iff₀ (zpow_pos (by norm_num) q)] at h2
  calc x ≤ (m + 1 / 2) * 2 ^ q := h2
    _ ≤ 2 ^ (53 : Int) * 2 ^ (971 : Int) := by
        apply mul_le_mul _ hpow (by positivity) (by positivity)
        rw [zpow_ofNat]
        linarith
    _ = 2 ^ (1024 : Int) := by rw [← zpow_add₀ (by norm_num)]; norm_num

theorem digits_pos_of_roundsTo {n : Numeral} (hm : 0 < m) (h : RoundsTo m q n.value) :
    0 < n.digits := by
  have hpos := h.pos hm
  by_contra h0
  rw [Numeral.value, Nat.eq_zero_of_not_pos h0, Nat.cast_zero, zero_mul] at hpos
  exact lt_irrefl _ hpos

theorem toDouble_bits {n : Numeral} (negative : Bool) (hc : Canonical m q)
    (h : RoundsTo m q n.value) :
    magnitudeBits (n.toDouble negative) = (q + 1074).toNat * 2 ^ 52 + m ∧
      isNegative (n.toDouble negative) = negative := by
  have h10 := zpow_mul_toNat (b := 10) (by norm_num) n.exponent
  have hvalue : ((n.digits * Nat.pow 10 n.exponent.toNat : Nat) : ℚ) /
      (Nat.pow 10 (-n.exponent).toNat : Nat) = n.value := by
    rw [Nat.pow_eq, Nat.pow_eq, Numeral.value]
    push_cast
    rw [← h10]
    field_simp
  have hden : 0 < Nat.pow 10 (-n.exponent).toNat := Nat.pow_pos (by decide)
  have hnum : 0 < n.digits * Nat.pow 10 n.exponent.toNat := by
    have hpos := h.pos hc.pos
    rw [← hvalue] at hpos
    by_contra h0
    rw [Nat.eq_zero_of_not_pos h0, Nat.cast_zero, zero_div] at hpos
    exact lt_irrefl _ hpos
  obtain ⟨hbits, hsign⟩ := ofRatio_bits negative (n.digits * Nat.pow 10 n.exponent.toNat)
    (Nat.pow 10 (-n.exponent).toNat)
  refine ⟨?_, hsign⟩
  rw [Numeral.toDouble, hbits]
  apply nearestBits_of_roundsTo hc hnum hden
  rw [hvalue]
  exact h

/-- **A numeral is read as the double it rounds to.** -/
theorem nearest_bits {n : Numeral} (negative : Bool) (hc : Canonical m q)
    (h : RoundsTo m q n.value) :
    magnitudeBits (n.nearest negative) = (q + 1074).toNat * 2 ^ 52 + m ∧
      isNegative (n.nearest negative) = negative := by
  have hdigits := digits_pos_of_roundsTo hc.pos h
  have hlow : ¬ n.exponent + (digitCount n.digits : Nat) < -400 := by
    intro hlt
    have h1 : (10 : ℚ) ^ (n.exponent + digitCount n.digits) ≤ 10 ^ (-400 : Int) :=
      zpow_le_zpow_right₀ (by norm_num) hlt.le
    have h2 : (10 : ℚ) ^ (-400 : Int) < 2 ^ (-1075 : Int) := by
      have : 2 ^ 1075 < 10 ^ 400 := by decide +kernel
      rw [zpow_neg, zpow_neg]
      apply inv_strictAnti₀ (by positivity)
      exact_mod_cast this
    have h3 := (le_of_roundsTo hc h).trans_lt (value_lt_pow n)
    exact h2.not_gt (h3.trans_le h1)
  have hhigh : ¬ 310 < n.exponent + (digitCount n.digits : Nat) := by
    intro hlt
    have h1 : (10 : ℚ) ^ (310 : Int) ≤ 10 ^ (n.exponent + digitCount n.digits - 1) :=
      zpow_le_zpow_right₀ (by norm_num) (by omega)
    have h2 : (2 : ℚ) ^ (1024 : Int) < 10 ^ (310 : Int) := by
      have : 2 ^ 1024 < 10 ^ 310 := by decide +kernel
      exact_mod_cast this
    have h3 := (pow_le_value hdigits).trans (le_two_pow_of_roundsTo hc h)
    exact h2.not_ge (h1.trans h3)
  rw [Numeral.nearest, if_neg (by omega), if_neg hhigh]
  exact toDouble_bits negative hc h

end

theorem nearest_zero_bits {n : Numeral} (negative : Bool) (h : n.digits = 0) :
    magnitudeBits (n.nearest negative) = 0 ∧ isNegative (n.nearest negative) = negative := by
  rw [Numeral.nearest, if_pos (.inl h)]
  exact ofRatio_bits negative 0 1

/-- A finite double is read from any text of a numeral that rounds to it. -/
theorem nearest_eq_of_roundsTo {x : Float} {n : Numeral} (hx : x.isFinite = true)
    (h0 : magnitudeBits x ≠ 0) (h : RoundsTo (magnitude x).1 (magnitude x).2 n.value) :
    n.nearest (isNegative x) = x := by
  have hc := canonical_unpack h0 (isFinite_iff.mp hx)
  obtain ⟨hbits, hsign⟩ := nearest_bits (isNegative x) hc h
  apply eq_of_bits _ hsign
  rw [hbits, unpack_bits]

end Trendline.Decimal
