import Trendline.Chart.Axis
import Trendline.Proofs.Decimal.Fixed
import Trendline.Proofs.Double.AtLeast

/-!
# How long the labels of ticks are

From a hundred on the label of a tick has all digits of its value before the point, so it grows
with the value, up to 309 digits.

* `length_tickText_le_iff`: how large a value may be for a label of a length.
* `length_tickText_le`: no label is longer than a sign and 309 digits.
-/

namespace Trendline.Chart

open Trendline.Decimal Trendline.Double

theorem utf8ByteSize_tickText (v : Float) : (tickText v).utf8ByteSize = (tickText v).length := by
  rw [tickText]
  split <;> exact utf8ByteSize_fixed _ v

/-- How long the digits of a label may be. -/
def digitRoom (k : Nat) (v : Float) : Nat :=
  k - (signText (isNegative v)).length

variable {k : Nat} {v : Float}

theorem length_tickText_of_not_isFinite (hv : v.isFinite = false) : (tickText v).length ≤ 4 := by
  rw [tickText]
  split <;>
  · rw [fixed, hv, if_neg Bool.false_ne_true, String.length_ofList]
    exact length_nonFiniteText_le v

theorem length_fixed_zero_le_iff (hk : 2 ≤ k) (hv : v.isFinite = true) :
    (fixed 0 v).length ≤ k ↔ |value v| + 1 / 2 < 10 ^ digitRoom k v := by
  have hsign := length_signText_le (isNegative v)
  have hroom : 0 < digitRoom k v := Nat.sub_pos_of_lt (Nat.lt_of_le_of_lt hsign hk)
  have heven : 10 ^ digitRoom k v % 2 = 0 :=
    Nat.mod_eq_zero_of_dvd (dvd_pow (by decide) hroom.ne')
  calc (fixed 0 v).length ≤ k ↔ digitCount (unitsOf 0 v) ≤ digitRoom k v := by
        rw [length_fixed hv, length_unitsText_zero, digitRoom]
        omega
    _ ↔ unitsOf 0 v < 10 ^ digitRoom k v := digitCount_le_iff hroom
    _ ↔ |value v| + 1 / 2 < 10 ^ digitRoom k v := by
        rw [unitsOf_lt_iff hv 0 heven]
        push_cast
        rw [pow_zero, mul_one]

theorem length_fixed_two_le (hv : v.isFinite = true) (hle : |value v| ≤ 2 ^ 7) :
    (fixed 2 v).length ≤ 7 := by
  have hsign := length_signText_le (isNegative v)
  have hunits : unitsOf 2 v ≤ 12800 := unitsOf_le hv 2 (by push_cast; linarith)
  have hwhole : digitCount (unitsOf 2 v / 10 ^ 2) ≤ 3 :=
    (digitCount_le_iff (by decide)).mpr (by omega)
  rw [length_fixed hv, length_unitsText (by decide)]
  omega

/-- Only a value below a hundred has places. -/
theorem abs_value_le_of_not_le (hv : v.isFinite = true) (h : ¬ 100 ≤ v.abs) :
    |value v| ≤ 2 ^ 7 := by
  have hundred : Bounded 7 100 := bounded_of_bits (by decide) (by decide +kernel)
  obtain ⟨hfinite, hsize⟩ := bounded_iff.mp hundred
  obtain ⟨habs, hvalue⟩ := value_abs hv
  have hnot : ¬ 100 < v.abs := fun hlt => h (le_of_lt hlt)
  rw [lt_iff_value hfinite habs, not_lt, hvalue] at hnot
  exact hnot.trans ((le_abs_self _).trans hsize)

/-- **How large a value may be for a label of a length**: rounded to a whole number it has a digit
in each place that the sign leaves.  What is no number has a short label. -/
theorem length_tickText_le_iff (hk : 7 ≤ k) (v : Float) : (tickText v).length ≤ k ↔
    (v.isFinite = true → |value v| + 1 / 2 < 10 ^ digitRoom k v) := by
  cases hv : v.isFinite with
  | false =>
    have hshort := length_tickText_of_not_isFinite hv
    exact iff_of_true (by omega) nofun
  | true =>
    simp only [forall_true_left]
    rw [tickText]
    split
    · exact length_fixed_zero_le_iff (by omega) hv
    · rename_i hsmall
      have hle := abs_value_le_of_not_le hv hsmall
      have hlength := length_fixed_two_le hv hle
      have hsign := length_signText_le (isNegative v)
      have hpow : (10 : ℚ) ^ 6 ≤ 10 ^ digitRoom k v :=
        pow_le_pow_right₀ (by norm_num) (by rw [digitRoom]; omega)
      refine iff_of_true (by omega) (lt_of_lt_of_le ?_ hpow)
      norm_num at hle ⊢
      linarith

theorem overflow_add_half_le : overflow + 1 / 2 ≤ 10 ^ 309 := by
  have hpow : 2 ^ 1024 + 1 ≤ 10 ^ 309 := by decide +kernel
  have hle : overflow ≤ 2 ^ 53 * 2 ^ (971 : Int) :=
    mul_le_mul_of_nonneg_right (by norm_num) (two_zpow_pos 971).le
  calc overflow + 1 / 2 ≤ 2 ^ 53 * 2 ^ (971 : Int) + 1 := add_le_add hle (by norm_num)
    _ = 2 ^ 1024 + 1 := by
      rw [← zpow_natCast, ← zpow_natCast, ← zpow_add₀ two_ne_zero]
      rfl
    _ ≤ 10 ^ 309 := by exact_mod_cast hpow

/-- No label is longer than a sign and the digits of the largest double. -/
theorem length_tickText_le (v : Float) : (tickText v).length ≤ 310 := by
  refine (length_tickText_le_iff (by decide) v).mpr fun hv => ?_
  have hsign := length_signText_le (isNegative v)
  have hroom : 309 ≤ digitRoom 310 v := by
    rw [digitRoom]
    omega
  calc |value v| + 1 / 2 < overflow + 1 / 2 := by linarith [abs_value_lt v hv]
    _ ≤ 10 ^ 309 := overflow_add_half_le
    _ ≤ 10 ^ digitRoom 310 v := pow_le_pow_right₀ (by norm_num) hroom

end Trendline.Chart
