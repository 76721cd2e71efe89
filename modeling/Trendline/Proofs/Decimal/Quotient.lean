import Mathlib.Tactic.Linarith
import Mathlib.Algebra.Order.Field.Rat
import Trendline.Decimal.Quotient

/-!
# Rounding to the nearest number

* `roundDiv_toEven_eq`: a quotient is rounded to the number it is within half a
  unit of, where an exact half counts for the even one.
* `roundDiv_le`: a quotient is not rounded past a whole number.
-/

namespace Trendline.Decimal

/-- Whether `x` lies in an interval, of which the ends are part when `m` is even. -/
def Within (m : Nat) (low high x : ℚ) : Prop :=
  low ≤ x ∧ x ≤ high ∧ (m % 2 = 0 ∨ low < x ∧ x < high)

theorem within_div_iff {m : Nat} {low high x c : ℚ} (hc : 0 < c) :
    Within m low high (x / c) ↔ Within m (low * c) (high * c) x := by
  unfold Within
  rw [le_div_iff₀ hc, div_le_iff₀ hc, lt_div_iff₀ hc, div_lt_iff₀ hc]

theorem Within.mono {m : Nat} {low low' high high' x : ℚ} (h : Within m low' high' x)
    (hl : low ≤ low') (hh : high' ≤ high) : Within m low high x := by
  obtain ⟨h1, h2, h3⟩ := h
  refine ⟨hl.trans h1, h2.trans hh, ?_⟩
  rcases h3 with h3 | ⟨h3, h4⟩
  · exact .inl h3
  · exact .inr ⟨hl.trans_lt h3, h4.trans_le hh⟩

/-- A quotient within half a unit of a number is rounded to it. -/
theorem roundDiv_toEven_eq {num den k : Nat} (hden : 0 < den)
    (h : Within k (k - 1 / 2) (k + 1 / 2) (num / den)) : roundDiv .toEven num den = k := by
  have hd : (0 : ℚ) < den := by exact_mod_cast hden
  obtain ⟨hlow, hhigh, hends⟩ := h
  rw [le_div_iff₀ hd] at hlow
  rw [div_le_iff₀ hd] at hhigh
  have low : 2 * (k * den) ≤ 2 * num + den := by
    have : (2 * (k * den) : ℚ) ≤ 2 * num + den := by linarith
    exact_mod_cast this
  have high : 2 * num ≤ 2 * (k * den) + den := by
    have : (2 * num : ℚ) ≤ 2 * (k * den) + den := by linarith
    exact_mod_cast this
  have ends : k % 2 = 0 ∨ 2 * (k * den) < 2 * num + den ∧ 2 * num < 2 * (k * den) + den := by
    rcases hends with heven | ⟨hl, hh⟩
    · exact .inl heven
    · rw [lt_div_iff₀ hd] at hl
      rw [div_lt_iff₀ hd] at hh
      have hl' : (2 * (k * den) : ℚ) < 2 * num + den := by linarith
      have hh' : (2 * num : ℚ) < 2 * (k * den) + den := by linarith
      exact .inr ⟨by exact_mod_cast hl', by exact_mod_cast hh'⟩
  have hsplit : num = num / den * den + num % den := (Nat.div_add_mod' num den).symm
  have hrem : num % den < den := Nat.mod_lt _ hden
  have hcases : k = num / den ∨ k = num / den + 1 := by
    have h1 : k < num / den + 2 := by
      apply lt_of_mul_lt_mul_right (a := den) _ (Nat.zero_le _)
      rw [Nat.add_mul]
      omega
    have h2 : num / den < k + 1 := by
      apply lt_of_mul_lt_mul_right (a := den) _ (Nat.zero_le _)
      rw [Nat.add_mul]
      omega
    omega
  unfold roundDiv
  dsimp only
  rcases hcases with hk | hk
  · rw [← hk] at hsplit ⊢
    split
    · rfl
    · rw [if_neg (by omega)]
      omega
  · rw [hk, Nat.add_mul] at low high ends
    split
    · omega
    · split
      · exact hk.symm
      · omega

theorem roundDiv_le {tie : Tie} {num den n : Nat} (hden : 0 < den) (h : num ≤ n * den) :
    roundDiv tie num den ≤ n := by
  rcases Nat.eq_or_lt_of_le h with rfl | hlt
  · have hmod : n * den % den = 0 := Nat.mul_mod_left n den
    unfold roundDiv
    dsimp only
    rw [hmod, if_pos (by omega), Nat.mul_div_cancel n hden]
  · have hdiv : num / den < n := (Nat.div_lt_iff_lt_mul hden).mpr hlt
    rcases roundDiv_eq_or tie num den with hq | hq <;> omega

end Trendline.Decimal
