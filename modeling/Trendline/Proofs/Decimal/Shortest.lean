import Mathlib.Algebra.Order.Field.Basic
import Mathlib.Algebra.Order.Field.Power
import Mathlib.Data.Nat.Cast.Order.Basic
import Mathlib.Tactic.FieldSimp
import Mathlib.Tactic.NormNum
import Mathlib.Tactic.Ring
import Trendline.Decimal.Shortest
import Trendline.Proofs.Double.Nearest

/-!
# The shortest decimal reads back

* `readsBack_iff`: the test on natural numbers is exact.
* `onGrid_of_fine`: with a spacing of `10 ^ -16` of a double or less, one of the
  two neighbours on the grid reads back.
* `roundsTo_shortest`: so the search for the shortest decimal of a double never
  runs out, and what it finds rounds to the double.
-/

namespace Trendline.Decimal

open Trendline.Double

/-- `digits * 10 ^ exponent`. -/
def Numeral.value (n : Numeral) : ℚ :=
  n.digits * 10 ^ n.exponent

/-! ## Comparing -/

theorem zpow_mul_toNat {b : ℚ} (hb : b ≠ 0) (e : Int) : b ^ e * b ^ (-e).toNat = b ^ e.toNat := by
  rw [← zpow_natCast, ← zpow_natCast, ← zpow_add₀ hb]
  congr 1
  omega

theorem compareScaled_eq (d : Nat) (e : Int) (k : Nat) (p : Int) :
    compareScaled d e k p = cmp (d * 10 ^ e : ℚ) (k * 2 ^ p) := by
  have hpos : (0 : ℚ) < 10 ^ (-e).toNat * 2 ^ (-p).toNat := by positivity
  have h10 := zpow_mul_toNat (b := 10) (by norm_num) e
  have h2 := zpow_mul_toNat (b := 2) (by norm_num) p
  have hleft : (d * 10 ^ e : ℚ) * (10 ^ (-e).toNat * 2 ^ (-p).toNat) =
      ((d * 10 ^ e.toNat * 2 ^ (-p).toNat : Nat) : ℚ) := by
    push_cast
    rw [← h10]
    ring
  have hright : (k * 2 ^ p : ℚ) * (10 ^ (-e).toNat * 2 ^ (-p).toNat) =
      ((k * 2 ^ p.toNat * 10 ^ (-e).toNat : Nat) : ℚ) := by
    push_cast
    rw [← h2]
    ring
  rw [← cmp_mul_pos_right hpos, hleft, hright, (Nat.strictMono_cast (α := ℚ)).cmp_map_eq,
    cmp_eq_compare]
  rfl

theorem readsBack_eq (m : Nat) (q : Int) (n : Numeral) :
    readsBack m q n =
      match compareScaled n.digits n.exponent (lowQuarters m q) (q - 2),
        compareScaled n.digits n.exponent (4 * m + 2) (q - 2) with
      | .gt, .lt => true
      | .lt, _ => false
      | _, .gt => false
      | _, _ => m % 2 == 0 := rfl

/-- The test is exact. -/
theorem readsBack_iff {m : Nat} {q : Int} {n : Numeral} :
    readsBack m q n = true ↔ RoundsTo m q n.value := by
  have hlow := compareScaled_eq n.digits n.exponent (lowQuarters m q) (q - 2)
  have hhigh := compareScaled_eq n.digits n.exponent (4 * m + 2) (q - 2)
  rw [readsBack_eq, hlow, hhigh, RoundsTo, Within]
  have hv : (n.digits * 10 ^ n.exponent : ℚ) = n.value := rfl
  rw [hv]
  generalize n.value = x
  generalize (lowQuarters m q : ℚ) * 2 ^ (q - 2) = low
  generalize ((4 * m + 2 : Nat) : ℚ) * 2 ^ (q - 2) = high
  rcases lt_trichotomy x low with hl | hl | hl
  · rw [hl.cmp_eq_lt]
    cases cmp x high <;> simp [hl.not_ge]
  · subst hl
    rw [cmp_self_eq_eq]
    rcases lt_trichotomy x high with hh | hh | hh
    · rw [hh.cmp_eq_lt]
      simp [hh.le]
    · subst hh
      rw [cmp_self_eq_eq]
      simp
    · rw [(cmp_eq_gt_iff x high).mpr hh]
      simp [hh.not_ge]
  · rw [(cmp_eq_gt_iff x low).mpr hl]
    rcases lt_trichotomy x high with hh | hh | hh
    · rw [hh.cmp_eq_lt]
      simp [hl, hh, hl.le, hh.le]
    · subst hh
      rw [cmp_self_eq_eq]
      simp [hl.le]
    · rw [(cmp_eq_gt_iff x high).mpr hh]
      simp [hh.not_ge]

/-! ## The exact value -/

theorem ratio_snd_pos (m : Nat) (q : Int) : 0 < (ratio m q).2 := by
  unfold ratio
  split
  · exact Nat.one_pos
  · exact Nat.two_pow_pos _

theorem ratio_div (m : Nat) (q : Int) : ((ratio m q).1 : ℚ) / (ratio m q).2 = m * 2 ^ q := by
  unfold ratio
  split
  · rename_i h
    simp only [Nat.pow_eq]
    push_cast
    rw [zpow_toNat h, div_one]
  · rename_i h
    simp only [Nat.pow_eq]
    push_cast
    rw [zpow_toNat (by omega), zpow_neg, div_inv_eq_mul]

theorem ratio_fst_pos {m : Nat} (hm : 0 < m) (q : Int) : 0 < (ratio m q).1 := by
  unfold ratio
  split
  · exact Nat.mul_pos hm (Nat.two_pow_pos _)
  · exact hm

/-! ## One grid -/

/-- The decimal of the grid with spacing `10 ^ e` at or below `m * 2 ^ q`. -/
def gridBelow (m : Nat) (q e : Int) : Nat :=
  (ratio m q).1 * Nat.pow 10 (-e).toNat / ((ratio m q).2 * Nat.pow 10 e.toNat)

theorem gridBelow_spec (m : Nat) (q e : Int) :
    (gridBelow m q e * 10 ^ e : ℚ) ≤ m * 2 ^ q ∧
      (m * 2 ^ q : ℚ) < (gridBelow m q e + 1) * 10 ^ e := by
  have hpow : (0 : ℚ) < 10 ^ e := zpow_pos (by norm_num) e
  have hden : 0 < (ratio m q).2 * Nat.pow 10 e.toNat :=
    Nat.mul_pos (ratio_snd_pos m q) (Nat.pow_pos (by decide))
  have hquot : ((ratio m q).1 * Nat.pow 10 (-e).toNat : Nat) /
      (((ratio m q).2 * Nat.pow 10 e.toNat : Nat) : ℚ) = m * 2 ^ q / 10 ^ e := by
    have h10 := zpow_mul_toNat (b := 10) (by norm_num) e
    rw [← ratio_div, Nat.pow_eq, Nat.pow_eq]
    push_cast
    rw [← h10]
    field_simp
  rw [← le_div_iff₀ hpow, ← div_lt_iff₀ hpow, ← hquot]
  have hden' : (0 : ℚ) < ((ratio m q).2 * Nat.pow 10 e.toNat : Nat) := by exact_mod_cast hden
  constructor
  · rw [le_div_iff₀ hden']
    exact_mod_cast Nat.div_mul_le_self _ _
  · rw [div_lt_iff₀ hden']
    exact_mod_cast Nat.lt_mul_of_div_lt (Nat.lt_succ_self _) hden


theorem onGrid_eq (tie : Tie) (m : Nat) (q e : Int) :
    onGrid tie m q e =
      match readsBack m q ⟨gridBelow m q e, e⟩, readsBack m q ⟨gridBelow m q e + 1, e⟩ with
      | true, true =>
        match compareScaled (2 * gridBelow m q e + 1) e (2 * m) q with
        | .gt => some ⟨gridBelow m q e, e⟩
        | .lt => some ⟨gridBelow m q e + 1, e⟩
        | .eq => match tie with
          | .upward => some ⟨gridBelow m q e + 1, e⟩
          | .toEven =>
            if gridBelow m q e % 2 = 0 then some ⟨gridBelow m q e, e⟩
            else some ⟨gridBelow m q e + 1, e⟩
      | true, false => some ⟨gridBelow m q e, e⟩
      | false, true => some ⟨gridBelow m q e + 1, e⟩
      | false, false => none := rfl

/-- A grid answers with a neighbour that reads back, and with none when neither does. -/
theorem onGrid_cases (tie : Tie) (m : Nat) (q e : Int) :
    (∃ n, onGrid tie m q e = some n ∧ readsBack m q n = true) ∨
      onGrid tie m q e = none ∧ readsBack m q ⟨gridBelow m q e, e⟩ = false ∧
        readsBack m q ⟨gridBelow m q e + 1, e⟩ = false := by
  rw [onGrid_eq]
  cases hb : readsBack m q ⟨gridBelow m q e, e⟩ with
  | false =>
    cases ha : readsBack m q ⟨gridBelow m q e + 1, e⟩ with
    | false => exact .inr ⟨rfl, rfl, rfl⟩
    | true => exact .inl ⟨_, rfl, ha⟩
  | true =>
    cases ha : readsBack m q ⟨gridBelow m q e + 1, e⟩ with
    | false => exact .inl ⟨_, rfl, hb⟩
    | true =>
      left
      cases compareScaled (2 * gridBelow m q e + 1) e (2 * m) q with
      | gt => exact ⟨_, rfl, hb⟩
      | lt => exact ⟨_, rfl, ha⟩
      | eq =>
        cases tie with
        | upward => exact ⟨_, rfl, ha⟩
        | toEven =>
          dsimp only
          by_cases heven : gridBelow m q e % 2 = 0
          · rw [if_pos heven]
            exact ⟨_, rfl, hb⟩
          · rw [if_neg heven]
            exact ⟨_, rfl, ha⟩

theorem readsBack_of_onGrid {tie : Tie} {m : Nat} {q e : Int} {n : Numeral}
    (h : onGrid tie m q e = some n) : readsBack m q n = true := by
  rcases onGrid_cases tie m q e with ⟨n', hn', hreads⟩ | ⟨hnone, -⟩
  · rw [h] at hn'
    obtain rfl := Option.some.inj hn'
    exact hreads
  · rw [h] at hnone
    cases hnone

theorem exists_onGrid {tie : Tie} {m : Nat} {q e : Int}
    (h : readsBack m q ⟨gridBelow m q e, e⟩ = true ∨
      readsBack m q ⟨gridBelow m q e + 1, e⟩ = true) : ∃ n, onGrid tie m q e = some n := by
  rcases onGrid_cases tie m q e with ⟨n, hn, -⟩ | ⟨-, hb, ha⟩
  · exact ⟨n, hn⟩
  · rw [hb, ha] at h
    rcases h with h | h
    · cases h
    · cases h

/-- A grid fine enough for sixteen more digits has a decimal that reads back. -/
theorem onGrid_of_fine {tie : Tie} {m : Nat} {q e : Int} (hc : Canonical m q)
    (he : (10 : ℚ) ^ e * 10 ^ 16 ≤ m * 2 ^ q) : ∃ n, onGrid tie m q e = some n := by
  apply exists_onGrid
  have hpow : (0 : ℚ) < 2 ^ q := zpow_pos (by norm_num) q
  obtain ⟨hbelow, habove⟩ := gridBelow_spec m q e
  have hlt : (m : ℚ) + 1 ≤ 2 ^ 53 := by exact_mod_cast hc.lt
  have hquarters := lowQuarters_le hc.pos q
  rw [readsBack_iff, readsBack_iff, roundsTo_iff, roundsTo_iff]
  simp only [Numeral.value]
  push_cast
  generalize (gridBelow m q e : ℚ) = b at *
  set u := (10 : ℚ) ^ e / 2 ^ q with hu
  have hunit : u * 10 ^ 16 ≤ m := by
    rw [hu, div_mul_eq_mul_div, div_le_iff₀ hpow]
    exact he
  rw [← div_le_iff₀ hpow, mul_div_assoc, ← hu] at hbelow
  rw [← lt_div_iff₀ hpow, mul_div_assoc, ← hu] at habove
  rw [mul_div_assoc, mul_div_assoc, ← hu]
  by_cases hnear : (b + 1) * u < m + 1 / 2
  · exact .inr ⟨by linarith, hnear.le, .inr ⟨by linarith, hnear⟩⟩
  · left
    -- at a power of two the grid is finer than half a unit
    have hm : m ≠ 2 ^ 52 := by
      rintro rfl
      push_cast at hunit hnear habove hbelow
      linarith
    have hhalf : (lowQuarters m q : ℚ) / 4 = m - 1 / 2 := by
      have := hc.pos
      rw [lowQuarters, if_neg (fun h => hm h.1), Nat.cast_sub (by omega)]
      push_cast
      ring
    exact ⟨by linarith, by linarith, .inr ⟨by linarith, by linarith⟩⟩

/-! ## The search -/

theorem pow_digitCount_le {n : Nat} (hn : 0 < n) : 10 ^ (digitCount n - 1) ≤ n := by
  unfold digitCount
  have hpos : 0 < (Nat.toDigits 10 n).length := Nat.length_toDigits_pos
  by_cases h1 : (Nat.toDigits 10 n).length = 1
  · rw [h1]
    exact hn
  · apply Nat.not_lt.mp
    rw [← Nat.length_toDigits_le_iff (by decide) (by omega)]
    omega

theorem lt_pow_digitCount (n : Nat) : n < 10 ^ digitCount n :=
  (Nat.length_toDigits_le_iff (by decide) Nat.length_toDigits_pos).mp le_rfl

/-- The position of the point is not beyond the first digit. -/
theorem pow_pointPosition_le {num den : Nat} (hnum : 0 < num) (hden : 0 < den) :
    (10 : ℚ) ^ (pointPosition num den - 1) ≤ num / den := by
  have hn : (0 : ℚ) < num := by exact_mod_cast hnum
  have hd : (0 : ℚ) < den := by exact_mod_cast hden
  unfold pointPosition
  split
  · rename_i h
    have hpos : 0 < digitCount (num / den) := Nat.length_toDigits_pos
    have hq : 0 < num / den := Nat.div_pos h hden
    have hexp : (digitCount (num / den) : Int) - 1 =
        ((digitCount (num / den) - 1 : Nat) : Int) := by
      omega
    rw [hexp, zpow_natCast, le_div_iff₀ hd]
    calc (10 : ℚ) ^ (digitCount (num / den) - 1) * den ≤ (num / den : Nat) * den := by
          apply mul_le_mul_of_nonneg_right _ hd.le
          exact_mod_cast pow_digitCount_le hq
      _ ≤ num := by exact_mod_cast Nat.div_mul_le_self num den
  · rename_i h
    generalize hc : (den + num - 1) / num = c
    have hceil : den ≤ c * num := by
      have : den + num - 1 < (c + 1) * num := by
        rw [← hc]
        exact Nat.lt_mul_of_div_lt (Nat.lt_succ_self _) hnum
      rw [Nat.add_mul] at this
      omega
    have hpow : c ≤ 10 ^ digitCount (c - 1) := by
      have := lt_pow_digitCount (c - 1)
      omega
    have hexp : (1 : Int) - digitCount (c - 1) - 1 = -(digitCount (c - 1) : Int) := by omega
    rw [hexp, zpow_neg, zpow_natCast, le_div_iff₀ hd, inv_mul_le_iff₀ (by positivity)]
    calc (den : ℚ) ≤ c * num := by exact_mod_cast hceil
      _ ≤ 10 ^ digitCount (c - 1) * num := by
          apply mul_le_mul_of_nonneg_right _ hn.le
          exact_mod_cast hpow

theorem readsBack_firstOnGrid {tie : Tie} {m : Nat} {q : Int} {last : Int}
    (hlast : ∃ n, onGrid tie m q last = some n) : ∀ (fuel : Nat) (e : Int),
    last ≤ e → e ≤ last + fuel → readsBack m q (firstOnGrid tie m q fuel e) = true := by
  intro fuel
  induction fuel with
  | zero =>
    intro e h1 h2
    have he : e = last := by omega
    obtain ⟨n, hn⟩ := hlast
    rw [firstOnGrid, he, hn]
    exact readsBack_of_onGrid hn
  | succ fuel ih =>
    intro e h1 h2
    rw [firstOnGrid]
    cases h : onGrid tie m q e with
    | some n => exact readsBack_of_onGrid h
    | none =>
      have hne : e ≠ last := by
        rintro rfl
        obtain ⟨n, hn⟩ := hlast
        rw [h] at hn
        cases hn
      exact ih (e - 1) (by omega) (by omega)

theorem value_trimZeros : ∀ (fuel : Nat) (n : Numeral), (trimZeros fuel n).value = n.value := by
  intro fuel
  induction fuel with
  | zero =>
    intro n
    rfl
  | succ fuel ih =>
    intro n
    rw [trimZeros]
    split
    · rename_i h
      rw [ih, Numeral.value, Numeral.value, zpow_add₀ (by norm_num), zpow_one]
      have hdigits : (n.digits : ℚ) = (n.digits / 10 : Nat) * 10 := by
        exact_mod_cast (Nat.div_mul_cancel (Nat.dvd_of_mod_eq_zero h)).symm
      rw [hdigits]
      ring
    · rfl

/-- **The shortest decimal of a double reads back as this double.** -/
theorem roundsTo_shortest {tie : Tie} {m : Nat} {q : Int} (hc : Canonical m q) :
    RoundsTo m q (shortest tie m q).value := by
  have hvalue := ratio_div m q
  have hposition := pow_pointPosition_le (ratio_fst_pos hc.pos q) (ratio_snd_pos m q)
  rw [hvalue] at hposition
  have hlast : ∃ n, onGrid tie m q
      (pointPosition (ratio m q).1 (ratio m q).2 - 1 - 16) = some n := by
    apply onGrid_of_fine hc
    rw [zpow_sub₀ (by norm_num)]
    refine le_trans (le_of_eq ?_) hposition
    norm_num
  have hfirst := readsBack_firstOnGrid hlast 16 (pointPosition (ratio m q).1 (ratio m q).2 - 1)
    (by omega) (by omega)
  show RoundsTo m q (trimZeros 17 _).value
  rw [value_trimZeros]
  exact readsBack_iff.mp hfirst

end Trendline.Decimal
