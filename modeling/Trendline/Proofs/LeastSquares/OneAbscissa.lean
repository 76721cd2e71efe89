import Trendline.Proofs.LeastSquares.RoundOff

/-!
# One abscissa over and over

Equal numbers have no spread, but their mean is rounded, and with it the spread
is what the mean has drifted away from the number.  The drift grows with the
number of additions.  Up to `10000` of them it stays below the tolerance, for
every number; there are numbers for which it has left the tolerance at `39000`.

* `mean_replicate`: how far the mean is off.
* `spread_le_tolerance`: the exact tolerance has room for the spread, also where
  products vanish.
* `not_hasSpread_replicate`: no spread is found in a list of equal numbers that
  is not too long.
* `drifting`, `hasSpread_drifting`: a number of which a longer list has one.
-/

namespace Trendline.LeastSquares

open Double

/-! ## The mean of one number -/

/-- How far the mean of equal numbers is off, as a part of the number. -/
def drift : ℚ :=
  56 / 10 ^ 14

theorem unit_mul_growth_le {n : Nat} (hn : n ≤ 10000) :
    unit * growth n * (1 + unit) + unit * n ≤ drift * n := by
  have hmul := mul_le_mul_of_nonneg_left (growth_le hn) unit_pos.le
  have hn0 : (0 : ℚ) ≤ n := Nat.cast_nonneg n
  rw [drift]
  rw [unit] at *
  norm_num at *
  linarith

theorem unit_mul_growth_le_drift {n : Nat} (hn : n ≤ 10000) : unit * growth n ≤ drift * n := by
  have hle := unit_mul_growth_le hn
  have hgrowth := mul_nonneg (mul_nonneg unit_pos.le (growth_nonneg n)) unit_pos.le
  have hcount := mul_nonneg unit_pos.le (Nat.cast_nonneg n : (0 : ℚ) ≤ n)
  linarith

theorem mean_replicate {x : Float} (hx : x.isFinite = true) {n : Nat} (hpos : 0 < n)
    (hn : n ≤ 10000) :
    let m := mean n (List.replicate n x)
    m.isFinite = true ∧ |value m - value x| ≤ drift * |value x| + leastHalf ∨ IsInfinite m := by
  intro m
  have hn0 : (n : ℚ) ≠ 0 := by exact_mod_cast hpos.ne'
  have hall : ∀ a ∈ List.replicate n x, a.isFinite = true ∧ |value a| ≤ |value x| := by
    intro a ha
    rw [List.eq_of_mem_replicate ha]
    exact ⟨hx, le_rfl⟩
  have herror := mean_error (abs_nonneg (value x)) hall (by simpa using hpos) (by simp; omega)
  rw [List.length_replicate, List.map_replicate, List.sum_replicate, nsmul_eq_mul,
    mul_div_cancel_left₀ _ hn0] at herror
  rcases herror with ⟨hm, herror⟩ | ⟨hm, -⟩
  · refine .inl ⟨hm, herror.trans ?_⟩
    have hpos' : (0 : ℚ) < n := by exact_mod_cast hpos
    have hle : unit * (growth n / n) * (1 + unit) + unit ≤ drift := by
      have h := div_le_div_of_nonneg_right (unit_mul_growth_le hn) hpos'.le
      rw [mul_div_cancel_right₀ _ hn0] at h
      refine le_trans (le_of_eq ?_) h
      field_simp
    linarith [mul_le_mul_of_nonneg_right hle (abs_nonneg (value x))]
  · exact .inr hm

/-! ## The spread of one number -/

theorem spread_replicate {α : Type} [Scalar α] (m x : α) {n : Nat} {y : List α}
    (hy : y.length = n) :
    spread m ((List.replicate n x).zip y) =
      (List.replicate n ((x - m) * (x - m))).foldl (fun total a => total + a) 0 := by
  have hfst : ((List.replicate n x).zip y).map (·.1) = List.replicate n x :=
    List.map_fst_zip (by simp [hy])
  have hmap : ((List.replicate n x).zip y).map (fun p => (p.1 - m) * (p.1 - m)) =
      List.replicate n ((x - m) * (x - m)) := by
    have h := congrArg (List.map fun a => (a - m) * (a - m)) hfst
    rwa [List.map_map, List.map_replicate] at h
  rw [spread_eq_foldl, hmap]

/-- The deviation is so much smaller than what passes for round-off that the tolerance stays above
the spread, even where products lose their digits. -/
theorem spread_le_tolerance {n x m d : ℚ} (hn : 2 ≤ n) (hm : x - (drift * x + leastHalf) ≤ m)
    (hd0 : 0 ≤ d) (hd : d ≤ (1 + unit) * (drift * x + leastHalf)) (hlarge : leastHalf ≤ d ^ 2) :
    201 / 100 * (n * d ^ 2) ≤ toleranceFloor n (part * max m leastFull) := by
  have hroot : (2 : ℚ) ^ (-538 : Int) ≤ d := by
    refine (pow_le_pow_iff_left₀ (two_zpow_pos _).le hd0 two_ne_zero).mp (le_trans ?_ hlarge)
    rw [← zpow_natCast, ← zpow_mul, leastHalf]
    exact zpow_le_zpow_right₀ (by norm_num) (by norm_num)
  have hhalf : leastHalf ≤ d / 10 ^ 20 := by
    rw [leastHalf, show (-1075 : Int) = -538 + -537 by norm_num, zpow_add₀ (by norm_num)]
    have hsmall : (2 : ℚ) ^ (-537 : Int) ≤ 1 / 10 ^ 20 :=
      (zpow_le_zpow_right₀ (by norm_num) (by norm_num : (-537 : Int) ≤ -100)).trans (by norm_num)
    calc (2 : ℚ) ^ (-538 : Int) * 2 ^ (-537 : Int) ≤ d * (1 / 10 ^ 20) :=
          mul_le_mul hroot hsmall (two_zpow_pos _).le hd0
      _ = d / 10 ^ 20 := by ring
  have hmax : part * m ≤ part * max m leastFull :=
    mul_le_mul_of_nonneg_left (le_max_left _ _) part_pos.le
  rw [toleranceFloor]
  generalize part * max m leastFull = b at *
  have hb : 17 / 10 * d ≤ b := by
    have hm' := mul_le_mul_of_nonneg_left hm part_pos.le
    refine le_trans ?_ (hm'.trans hmax)
    rw [unit, drift] at *
    rw [part]
    norm_num at *
    linarith
  have hnd : 2 * d ≤ n * d := mul_le_mul_of_nonneg_right hn hd0
  have hnb : n * (17 / 10 * d) ≤ n * b := mul_le_mul_of_nonneg_left hb (by linarith)
  have hb' : 169 / 100 * d ≤ b * (1 - unit) := by
    rw [unit]
    linarith
  have hc : 169 / 100 * (n * d) ≤ n * b * (1 - unit) - leastHalf := by
    rw [unit]
    linarith
  have hprod := mul_le_mul hc hb' (by linarith) (by linarith)
  have hsq : d ^ 2 ≤ n * d ^ 2 / 2 := by nlinarith [sq_nonneg d]
  calc 201 / 100 * (n * d ^ 2) ≤ 169 / 100 * (n * d) * (169 / 100 * d) - n * d ^ 2 / 2 := by
        nlinarith [sq_nonneg d]
    _ ≤ (n * b * (1 - unit) - leastHalf) * (b * (1 - unit)) - leastHalf := by linarith
    _ = (n * b * (1 - unit) - leastHalf) * b * (1 - unit) - leastHalf := by ring

/-- An infinite mean passes for any spread. -/
theorem tolerance_of_infinite {n : Nat} (hpos : 0 < n) (hn : n ≤ 2 ^ 53) {m : Float}
    (hm : IsInfinite m) : (tolerance n m).toModel.unpack = .infinity .positive := by
  have hover := ten_pow_le_overflow
  have hhalf := leastHalf_le
  have hscale : AtLeast overflow (roundOff m) := by
    have hmax := mul_le_mul_of_nonneg_left (le_max_left (10 ^ 13 * overflow) leastFull) part_pos.le
    refine (atLeast_roundOff (AtLeast.abs_of_infinite hm)).mono (le_trans ?_ hmax)
    rw [part]
    linarith
  have hfull : part * leastFull ≤ overflow := by
    have := leastFull_le
    rw [part]
    linarith
  refine ((atLeast_tolerance hpos hn hfull hscale).mono ?_).infinite_of_overflow
  have hn1 : (1 : ℚ) ≤ n := by exact_mod_cast hpos
  have hnv : 1 * overflow ≤ n * overflow := mul_le_mul_of_nonneg_right hn1 (by linarith)
  have hfirst : 3 ≤ n * overflow * (1 - unit) - leastHalf := by
    rw [unit]
    linarith
  have hprod := mul_le_mul_of_nonneg_right hfirst (by linarith : 0 ≤ overflow)
  rw [toleranceFloor]
  rw [unit] at *
  linarith

theorem deviation_le {x m : Float} (hx : x.isFinite = true) (hm : m.isFinite = true)
    (hnear : |value m - value x| ≤ drift * |value x| + leastHalf) :
    (x - m).isFinite = true ∧
      |value (x - m)| ≤ (1 + unit) * (drift * |value x| + leastHalf) := by
  rw [abs_sub_comm] at hnear
  have hsmall : |value x - value m| < overflow := by
    have := abs_value_lt x hx
    have := ten_pow_le_overflow
    have := leastHalf_le
    rw [drift] at hnear
    linarith
  have hdev := (rounds_sub hx hm).error_of_onGrid ((onGrid_value hx).sub (onGrid_value hm))
  obtain ⟨hd, herror⟩ := hdev.resolve_right fun h => absurd h.2 (not_le.mpr hsmall)
  have hscaled := mul_le_mul_of_nonneg_left hnear (by rw [unit]; norm_num : 0 ≤ 1 + unit)
  exact ⟨hd, (abs_le_of_near herror le_rfl).trans (by linarith)⟩

/-- A square overflows, or is not much larger than the exact one, or vanishes. -/
theorem square_cases {d : Float} (hd : d.isFinite = true) :
    overflow ≤ value d ^ 2 ∨ (d * d).isFinite = true ∧
      (leastHalf ≤ value d ^ 2 ∧ |value (d * d)| ≤ 2 * value d ^ 2 ∨ value (d * d) = 0) := by
  have hpos := sq_nonneg (value d)
  have hround := rounds_mul hd hd
  rw [← sq] at hround
  rcases hround.error with ⟨hq, herror⟩ | ⟨-, hover⟩
  swap
  · exact .inl (by rwa [abs_of_nonneg hpos] at hover)
  refine .inr ⟨hq, ?_⟩
  rw [abs_of_nonneg hpos] at herror
  have hsum := abs_le_of_near herror (abs_of_nonneg hpos).le
  have hunit : unit * value d ^ 2 ≤ value d ^ 2 :=
    mul_le_of_le_one_left hpos (by rw [unit]; norm_num)
  by_cases hlarge : leastHalf ≤ value d ^ 2
  · exact .inl ⟨hlarge, by linarith [max_le hunit hlarge]⟩
  · refine .inr ((onGrid_value hq).eq_zero ?_)
    have hmax := max_le (hunit.trans (not_le.mp hlarge).le) (le_refl leastHalf)
    linarith

/-- **The spread of one number** over and over is round-off, in not too long a list. -/
theorem not_hasSpread_replicate {x : Float} (hx : x.isFinite = true) {n : Nat} (hn2 : 2 ≤ n)
    (hn : n ≤ 10000) {y : List Float} (hy : y.length = n) :
    ¬ HasSpread (List.replicate n x) y := by
  have hpos : 0 < n := by omega
  have hn53 : n ≤ 2 ^ 53 := hn.trans (by decide)
  have hn2' : (2 : ℚ) ≤ n := by exact_mod_cast hn2
  rw [HasSpread, List.length_replicate, spread_replicate _ x hy]
  rcases mean_replicate hx hpos hn with ⟨hm, hnear⟩ | hm
  swap
  · exact not_lt_of_infinite (tolerance_of_infinite hpos hn53 hm)
  generalize mean n (List.replicate n x) = m at *
  obtain ⟨hd, hdle⟩ := deviation_le hx hm hnear
  have hlow : |value x| - (drift * |value x| + leastHalf) ≤ |value m| := by
    rw [abs_sub_comm] at hnear
    linarith [abs_sub_abs_le_abs_sub (value x) (value m)]
  have hroom := spread_le_tolerance hn2' hlow (abs_nonneg _) hdle
  rw [sq_abs] at hroom
  have hfull := mul_le_mul_of_nonneg_left (le_max_right |value m| leastFull) part_pos.le
  have hscale := atLeast_roundOff (AtLeast.abs hm)
  have htolerance := atLeast_tolerance hpos hn53 hfull hscale
  generalize x - m = d at *
  have hsq := sq_nonneg (value d)
  have hnsq : value d ^ 2 ≤ n * value d ^ 2 := le_mul_of_one_le_left hsq (by linarith)
  obtain ⟨hzero, hzero'⟩ := value_zero
  have hlen : (List.replicate n (d * d)).length * unit ≤ 1 := by
    have hn' : (n : ℚ) ≤ 10000 := by exact_mod_cast hn
    rw [List.length_replicate, unit]
    linarith
  rcases square_cases hd with hover | ⟨hq, ⟨hlarge, hqle⟩ | hq0⟩
  · have := ten_pow_le_overflow
    have := leastHalf_le
    have := hroom (by linarith)
    exact not_lt_of_infinite (htolerance.mono (by linarith)).infinite_of_overflow
  · refine htolerance.not_lt_foldl hzero hzero' (by positivity)
      (fun a ha => ⟨List.eq_of_mem_replicate ha ▸ hq, List.eq_of_mem_replicate ha ▸ hqle⟩) hlen ?_
    refine le_trans ?_ (hroom hlarge)
    have hgrowth := mul_le_mul_of_nonneg_right (unit_mul_growth_le_drift hn) hsq
    rw [List.length_replicate]
    rw [drift] at hgrowth
    linarith
  · refine (nonneg_tolerance hpos hn53 hfull hscale).not_lt_foldl hzero hzero' le_rfl
      (fun a ha => ?_) hlen (by rw [mul_zero])
    rw [List.eq_of_mem_replicate ha, hq0, abs_zero]
    exact ⟨hq, le_rfl⟩

/-! ## A long list -/

/-- A number with an odd multiple of `2 ^ 16`. -/
def drifting : Float :=
  Scalar.ofNat (3 * 10 ^ 16)

theorem value_drifting : drifting.isFinite = true ∧ value drifting = 457763671875 * 2 ^ 16 := by
  have hc : Canonical 7500000000000000 2 :=
    ⟨by decide, by decide, by decide, by decide, fun _ => by decide⟩
  have hround : Rounds (((3 * 10 ^ 16 : Nat) : ℚ) / (1 : Nat)) drifting :=
    rounds_ofRatio (3 * 10 ^ 16) Nat.one_pos
  have hvalue : ((3 * 10 ^ 16 : Nat) : ℚ) / (1 : Nat) = (7500000000000000 : Nat) * 2 ^ (2 : Int) := by
    norm_num
  rw [hvalue] at hround
  obtain ⟨hx, hv⟩ := hround.of_roundsTo hc (roundsTo_self hc.pos)
  refine ⟨hx, hv.trans ?_⟩
  norm_num

/-- What so many of this number are added up to, in units of `2 ^ 16`: as soon as the sum has an odd
number of units too many for its mantissa, every addition is rounded up. -/
def drifted (k : Nat) : Nat :=
  k * 457763671875 + (k - 19676)

section

variable {k : Nat} {s : Float} (hs : s.isFinite = true) (hvalue : value s = drifted k * 2 ^ 16)

include hs hvalue

/-- As long as its mantissa has room the sum is exact. -/
theorem value_add_drifting_of_le (hk : k + 1 ≤ 19676) :
    (s + drifting).isFinite = true ∧ value (s + drifting) = drifted (k + 1) * 2 ^ 16 := by
  obtain ⟨hd, hdvalue⟩ := value_drifting
  have hround := rounds_add hs hd
  rw [hvalue, hdvalue] at hround
  have hsum : ((drifted k : ℚ) * 2 ^ 16 + 457763671875 * 2 ^ 16) =
      ((k + 1) * 457763671875 : Nat) * 2 ^ (16 : Int) := by
    have h : drifted k = k * 457763671875 := by
      unfold drifted
      omega
    rw [h]
    push_cast
    norm_num
    ring
  rw [hsum] at hround
  obtain ⟨hx, hv⟩ := hround.exact (by omega) (by omega) (by decide) (by decide)
  refine ⟨hx, hv.trans ?_⟩
  have hnext : drifted (k + 1) = (k + 1) * 457763671875 := by
    unfold drifted
    omega
  rw [hnext]
  norm_num

/-- From there on the sum is half-way between two doubles, and it is rounded up. -/
theorem value_add_drifting_of_lt (hlow : 19676 < k + 1) (hhigh : k < 39352) :
    (s + drifting).isFinite = true ∧ value (s + drifting) = drifted (k + 1) * 2 ^ 16 := by
  obtain ⟨hd, hdvalue⟩ := value_drifting
  have hround := rounds_add hs hd
  rw [hvalue, hdvalue] at hround
  obtain ⟨m, hm⟩ : ∃ m, m = (k + 1) * 228881835938 - 9838 := ⟨_, rfl⟩
  have hnext : drifted (k + 1) = 2 * m := by
    unfold drifted
    omega
  have hsum : ((drifted k : ℚ) * 2 ^ 16 + 457763671875 * 2 ^ 16) =
      ((m : ℚ) - 1 / 2) * 2 ^ (17 : Int) := by
    have h : drifted k + 457763671875 + 1 = 2 * m := by
      unfold drifted
      omega
    have h' : ((drifted k : ℚ) + 457763671875 + 1) = 2 * m := by exact_mod_cast h
    have hpow : (2 : ℚ) ^ (17 : Int) = 2 * 2 ^ 16 := by norm_num
    rw [hpow]
    linear_combination 2 ^ 16 * h'
  have hc : Canonical m 17 := ⟨by omega, by omega, by decide, by decide, fun _ => by omega⟩
  have hto : RoundsTo m 17 (((m : ℚ) - 1 / 2) * 2 ^ (17 : Int)) := by
    have hquarters : (lowQuarters m 17 : ℚ) / 4 ≤ m - 1 / 2 := by
      rw [lowQuarters, if_neg (fun h => by have := h.1; norm_num at this; omega)]
      rw [Nat.cast_sub (by omega)]
      push_cast
      linarith
    rw [roundsTo_iff, mul_div_cancel_right₀ _ (two_zpow_pos 17).ne']
    exact ⟨hquarters, by linarith, .inl (by omega)⟩
  rw [hsum] at hround
  obtain ⟨hx, hv⟩ := hround.of_roundsTo hc hto
  refine ⟨hx, hv.trans ?_⟩
  rw [hnext]
  push_cast
  norm_num
  ring

end

theorem value_foldl_drifting {k : Nat} (hk : k ≤ 39352) :
    let s := (List.replicate k drifting).foldl (fun total a => total + a) (-0)
    s.isFinite = true ∧ value s = drifted k * 2 ^ 16 := by
  induction k with
  | zero =>
    obtain ⟨hzero, hvalue⟩ := value_negZero
    have h0 : drifted 0 = 0 := by
      unfold drifted
      omega
    rw [h0, Nat.cast_zero, zero_mul]
    exact ⟨hzero, hvalue⟩
  | succ k ih =>
    obtain ⟨hs, hvalue⟩ := ih (by omega)
    rw [List.replicate_succ', List.foldl_append]
    rcases Nat.lt_or_ge 19676 (k + 1) with h | h
    · exact value_add_drifting_of_lt hs hvalue h hk
    · exact value_add_drifting_of_le hs hvalue h

section

variable {n : Nat} (hlow : 39000 ≤ n) (hhigh : n ≤ 39352)

include hlow hhigh

theorem mean_drifting :
    let m := mean n (List.replicate n drifting)
    m.isFinite = true ∧ 457763671875.4954 * 2 ^ 16 ≤ value m ∧
      value m ≤ 457763671875.5001 * 2 ^ 16 := by
  obtain ⟨hs, hvalue⟩ := value_foldl_drifting hhigh
  obtain ⟨hn, hnvalue⟩ := @value_ofRatio_one n (by omega) (by omega)
  have hn0 : (0 : ℚ) < n := by exact_mod_cast (by omega : 0 < n)
  have hround := rounds_div hs hn (by rw [hnvalue]; exact hn0.ne')
  have hmean : mean n (List.replicate n drifting) =
      (List.replicate n drifting).foldl (fun total a => total + a) (-0) / ofRatio false n 1 := rfl
  rw [hvalue, hnvalue, ← hmean] at hround
  intro m
  have hexact : (drifted n : ℚ) = n * 457763671875 + (n - 19676) := by
    have h : drifted n + 19676 = n * 457763671875 + n := by
      unfold drifted
      omega
    have h' : (drifted n : ℚ) + 19676 = n * 457763671875 + n := by exact_mod_cast h
    linarith
  have hlow' : (39000 : ℚ) ≤ n := by exact_mod_cast hlow
  have hhigh' : (n : ℚ) ≤ 39352 := by exact_mod_cast hhigh
  have h₁ : 457763671875.49548 * 2 ^ 16 ≤ (drifted n : ℚ) * 2 ^ 16 / n := by
    rw [le_div_iff₀ hn0, hexact]
    linarith
  have h₂ : (drifted n : ℚ) * 2 ^ 16 / n ≤ 457763671875.5 * 2 ^ 16 := by
    rw [div_le_iff₀ hn0, hexact]
    linarith
  generalize (drifted n : ℚ) * 2 ^ 16 / n = r at *
  have habs : |r| = r := abs_of_nonneg (by linarith)
  have hfull := leastFull_le
  have hover := ten_pow_le_overflow
  obtain ⟨hm, herror⟩ := hround.near (by rw [habs]; linarith) (by rw [habs]; linarith)
  rw [habs, abs_sub_le_iff, unit] at herror
  exact ⟨hm, by linarith [herror.2], by linarith [herror.1]⟩

theorem roundOff_drifting :
    Between (1 / 10 ^ 14) 30001 (roundOff (mean n (List.replicate n drifting))) := by
  obtain ⟨hm, hm₁, hm₂⟩ := mean_drifting hlow hhigh
  have hfull := leastFull_le
  have hover := ten_pow_le_overflow
  generalize mean n (List.replicate n drifting) = m at *
  have hsize : Between 1 (457763671875.5001 * 2 ^ 16) (Scalar.greatest m.abs Scalar.leastNormal) := by
    obtain ⟨habs, hvalue⟩ := value_abs hm
    obtain ⟨hg, hgvalue⟩ := value_greatest habs value_leastNormal.1
    rw [hvalue, abs_of_nonneg (by linarith), value_leastNormal.2, max_eq_left (by linarith)] at hgvalue
    exact ⟨hg, by linarith, by linarith⟩
  have hround : Rounds (((1 : Nat) : ℚ) / (10 ^ 12 : Nat)) (Scalar.ofDecimal 1 12) :=
    rounds_ofRatio 1 (by decide)
  have htenth : Between (1 / 10 ^ 13) (1000001 / 10 ^ 18) (Scalar.ofDecimal 1 12) := by
    refine (Between.of_rounds hround le_rfl le_rfl ?_ ?_).mono ?_ ?_
    · norm_num at hfull ⊢
      linarith
    · norm_num at hover ⊢
      linarith
    · rw [unit]
      norm_num
    · rw [unit]
      norm_num
  refine (hsize.mul htenth (by norm_num) (by norm_num) (by linarith) (by linarith)).mono ?_ ?_
  · rw [unit]
    norm_num
  · rw [unit]
    norm_num

theorem tolerance_drifting :
    let t := tolerance n (mean n (List.replicate n drifting))
    t.isFinite = true ∧ value t ≤ 901 * 10 ^ 6 * n := by
  have hscale := roundOff_drifting hlow hhigh
  obtain ⟨hn, hnvalue⟩ := @value_ofRatio_one n (by omega) (by omega)
  have hlow' : (39000 : ℚ) ≤ n := by exact_mod_cast hlow
  have hhigh' : (n : ℚ) ≤ 39352 := by exact_mod_cast hhigh
  have hfull := leastFull_le
  have hover := ten_pow_le_overflow
  generalize mean n (List.replicate n drifting) = m at *
  have hcount : Between n n (Scalar.ofNat n) := ⟨hn, hnvalue.ge, hnvalue.le⟩
  have hprod : Between (1 / 10 ^ 14) (30002 * n) (Scalar.ofNat n * roundOff m) := by
    refine (hcount.mul hscale (by linarith) (by norm_num) (by linarith) (by linarith)).mono ?_ ?_
    · rw [unit]
      linarith
    · rw [unit]
      linarith
  have ht := hprod.mul hscale (by norm_num) (by norm_num) (by linarith) (by linarith)
  refine ⟨ht.isFinite, ht.high.trans ?_⟩
  rw [unit]
  linarith

theorem square_drifting :
    let d := drifting - mean n (List.replicate n drifting)
    Between (0.245 * 2 ^ 32) (0.251 * 2 ^ 32) (d * d) := by
  obtain ⟨hm, hm₁, hm₂⟩ := mean_drifting hlow hhigh
  obtain ⟨hx, hvalue⟩ := value_drifting
  have hfull := leastFull_le
  have hover := ten_pow_le_overflow
  intro d
  have hnear : |value drifting - value (mean n (List.replicate n drifting))| ≤ 0.5001 * 2 ^ 16 := by
    rw [hvalue, abs_sub_le_iff]
    constructor <;> linarith
  have hdev := (rounds_sub hx hm).error_of_onGrid ((onGrid_value hx).sub (onGrid_value hm))
  obtain ⟨hd, herror⟩ := hdev.resolve_right fun h => absurd h.2 (not_le.mpr (by linarith))
  have hscaled := herror.trans (mul_le_mul_of_nonneg_left hnear unit_pos.le)
  rw [hvalue, abs_sub_le_iff, unit] at hscaled
  have hd₁ : -(0.5002 * 2 ^ 16) ≤ value d := by linarith [hscaled.2]
  have hd₂ : value d ≤ -(0.4953 * 2 ^ 16) := by linarith [hscaled.1]
  refine (Between.of_rounds (rounds_mul hd hd) (a := 0.2453 * 2 ^ 32) (b := 0.2503 * 2 ^ 32)
    ?_ ?_ (by linarith) (by linarith)).mono ?_ ?_
  · nlinarith
  · nlinarith
  · rw [unit]
    norm_num
  · rw [unit]
    norm_num

/-- **So long a list of one number** has a spread. -/
theorem hasSpread_drifting {y : List Float} (hy : y.length = n) :
    HasSpread (List.replicate n drifting) y := by
  obtain ⟨ht, htvalue⟩ := tolerance_drifting hlow hhigh
  obtain ⟨hq, hq₁, hq₂⟩ := square_drifting hlow hhigh
  rw [HasSpread, List.length_replicate, spread_replicate _ _ hy]
  generalize mean n (List.replicate n drifting) = m at *
  generalize (drifting - m) * (drifting - m) = q at *
  have hlow' : (39000 : ℚ) ≤ n := by exact_mod_cast hlow
  have hhigh' : (n : ℚ) ≤ 39352 := by exact_mod_cast hhigh
  have hover := ten_pow_le_overflow
  obtain ⟨hzero, hzero'⟩ := value_zero
  have hgrowth : unit * growth n ≤ n / 10 ^ 10 := by
    have hmul := mul_le_mul_of_nonneg_left (growth_le hhigh) unit_pos.le
    rw [unit] at *
    norm_num at *
    linarith
  have hsum := @sumsTo_foldl (0.251 * 2 ^ 32) 0 hzero hzero' (by norm_num) (List.replicate n q)
    (fun a ha => by
      rw [List.eq_of_mem_replicate ha, abs_of_nonneg (by linarith)]
      exact ⟨hq, hq₂⟩)
    (by rw [List.length_replicate, unit]; linarith)
  rw [List.map_replicate, List.sum_replicate, nsmul_eq_mul, List.length_replicate] at hsum
  rcases hsum with ⟨hs, herror⟩ | ⟨-, hlarge⟩
  · refine (lt_iff_value ht hs).mpr ?_
    have hnq := mul_le_mul_of_nonneg_left hq₁ (by linarith : (0 : ℚ) ≤ n)
    linarith [(abs_sub_le_iff.mp herror).2]
  · linarith

end

end Trendline.LeastSquares
