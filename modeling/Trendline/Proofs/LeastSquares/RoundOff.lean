import Trendline.Proofs.Double.AtLeast
import Trendline.Proofs.LeastSquares.Guards

/-!
# Means and tolerances over doubles

The spread of the abscissae counts as none if it is not above `n * s * s`, where
`s` is a part in `10 ^ 12` of the mean.  Over doubles the mean, `s` and the
products are rounded, and they may overflow or vanish.  The mean is as near to the
exact one as its sum is, and from below the tolerance stays near to the exact one.

* `div_error`, `mean_error`: the error of a quotient and of a mean.
* `atLeast_roundOff`: the largest deviation that counts as none.
* `atLeast_tolerance`, `nonneg_tolerance`: the largest spread that counts as none.
-/

namespace Trendline.LeastSquares

open Trendline.Double

/-! ## The sums -/

section

variable {α : Type} [Scalar α] (c d : α) (pairs : List (α × α))

theorem spread_eq_foldl : spread c pairs =
    (pairs.map fun p => (p.1 - c) * (p.1 - c)).foldl (fun total a => total + a) 0 := by
  rw [List.foldl_map]
  rfl

theorem covariation_eq_foldl : covariation c d pairs =
    (pairs.map fun p => (p.1 - c) * (p.2 - d)).foldl (fun total a => total + a) 0 := by
  rw [List.foldl_map]
  rfl

end

/-! ## The mean -/

/-- The quotient of a sum that is off, by a count. -/
theorem div_error {s count : Float} {n exact b e : ℚ} (hs : s.isFinite = true)
    (hcount : count.isFinite = true) (hvalue : value count = n) (hn : 0 < n)
    (herror : |value s - exact| ≤ e) (hexact : |exact| ≤ n * b) :
    (s / count).isFinite = true ∧
        |value (s / count) - exact / n| ≤ e / n + unit * (b + e / n) + leastHalf ∨
      IsInfinite (s / count) ∧ overflow ≤ b + e / n := by
  have hround := rounds_div hs hcount (by rw [hvalue]; exact hn.ne')
  rw [hvalue] at hround
  have hdiff : |value s / n - exact / n| ≤ e / n := by
    rw [← sub_div, abs_div, abs_of_pos hn]
    exact div_le_div_of_nonneg_right herror hn.le
  have hquot : |exact / n| ≤ b := by
    rw [abs_div, abs_of_pos hn, div_le_iff₀ hn, mul_comm b]
    exact hexact
  have hsize := abs_le_of_near hdiff hquot
  rcases hround.error with ⟨hx, hnear⟩ | ⟨hx, hover⟩
  · refine .inl ⟨hx, ?_⟩
    have hmax : max (unit * |value s / n|) leastHalf ≤ unit * |value s / n| + leastHalf :=
      max_le_add_of_nonneg (mul_nonneg unit_pos.le (abs_nonneg _)) leastHalf_pos.le
    have hscale := mul_le_mul_of_nonneg_left hsize unit_pos.le
    refine (abs_sub_le _ (value s / n) _).trans ?_
    linarith
  · exact .inr ⟨hx, by linarith⟩

/-- **The mean** is as near to the exact one as its sum is, but for one rounding more. -/
theorem mean_error {b : ℚ} {xs : List Float} (hb : 0 ≤ b)
    (hxs : ∀ a ∈ xs, a.isFinite = true ∧ |value a| ≤ b) (hpos : 0 < xs.length)
    (hlen : xs.length ≤ 2 ^ 53) :
    (mean xs.length xs).isFinite = true ∧
        |value (mean xs.length xs) - (xs.map value).sum / xs.length| ≤
          unit * (growth xs.length / xs.length) * b * (1 + unit) + unit * b + leastHalf ∨
      IsInfinite (mean xs.length xs) ∧ overflow ≤ (xs.length + unit * growth xs.length) * b := by
  obtain ⟨hn, hvalue⟩ := value_ofRatio_one hpos hlen
  have hn0 : (0 : ℚ) < xs.length := by exact_mod_cast hpos
  have hk : xs.length * unit ≤ 1 := by
    have h : (xs.length : ℚ) ≤ 2 ^ 53 := by exact_mod_cast hlen
    rw [unit]
    linarith
  have hsum : |(xs.map value).sum| ≤ xs.length * b := by
    have h := @abs_sum_le b (xs.map value) (by simpa using fun a h => (hxs a h).2)
    rwa [List.length_map] at h
  have hmean : mean xs.length xs = xs.foldl (fun total a => total + a) (-0) /
      ofRatio false xs.length 1 := rfl
  rw [hmean]
  have hscale : unit * growth xs.length * b / xs.length =
      unit * (growth xs.length / xs.length) * b := by
    field_simp
  rcases sumsTo_foldl value_negZero.1 value_negZero.2 hb xs hxs hk with ⟨hs, herror⟩ | ⟨hs, hover⟩
  · have hdiv := div_error hs hn hvalue hn0 herror hsum
    rw [hscale] at hdiv
    rcases hdiv with ⟨hx, hnear⟩ | ⟨hx, hover⟩
    · exact .inl ⟨hx, hnear.trans (by linarith)⟩
    · refine .inr ⟨hx, hover.trans ?_⟩
      have hn1 : (1 : ℚ) ≤ xs.length := by exact_mod_cast hpos
      have hle : growth xs.length / xs.length ≤ growth xs.length :=
        div_le_self (growth_nonneg _) hn1
      have hb1 : b ≤ xs.length * b := le_mul_of_one_le_left hb hn1
      have hub := mul_le_mul_of_nonneg_right (mul_le_mul_of_nonneg_left hle unit_pos.le) hb
      linarith
  · exact .inr ⟨hs.div hn, hover⟩

/-! ## The tolerance -/

/-- Of the mean so much passes for round-off, less what is lost in computing it. -/
def part : ℚ :=
  9998 / 10 ^ 16

theorem part_pos : 0 < part := by
  rw [part]
  positivity

theorem value_leastNormal :
    (Scalar.leastNormal : Float).isFinite = true ∧ value Scalar.leastNormal = leastFull := by
  obtain ⟨hbits, hsign⟩ := @ofBits_bits (2 ^ 52) (by decide)
  have hx : Scalar.leastNormal = Float.ofBits (2 ^ 52 : Nat).toUInt64 := rfl
  rw [← hx] at hbits hsign
  have hfinite : (Scalar.leastNormal : Float).isFinite = true := by
    rw [isFinite_iff, hbits]
    decide
  refine ⟨hfinite, ?_⟩
  rw [value_eq hfinite, hsign, hbits, if_neg Bool.false_ne_true, patternValue, unpack_of_le le_rfl]
  show ((2 ^ 52 : Nat) : ℚ) * 2 ^ (-1074 : Int) = leastFull
  rw [leastFull, show (-1022 : Int) = 52 + -1074 by norm_num, zpow_add₀ (by norm_num)]
  generalize (2 : ℚ) ^ (-1074 : Int) = w
  norm_num

theorem atLeast_ofDecimal : AtLeast ((1 - 2 * unit) / 10 ^ 12) (Scalar.ofDecimal 1 12) := by
  have hround : Rounds (((1 : Nat) : ℚ) / (10 ^ 12 : Nat)) (Scalar.ofDecimal 1 12) :=
    rounds_ofRatio 1 (by decide)
  refine (AtLeast.of_rounds hround (by norm_num)).1.mono ?_
  have hle := leastFull_le
  rw [leastHalf_eq, unit]
  norm_num at hle ⊢
  linarith

/-- **A part of the mean passes for round-off**, however small or large the mean is. -/
theorem atLeast_roundOff {b : ℚ} {uMean : Float} (h : AtLeast b uMean.abs) :
    AtLeast (part * max b leastFull) (roundOff uMean) := by
  have hscale := h.greatest value_leastNormal.1
  rw [value_leastNormal.2] at hscale
  have hm : leastFull ≤ max b leastFull := le_max_right _ _
  have hpos := leastFull_pos.trans_le hm
  refine (hscale.mul atLeast_ofDecimal hpos (by rw [unit]; norm_num)).mono ?_
  rw [leastHalf_eq, unit, part]
  norm_num
  linarith

/-- What is left of the tolerance after its products are rounded. -/
def toleranceFloor (n b : ℚ) : ℚ :=
  (n * b * (1 - unit) - leastHalf) * b * (1 - unit) - leastHalf

section

variable {n : Nat} {b : ℚ} {uMean : Float} (hpos : 0 < n) (hn : n ≤ 2 ^ 53)
  (hb : part * leastFull ≤ b)

include hpos hb

theorem tolerance_pos : 0 < n * b * (1 - unit) - leastHalf := by
  have hn1 : (1 : ℚ) ≤ n := by exact_mod_cast hpos
  have hb0 := (mul_pos part_pos leastFull_pos).trans_le hb
  have hnb : b ≤ n * b := le_mul_of_one_le_left hb0.le hn1
  have hfull := leastFull_pos
  rw [leastHalf_eq, unit]
  rw [part] at hb
  linarith

include hn

theorem nonneg_tolerance (h : AtLeast b (roundOff uMean)) : AtLeast 0 (tolerance n uMean) := by
  have hb0 := (mul_pos part_pos leastFull_pos).trans_le hb
  obtain ⟨hfinite, hvalue⟩ := value_ofRatio_one hpos hn
  have hcount : AtLeast n (ofRatio false n 1) := .finite hfinite hvalue.ge
  exact (hcount.mul h (by exact_mod_cast hpos) hb0).nonneg_mul h (tolerance_pos hpos hb) hb0

theorem atLeast_tolerance (h : AtLeast b (roundOff uMean)) :
    AtLeast (toleranceFloor n b) (tolerance n uMean) := by
  have hb0 := (mul_pos part_pos leastFull_pos).trans_le hb
  obtain ⟨hfinite, hvalue⟩ := value_ofRatio_one hpos hn
  have hcount : AtLeast n (ofRatio false n 1) := .finite hfinite hvalue.ge
  exact (hcount.mul h (by exact_mod_cast hpos) hb0).mul h (tolerance_pos hpos hb) hb0

end

end Trendline.LeastSquares
