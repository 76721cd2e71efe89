import Trendline.Proofs.Double.Exact

/-!
# The operations as rounded numbers

A finite double is a number, `value`.  The sum, the difference, the product and
the quotient of finite doubles are the exact numbers, rounded once.

* `Rounds`: a double is what a number is rounded to.
* `rounds_add`, `rounds_sub`, `rounds_mul`, `rounds_div`: the four operations.
-/

namespace Trendline.Double

open Float.Model Float.Model.UnpackedFloat Trendline.Decimal

/-! ## The number of a double -/

/-- The number that a sign and an unsigned pattern stand for, `0` if they stand for none. -/
def valueOf : UnpackedFloat → ℚ
  | .finite s m e _ => s.apply m * 2 ^ e
  | _ => 0

theorem valueOf_zero (s : Sign) : valueOf (.zero s) = 0 := rfl

theorem valueOf_finite (s : Sign) {m : Nat} (e : Int) (h : 0 < m) :
    valueOf (.finite s m e h) = s.apply m * 2 ^ e := rfl

/-- The number that a finite double is. -/
def value (x : Float) : ℚ :=
  valueOf x.toModel.unpack

/-- A double is what a number is rounded to.  The sign of a zero is left open. -/
structure Rounds (r : ℚ) (x : Float) : Prop where
  bits : ∃ num den : Nat, 0 < den ∧ (num / den : ℚ) = |r| ∧ magnitudeBits x = nearestBits num den
  sign : r ≠ 0 → isNegative x = decide (r < 0)

theorem rounds_of_zero {x : Float} (h : magnitudeBits x = 0) : Rounds 0 x :=
  ⟨⟨0, 1, Nat.one_pos, by simp, h⟩, fun h => absurd rfl h⟩

theorem rounds_of_pack_zero {x : Float} {s : Sign} (hx : x.toModel = Float.Model.pack (.zero s)) :
    Rounds 0 x := by
  refine rounds_of_zero ?_
  cases s with
  | positive => exact (@toBits_of_toModel x false 0 (Nat.zero_le _) hx).1
  | negative => exact (@toBits_of_toModel x true 0 (Nat.zero_le _) hx).1

theorem signOf_decide_lt {s : Sign} {r : ℚ} {n : ℚ} (hn : 0 < n) (hr : r = s.apply 1 * n) :
    s = signOf (decide (r < 0)) := by
  cases s with
  | positive =>
    have h : ¬ r < 0 := by
      rw [hr]
      simpa [Sign.apply] using hn.le
    rw [decide_eq_false h]
    rfl
  | negative =>
    have h : r < 0 := by
      rw [hr]
      simpa [Sign.apply] using hn
    rw [decide_eq_true h]
    rfl

theorem rounds_of_pack_roundWithAccuracy {x : Float} {s : Sign} {m : Nat} {e : Int} {acc : Accuracy} {q : ℚ}
    (hfine : Fine m e) (hq : 0 < q)
    (h : Covers (.ofMantissaAndAccuracy m acc) (q / 2 ^ e))
    (hx : x.toModel = Float.Model.pack (roundWithAccuracy Format.binary64 s m e acc)) :
    Rounds (s.apply 1 * q) x := by
  have hs := @signOf_decide_lt s _ _ hq rfl
  have habs : |(s.apply 1 : ℚ) * q| = q := by
    rw [abs_mul, abs_of_pos hq]
    cases s <;> simp [Sign.apply]
  have hnum : 0 < q.num.natAbs := Int.natAbs_pos.mpr (Rat.num_ne_zero.mpr hq.ne')
  have hdiv : (q.num.natAbs / q.den : ℚ) = q := by
    rw [Nat.cast_natAbs, Int.cast_abs, abs_of_pos (by exact_mod_cast Rat.num_pos.mpr hq)]
    exact Rat.num_div_den q
  rw [hs] at hx
  rw [← hdiv] at h
  obtain ⟨hbits, hsign⟩ := bits_of_pack_roundWithAccuracy hfine hnum q.den_pos h hx
  exact ⟨⟨_, _, q.den_pos, hdiv.trans habs.symm, hbits⟩, fun _ => hsign⟩

theorem apply_mul (s t : Sign) (a b : Nat) :
    ((s.apply a : ℚ)) * t.apply b = (s * t).apply 1 * (a * b) := by
  cases s <;> cases t <;> simp [Sign.apply]

theorem apply_eq (s : Sign) (a : Nat) : (s.apply a : ℚ) = s.apply 1 * a := by
  cases s <;> simp [Sign.apply]

/-- What a finite double is unpacked to. -/
theorem unpack_cases {x : Float} (hx : x.isFinite = true) :
    (∃ s, x.toModel.unpack = .zero s) ∨
      ∃ s m e, ∃ h : 0 < m, x.toModel.unpack = .finite s m e h ∧ Canonical m e := by
  rw [isFinite_iff] at hx
  rw [unpack_toModel]
  rcases eq_or_ne (magnitudeBits x) 0 with h0 | h0
  · exact .inl ⟨_, by rw [h0]; rfl⟩
  · exact .inr ⟨_, _, _, _, decode_finite h0 hx, canonical_unpack h0 hx⟩

/-- A number that is a double is rounded to itself. -/
theorem rounds_of_pack_finite {x : Float} {s : Sign} {m : Nat} {e : Int} {h : 0 < m}
    (hc : Canonical m e) (hx : x.toModel = Float.Model.pack (.finite s m e h)) :
    Rounds (s.apply m * 2 ^ e) x := by
  have hq : (0 : ℚ) < m * 2 ^ e := mul_pos (by exact_mod_cast h) (two_zpow_pos e)
  have hvalue : (s.apply m * 2 ^ e : ℚ) = s.apply 1 * (m * 2 ^ e) := by rw [apply_eq, mul_assoc]
  have hs := signOf_decide_lt hq hvalue
  have habs : |(s.apply m * 2 ^ e : ℚ)| = m * 2 ^ e := by
    rw [hvalue, abs_mul, abs_of_pos hq]
    cases s <;> simp [Sign.apply]
  obtain ⟨hne, hlt, hunpack⟩ := unpack_of_canonical hc
  rw [hs] at hx
  have hdecode : decode (decide ((s.apply m * 2 ^ e : ℚ) < 0)) ((e + 1074).toNat * 2 ^ 52 + m) =
      .finite (signOf (decide ((s.apply m * 2 ^ e : ℚ) < 0))) m e h := by
    rw [decode_finite hne hlt]
    simp only [hunpack]
  rw [← hdecode] at hx
  obtain ⟨hbits, hsign⟩ := toBits_of_toModel hlt.le hx
  have hround : RoundsTo m e ((ratio m e).1 / (ratio m e).2) := by
    rw [ratio_div]
    exact roundsTo_self h
  refine ⟨⟨(ratio m e).1, (ratio m e).2, ratio_snd_pos m e, (ratio_div m e).trans habs.symm, ?_⟩,
    fun _ => hsign⟩
  rw [hbits, nearestBits_of_roundsTo hc (ratio_fst_pos h e) (ratio_snd_pos m e) hround]

variable {x y : Float}

theorem rounds_mul (hx : x.isFinite = true) (hy : y.isFinite = true) :
    Rounds (value x * value y) (x * y) := by
  have hmodel : (x * y).toModel =
      Float.Model.pack (UnpackedFloat.mul Format.binary64 x.toModel.unpack y.toModel.unpack) := rfl
  rw [value, value]
  rcases unpack_cases hx with ⟨s, hs⟩ | ⟨s, m, e, hm, hs, hc⟩ <;>
    rcases unpack_cases hy with ⟨t, ht⟩ | ⟨t, n, f, hn, ht, hc'⟩ <;> rw [hs, ht] at hmodel ⊢
  · rw [valueOf_zero, zero_mul]
    exact rounds_of_pack_zero hmodel
  · rw [valueOf_zero, zero_mul]
    exact rounds_of_pack_zero hmodel
  · rw [valueOf_zero, mul_zero]
    exact rounds_of_pack_zero hmodel
  · have hpos := Nat.mul_pos hm hn
    have hq : (0 : ℚ) < ↑(m * n) * 2 ^ (e + f) := mul_pos (by exact_mod_cast hpos) (two_zpow_pos _)
    have hvalue : (s.apply m * 2 ^ e : ℚ) * (t.apply n * 2 ^ f) =
        (s * t).apply 1 * (↑(m * n) * 2 ^ (e + f)) := by
      rw [zpow_add₀ (by norm_num), mul_mul_mul_comm, apply_mul]
      push_cast
      ring
    rw [valueOf_finite, valueOf_finite, hvalue]
    refine rounds_of_pack_roundWithAccuracy (hc.fine_mul hc') hq ?_ hmodel
    rw [mul_div_cancel_right₀ _ (two_zpow_pos _).ne']
    exact Covers.exact _

/-- Digits are added to a short mantissa, so that its number is still the same. -/
theorem exists_round_eq (s : Sign) {m : Nat} (e : Int) (hm : 0 < m) :
    ∃ j : Nat, Fine (m * 2 ^ j) (e - j) ∧ UnpackedFloat.round Format.binary64 s m e =
      roundWithAccuracy Format.binary64 s (m * 2 ^ j) (e - j) .exact := by
  refine ⟨(e - max ((m.log2 : Int) + e - 52) (-1074)).toNat, ?_, ?_⟩
  · generalize hj : (e - max ((m.log2 : Int) + e - 52) (-1074)).toNat = j
    by_cases hlow : e - (j : Int) ≤ -1074
    · exact .inr hlow
    · refine .inl ((Nat.le_log2 (Nat.mul_pos hm (Nat.two_pow_pos j)).ne').mpr ?_)
      calc 2 ^ 52 ≤ 2 ^ (m.log2 + j) := Nat.pow_le_pow_right (by decide) (by omega)
        _ = 2 ^ m.log2 * 2 ^ j := Nat.pow_add 2 _ _
        _ ≤ m * 2 ^ j := Nat.mul_le_mul_right _ (Nat.log2_self_le hm.ne')
  · rw [UnpackedFloat.round, targetExponent_eq, decreaseExponent, Nat.shiftLeft_eq]

theorem rounds_of_pack_round {s : Sign} {m : Nat} {e : Int} (hm : 0 < m)
    (hx : x.toModel = Float.Model.pack (UnpackedFloat.round Format.binary64 s m e)) :
    Rounds (s.apply 1 * (m * 2 ^ e)) x := by
  obtain ⟨j, hfine, hround⟩ := exists_round_eq s e hm
  rw [hround] at hx
  refine rounds_of_pack_roundWithAccuracy hfine
    (mul_pos (by exact_mod_cast hm) (two_zpow_pos e)) ?_ hx
  have hsame : (m * 2 ^ e : ℚ) / 2 ^ (e - (j : Int)) = (m * 2 ^ j : Nat) := by
    rw [zpow_sub₀ (by norm_num), zpow_natCast]
    push_cast
    field_simp
  rw [hsame]
  exact Covers.exact _

theorem rounds_of_pack_normalize {z : Int} {e : Int}
    (hx : x.toModel = Float.Model.pack (normalize Format.binary64 z e .positive)) :
    Rounds (z * 2 ^ e) x := by
  rcases lt_trichotomy z 0 with h | rfl | h
  · rw [UnpackedFloat.normalize, Int.compare_eq_lt.mpr h] at hx
    have hz : (z * 2 ^ e : ℚ) = Sign.negative.apply 1 * ((-z).toNat * 2 ^ e) := by
      have : ((-z).toNat : ℚ) = -z := by exact_mod_cast Int.toNat_of_nonneg (by omega : 0 ≤ -z)
      rw [this]
      simp [Sign.apply]
    rw [hz]
    exact rounds_of_pack_round (by omega) hx
  · rw [Int.cast_zero, zero_mul]
    exact rounds_of_pack_zero hx
  · rw [UnpackedFloat.normalize, Int.compare_eq_gt.mpr h] at hx
    have hz : (z * 2 ^ e : ℚ) = Sign.positive.apply 1 * (z.toNat * 2 ^ e) := by
      have : (z.toNat : ℚ) = z := by exact_mod_cast Int.toNat_of_nonneg h.le
      rw [this]
      simp [Sign.apply]
    rw [hz]
    exact rounds_of_pack_round (by omega) hx

/-- With a common power of two a sum is one of whole numbers. -/
theorem apply_decreaseExponent (s : Sign) (m : Nat) {e t : Int} (h : t ≤ e) :
    (s.apply (decreaseExponent m e t).1 * 2 ^ t : ℚ) = s.apply m * 2 ^ e := by
  rw [apply_eq, mul_assoc, decreaseExponent_size m h, apply_eq s m, mul_assoc]

theorem rounds_add (hx : x.isFinite = true) (hy : y.isFinite = true) :
    Rounds (value x + value y) (x + y) := by
  have hmodel : (x + y).toModel =
      Float.Model.pack (UnpackedFloat.add Format.binary64 x.toModel.unpack y.toModel.unpack) := rfl
  rw [value, value]
  rcases unpack_cases hx with ⟨s, hs⟩ | ⟨s, m, e, hm, hs, hc⟩ <;>
    rcases unpack_cases hy with ⟨t, ht⟩ | ⟨t, n, f, hn, ht, hc'⟩ <;> rw [hs, ht] at hmodel ⊢
  · have hzero : UnpackedFloat.add Format.binary64 (.zero s) (.zero t) =
        .zero (if s == t then s else .positive) := by
      show (if s == t then UnpackedFloat.zero s else .zero .positive) = _
      split <;> rfl
    rw [hzero] at hmodel
    rw [valueOf_zero, valueOf_zero, zero_add]
    exact rounds_of_pack_zero hmodel
  · rw [valueOf_zero, valueOf_finite, zero_add]
    exact rounds_of_pack_finite hc' hmodel
  · rw [valueOf_zero, valueOf_finite, add_zero]
    exact rounds_of_pack_finite hc hmodel
  · have hsum := rounds_of_pack_normalize hmodel
    rw [valueOf_finite, valueOf_finite, ← apply_decreaseExponent s m (min_le_left e f),
      ← apply_decreaseExponent t n (min_le_right e f), ← add_mul]
    exact_mod_cast hsum

theorem neg_apply (s : Sign) (m : Nat) : ((-s).apply m : ℚ) = -(s.apply m : ℚ) := by
  cases s <;> simp [Sign.apply]

theorem rounds_sub (hx : x.isFinite = true) (hy : y.isFinite = true) :
    Rounds (value x - value y) (x - y) := by
  have hmodel : (x - y).toModel =
      Float.Model.pack (UnpackedFloat.sub Format.binary64 x.toModel.unpack y.toModel.unpack) := rfl
  rw [value, value]
  rcases unpack_cases hx with ⟨s, hs⟩ | ⟨s, m, e, hm, hs, hc⟩ <;>
    rcases unpack_cases hy with ⟨t, ht⟩ | ⟨t, n, f, hn, ht, hc'⟩ <;> rw [hs, ht] at hmodel ⊢
  · have hzero : UnpackedFloat.sub Format.binary64 (.zero s) (.zero t) =
        .zero (if s == -t then s else .positive) := by
      show (if s == -t then UnpackedFloat.zero s else .zero .positive) = _
      split <;> rfl
    rw [hzero] at hmodel
    rw [valueOf_zero, valueOf_zero, sub_zero]
    exact rounds_of_pack_zero hmodel
  · rw [valueOf_zero, valueOf_finite, zero_sub, ← neg_mul, ← neg_apply]
    exact rounds_of_pack_finite hc' hmodel
  · rw [valueOf_zero, valueOf_finite, sub_zero]
    exact rounds_of_pack_finite hc hmodel
  · have hsum := rounds_of_pack_normalize hmodel
    rw [valueOf_finite, valueOf_finite, ← apply_decreaseExponent s m (min_le_left e f),
      ← apply_decreaseExponent t n (min_le_right e f), ← sub_mul]
    exact_mod_cast hsum

/-- A quotient has enough digits when its divisor is so much shorter. -/
theorem le_log2_mul_div {m n : Nat} (j : Nat) (hm : 0 < m) (hn : 0 < n)
    (h : 52 + 1 + n.log2 ≤ m.log2 + j) : 52 ≤ (m * 2 ^ j / n).log2 := by
  have hle : 2 ^ 52 * n ≤ m * 2 ^ j := by
    calc 2 ^ 52 * n ≤ 2 ^ 52 * 2 ^ (n.log2 + 1) := Nat.mul_le_mul_left _ Nat.lt_log2_self.le
      _ = 2 ^ (52 + 1 + n.log2) := by rw [← Nat.pow_add]; congr 1; omega
      _ ≤ 2 ^ (m.log2 + j) := Nat.pow_le_pow_right (by decide) h
      _ = 2 ^ m.log2 * 2 ^ j := Nat.pow_add 2 _ _
      _ ≤ m * 2 ^ j := Nat.mul_le_mul_right _ (Nat.log2_self_le hm.ne')
  have hdiv : 2 ^ 52 ≤ m * 2 ^ j / n := (Nat.le_div_iff_mul_le hn).mpr hle
  exact (Nat.le_log2 (by omega)).mpr hdiv

theorem div_sign (s t : Sign) : s / t = s * t := by
  cases s <;> cases t <;> rfl

theorem rounds_div (hx : x.isFinite = true) (hy : y.isFinite = true) (h0 : value y ≠ 0) :
    Rounds (value x / value y) (x / y) := by
  have hmodel : (x / y).toModel =
      Float.Model.pack (UnpackedFloat.div Format.binary64 x.toModel.unpack y.toModel.unpack) := rfl
  rw [value, value] at *
  rcases unpack_cases hy with ⟨t, ht⟩ | ⟨t, n, f, hn, ht, hc'⟩
  · rw [ht] at h0
    exact absurd rfl h0
  rcases unpack_cases hx with ⟨s, hs⟩ | ⟨s, m, e, hm, hs, hc⟩ <;> rw [hs, ht] at hmodel ⊢
  · rw [valueOf_zero, zero_div]
    exact rounds_of_pack_zero hmodel
  have hm' : (0 : ℚ) < m := by exact_mod_cast hm
  have hn' : (0 : ℚ) < n := by exact_mod_cast hn
  have hvalue : (s.apply m * 2 ^ e : ℚ) / (t.apply n * 2 ^ f) =
      (s * t).apply 1 * (m / n * 2 ^ (e - f)) := by
    have hsplit : (s.apply m : ℚ) / t.apply n = (s * t).apply 1 * (m / n) := by
      rw [apply_eq s, apply_eq t]
      cases s <;> cases t <;> simp [Sign.apply, neg_div, div_neg]
    rw [mul_div_mul_comm, hsplit, zpow_sub₀ (by norm_num)]
    ring
  have hdiv : UnpackedFloat.div Format.binary64 (.finite s m e hm) (.finite t n f hn) =
      roundWithAccuracy Format.binary64 (s / t)
        (divCore Format.binary64 m e n f).1 (divCore Format.binary64 m e n f).2.1
        (divCore Format.binary64 m e n f).2.2 := rfl
  have htarget : Format.binary64.targetExponent (totalExponent m e - totalExponent n f) =
      max ((m.log2 : Int) + e - n.log2 - f - 53) (-1074) := by
    have hbits : (Format.binary64.mantissaBits : Int) = 53 := rfl
    have hleast : Format.binary64.minExponent = -1074 := rfl
    rw [Format.targetExponent, totalExponent, totalExponent, hbits, hleast]
    congr 1
    ring
  rw [hdiv, div_sign, divCore, htarget, Nat.shiftLeft_eq] at hmodel
  dsimp only at hmodel
  generalize hu : min (e - f) (max ((m.log2 : Int) + e - n.log2 - f - 53) (-1074)) = u at hmodel
  generalize hj : (e - f - u).toNat = j at hmodel
  rw [valueOf_finite, valueOf_finite, hvalue]
  refine rounds_of_pack_roundWithAccuracy ?_ (by positivity) ?_ hmodel
  · by_cases hlow : u ≤ -1074
    · exact .inr hlow
    · exact .inl (le_log2_mul_div j hm hn (by omega))
  · have hsame : (m / n * 2 ^ (e - f) : ℚ) / 2 ^ u = (m * 2 ^ j : Nat) / n := by
      have hexp : e - f = u + j := by omega
      rw [hexp, zpow_add₀ (by norm_num), zpow_natCast]
      push_cast
      field_simp
    rw [hsame]
    exact Covers.quotient _ hn

end Trendline.Double
