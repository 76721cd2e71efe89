import Trendline.Proofs.Decimal.Shortest
import Trendline.Proofs.Double.Rounding

/-!
# One rounding

An operation on doubles computes a mantissa with a rest and rounds it once.  The
rest is kept in two bits, which is enough to tell on which side of a half it
lies.  So the outcome is the double nearest to the exact quotient, the one that
`nearestBits` finds.

* `Covers`: what the mantissa and its two bits say about the exact number.
* `Covers.shiftRight`, `Covers.quotient`: where such mantissas come from.
* `bits_of_pack_roundWithAccuracy`: rounding once is rounding to nearest.
-/

namespace Trendline.Double

open Float.Model Float.Model.UnpackedFloat Trendline.Decimal

/-! ## Mantissas with a rest -/

/-- What an extended mantissa stands for: the two bits tell where the rest lies. -/
def Covers (em : ExtendedMantissa) (x : ℚ) : Prop :=
  match em.roundBit, em.stickyBit with
  | false, false => x = em.mantissa
  | false, true => (em.mantissa : ℚ) < x ∧ x < em.mantissa + 1 / 2
  | true, false => x = em.mantissa + 1 / 2
  | true, true => (em.mantissa : ℚ) + 1 / 2 < x ∧ x < em.mantissa + 1

namespace Covers

variable {em : ExtendedMantissa} {x : ℚ}

theorem floor (h : Covers em x) : (em.mantissa : ℚ) ≤ x ∧ x < em.mantissa + 1 := by
  obtain ⟨m, roundBit, stickyBit⟩ := em
  cases roundBit <;> cases stickyBit <;> simp only [Covers] at h
  · constructor <;> linarith
  · constructor <;> linarith
  · constructor <;> linarith
  · constructor <;> linarith

/-- **The rounded mantissa is the nearest**, of two the even one. -/
theorem within (h : Covers em x) :
    Within em.roundedMantissa (em.roundedMantissa - 1 / 2) (em.roundedMantissa + 1 / 2) x := by
  obtain ⟨m, roundBit, stickyBit⟩ := em
  cases roundBit <;> cases stickyBit <;>
    simp only [Covers, ExtendedMantissa.roundedMantissa, ExtendedMantissa.accuracy,
      Accuracy.roundToNearestEven] at h ⊢
  · exact ⟨by linarith, by linarith, .inr ⟨by linarith, by linarith⟩⟩
  · exact ⟨by linarith, by linarith, .inr ⟨by linarith, by linarith⟩⟩
  · -- an exact half goes to the even one
    refine ⟨?_, ?_, .inl (by omega)⟩
    · have hmod : ((m % 2 : Nat) : ℚ) ≤ 1 := by exact_mod_cast (show m % 2 ≤ 1 by omega)
      push_cast
      linarith
    · have hmod : (0 : ℚ) ≤ ((m % 2 : Nat) : ℚ) := Nat.cast_nonneg _
      push_cast
      linarith
  · push_cast
    exact ⟨by linarith, by linarith, .inr ⟨by linarith, by linarith⟩⟩

theorem shiftRightOne (h : Covers em x) : Covers em.shiftRightOne (x / 2) := by
  obtain ⟨m, roundBit, stickyBit⟩ := em
  obtain ⟨n, rfl | rfl⟩ := Nat.even_or_odd' m
  · have hbit : (2 * n % 2 != 0) = false := by simp
    have hhalf : 2 * n / 2 = n := by omega
    cases roundBit <;> cases stickyBit <;>
      simp only [Covers, ExtendedMantissa.shiftRightOne, hbit, hhalf, Bool.or_false, Bool.or_true,
        Nat.cast_mul, Nat.cast_ofNat] at h ⊢
    · linarith
    · constructor <;> linarith
    · constructor <;> linarith
    · constructor <;> linarith
  · have hbit : ((2 * n + 1) % 2 != 0) = true := by simp
    have hhalf : (2 * n + 1) / 2 = n := by omega
    cases roundBit <;> cases stickyBit <;>
      simp only [Covers, ExtendedMantissa.shiftRightOne, hbit, hhalf, Bool.or_false, Bool.or_true,
        Nat.cast_mul, Nat.cast_ofNat, Nat.cast_add, Nat.cast_one] at h ⊢
    · linarith
    · constructor <;> linarith
    · constructor <;> linarith
    · constructor <;> linarith

theorem shiftRight (h : Covers em x) : ∀ k, Covers (em >>> k) (x / 2 ^ k) := by
  intro k
  induction k with
  | zero =>
    rw [pow_zero, div_one]
    exact h
  | succ k ih =>
    have hstep : em >>> (k + 1) = (em >>> k).shiftRightOne := rfl
    rw [hstep, pow_succ, ← div_div]
    exact ih.shiftRightOne

theorem exact (m : Nat) : Covers (.ofMantissaAndAccuracy m .exact) m := rfl

/-- A quotient with its rest. -/
theorem quotient (a : Nat) {b : Nat} (hb : 0 < b) :
    Covers (.ofMantissaAndAccuracy (a / b) (accuracyOfFraction (a % b) b)) (a / b) := by
  have hb' : (0 : ℚ) < b := by exact_mod_cast hb
  have hsplit : (a : ℚ) / b = (a / b : Nat) + (a % b : Nat) / b := by
    rw [div_eq_iff hb'.ne', add_mul, div_mul_cancel₀ _ hb'.ne']
    exact_mod_cast (Nat.div_add_mod' a b).symm
  have hlt : ((a % b : Nat) : ℚ) / b < 1 := by
    rw [div_lt_one hb']
    exact_mod_cast Nat.mod_lt a hb
  rw [hsplit, accuracyOfFraction]
  generalize a / b = q at *
  generalize a % b = r at *
  by_cases h0 : r = 0
  · rw [if_pos h0, h0]
    simp [ExtendedMantissa.ofMantissaAndAccuracy, Covers]
  rw [if_neg h0]
  have hpos : 0 < (r : ℚ) / b := div_pos (by exact_mod_cast Nat.pos_of_ne_zero h0) hb'
  rcases Nat.lt_trichotomy (2 * r) b with h | h | h
  · have hhalf : (r : ℚ) / b < 1 / 2 := by
      rw [div_lt_iff₀ hb']
      have : ((2 * r : Nat) : ℚ) < b := by exact_mod_cast h
      push_cast at this
      linarith
    rw [Nat.compare_eq_lt.mpr h]
    show (q : ℚ) < q + r / b ∧ (q : ℚ) + r / b < q + 1 / 2
    exact ⟨by linarith, by linarith⟩
  · have hhalf : (r : ℚ) / b = 1 / 2 := by
      rw [div_eq_iff hb'.ne']
      have : ((2 * r : Nat) : ℚ) = b := by exact_mod_cast h
      push_cast at this
      linarith
    rw [Nat.compare_eq_eq.mpr h, hhalf]
    rfl
  · have hhalf : 1 / 2 < (r : ℚ) / b := by
      rw [lt_div_iff₀ hb']
      have : (b : ℚ) < (2 * r : Nat) := by exact_mod_cast h
      push_cast at this
      linarith
    rw [Nat.compare_eq_gt.mpr h]
    show (q : ℚ) + 1 / 2 < q + r / b ∧ (q : ℚ) + r / b < q + 1
    exact ⟨by linarith, by linarith⟩

end Covers

/-! ## One rounding -/

theorem shiftToTargetExponent_eq (m : Nat) (e : Int) (acc : Accuracy) :
    shiftToTargetExponent Format.binary64 m e acc =
      (ExtendedMantissa.ofMantissaAndAccuracy m acc >>> excess m e, e + excess m e) := by
  rw [shiftToTargetExponent, targetExponent_eq]
  rfl

/-- The mantissa is rounded once; if it overflows there is one more digit to drop. -/
theorem roundWithAccuracy_eq (s : Sign) (m : Nat) (e : Int) (acc : Accuracy) :
    roundWithAccuracy Format.binary64 s m e acc =
      let r := (ExtendedMantissa.ofMantissaAndAccuracy m acc >>> excess m e).roundedMantissa
      let e₁ := e + excess m e
      if h : r / 2 ^ excess r e₁ = 0 then .zero s
      else .finite s (r / 2 ^ excess r e₁) (e₁ + excess r e₁) (Nat.pos_of_ne_zero h) := by
  simp only [roundWithAccuracy, shiftToTargetExponent_eq, mantissa_shiftRight]
  rfl

section

variable {m num den : Nat} {e : Int} {acc : Accuracy}
  (hfine : Fine m e) (hnum : 0 < num) (hden : 0 < den)
  (h : Covers (.ofMantissaAndAccuracy m acc) ((num / den : ℚ) / 2 ^ e))

theorem mantissa_ofMantissaAndAccuracy (m : Nat) (acc : Accuracy) :
    (ExtendedMantissa.ofMantissaAndAccuracy m acc).mantissa = m := by
  cases acc with
  | exact => rfl
  | inexact o => cases o <;> rfl

include hfine hnum hden h

/-- The unit that a number is rounded to depends on its leading digit only. -/
theorem add_excess_eq_unitExponent : e + excess m e = unitExponent num den := by
  obtain ⟨hlow, hhigh⟩ := h.floor
  rw [mantissa_ofMantissaAndAccuracy] at hlow hhigh
  rw [hfine.add_excess, unitExponent]
  have hlt : ¬ (m.log2 : Int) + 1 + e ≤ floorLog2 num den := by
    rw [add_le_floorLog2_iff hnum hden, not_le]
    refine hhigh.trans_le ?_
    rw [← Nat.cast_succ, ← Nat.cast_succ, zpow_natCast]
    exact_mod_cast Nat.lt_log2_self
  rcases Nat.eq_zero_or_pos m with rfl | hm
  · have hlog : Nat.log2 0 = 0 := rfl
    rcases hfine with h52 | he
    · rw [hlog] at h52
      omega
    · rw [hlog] at hlt ⊢
      omega
  · have hle : (m.log2 : Int) + e ≤ floorLog2 num den := by
      rw [add_le_floorLog2_iff hnum hden]
      exact (zpow_log2_le hm).trans hlow
    omega

theorem rounded_eq_roundDiv :
    (ExtendedMantissa.ofMantissaAndAccuracy m acc >>> excess m e).roundedMantissa =
      roundDiv .toEven (scaled num den (unitExponent num den)).1
        (scaled num den (unitExponent num den)).2 := by
  refine (roundDiv_toEven_eq (scaled_snd_pos hden _) ?_).symm
  rw [scaled_div, ← add_excess_eq_unitExponent hfine hnum hden h, zpow_add₀ (by norm_num),
    zpow_natCast, ← div_div]
  exact (h.shiftRight _).within

end

theorem scaled_le_two_pow {num den : Nat} (hnum : 0 < num) (hden : 0 < den) :
    (scaled num den (unitExponent num den)).1 ≤
      2 ^ 53 * (scaled num den (unitExponent num den)).2 := by
  have hpos : (0 : ℚ) < (scaled num den (unitExponent num den)).2 := by
    exact_mod_cast scaled_snd_pos hden _
  have hlt : ¬ 53 + unitExponent num den ≤ floorLog2 num den := by
    rw [unitExponent]
    omega
  rw [add_le_floorLog2_iff hnum hden, not_le, ← scaled_div, div_lt_iff₀ hpos] at hlt
  exact_mod_cast hlt.le

theorem two_pow_le_scaled {num den : Nat} (hnum : 0 < num) (hden : 0 < den)
    (hE : -1074 < unitExponent num den) :
    2 ^ 52 * (scaled num den (unitExponent num den)).2 ≤
      (scaled num den (unitExponent num den)).1 := by
  have hpos : (0 : ℚ) < (scaled num den (unitExponent num den)).2 := by
    exact_mod_cast scaled_snd_pos hden _
  have hle : 52 + unitExponent num den ≤ floorLog2 num den := by
    rw [unitExponent] at *
    omega
  rw [add_le_floorLog2_iff hnum hden, ← scaled_div, le_div_iff₀ hpos] at hle
  exact_mod_cast hle

theorem div_le_roundDiv (tie : Tie) (num den : Nat) : num / den ≤ roundDiv tie num den := by
  rcases roundDiv_eq_or tie num den with h | h <;> omega

/-! ## Packing -/

theorem bits_of_pack_finite {x : Float} {negative : Bool} {m : Nat} {e : Int} {hm : 0 < m}
    (hlt : m < 2 ^ 53) (hlow : -1074 ≤ e) (hfull : -1074 < e → 2 ^ 52 ≤ m)
    (hx : x.toModel = Float.Model.pack (.finite (signOf negative) m e hm)) :
    magnitudeBits x = min infinityBits ((e + 1074).toNat * 2 ^ 52 + m) ∧
      isNegative x = negative := by
  have hI := infinityBits_eq
  rcases le_or_gt e 971 with hhigh | hhigh
  · obtain ⟨hne, hbits, hunpack⟩ := unpack_of_canonical ⟨hm, hlt, hlow, hhigh, hfull⟩
    rw [Nat.min_eq_right hbits.le]
    apply toBits_of_toModel hbits.le
    rw [hx, decode_finite hne hbits]
    simp only [hunpack]
  · have hm' := hfull (by omega)
    have hoverflow : UnpackedFloat.pack Format.binary64 (.finite (signOf negative) m e hm) =
        packedInfinity Format.binary64 (signOf negative) := by
      refine if_pos ?_
      show 2 ^ 11 ≤ (e + 1023 + 52).toNat + 1
      omega
    rw [Nat.min_eq_left (by omega)]
    apply toBits_of_toModel le_rfl
    rw [hx, decode_infinity, Float.Model.pack, Float.Model.pack]
    congr 1
    rw [hoverflow]
    rfl

/-- A rounded mantissa has its digits, unless it was rounded up to the next power of two. -/
theorem bits_of_pack_rounded {x : Float} {negative : Bool} {r : Nat} {e : Int} (hr : r ≤ 2 ^ 53)
    (hlow : -1074 ≤ e) (hfull : -1074 < e → 2 ^ 52 ≤ r)
    (hx : x.toModel = Float.Model.pack
      (if h : r / 2 ^ excess r e = 0 then .zero (signOf negative)
        else .finite (signOf negative) (r / 2 ^ excess r e) (e + excess r e)
          (Nat.pos_of_ne_zero h))) :
    magnitudeBits x = min infinityBits ((e + 1074).toNat * 2 ^ 52 + r) ∧
      isNegative x = negative := by
  rcases Nat.lt_or_eq_of_le hr with hlt | rfl
  · simp only [excess_of_lt hlt hlow, Nat.pow_zero, Nat.div_one, Nat.cast_zero, add_zero] at hx
    rcases Nat.eq_zero_or_pos r with rfl | hpos
    · have he : e = -1074 := by omega
      rw [dif_pos rfl, ← decode_zero] at hx
      rw [he]
      exact toBits_of_toModel (Nat.zero_le _) hx
    · rw [dif_neg hpos.ne'] at hx
      exact bits_of_pack_finite hlt hlow hfull hx
  · have hhalf : 2 ^ 53 / 2 ^ 1 = 2 ^ 52 := by decide
    simp only [excess_two_pow hlow, hhalf] at hx
    obtain ⟨hbits, hsign⟩ := bits_of_pack_finite (by decide) (by omega) (fun _ => le_rfl) hx
    refine ⟨hbits.trans (congrArg _ ?_), hsign⟩
    omega

section

variable {m num den : Nat} {e : Int} {acc : Accuracy}
  (hfine : Fine m e) (hnum : 0 < num) (hden : 0 < den)
  (h : Covers (.ofMantissaAndAccuracy m acc) ((num / den : ℚ) / 2 ^ e))

include hfine hnum hden h

/-- **Rounding once** gives the double nearest to the exact number. -/
theorem bits_of_pack_roundWithAccuracy {x : Float} {negative : Bool}
    (hx : x.toModel =
      Float.Model.pack (roundWithAccuracy Format.binary64 (signOf negative) m e acc)) :
    magnitudeBits x = nearestBits num den ∧ isNegative x = negative := by
  have hround := rounded_eq_roundDiv hfine hnum hden h
  have hunit := add_excess_eq_unitExponent hfine hnum hden h
  have hpos := @scaled_snd_pos num den hden (unitExponent num den)
  rw [roundWithAccuracy_eq] at hx
  rw [nearestBits_eq hnum, ← hround, ← hunit]
  refine bits_of_pack_rounded ?_ ?_ (fun hE => ?_) hx
  · rw [hround]
    exact roundDiv_le hpos (scaled_le_two_pow hnum hden)
  · rw [hunit, unitExponent]
    omega
  · rw [hunit] at hE
    rw [hround]
    exact ((Nat.le_div_iff_mul_le hpos).mpr (two_pow_le_scaled hnum hden hE)).trans (div_le_roundDiv _ _ _)

end

end Trendline.Double
