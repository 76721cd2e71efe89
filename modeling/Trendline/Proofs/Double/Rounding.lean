import Trendline.Proofs.Decimal.Shortest

/-!
# Rounded products and differences

A product or a difference of doubles is the exact number, rounded.  Rounding
does not lead past a double: if the exact number is not above some double, the
rounded one is not either.  For the numbers from zero on this gives the bounds
that a drawing relies on.

* `UpTo`: the doubles from zero to a bound, in the logical model.
* `upTo_roundWithAccuracy`: rounding does not lead past a double.
* `upTo_mul`, `upTo_sub`: products with a part of one, and differences.
* `upTo_ofNat`: whole numbers with at most 53 digits.
* `UpTo.roundToWord_le`: the nearest whole number is not above a whole bound.
-/

namespace Trendline.Double

open Float.Model Float.Model.UnpackedFloat Trendline.Decimal

/-! ## Rounded mantissas -/

theorem mantissa_shiftRight (em : ExtendedMantissa) :
    ∀ k, (em >>> k).mantissa = em.mantissa / 2 ^ k := by
  intro k
  induction k with
  | zero => exact (Nat.div_one _).symm
  | succ k ih =>
    have hstep : (em >>> (k + 1)).mantissa = (em >>> k).mantissa / 2 := rfl
    rw [hstep, ih, Nat.div_div_eq_div_mul, Nat.pow_succ]

theorem shiftRight_mul_pow : ∀ (k n : Nat),
    (⟨n * 2 ^ k, false, false⟩ : ExtendedMantissa) >>> k = ⟨n, false, false⟩ := by
  intro k
  induction k with
  | zero =>
    intro n
    rw [Nat.pow_zero, Nat.mul_one]
    rfl
  | succ k ih =>
    intro n
    have hstep : (⟨n * 2 ^ (k + 1), false, false⟩ : ExtendedMantissa) >>> (k + 1) =
        ((⟨n * 2 ^ (k + 1), false, false⟩ : ExtendedMantissa) >>> k).shiftRightOne := rfl
    have hdouble : n * 2 ^ (k + 1) = n * 2 * 2 ^ k := by rw [Nat.pow_succ]; ring
    rw [hstep, hdouble, ih, ExtendedMantissa.shiftRightOne]
    simp

/-- The mantissa after the last `k` digits are rounded away. -/
def roundedShift (m k : Nat) : Nat :=
  ((⟨m, false, false⟩ : ExtendedMantissa) >>> k).roundedMantissa

theorem roundedMantissa_bounds (em : ExtendedMantissa) :
    em.mantissa ≤ em.roundedMantissa ∧ em.roundedMantissa ≤ em.mantissa + 1 := by
  obtain ⟨m, roundBit, stickyBit⟩ := em
  cases roundBit <;> cases stickyBit <;>
    simp only [ExtendedMantissa.roundedMantissa, ExtendedMantissa.accuracy,
      Accuracy.roundToNearestEven] <;> omega

theorem le_roundedShift {m k n : Nat} (h : n * 2 ^ k ≤ m) : n ≤ roundedShift m k := by
  refine Nat.le_trans ?_ (roundedMantissa_bounds _).1
  rw [mantissa_shiftRight]
  exact (Nat.le_div_iff_mul_le (Nat.two_pow_pos k)).mpr h

theorem roundedShift_le {m k n : Nat} (h : m ≤ n * 2 ^ k) : roundedShift m k ≤ n := by
  rcases Nat.eq_or_lt_of_le h with rfl | hlt
  · rw [roundedShift, shiftRight_mul_pow]
    exact Nat.le_refl n
  · refine Nat.le_trans (roundedMantissa_bounds _).2 ?_
    rw [mantissa_shiftRight]
    exact (Nat.div_lt_iff_lt_mul (Nat.two_pow_pos k)).mpr hlt

/-! ## Rounding -/

theorem targetExponent_eq (m : Nat) (e : Int) :
    Format.binary64.targetExponent (totalExponent m e) = max ((m.log2 : Int) + e - 52) (-1074) := by
  have hbits : (Format.binary64.mantissaBits : Int) = 53 := rfl
  have hleast : Format.binary64.minExponent = -1074 := rfl
  rw [Format.targetExponent, totalExponent, hbits, hleast]
  congr 1
  ring

/-- How many digits are too many. -/
def excess (m : Nat) (e : Int) : Nat :=
  (max ((m.log2 : Int) + e - 52) (-1074) - e).toNat

theorem shiftToTargetExponent_exact (m : Nat) (e : Int) :
    shiftToTargetExponent Format.binary64 m e .exact =
      ((⟨m, false, false⟩ : ExtendedMantissa) >>> excess m e, e + excess m e) := by
  rw [shiftToTargetExponent, targetExponent_eq]
  rfl

/-- The mantissa is rounded once; if it overflows there is one more digit to drop. -/
theorem roundWithAccuracy_exact (s : Sign) (m : Nat) (e : Int) :
    roundWithAccuracy Format.binary64 s m e .exact =
      let r := roundedShift m (excess m e)
      let e₁ := e + excess m e
      if h : r / 2 ^ excess r e₁ = 0 then .zero s
      else .finite s (r / 2 ^ excess r e₁) (e₁ + excess r e₁) (Nat.pos_of_ne_zero h) := by
  simp only [roundWithAccuracy, shiftToTargetExponent_exact, mantissa_shiftRight]
  rfl

/-- The doubles from zero to a bound.  There are two zeros. -/
inductive UpTo (b : ℚ) : UnpackedFloat → Prop where
  | zero (s : Sign) (hb : 0 ≤ b) : UpTo b (.zero s)
  | finite {m : Nat} {e : Int} (h : 0 < m) (hc : Canonical m e) (hb : (m : ℚ) * 2 ^ e ≤ b) :
    UpTo b (.finite .positive m e h)

theorem two_zpow_pos (e : Int) : (0 : ℚ) < 2 ^ e :=
  zpow_pos (by norm_num) e

theorem mul_zpow_nonneg (m : Nat) (e : Int) : (0 : ℚ) ≤ m * 2 ^ e :=
  mul_nonneg (Nat.cast_nonneg m) (two_zpow_pos e).le

theorem zpow_log2_mul_le {m : Nat} (hm : 0 < m) (e : Int) :
    (2 : ℚ) ^ ((m.log2 : Int) + e) ≤ m * 2 ^ e := by
  rw [zpow_add₀ (by norm_num)]
  exact mul_le_mul_of_nonneg_right (zpow_log2_le hm) (two_zpow_pos e).le

theorem log2_add_lt {m M : Nat} {e E : Int} (hm : 0 < m) (hc : Canonical M E)
    (h : (m : ℚ) * 2 ^ e ≤ M * 2 ^ E) : (m.log2 : Int) + e < 53 + E := by
  have hM : (M : ℚ) < 2 ^ (53 : Int) := by exact_mod_cast hc.lt
  rw [← zpow_lt_zpow_iff_right₀ (show (1 : ℚ) < 2 by norm_num)]
  calc (2 : ℚ) ^ ((m.log2 : Int) + e) ≤ m * 2 ^ e := zpow_log2_mul_le hm e
    _ ≤ M * 2 ^ E := h
    _ < 2 ^ (53 : Int) * 2 ^ E := mul_lt_mul_of_pos_right hM (two_zpow_pos E)
    _ = 2 ^ (53 + E) := (zpow_add₀ (by norm_num) 53 E).symm

section

variable {m : Nat} {e : Int}

/-- What is rounded has enough digits, or stands for a subnormal number. -/
def Fine (m : Nat) (e : Int) : Prop :=
  52 ≤ m.log2 ∨ e ≤ -1074

theorem Fine.add_excess (h : Fine m e) :
    e + excess m e = max ((m.log2 : Int) + e - 52) (-1074) := by
  rw [excess]
  rcases h with h | h <;> omega

theorem roundedShift_excess_le : roundedShift m (excess m e) ≤ 2 ^ 53 := by
  apply roundedShift_le
  rw [← Nat.pow_add]
  refine Nat.le_trans Nat.lt_log2_self.le (Nat.pow_le_pow_right (by decide) ?_)
  rw [excess]
  omega

theorem le_roundedShift_excess (h : Fine m e) (hm : 0 < m) (he : -1074 < e + excess m e) :
    2 ^ 52 ≤ roundedShift m (excess m e) := by
  apply le_roundedShift
  rw [← Nat.pow_add]
  refine Nat.le_trans (Nat.pow_le_pow_right (by decide) ?_) (Nat.log2_self_le hm.ne')
  have := h.add_excess
  omega

variable {M : Nat} {E : Int}

theorem roundedShift_mul_le (h : Fine m e) (hm : 0 < m) (hc : Canonical M E)
    (hle : (m : ℚ) * 2 ^ e ≤ M * 2 ^ E) :
    (roundedShift m (excess m e) : ℚ) * 2 ^ (e + (excess m e : Int)) ≤ M * 2 ^ E := by
  have two : (2 : ℚ) ≠ 0 := by norm_num
  have hlow := hc.low
  have hlog := log2_add_lt hm hc hle
  have hE : e + excess m e ≤ E := by
    rw [h.add_excess]
    omega
  -- the bound is a multiple of the unit
  obtain ⟨d, hd⟩ := Int.le.dest hE
  have hscale : (M : ℚ) * 2 ^ E = (M * 2 ^ d : Nat) * 2 ^ (e + (excess m e : Int)) := by
    rw [← hd, zpow_add₀ two, zpow_natCast]
    push_cast
    ring
  have hnat : m ≤ M * 2 ^ d * 2 ^ excess m e := by
    have hrat : (m : ℚ) * 2 ^ e ≤ (M * 2 ^ d * 2 ^ excess m e : Nat) * 2 ^ e := by
      refine hle.trans (le_of_eq ?_)
      rw [hscale, zpow_add₀ two, zpow_natCast]
      push_cast
      ring
    exact_mod_cast le_of_mul_le_mul_right hrat (two_zpow_pos e)
  rw [hscale]
  refine mul_le_mul_of_nonneg_right ?_ (two_zpow_pos _).le
  exact_mod_cast roundedShift_le hnat

theorem excess_of_lt {r : Nat} (hr : r < 2 ^ 53) (he : -1074 ≤ e) : excess r e = 0 := by
  have hlog : r.log2 ≤ 52 := by
    rcases Nat.eq_zero_or_pos r with rfl | hpos
    · decide
    · exact Nat.lt_succ_iff.mp ((Nat.log2_lt hpos.ne').mpr hr)
  rw [excess]
  omega

theorem excess_two_pow (he : -1074 ≤ e) : excess (2 ^ 53) e = 1 := by
  rw [excess, Nat.log2_two_pow]
  omega

/-- **Rounding does not lead past a double.** -/
theorem upTo_roundWithAccuracy (h : Fine m e) (hm : 0 < m) (hc : Canonical M E)
    (hle : (m : ℚ) * 2 ^ e ≤ M * 2 ^ E) :
    UpTo (M * 2 ^ E) (roundWithAccuracy Format.binary64 .positive m e .exact) := by
  have hlow : -1074 ≤ e + excess m e := by
    rw [h.add_excess]
    omega
  have hbound := roundedShift_mul_le h hm hc hle
  have hfull := le_roundedShift_excess h hm
  have hhigh := hc.high
  rw [roundWithAccuracy_exact]
  dsimp only
  -- the mantissa has its digits now, unless it was rounded up to the next power of two
  generalize hr : roundedShift m (excess m e) = r at *
  generalize e + (excess m e : Int) = e₁ at *
  rcases Nat.lt_or_eq_of_le (hr ▸ roundedShift_excess_le : r ≤ 2 ^ 53) with hlt | rfl
  · rw [excess_of_lt hlt hlow]
    split
    · exact .zero _ (mul_zpow_nonneg M E)
    · rename_i hpos
      simp only [Nat.pow_zero, Nat.div_one, Nat.cast_zero, add_zero] at hpos ⊢
      have hpos' : 0 < r := Nat.pos_of_ne_zero hpos
      refine .finite hpos' ⟨hpos', hlt, hlow, ?_, hfull⟩ hbound
      have hlog := log2_add_lt hpos' hc hbound
      by_contra hlarge
      have : 52 ≤ r.log2 := (Nat.le_log2 hpos).mpr (hfull (by omega))
      omega
  · have hhalf : ((2 ^ 52 : Nat) : ℚ) * 2 ^ (e₁ + 1) ≤ M * 2 ^ E := by
      rw [zpow_add_one₀ (by norm_num)]
      refine le_trans (le_of_eq ?_) hbound
      push_cast
      ring
    have hlog := log2_add_lt (by decide) hc hhalf
    rw [Nat.log2_two_pow] at hlog
    rw [excess_two_pow hlow]
    exact .finite (by decide) ⟨by decide, by decide, by omega, by push_cast at *; omega,
      fun _ => le_rfl⟩ hhalf

end

/-! ## Arithmetic -/

/-- The number that a double from zero on stands for. -/
def exactValue : UnpackedFloat → ℚ
  | .finite _ m e _ => m * 2 ^ e
  | _ => 0

theorem Canonical.fine_mul {m₁ m₂ : Nat} {e₁ e₂ : Int} (h₁ : Canonical m₁ e₁)
    (h₂ : Canonical m₂ e₂) : Fine (m₁ * m₂) (e₁ + e₂) := by
  have hpos := Nat.mul_pos h₁.pos h₂.pos
  have hlow₁ := h₁.low
  have hlow₂ := h₂.low
  by_cases hsub : e₁ = -1074 ∧ e₂ = -1074
  · exact .inr (by omega)
  · refine .inl ((Nat.le_log2 hpos.ne').mpr ?_)
    rcases not_and_or.mp hsub with hne | hne
    · exact (h₁.full (by omega)).trans (Nat.le_mul_of_pos_right m₁ h₂.pos)
    · exact (h₂.full (by omega)).trans (Nat.le_mul_of_pos_left m₂ h₁.pos)

namespace UpTo

variable {b b' : ℚ} {x y : UnpackedFloat}

theorem mono (h : UpTo b x) (hb : b ≤ b') : UpTo b' x := by
  cases h with
  | zero s h0 => exact .zero s (h0.trans hb)
  | finite h hc hle => exact .finite h hc (hle.trans hb)

theorem exactValue_le (h : UpTo b x) : exactValue x ≤ b := by
  cases h with
  | zero s h0 => exact h0
  | finite h hc hle => exact hle

theorem self (h : UpTo b x) : UpTo (exactValue x) x := by
  cases h with
  | zero s h0 => exact .zero s le_rfl
  | finite h hc hle => exact .finite h hc le_rfl

theorem exactValue_nonneg (h : UpTo b x) : 0 ≤ exactValue x := by
  cases h with
  | zero s h0 => exact le_rfl
  | finite h hc hle => exact mul_zpow_nonneg _ _

/-- **A part of a number is not above the number.** -/
theorem mul (hx : UpTo 1 x) (hy : UpTo b y) : UpTo b (UnpackedFloat.mul Format.binary64 x y) := by
  cases hx with
  | zero s h0 => cases hy with
    | zero s' hb => exact .zero _ hb
    | finite h hc hle => exact .zero _ ((mul_zpow_nonneg _ _).trans hle)
  | @finite m₁ e₁ h₁ hc₁ hle₁ => cases hy with
    | zero s' hb => exact .zero _ hb
    | @finite m₂ e₂ h₂ hc₂ hle₂ =>
      refine (upTo_roundWithAccuracy (hc₁.fine_mul hc₂) (Nat.mul_pos h₁ h₂) hc₂ ?_).mono hle₂
      rw [zpow_add₀ (by norm_num)]
      push_cast
      calc (m₁ : ℚ) * m₂ * (2 ^ e₁ * 2 ^ e₂) = m₁ * 2 ^ e₁ * (m₂ * 2 ^ e₂) := by ring
        _ ≤ 1 * (m₂ * 2 ^ e₂) := mul_le_mul_of_nonneg_right hle₁ (mul_zpow_nonneg m₂ e₂)
        _ = m₂ * 2 ^ e₂ := one_mul _

end UpTo

theorem upTo_round {m M : Nat} {e E : Int} (hm : 0 < m) (hc : Canonical M E)
    (hle : (m : ℚ) * 2 ^ e ≤ M * 2 ^ E) :
    UpTo (M * 2 ^ E) (UnpackedFloat.round Format.binary64 .positive m e) := by
  have hround : UnpackedFloat.round Format.binary64 .positive m e =
      roundWithAccuracy Format.binary64 .positive
        (m <<< (e - max ((m.log2 : Int) + e - 52) (-1074)).toNat)
        (e - (e - max ((m.log2 : Int) + e - 52) (-1074)).toNat) .exact := by
    rw [UnpackedFloat.round, targetExponent_eq]
    rfl
  rw [hround, Nat.shiftLeft_eq]
  generalize hj : (e - max ((m.log2 : Int) + e - 52) (-1074)).toNat = j
  have hpos : 0 < m * 2 ^ j := Nat.mul_pos hm (Nat.two_pow_pos j)
  -- digits are only added, so that the number is still the same
  refine upTo_roundWithAccuracy ?_ hpos hc ?_
  · by_cases hlow : e - (j : Int) ≤ -1074
    · exact .inr hlow
    · refine .inl ((Nat.le_log2 hpos.ne').mpr ?_)
      calc 2 ^ 52 ≤ 2 ^ (m.log2 + j) := Nat.pow_le_pow_right (by decide) (by omega)
        _ = 2 ^ m.log2 * 2 ^ j := Nat.pow_add 2 _ _
        _ ≤ m * 2 ^ j := Nat.mul_le_mul_right _ (Nat.log2_self_le hm.ne')
  · refine le_trans (le_of_eq ?_) hle
    rw [zpow_sub₀ (by norm_num), zpow_natCast]
    push_cast
    field_simp

theorem decreaseExponent_size (m : Nat) {e t : Int} (h : t ≤ e) :
    ((decreaseExponent m e t).1 : ℚ) * 2 ^ t = m * 2 ^ e := by
  obtain ⟨d, rfl⟩ := Int.le.dest h
  have hshift : (decreaseExponent m (t + d) t).1 = m * 2 ^ d := by
    rw [decreaseExponent, add_sub_cancel_left, Int.toNat_natCast, Nat.shiftLeft_eq]
  rw [hshift, zpow_add₀ (by norm_num), zpow_natCast]
  push_cast
  ring

theorem normalize_natCast (n : Nat) (e : Int) (s : Sign) :
    normalize Format.binary64 n e s =
      if n = 0 then .zero s else UnpackedFloat.round Format.binary64 .positive n e := by
  rcases Nat.eq_zero_or_pos n with rfl | hpos
  · rfl
  · have hcompare : compare (n : Int) 0 = .gt := Int.compare_eq_gt.mpr (by omega)
    rw [UnpackedFloat.normalize, hcompare, if_neg hpos.ne']
    rfl

/-- **A difference is not above a double that the exact difference is not above.** -/
theorem UpTo.sub {b : ℚ} {x y : UnpackedFloat} {M : Nat} {E : Int} (hx : UpTo b x)
    (hy : UpTo (exactValue x) y) (hc : Canonical M E)
    (hle : exactValue x - exactValue y ≤ M * 2 ^ E) :
    UpTo (M * 2 ^ E) (UnpackedFloat.sub Format.binary64 x y) := by
  have hpos := mul_zpow_nonneg M E
  cases hx with
  | zero s h0 => cases hy with
    | zero s' hb =>
      show UpTo _ (if s == -s' then UnpackedFloat.zero s else .zero .positive)
      split
      · exact .zero s hpos
      · exact .zero .positive hpos
    | @finite m e h hc' hle' =>
      have hsize : (0 : ℚ) < m * 2 ^ e := mul_pos (Nat.cast_pos.mpr h) (two_zpow_pos e)
      exact absurd hle' (not_le.mpr hsize)
  | @finite m₁ e₁ h₁ hc₁ hle₁ => cases hy with
    | zero s' hb => exact .finite h₁ hc₁ (by simpa [exactValue] using hle)
    | @finite m₂ e₂ h₂ hc₂ hle₂ =>
      have hsub : UnpackedFloat.sub Format.binary64 (.finite .positive m₁ e₁ h₁)
          (.finite .positive m₂ e₂ h₂) =
          normalize Format.binary64 (((decreaseExponent m₁ e₁ (min e₁ e₂)).1 : Int) -
            ((decreaseExponent m₂ e₂ (min e₁ e₂)).1 : Int)) (min e₁ e₂) .positive := rfl
      -- with a common power of two the difference is one of whole numbers
      have hsize₁ := decreaseExponent_size m₁ (min_le_left e₁ e₂)
      have hsize₂ := decreaseExponent_size m₂ (min_le_right e₁ e₂)
      rw [exactValue, ← hsize₁, ← hsize₂] at hle₂
      rw [exactValue, exactValue, ← hsize₁, ← hsize₂, ← sub_mul] at hle
      rw [hsub]
      generalize (decreaseExponent m₁ e₁ (min e₁ e₂)).1 = a at *
      generalize (decreaseExponent m₂ e₂ (min e₁ e₂)).1 = c at *
      have hca : c ≤ a := by exact_mod_cast le_of_mul_le_mul_right hle₂ (two_zpow_pos _)
      rw [← Nat.cast_sub hca] at hle
      rw [← Int.ofNat_sub hca, normalize_natCast]
      split
      · exact .zero _ hpos
      · rename_i hne
        exact upTo_round (Nat.pos_of_ne_zero hne) hc hle

/-! ## Doubles -/

theorem unpack_of_canonical {m : Nat} {e : Int} (hc : Canonical m e) :
    let bits := (e + 1074).toNat * 2 ^ 52 + m
    bits ≠ 0 ∧ bits < infinityBits ∧ unpack bits = (m, e) := by
  intro bits
  have hI := infinityBits_eq
  obtain ⟨hpos, hlt, hlow, hhigh, hfull⟩ := hc
  refine ⟨by omega, by omega, ?_⟩
  rcases Nat.lt_or_ge bits (2 ^ 52) with h | h
  · rw [unpack_of_lt h]
    apply Prod.ext <;> dsimp only <;> omega
  · rw [unpack_of_le h]
    apply Prod.ext <;> dsimp only <;> omega

theorem UpTo.exists_decode {b : ℚ} {u : UnpackedFloat} (h : UpTo b u) :
    ∃ negative bits, bits < infinityBits ∧ u = decode negative bits := by
  cases h with
  | zero s hb =>
    cases s with
    | positive => exact ⟨false, 0, by decide, rfl⟩
    | negative => exact ⟨true, 0, by decide, rfl⟩
  | @finite m e hm hc hb =>
    obtain ⟨hne, hlt, hunpack⟩ := unpack_of_canonical hc
    refine ⟨false, _, hlt, ?_⟩
    rw [decode_finite hne hlt]
    simp only [hunpack]
    rfl

theorem upTo_of_pack {b : ℚ} {x : Float} {u : UnpackedFloat} (h : UpTo b u)
    (hx : x.toModel = Float.Model.pack u) : UpTo b x.toModel.unpack := by
  obtain ⟨negative, bits, hlt, rfl⟩ := h.exists_decode
  obtain ⟨hm, hs⟩ := toBits_of_toModel hlt.le hx
  rwa [unpack_toModel, hm, hs]

theorem lt_iff {x y : Float} : x < y ↔ x.toModel.unpack.lt y.toModel.unpack = true := by
  show decide (x.toModel < y.toModel) = true ↔ _
  rw [decide_eq_true_iff]
  rfl

theorem unpack_one : (1 : Float).toModel.unpack = .finite .positive (2 ^ 52) (-52) (by decide) :=
  rfl

theorem canonical_one : Canonical (2 ^ 52) (-52) :=
  ⟨by decide, by decide, by decide, by decide, fun _ => le_rfl⟩

theorem upTo_one : UpTo 1 (1 : Float).toModel.unpack := by
  rw [unpack_one]
  exact .finite _ canonical_one (by norm_num)

theorem le_one_of_not_lt {m : Nat} {e : Int} (h : 0 < m) (hc : Canonical m e)
    (hlt : ¬ UnpackedFloat.lt (.finite .positive (2 ^ 52) (-52) (by decide))
      (.finite .positive m e h) = true) : (m : ℚ) * 2 ^ e ≤ 1 := by
  have hcompare : UnpackedFloat.lt (.finite .positive (2 ^ 52) (-52) (by decide))
      (.finite .positive m e h) =
      (some ((compare (-52) e).then (compare (2 ^ 52) m)) == some Ordering.lt) := rfl
  rw [hcompare] at hlt
  rcases lt_trichotomy e (-52) with he | rfl | he
  · have hm : (m : ℚ) ≤ 2 ^ (53 : Int) := by exact_mod_cast hc.lt.le
    calc (m : ℚ) * 2 ^ e ≤ 2 ^ (53 : Int) * 2 ^ e :=
          mul_le_mul_of_nonneg_right hm (two_zpow_pos e).le
      _ = 2 ^ (53 + e) := (zpow_add₀ (by norm_num) 53 e).symm
      _ ≤ 2 ^ (0 : Int) := zpow_le_zpow_right₀ (by norm_num) (by omega)
      _ = 1 := zpow_zero 2
  · have hm : m ≤ 2 ^ 52 := by
      by_contra hlarge
      refine hlt ?_
      rw [Nat.compare_eq_lt.mpr (by omega)]
      rfl
    calc (m : ℚ) * 2 ^ (-52 : Int) ≤ 2 ^ (52 : Int) * 2 ^ (-52 : Int) :=
          mul_le_mul_of_nonneg_right (by exact_mod_cast hm) (two_zpow_pos _).le
      _ = 1 := by norm_num
  · refine absurd ?_ hlt
    rw [Int.compare_eq_lt.mpr he]
    rfl

theorem upTo_one_of_not_lt {x : Float} (hlow : ¬ x < 0) (hhigh : ¬ 1 < x) (hx : x.isNaN = false) :
    UpTo 1 x.toModel.unpack := by
  rw [lt_iff] at hlow hhigh
  rw [unpack_one] at hhigh
  rw [unpack_toModel] at *
  generalize isNegative x = negative at *
  cases hfinite : x.isFinite with
  | false =>
    rw [magnitudeBits_of_infinite hx hfinite, decode_infinity] at *
    cases negative with
    | false => exact absurd rfl hhigh
    | true => exact absurd rfl hlow
  | true =>
    rw [isFinite_iff] at hfinite
    rcases eq_or_ne (magnitudeBits x) 0 with h0 | h0
    · rw [h0, decode_zero]
      exact .zero _ zero_le_one
    · rw [decode_finite h0 hfinite] at *
      have hc := canonical_unpack h0 hfinite
      cases negative with
      | false => exact .finite _ hc (le_one_of_not_lt _ hc hhigh)
      | true => exact absurd rfl hlow

theorem upTo_mul {b : ℚ} {x y : Float} (hx : UpTo 1 x.toModel.unpack)
    (hy : UpTo b y.toModel.unpack) : UpTo b (x * y).toModel.unpack :=
  upTo_of_pack (hx.mul hy) rfl

theorem upTo_sub {b : ℚ} {x y : Float} {M : Nat} {E : Int} (hx : UpTo b x.toModel.unpack)
    (hy : UpTo (exactValue x.toModel.unpack) y.toModel.unpack) (hc : Canonical M E)
    (hle : exactValue x.toModel.unpack - exactValue y.toModel.unpack ≤ M * 2 ^ E) :
    UpTo (M * 2 ^ E) (x - y).toModel.unpack :=
  upTo_of_pack (hx.sub hy hc hle) rfl

theorem unpack_of_isNaN {x : Float} (hx : x.isNaN = true) : x.toModel.unpack = .notANumber :=
  UnpackedFloat.isNaN_iff.mp hx

theorem isNaN_of_pack {x : Float} (hx : x.toModel = Float.Model.pack .notANumber) :
    x.isNaN = true := by
  show x.toModel.unpack.isNaN = true
  rw [hx]
  rfl

theorem isNaN_mul {x : Float} (hx : x.isNaN = true) (y : Float) : (x * y).isNaN = true := by
  apply isNaN_of_pack
  show Float.Model.pack (UnpackedFloat.mul _ x.toModel.unpack y.toModel.unpack) = _
  rw [unpack_of_isNaN hx]
  rfl

theorem isNaN_sub (x : Float) {y : Float} (hy : y.isNaN = true) : (x - y).isNaN = true := by
  apply isNaN_of_pack
  show Float.Model.pack (UnpackedFloat.sub _ x.toModel.unpack y.toModel.unpack) = _
  rw [unpack_of_isNaN hy]
  cases x.toModel.unpack <;> rfl

theorem exists_canonical {n : Nat} (hn : 0 < n) (hle : n ≤ 2 ^ 53) :
    ∃ M E, Canonical M E ∧ (M : ℚ) * 2 ^ E = n := by
  rcases Nat.lt_or_eq_of_le hle with hlt | rfl
  · have hlog : n.log2 ≤ 52 := Nat.lt_succ_iff.mp ((Nat.log2_lt hn.ne').mpr hlt)
    refine ⟨n * 2 ^ (52 - n.log2), (n.log2 : Int) - 52,
      ⟨?_, ?_, by omega, by omega, fun _ => ?_⟩, ?_⟩
    · exact Nat.mul_pos hn (Nat.two_pow_pos _)
    · calc n * 2 ^ (52 - n.log2) < 2 ^ (n.log2 + 1) * 2 ^ (52 - n.log2) :=
            Nat.mul_lt_mul_of_pos_right Nat.lt_log2_self (Nat.two_pow_pos _)
        _ = 2 ^ 53 := by
            rw [← Nat.pow_add]
            congr 1
            omega
    · calc 2 ^ 52 = 2 ^ n.log2 * 2 ^ (52 - n.log2) := by
            rw [← Nat.pow_add]
            congr 1
            omega
        _ ≤ n * 2 ^ (52 - n.log2) := Nat.mul_le_mul_right _ (Nat.log2_self_le hn.ne')
    · have hexp : (n.log2 : Int) - 52 = -((52 - n.log2 : Nat) : Int) := by omega
      rw [hexp, zpow_neg, zpow_natCast]
      push_cast
      field_simp
  · exact ⟨2 ^ 52, 1, ⟨by decide, by decide, by decide, by decide, fun _ => le_rfl⟩, by norm_num⟩

theorem upTo_ofNat {n : Nat} (hn : 0 < n) (hle : n ≤ 2 ^ 53) :
    UpTo n (ofRatio false n 1).toModel.unpack ∧
      exactValue (ofRatio false n 1).toModel.unpack = n := by
  obtain ⟨M, E, hc, hvalue⟩ := exists_canonical hn hle
  have hrounds : RoundsTo M E ((n : ℚ) / (1 : Nat)) := by
    rw [Nat.cast_one, div_one, ← hvalue]
    exact roundsTo_self hc.pos
  obtain ⟨hbits, hsign⟩ := ofRatio_bits false n 1
  rw [nearestBits_of_roundsTo hc hn Nat.one_pos hrounds] at hbits
  obtain ⟨hne, hlt, hunpack⟩ := unpack_of_canonical hc
  have hmodel : (ofRatio false n 1).toModel.unpack = .finite .positive M E hc.pos := by
    rw [unpack_toModel, hbits, hsign, decode_finite hne hlt]
    simp only [hunpack]
    rfl
  rw [hmodel]
  exact ⟨.finite hc.pos hc hvalue.le, hvalue⟩

theorem exactValue_unpack {x : Float} (hx : x.isFinite = true) :
    exactValue x.toModel.unpack = (magnitude x).1 * 2 ^ (magnitude x).2 := by
  rw [isFinite_iff] at hx
  rw [unpack_toModel, magnitude]
  rcases eq_or_ne (magnitudeBits x) 0 with h0 | h0
  · rw [h0, decode_zero]
    exact (zero_mul _).symm
  · rw [decode_finite h0 hx]
    rfl

theorem UpTo.isFinite {b : ℚ} {x : Float} (h : UpTo b x.toModel.unpack) : x.isFinite = true := by
  show x.toModel.unpack.isFinite = true
  cases h' : x.toModel.unpack <;> rw [h'] at h <;> first | rfl | cases h

theorem UpTo.roundToWord_le {x : Float} {n : Nat} (h : UpTo n x.toModel.unpack) :
    roundToWord x ≤ n := by
  have hle := h.exactValue_le
  rw [exactValue_unpack h.isFinite] at hle
  have hden := ratio_snd_pos (magnitude x).1 (magnitude x).2
  rw [← ratio_div, div_le_iff₀ (by exact_mod_cast hden)] at hle
  have hround : roundMagnitude x ≤ n := by
    show roundDiv .upward (ratio (magnitude x).1 (magnitude x).2).1
      (ratio (magnitude x).1 (magnitude x).2).2 ≤ n
    exact roundDiv_le hden (by exact_mod_cast hle)
  rw [roundToWord, h.isFinite]
  split
  · exact Nat.zero_le n
  · split
    · exact Nat.zero_le n
    · exact (Nat.min_le_right _ _).trans hround

end Trendline.Double
