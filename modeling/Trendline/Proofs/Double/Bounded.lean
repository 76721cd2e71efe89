import Trendline.Proofs.Double.Rounding
import Trendline.Scalar

/-!
# Doubles of bounded size

A computation with doubles stays among the numbers as long as their sizes are
known to stay below the largest double.  The sizes are bounded here by powers of
two, which are doubles themselves, so rounding does not lead past them.

* `OfSize`: the doubles of a size, of both signs, in the logical model.
* `OfSize.mul`, `OfSize.add`, `OfSize.sub`: the sizes of rounded results.
* `Bounded`: a double is finite and at most a power of two in size.
* `Bounded.mul`, `Bounded.add`, `Bounded.sub`, `Bounded.round`, `Bounded.ceil`:
  what operations do to the exponent.
* `bounded_ofRatio`, `bounded_of_abs_le`, `bounded_of_bits`: where bounds come from.
-/

namespace Trendline.Double

open Float.Model Float.Model.UnpackedFloat Trendline.Decimal

/-- The doubles that are at most so large, of both signs. -/
inductive OfSize (b : ℚ) : UnpackedFloat → Prop where
  | zero (s : Sign) (hb : 0 ≤ b) : OfSize b (.zero s)
  | finite (s : Sign) {m : Nat} {e : Int} (h : 0 < m) (hc : Canonical m e)
    (hb : (m : ℚ) * 2 ^ e ≤ b) : OfSize b (.finite s m e h)

namespace OfSize

variable {b c : ℚ} {x y : UnpackedFloat}

theorem of_abs (h : UpTo b x.abs) : OfSize b x := by
  cases x with
  | notANumber => cases h
  | infinity s => cases h
  | zero s =>
    cases h with
    | zero s' hb => exact .zero s hb
  | finite s m e hm =>
    cases h with
    | finite _ hc hb => exact .finite s hm hc hb

theorem mono (h : OfSize b x) (hb : b ≤ c) : OfSize c x := by
  cases h with
  | zero s h0 => exact .zero s (h0.trans hb)
  | finite s h hc hle => exact .finite s h hc (hle.trans hb)

theorem nonneg (h : OfSize b x) : 0 ≤ b := by
  cases h with
  | zero s hb => exact hb
  | finite s h hc hle => exact (mul_zpow_nonneg _ _).trans hle

theorem exists_decode (h : OfSize b x) :
    ∃ negative bits, bits < infinityBits ∧ x = decode negative bits := by
  cases h with
  | zero s hb =>
    cases s with
    | positive => exact ⟨false, 0, by decide, rfl⟩
    | negative => exact ⟨true, 0, by decide, rfl⟩
  | @finite s m e hm hc hb =>
    obtain ⟨hne, hlt, hunpack⟩ := unpack_of_canonical hc
    cases s with
    | positive =>
      refine ⟨false, _, hlt, ?_⟩
      rw [decode_finite hne hlt]
      simp only [hunpack]
      rfl
    | negative =>
      refine ⟨true, _, hlt, ?_⟩
      rw [decode_finite hne hlt]
      simp only [hunpack]
      rfl

end OfSize

/-! ## Rounding -/

/-- Rounding does not look at the sign. -/
theorem abs_roundWithAccuracy (s : Sign) (m : Nat) (e : Int) :
    (roundWithAccuracy Format.binary64 s m e .exact).abs =
      roundWithAccuracy Format.binary64 .positive m e .exact := by
  rw [roundWithAccuracy_exact, roundWithAccuracy_exact]
  dsimp only
  split <;> rfl

theorem abs_round (s : Sign) (m : Nat) (e : Int) :
    (UnpackedFloat.round Format.binary64 s m e).abs =
      UnpackedFloat.round Format.binary64 .positive m e :=
  abs_roundWithAccuracy s _ _

/-- Normalizing rounds the absolute value, with the sign beside it. -/
theorem exists_normalize_eq {z : Int} (hz : z ≠ 0) (e : Int) :
    ∃ s, normalize Format.binary64 z e .positive =
      UnpackedFloat.round Format.binary64 s z.natAbs e := by
  rcases lt_or_gt_of_ne hz with hneg | hpos
  · refine ⟨.negative, ?_⟩
    rw [UnpackedFloat.normalize, Int.compare_eq_lt.mpr hneg]
    exact congrArg (UnpackedFloat.round _ _ · e) (by omega)
  · refine ⟨.positive, ?_⟩
    rw [UnpackedFloat.normalize, Int.compare_eq_gt.mpr hpos]
    exact congrArg (UnpackedFloat.round _ _ · e) (by omega)

theorem natAbs_apply (s : Sign) (n : Nat) : (s.apply n).natAbs = n := by
  cases s <;> simp [Sign.apply]

section

variable {M : Nat} {E : Int} (hc : Canonical M E)

include hc

theorem ofSize_normalize {z : Int} {e : Int} (hle : (z.natAbs : ℚ) * 2 ^ e ≤ M * 2 ^ E) :
    OfSize (M * 2 ^ E) (normalize Format.binary64 z e .positive) := by
  rcases eq_or_ne z 0 with rfl | hz
  · exact .zero _ (mul_zpow_nonneg M E)
  · obtain ⟨s, hround⟩ := exists_normalize_eq hz e
    rw [hround]
    refine .of_abs ?_
    rw [abs_round]
    exact upTo_round (Int.natAbs_pos.mpr hz) hc hle

variable {b c : ℚ} {x y : UnpackedFloat}

theorem OfSize.mul (hx : OfSize b x) (hy : OfSize c y) (hle : b * c ≤ M * 2 ^ E) :
    OfSize (M * 2 ^ E) (UnpackedFloat.mul Format.binary64 x y) := by
  have hpos := mul_zpow_nonneg M E
  have hb := hx.nonneg
  cases hx with
  | zero s₁ _ => cases hy <;> exact .zero _ hpos
  | @finite s₁ m₁ e₁ h₁ hc₁ hle₁ => cases hy with
    | zero s₂ _ => exact .zero _ hpos
    | @finite s₂ m₂ e₂ h₂ hc₂ hle₂ =>
      refine .of_abs ?_
      have hmul : UnpackedFloat.mul Format.binary64 (.finite s₁ m₁ e₁ h₁) (.finite s₂ m₂ e₂ h₂) =
          roundWithAccuracy Format.binary64 (s₁ * s₂) (m₁ * m₂) (e₁ + e₂) .exact := rfl
      rw [hmul, abs_roundWithAccuracy]
      refine upTo_roundWithAccuracy (hc₁.fine_mul hc₂) (Nat.mul_pos h₁ h₂) hc ?_
      rw [zpow_add₀ (by norm_num)]
      push_cast
      calc (m₁ : ℚ) * m₂ * (2 ^ e₁ * 2 ^ e₂) = m₁ * 2 ^ e₁ * (m₂ * 2 ^ e₂) := by ring
        _ ≤ b * c := mul_le_mul hle₁ hle₂ (mul_zpow_nonneg _ _) hb
        _ ≤ M * 2 ^ E := hle

/-- With a common power of two the sum and the difference are those of whole numbers. -/
theorem ofSize_normalize_of_le {m₁ m₂ : Nat} {e₁ e₂ : Int} {z : Int}
    (hle₁ : (m₁ : ℚ) * 2 ^ e₁ ≤ b) (hle₂ : (m₂ : ℚ) * 2 ^ e₂ ≤ c) (hle : b + c ≤ M * 2 ^ E)
    (hz : z.natAbs ≤ (decreaseExponent m₁ e₁ (min e₁ e₂)).1 +
      (decreaseExponent m₂ e₂ (min e₁ e₂)).1) :
    OfSize (M * 2 ^ E) (normalize Format.binary64 z (min e₁ e₂) .positive) := by
  have hsize₁ := decreaseExponent_size m₁ (min_le_left e₁ e₂)
  have hsize₂ := decreaseExponent_size m₂ (min_le_right e₁ e₂)
  refine ofSize_normalize hc ?_
  have hcast : (z.natAbs : ℚ) ≤ (decreaseExponent m₁ e₁ (min e₁ e₂)).1 +
      (decreaseExponent m₂ e₂ (min e₁ e₂)).1 := by exact_mod_cast hz
  calc (z.natAbs : ℚ) * 2 ^ min e₁ e₂
      ≤ ((decreaseExponent m₁ e₁ (min e₁ e₂)).1 + (decreaseExponent m₂ e₂ (min e₁ e₂)).1) *
        2 ^ min e₁ e₂ := mul_le_mul_of_nonneg_right hcast (two_zpow_pos _).le
    _ = m₁ * 2 ^ e₁ + m₂ * 2 ^ e₂ := by rw [add_mul, hsize₁, hsize₂]
    _ ≤ b + c := add_le_add hle₁ hle₂
    _ ≤ M * 2 ^ E := hle

theorem OfSize.add (hx : OfSize b x) (hy : OfSize c y) (hle : b + c ≤ M * 2 ^ E) :
    OfSize (M * 2 ^ E) (UnpackedFloat.add Format.binary64 x y) := by
  have hb : b ≤ M * 2 ^ E := (le_add_of_nonneg_right hy.nonneg).trans hle
  have hcb : c ≤ M * 2 ^ E := (le_add_of_nonneg_left hx.nonneg).trans hle
  cases hx with
  | zero s₁ h₁ => cases hy with
    | zero s₂ h₂ =>
      show OfSize _ (if s₁ == s₂ then UnpackedFloat.zero s₁ else .zero .positive)
      split <;> exact .zero _ (mul_zpow_nonneg M E)
    | finite s₂ h₂ hc₂ hle₂ => exact .finite s₂ h₂ hc₂ (hle₂.trans hcb)
  | @finite s₁ m₁ e₁ h₁ hc₁ hle₁ => cases hy with
    | zero s₂ h₂ => exact .finite s₁ h₁ hc₁ (hle₁.trans hb)
    | @finite s₂ m₂ e₂ h₂ hc₂ hle₂ =>
      refine ofSize_normalize_of_le hc hle₁ hle₂ hle ((Int.natAbs_add_le _ _).trans ?_)
      rw [natAbs_apply, natAbs_apply]
      exact le_rfl

theorem OfSize.sub (hx : OfSize b x) (hy : OfSize c y) (hle : b + c ≤ M * 2 ^ E) :
    OfSize (M * 2 ^ E) (UnpackedFloat.sub Format.binary64 x y) := by
  have hb : b ≤ M * 2 ^ E := (le_add_of_nonneg_right hy.nonneg).trans hle
  have hcb : c ≤ M * 2 ^ E := (le_add_of_nonneg_left hx.nonneg).trans hle
  cases hx with
  | zero s₁ h₁ => cases hy with
    | zero s₂ h₂ =>
      show OfSize _ (if s₁ == -s₂ then UnpackedFloat.zero s₁ else .zero .positive)
      split <;> exact .zero _ (mul_zpow_nonneg M E)
    | finite s₂ h₂ hc₂ hle₂ => exact .finite (-s₂) h₂ hc₂ (hle₂.trans hcb)
  | @finite s₁ m₁ e₁ h₁ hc₁ hle₁ => cases hy with
    | zero s₂ h₂ => exact .finite s₁ h₁ hc₁ (hle₁.trans hb)
    | @finite s₂ m₂ e₂ h₂ hc₂ hle₂ =>
      refine ofSize_normalize_of_le hc hle₁ hle₂ hle ((Int.natAbs_sub_le _ _).trans ?_)
      rw [natAbs_apply, natAbs_apply]
      exact le_rfl

end

/-! ## Doubles -/

/-- Whether a double is finite and at most a power of two in size. -/
def Bounded (k : Nat) (x : Float) : Prop :=
  OfSize (2 ^ k) x.toModel.unpack

theorem canonical_two_pow {k : Nat} (hk : k ≤ 1023) : Canonical (2 ^ 52) ((k : Int) - 52) :=
  ⟨by decide, by decide, by omega, by omega, fun _ => le_rfl⟩

theorem two_pow_eq (k : Nat) : ((2 ^ 52 : Nat) : ℚ) * 2 ^ ((k : Int) - 52) = 2 ^ k := by
  rw [zpow_sub₀ (by norm_num), zpow_natCast]
  push_cast
  field_simp

theorem unpack_of_pack {b : ℚ} {x : Float} {u : UnpackedFloat} (h : OfSize b u)
    (hx : x.toModel = Float.Model.pack u) : x.toModel.unpack = u := by
  obtain ⟨negative, bits, hlt, rfl⟩ := h.exists_decode
  obtain ⟨hm, hs⟩ := toBits_of_toModel hlt.le hx
  rw [unpack_toModel, hm, hs]

theorem bounded_of_pack {k : Nat} {x : Float} {u : UnpackedFloat}
    (h : OfSize ((2 ^ 52 : Nat) * 2 ^ ((k : Int) - 52)) u)
    (hx : x.toModel = Float.Model.pack u) : Bounded k x := by
  rw [Bounded, unpack_of_pack h hx, ← two_pow_eq]
  exact h

namespace Bounded

variable {j k : Nat} {x y : Float}

theorem mono (h : Bounded j x) (hjk : j ≤ k) : Bounded k x :=
  OfSize.mono h (pow_le_pow_right₀ (by norm_num) hjk)

theorem isFinite (h : Bounded k x) : x.isFinite = true := by
  show x.toModel.unpack.isFinite = true
  rw [Bounded] at h
  cases h' : x.toModel.unpack <;> rw [h'] at h <;> first | rfl | cases h

theorem mul (hx : Bounded j x) (hy : Bounded k y) (hjk : j + k ≤ 1023) :
    Bounded (j + k) (x * y) := by
  refine bounded_of_pack (OfSize.mul (canonical_two_pow hjk) hx hy ?_) rfl
  rw [two_pow_eq, pow_add]

theorem add (hx : Bounded k x) (hy : Bounded k y) (hk : k + 1 ≤ 1023) :
    Bounded (k + 1) (x + y) := by
  refine bounded_of_pack (OfSize.add (canonical_two_pow hk) hx hy ?_) rfl
  rw [two_pow_eq, pow_succ, mul_two]

theorem sub (hx : Bounded k x) (hy : Bounded k y) (hk : k + 1 ≤ 1023) :
    Bounded (k + 1) (x - y) := by
  refine bounded_of_pack (OfSize.sub (canonical_two_pow hk) hx hy ?_) rfl
  rw [two_pow_eq, pow_succ, mul_two]

end Bounded

/-! ## Where bounds come from -/

/-- The pattern of a power of two. -/
def powerBits (k : Nat) : Nat :=
  (k + 1023) * 2 ^ 52

theorem unpack_le_two_pow {bits k : Nat} (h : bits ≤ powerBits k) :
    ((unpack bits).1 : ℚ) * 2 ^ (unpack bits).2 ≤ 2 ^ k := by
  rw [powerBits] at h
  rcases Nat.lt_or_ge bits (2 ^ 52) with hlt | hge
  · rw [unpack_of_lt hlt]
    have hm : (bits : ℚ) ≤ 2 ^ (52 : Int) := by exact_mod_cast hlt.le
    calc (bits : ℚ) * 2 ^ (-1074 : Int) ≤ 2 ^ (52 : Int) * 2 ^ (-1074 : Int) :=
          mul_le_mul_of_nonneg_right hm (two_zpow_pos _).le
      _ = 2 ^ (-1022 : Int) := by rw [← zpow_add₀ (by norm_num)]; norm_num
      _ ≤ 2 ^ (k : Int) := zpow_le_zpow_right₀ (by norm_num) (by omega)
      _ = 2 ^ k := zpow_natCast 2 k
  · rw [unpack_of_le hge]
    dsimp only
    generalize hE : bits / 2 ^ 52 = e
    generalize hm : bits % 2 ^ 52 = m
    rcases Nat.lt_or_ge e (k + 1023) with he | he
    · have hm' : ((2 ^ 52 + m : Nat) : ℚ) ≤ 2 ^ (53 : Int) := by
        have : 2 ^ 52 + m ≤ 2 ^ 53 := by omega
        exact_mod_cast this
      calc ((2 ^ 52 + m : Nat) : ℚ) * 2 ^ ((e : Int) - 1075)
          ≤ 2 ^ (53 : Int) * 2 ^ ((e : Int) - 1075) :=
            mul_le_mul_of_nonneg_right hm' (two_zpow_pos _).le
        _ = 2 ^ ((e : Int) - 1022) := by
            rw [← zpow_add₀ (by norm_num)]
            congr 1
            omega
        _ ≤ 2 ^ (k : Int) := zpow_le_zpow_right₀ (by norm_num) (by omega)
        _ = 2 ^ k := zpow_natCast 2 k
    · have he' : e = k + 1023 := by omega
      have hm' : m = 0 := by omega
      have hexp : ((k + 1023 : Nat) : Int) - 1075 = (k : Int) - 52 := by omega
      rw [he', hm', hexp, Nat.add_zero, two_pow_eq]

theorem bounded_of_bits {k : Nat} {x : Float} (hk : k ≤ 1023)
    (h : magnitudeBits x ≤ powerBits k) : Bounded k x := by
  have hI := infinityBits_eq
  have hlt : magnitudeBits x < infinityBits := by
    rw [powerBits] at h
    omega
  rw [Bounded, unpack_toModel]
  rcases eq_or_ne (magnitudeBits x) 0 with h0 | h0
  · rw [h0, decode_zero]
    exact .zero _ (by positivity)
  · rw [decode_finite h0 hlt]
    exact .finite _ _ (canonical_unpack h0 hlt) (unpack_le_two_pow h)

theorem bounded_one (k : Nat) : Bounded k 1 := by
  have h : Bounded 0 1 := bounded_of_bits (by decide) (by decide +kernel)
  exact h.mono k.zero_le

theorem roundDiv_scaled_le {num den j : Nat} {e : Int} (hden : 0 < den)
    (h : (num : ℚ) / den ≤ 2 ^ ((j : Int) + e)) :
    roundDiv .toEven (scaled num den e).1 (scaled num den e).2 ≤ 2 ^ j := by
  have hden' := @scaled_snd_pos num den hden e
  refine roundDiv_le hden' ?_
  rw [zpow_add₀ (by norm_num), ← div_le_iff₀ (two_zpow_pos _), ← scaled_div,
    div_le_iff₀ (by exact_mod_cast hden'), zpow_natCast] at h
  exact_mod_cast h

theorem nearestBits_le_powerBits {n k : Nat} (h : n ≤ 2 ^ k) : nearestBits n 1 ≤ powerBits k := by
  rcases Nat.eq_zero_or_pos n with rfl | hn
  · exact Nat.zero_le _
  have two : (1 : ℚ) < 2 := by norm_num
  obtain ⟨hlow, hhigh⟩ := floorLog2_spec hn Nat.one_pos
  have hl : 0 ≤ floorLog2 n 1 := by
    rw [le_floorLog2_iff hn Nat.one_pos, zpow_zero, Nat.cast_one, div_one]
    exact_mod_cast hn
  have hn' : (n : ℚ) / (1 : Nat) ≤ 2 ^ (k : Int) := by
    rw [Nat.cast_one, div_one, zpow_natCast]
    exact_mod_cast h
  have hlk : floorLog2 n 1 ≤ k := (zpow_le_zpow_iff_right₀ two).mp (hlow.trans hn')
  have hunit : unitExponent n 1 = floorLog2 n 1 - 52 := by
    rw [unitExponent]
    omega
  rw [nearestBits_eq hn, powerBits]
  refine (Nat.min_le_right _ _).trans ?_
  -- the mantissa fills its places, or is the next power of two
  rcases eq_or_lt_of_le hlk with heq | hlt
  · have hround := roundDiv_scaled_le (j := 52) (e := unitExponent n 1) Nat.one_pos
      (by rw [hunit, heq]; exact hn'.trans_eq (congrArg _ (by omega)))
    omega
  · have hround := roundDiv_scaled_le (j := 53) (e := unitExponent n 1) Nat.one_pos
      (by rw [hunit]; exact hhigh.le.trans_eq (congrArg _ (by omega)))
    omega

/-- Counts up to a power of two are doubles of at most this size. -/
theorem bounded_ofRatio {n k : Nat} (negative : Bool) (hk : k ≤ 1023) (h : n ≤ 2 ^ k) :
    Bounded k (ofRatio negative n 1) := by
  refine bounded_of_bits hk ?_
  rw [(ofRatio_bits negative n 1).1]
  exact nearestBits_le_powerBits h

namespace Bounded

variable {k : Nat} {x : Float}

theorem magnitude_le (h : Bounded k x) :
    ((magnitude x).1 : ℚ) * 2 ^ (magnitude x).2 ≤ 2 ^ k := by
  have hfinite := h.isFinite
  rw [Bounded, unpack_toModel] at h
  rw [isFinite_iff] at hfinite
  rw [magnitude]
  rcases eq_or_ne (magnitudeBits x) 0 with h0 | h0
  · rw [h0]
    show ((0 : Nat) : ℚ) * _ ≤ _
    rw [Nat.cast_zero, zero_mul]
    positivity
  · rw [decode_finite h0 hfinite] at h
    cases h with
    | finite s hm hc hb => exact hb

theorem ratio_le (h : Bounded k x) :
    (ratio (magnitude x).1 (magnitude x).2).1 ≤
      2 ^ k * (ratio (magnitude x).1 (magnitude x).2).2 := by
  have hden := ratio_snd_pos (magnitude x).1 (magnitude x).2
  have hle := h.magnitude_le
  rw [← ratio_div, div_le_iff₀ (by exact_mod_cast hden)] at hle
  exact_mod_cast hle

theorem round (h : Bounded k x) (hk : k ≤ 1023) : Bounded k (Double.round x) := by
  rw [Double.round, if_pos h.isFinite]
  refine bounded_ofRatio _ hk ?_
  show roundDiv .upward (ratio (magnitude x).1 (magnitude x).2).1
    (ratio (magnitude x).1 (magnitude x).2).2 ≤ 2 ^ k
  exact roundDiv_le (ratio_snd_pos _ _) h.ratio_le

theorem ceil (h : Bounded k x) (hk : k + 1 ≤ 1023) : Bounded (k + 1) (Double.ceil x) := by
  have hfloor : floorMagnitude x ≤ 2 ^ k := by
    show (ratio (magnitude x).1 (magnitude x).2).1 / (ratio (magnitude x).1 (magnitude x).2).2 ≤ _
    exact Nat.div_le_of_le_mul (h.ratio_le.trans_eq (Nat.mul_comm _ _))
  have hpos : 1 ≤ 2 ^ k := Nat.one_le_two_pow
  rw [Double.ceil]
  split
  · exact h.mono (Nat.le_succ k)
  · split
    · exact bounded_ofRatio _ hk (by omega)
    · exact bounded_ofRatio _ hk (by omega)

end Bounded

/-! ## Comparisons -/

/-- Mantissas in canonical form are compared after their powers of two. -/
theorem mul_zpow_le_of_compare {m M : Nat} {e E : Int} (hc : Canonical m e) (hC : Canonical M E)
    (h : ((compare e E).then (compare m M)).isLE = true) : (m : ℚ) * 2 ^ e ≤ M * 2 ^ E := by
  rcases lt_trichotomy e E with hlt | rfl | hgt
  · have hfull : (2 : ℚ) ^ (52 : Int) ≤ M := by
      exact_mod_cast hC.full (by have := hc.low; omega)
    have hm : (m : ℚ) ≤ 2 ^ (53 : Int) := by exact_mod_cast hc.lt.le
    calc (m : ℚ) * 2 ^ e ≤ 2 ^ (53 : Int) * 2 ^ e :=
          mul_le_mul_of_nonneg_right hm (two_zpow_pos e).le
      _ = 2 ^ (53 + e) := (zpow_add₀ (by norm_num) 53 e).symm
      _ ≤ 2 ^ (52 + E) := zpow_le_zpow_right₀ (by norm_num) (by omega)
      _ = 2 ^ (52 : Int) * 2 ^ E := zpow_add₀ (by norm_num) 52 E
      _ ≤ M * 2 ^ E := mul_le_mul_of_nonneg_right hfull (two_zpow_pos E).le
  · rw [Int.compare_eq_eq.mpr rfl, Ordering.eq_then, Nat.isLE_compare] at h
    exact mul_le_mul_of_nonneg_right (by exact_mod_cast h) (two_zpow_pos e).le
  · rw [Int.compare_eq_gt.mpr hgt] at h
    cases h

theorem le_iff {x y : Float} :
    x ≤ y ↔ UnpackedFloat.le x.toModel.unpack y.toModel.unpack = true := by
  show decide (x.toModel ≤ y.toModel) = true ↔ _
  rw [decide_eq_true_iff]
  rfl

theorem abs_decode (negative : Bool) (bits : Nat) :
    (decode negative bits).abs = decode false bits := by
  rcases Nat.lt_trichotomy bits infinityBits with h | rfl | h
  · by_cases h0 : bits = 0
    · rw [h0, decode_zero, decode_zero]
      rfl
    · rw [decode_finite h0 h, decode_finite h0 h]
      rfl
  · rw [decode_infinity, decode_infinity]
    rfl
  · rw [decode_nan h, decode_nan h]
    rfl

theorem unpack_abs (x : Float) : x.abs.toModel.unpack = x.toModel.unpack.abs := by
  have hx : x.abs.toModel = Float.Model.pack (decode false (magnitudeBits x)) := by
    rw [← abs_decode (isNegative x), ← unpack_toModel]
    rfl
  rw [unpack_toModel x, abs_decode]
  rcases Nat.lt_or_ge infinityBits (magnitudeBits x) with h | h
  · rw [decode_nan h] at hx ⊢
    exact unpack_of_isNaN (isNaN_of_pack hx)
  · obtain ⟨hm, hs⟩ := toBits_of_toModel h hx
    rw [unpack_toModel, hm, hs]

theorem OfSize.of_decode_le {b : ℚ} {bits : Nat} {y : UnpackedFloat} (negative : Bool)
    (hy : OfSize b y) (hle : UnpackedFloat.le (decode false bits) y = true) :
    OfSize b (decode negative bits) := by
  rcases Nat.lt_trichotomy bits infinityBits with h | rfl | h
  · by_cases h0 : bits = 0
    · rw [h0, decode_zero]
      exact .zero _ hy.nonneg
    · rw [decode_finite h0 h] at hle ⊢
      have hc := canonical_unpack h0 h
      cases hy with
      | zero s hb => cases s <;> cases hle
      | finite s hm hC hb =>
        cases s with
        | negative => cases hle
        | positive => exact .finite _ _ hc ((mul_zpow_le_of_compare hc hC hle).trans hb)
  · rw [decode_infinity] at hle
    cases hy with
    | zero s hb => cases s <;> cases hle
    | finite s hm hC hb => cases s <;> cases hle
  · rw [decode_nan h] at hle
    cases hle

/-- What is not above a bounded double in size is bounded. -/
theorem bounded_of_abs_le {k : Nat} {x c : Float} (hc : Bounded k c) (h : x.abs ≤ c) :
    Bounded k x := by
  rw [le_iff, unpack_abs, unpack_toModel x, abs_decode] at h
  rw [Bounded, unpack_toModel]
  exact OfSize.of_decode_le _ hc h

theorem magnitudeBits_eq_zero_of_nonneg {x : Float} (h : 0 ≤ x) (hneg : isNegative x = true) :
    magnitudeBits x = 0 := by
  rw [le_iff, unpack_toModel x, hneg] at h
  rcases Nat.lt_trichotomy (magnitudeBits x) infinityBits with hlt | heq | hgt
  · by_contra h0
    rw [decode_finite h0 hlt] at h
    cases h
  · rw [heq, decode_infinity] at h
    cases h
  · rw [decode_nan hgt] at h
    cases h

theorem bounded_of_le {k : Nat} {x c : Float} (hc : Bounded k c) (h0 : 0 ≤ x) (h : x ≤ c) :
    Bounded k x := by
  rw [Bounded, unpack_toModel]
  cases hneg : isNegative x with
  | false =>
    rw [le_iff, unpack_toModel x, hneg] at h
    exact OfSize.of_decode_le false hc h
  | true =>
    rw [magnitudeBits_eq_zero_of_nonneg h0 hneg, decode_zero]
    exact .zero _ (OfSize.nonneg hc)

theorem le_of_lt {x y : Float} (h : x < y) : x ≤ y := by
  rw [lt_iff, UnpackedFloat.lt, beq_iff_eq] at h
  rw [le_iff, UnpackedFloat.le, h]
  rfl

/-! ## Choices -/

theorem greatest_eq_or (x y : Float) : Scalar.greatest x y = x ∨ Scalar.greatest x y = y := by
  rw [Scalar.greatest]
  split
  · exact .inr rfl
  · split
    · exact .inr rfl
    · exact .inl rfl

theorem Bounded.greatest {k : Nat} {x y : Float} (hx : Bounded k x) (hy : Bounded k y) :
    Bounded k (Scalar.greatest x y) := by
  rcases greatest_eq_or x y with h | h <;> rw [h]
  · exact hx
  · exact hy

end Trendline.Double
