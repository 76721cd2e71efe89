import Trendline.Proofs.Double.Operations
import Trendline.Proofs.Double.Order

/-!
# The error of an operation

What an operation on doubles gives differs from the exact number by half a unit
at most, relative to the number or, near zero, by half of the least double.
Only a number that is too large gives an infinity.  Sums and differences stay on
the grid of the least double, where the error is relative throughout.

* `patternValue`: the number of a pattern, which grows with the pattern.
* `lt_iff_value`: finite doubles are compared as numbers.
* `Rounds.error`, `Rounds.error_of_onGrid`: the error of an operation.
-/

namespace Trendline.Double

open Float.Model Float.Model.UnpackedFloat Trendline.Decimal

/-! ## The number of a pattern -/

/-- The number that an unsigned pattern stands for. -/
def patternValue (bits : Nat) : ℚ :=
  (unpack bits).1 * 2 ^ (unpack bits).2

theorem patternValue_zero : patternValue 0 = 0 := by
  rw [patternValue, unpack_of_lt (by decide)]
  simp

/-- From one pattern to the next the number grows by one unit. -/
theorem patternValue_succ (bits : Nat) :
    patternValue (bits + 1) = patternValue bits + 2 ^ (unpack bits).2 := by
  rw [patternValue, patternValue]
  rcases Nat.lt_or_ge (bits + 1) (2 ^ 52) with h | h
  · rw [unpack_of_lt h, unpack_of_lt (by omega)]
    generalize (2 : ℚ) ^ (-1074 : Int) = w
    push_cast
    ring
  rw [unpack_of_le h]
  rcases Nat.lt_or_ge bits (2 ^ 52) with h' | h'
  · have hbits : bits = 2 ^ 52 - 1 := by omega
    have hexp : ((2 ^ 52 - 1 + 1) / 2 ^ 52 : Nat) - (1075 : Int) = -1074 := by norm_num
    rw [unpack_of_lt h', hbits, hexp]
    generalize (2 : ℚ) ^ (-1074 : Int) = w
    push_cast
    ring
  rw [unpack_of_le h']
  dsimp only
  by_cases hcarry : (bits + 1) % 2 ^ 52 = 0
  · have hm : bits % 2 ^ 52 = 2 ^ 52 - 1 := by omega
    have he : (((bits + 1) / 2 ^ 52 : Nat) : Int) - 1075 = ((bits / 2 ^ 52 : Nat) : Int) - 1075 + 1 := by
      omega
    rw [hcarry, hm, he, zpow_add_one₀ (by norm_num)]
    push_cast
    ring
  · have hm : (bits + 1) % 2 ^ 52 = bits % 2 ^ 52 + 1 := by omega
    have he : (bits + 1) / 2 ^ 52 = bits / 2 ^ 52 := by omega
    rw [hm, he]
    push_cast
    ring

theorem strictMono_patternValue : StrictMono patternValue :=
  strictMono_nat_of_lt_succ fun bits => by
    rw [patternValue_succ]
    exact lt_add_of_pos_right _ (two_zpow_pos _)

theorem patternValue_nonneg (bits : Nat) : 0 ≤ patternValue bits :=
  mul_zpow_nonneg _ _

/-- The number of a double is that of its pattern, with its sign. -/
theorem value_eq {x : Float} (hx : x.isFinite = true) :
    value x = if isNegative x then -patternValue (magnitudeBits x) else patternValue (magnitudeBits x) := by
  rw [isFinite_iff] at hx
  rw [value, unpack_toModel]
  rcases eq_or_ne (magnitudeBits x) 0 with h0 | h0
  · rw [h0, decode_zero, valueOf_zero, patternValue_zero, neg_zero, ite_self]
  · rw [decode_finite h0 hx, valueOf_finite, patternValue]
    cases isNegative x <;> simp [signOf, Sign.apply]

theorem value_of_magnitudeBits {x : Float} (h : magnitudeBits x = 0) :
    x.isFinite = true ∧ value x = 0 := by
  have hfinite : x.isFinite = true := by
    rw [isFinite_iff, h]
    decide
  refine ⟨hfinite, ?_⟩
  rw [value_eq hfinite, h, patternValue_zero, neg_zero, ite_self]

theorem value_zero : (0 : Float).isFinite = true ∧ value 0 = 0 :=
  value_of_magnitudeBits (by decide +kernel)

theorem value_negZero : (-(0 : Float)).isFinite = true ∧ value (-(0 : Float)) = 0 :=
  value_of_magnitudeBits (by decide +kernel)

/-- The number at a place. -/
def numberAt (p : Int) : ℚ :=
  p.sign * patternValue p.natAbs

theorem numberAt_natCast (n : Nat) : numberAt n = patternValue n := by
  rw [numberAt, Int.natAbs_natCast]
  rcases Nat.eq_zero_or_pos n with rfl | hn
  · rw [patternValue_zero, mul_zero]
  · rw [Int.sign_eq_one_of_pos (by omega), Int.cast_one, one_mul]

theorem numberAt_neg (p : Int) : numberAt (-p) = -numberAt p := by
  rw [numberAt, numberAt, Int.sign_neg, Int.natAbs_neg, Int.cast_neg, neg_mul]

theorem strictMono_numberAt : StrictMono numberAt := by
  refine strictMono_of_odd_strictMonoOn_nonneg numberAt_neg ?_
  intro p hp q hq hlt
  obtain ⟨m, rfl⟩ := Int.eq_ofNat_of_zero_le hp
  obtain ⟨n, rfl⟩ := Int.eq_ofNat_of_zero_le hq
  rw [numberAt_natCast, numberAt_natCast]
  exact strictMono_patternValue (by omega)

theorem value_eq_numberAt {x : Float} (hx : x.isFinite = true) :
    value x = numberAt (position x) := by
  rw [value_eq hx, position, signed]
  cases isNegative x with
  | false => exact (numberAt_natCast _).symm
  | true =>
    show -patternValue (magnitudeBits x) = numberAt (-(magnitudeBits x : Int))
    rw [numberAt_neg, numberAt_natCast]

/-- **Finite doubles are compared as numbers.** -/
theorem lt_iff_value {x y : Float} (hx : x.isFinite = true) (hy : y.isFinite = true) :
    x < y ↔ value x < value y := by
  rw [lt_iff_position (isNaN_of_isFinite hx) (isNaN_of_isFinite hy), value_eq_numberAt hx,
    value_eq_numberAt hy, strictMono_numberAt.lt_iff_lt]

/-! ## The error of rounding -/

/-- A rounded quotient is off by half a unit at most. -/
theorem roundDiv_near {num den : Nat} (hden : 0 < den) :
    2 * (roundDiv .toEven num den * den) ≤ 2 * num + den ∧
      2 * num ≤ 2 * (roundDiv .toEven num den * den) + den := by
  have hsplit : num = num / den * den + num % den := (Nat.div_add_mod' num den).symm
  have hrem : num % den < den := Nat.mod_lt _ hden
  unfold roundDiv
  dsimp only
  generalize num / den = q at *
  generalize num % den = r at *
  split
  · omega
  · split
    · rw [Nat.add_mul]
      omega
    · rcases Nat.mod_two_eq_zero_or_one q with h | h <;> rw [h, Nat.add_mul] <;> omega

theorem abs_roundDiv_sub_le (num : Nat) {den : Nat} (hden : 0 < den) :
    |(roundDiv .toEven num den : ℚ) - num / den| ≤ 1 / 2 := by
  have hd : (0 : ℚ) < den := by exact_mod_cast hden
  obtain ⟨h₁, h₂⟩ := @roundDiv_near num den hden
  have h₁' : (2 * (roundDiv .toEven num den * den) : ℚ) ≤ 2 * num + den := by exact_mod_cast h₁
  have h₂' : (2 * num : ℚ) ≤ 2 * (roundDiv .toEven num den * den) + den := by exact_mod_cast h₂
  rw [abs_sub_le_iff]
  constructor
  · rw [sub_le_iff_le_add, ← sub_le_iff_le_add', le_div_iff₀ hd]
    linarith
  · rw [sub_le_iff_le_add, div_le_iff₀ hd]
    linarith

/-- Half of the last place of a number with 53 digits, relative to the number. -/
def unit : ℚ :=
  1 / 2 ^ 53

/-- Half of the least positive double. -/
def leastHalf : ℚ :=
  2 ^ (-1075 : Int)

/-- The least number of full precision. -/
def leastFull : ℚ :=
  2 ^ (-1022 : Int)

theorem leastHalf_pos : 0 < leastHalf :=
  two_zpow_pos _

theorem leastFull_pos : 0 < leastFull :=
  two_zpow_pos _

theorem leastHalf_eq : leastHalf = leastFull / 2 ^ 53 := by
  rw [leastHalf, leastFull, show (-1075 : Int) = -1022 - 53 by norm_num, zpow_sub₀ (by norm_num)]
  norm_num

theorem leastFull_le : leastFull ≤ 1 / 10 ^ 60 :=
  calc leastFull ≤ 2 ^ (-200 : Int) := zpow_le_zpow_right₀ (by norm_num) (by norm_num)
    _ ≤ 1 / 10 ^ 60 := by norm_num

theorem leastHalf_le : leastHalf ≤ 1 / 10 ^ 60 := by
  have hfull := leastFull_le
  have hpos := leastFull_pos
  rw [leastHalf_eq]
  linarith

/-- What is near to a number is not much larger. -/
theorem abs_le_of_near {t r e b : ℚ} (h : |t - r| ≤ e) (hr : |r| ≤ b) : |t| ≤ e + b := by
  have hsum := abs_add_le (t - r) r
  rw [sub_add_cancel] at hsum
  linarith

/-- The half of the unit that a number is rounded to. -/
theorem half_unit_le {num den : Nat} (hnum : 0 < num) (hden : 0 < den) :
    (2 : ℚ) ^ unitExponent num den / 2 ≤ max (unit * (num / den)) leastHalf := by
  obtain ⟨hlow, -⟩ := floorLog2_spec hnum hden
  rw [unitExponent]
  rcases max_choice (-1074) (floorLog2 num den - 52) with h | h <;> rw [h]
  · refine le_max_of_le_right (le_of_eq ?_)
    rw [leastHalf, show (-1074 : Int) = -1075 + 1 by norm_num, zpow_add_one₀ (by norm_num)]
    ring
  · refine le_max_of_le_left ?_
    rw [zpow_sub₀ (by norm_num), unit]
    norm_num
    linarith

theorem patternValue_of_rounded {r : Nat} {e : Int} (hr : r ≤ 2 ^ 53) (hlow : -1074 ≤ e)
    (hfull : -1074 < e → 2 ^ 52 ≤ r) (hlt : (e + 1074).toNat * 2 ^ 52 + r < infinityBits) :
    patternValue ((e + 1074).toNat * 2 ^ 52 + r) = r * 2 ^ e := by
  have hI := infinityBits_eq
  rcases Nat.lt_or_eq_of_le hr with hr | rfl
  · rcases Nat.eq_zero_or_pos r with rfl | hpos
    · have he : e = -1074 := by omega
      rw [he, Nat.cast_zero, zero_mul]
      exact patternValue_zero
    · obtain ⟨-, -, hunpack⟩ := unpack_of_canonical ⟨hpos, hr, hlow, by omega, hfull⟩
      rw [patternValue, hunpack]
  · obtain ⟨-, -, hunpack⟩ := @unpack_of_canonical (2 ^ 52) (e + 1)
      ⟨by decide, by decide, by omega, by omega, fun _ => le_rfl⟩
    have hbits : (e + 1074).toNat * 2 ^ 52 + 2 ^ 53 = (e + 1 + 1074).toNat * 2 ^ 52 + 2 ^ 52 := by
      omega
    rw [hbits, patternValue, hunpack, zpow_add_one₀ (by norm_num)]
    push_cast
    ring

/-- The largest double and half a unit: what is less is rounded to a number. -/
def overflow : ℚ :=
  (2 ^ 53 - 1 / 2) * 2 ^ (971 : Int)

theorem ten_pow_le_overflow : 10 ^ 60 ≤ overflow := by
  have h : (10 : ℚ) ^ 60 ≤ 2 ^ (971 : Int) :=
    le_trans (by norm_num) (zpow_le_zpow_right₀ (by norm_num) (by norm_num : (200 : Int) ≤ 971))
  rw [overflow]
  generalize (2 : ℚ) ^ (971 : Int) = w at *
  linarith

theorem two_pow_lt_overflow {k : Nat} (hk : k ≤ 1023) : (2 : ℚ) ^ k < overflow := by
  have hle : (2 : ℚ) ^ k ≤ 2 ^ 52 * 2 ^ (971 : Int) := by
    rw [← zpow_natCast, ← zpow_natCast, ← zpow_add₀ (by norm_num)]
    exact zpow_le_zpow_right₀ (by norm_num) (by push_cast; omega)
  refine hle.trans_lt ?_
  rw [overflow]
  exact mul_lt_mul_of_pos_right (by norm_num) (two_zpow_pos 971)

/-- Before it is written as a double a number is rounded by half of its unit at most. -/
theorem abs_rounded_sub_le (num : Nat) {den : Nat} (hden : 0 < den) (e : Int) :
    |(roundDiv .toEven (scaled num den e).1 (scaled num den e).2 * 2 ^ e : ℚ) - num / den| ≤
      2 ^ e / 2 := by
  have hunit := two_zpow_pos e
  have hnear := abs_roundDiv_sub_le (scaled num den e).1 (@scaled_snd_pos num den hden e)
  rw [scaled_div] at hnear
  generalize (roundDiv .toEven (scaled num den e).1 (scaled num den e).2 : ℚ) = r at *
  have hscale : r * 2 ^ e - num / den = (r - num / den / 2 ^ e) * 2 ^ e := by
    field_simp
  rw [hscale, abs_mul, abs_of_pos hunit]
  linarith [mul_le_mul_of_nonneg_right hnear hunit.le]

/-- A number has all of its digits above its unit, if that is not the least one. -/
theorem two_pow_unitExponent_le {num den : Nat} (hnum : 0 < num) (hden : 0 < den)
    (h : -1074 < unitExponent num den) :
    (2 : ℚ) ^ (52 : Int) * 2 ^ unitExponent num den ≤ num / den := by
  rw [← zpow_add₀ (by norm_num), ← le_floorLog2_iff hnum hden]
  rw [unitExponent] at *
  omega

/-- What is rounded beyond the largest double is too large. -/
theorem overflow_le {r : Nat} {e : Int} {q : ℚ} (hr : r ≤ 2 ^ 53)
    (hbits : infinityBits ≤ (e + 1074).toNat * 2 ^ 52 + r) (herror : |(r * 2 ^ e : ℚ) - q| ≤ 2 ^ e / 2)
    (hfloor : -1074 < e → (2 : ℚ) ^ (52 : Int) * 2 ^ e ≤ q) : overflow ≤ q := by
  have hI := infinityBits_eq
  rcases Int.lt_or_le e 972 with he | he
  · have he : e = 971 := by omega
    have hr : r = 2 ^ 53 := by omega
    have hle := (abs_sub_le_iff.mp herror).1
    rw [he, hr] at hle
    rw [overflow]
    generalize (2 : ℚ) ^ (971 : Int) = w at hle ⊢
    push_cast at hle
    linarith
  · calc overflow ≤ 2 ^ (52 : Int) * 2 ^ (972 : Int) := by
          have hpos := two_zpow_pos 971
          rw [overflow, show (972 : Int) = 971 + 1 by norm_num, zpow_add_one₀ (by norm_num)]
          generalize (2 : ℚ) ^ (971 : Int) = w at hpos ⊢
          norm_num
          linarith
      _ ≤ 2 ^ (52 : Int) * 2 ^ e := mul_le_mul_of_nonneg_left
          (zpow_le_zpow_right₀ (by norm_num) he) (two_zpow_pos 52).le
      _ ≤ q := hfloor (by omega)

/-- **A number is rounded** to a double that is as near as its unit allows, or to infinity. -/
theorem nearestBits_cases {num den : Nat} (hnum : 0 < num) (hden : 0 < den) :
    nearestBits num den < infinityBits ∧
        |patternValue (nearestBits num den) - num / den| ≤ max (unit * (num / den)) leastHalf ∨
      nearestBits num den = infinityBits ∧ overflow ≤ num / den := by
  have hpos := @scaled_snd_pos num den hden (unitExponent num den)
  have herror := abs_rounded_sub_le num hden (unitExponent num den)
  have hr := @roundDiv_le .toEven _ _ _ hpos (scaled_le_two_pow hnum hden)
  have hfull : -1074 < unitExponent num den → 2 ^ 52 ≤
      roundDiv .toEven (scaled num den (unitExponent num den)).1
        (scaled num den (unitExponent num den)).2 := fun hE =>
    ((Nat.le_div_iff_mul_le hpos).mpr (two_pow_le_scaled hnum hden hE)).trans (div_le_roundDiv _ _ _)
  have hlow : -1074 ≤ unitExponent num den := by
    rw [unitExponent]
    omega
  have hhalf := half_unit_le hnum hden
  have hfloor := two_pow_unitExponent_le hnum hden
  rw [nearestBits_eq hnum]
  generalize roundDiv .toEven (scaled num den (unitExponent num den)).1
    (scaled num den (unitExponent num den)).2 = r at *
  generalize unitExponent num den = e at *
  rcases Nat.lt_or_ge ((e + 1074).toNat * 2 ^ 52 + r) infinityBits with hlt | hge
  · rw [Nat.min_eq_right hlt.le]
    refine .inl ⟨hlt, ?_⟩
    rw [patternValue_of_rounded hr hlow hfull hlt]
    exact herror.trans hhalf
  · exact .inr ⟨Nat.min_eq_left hge, overflow_le hr hge herror hfloor⟩

/-- An infinity, of either sign. -/
def IsInfinite (x : Float) : Prop :=
  magnitudeBits x = infinityBits

namespace Rounds

variable {r : ℚ} {x : Float}

/-- **What an operation gives** is as near to the exact number as its unit allows, or infinite
because the exact number is too large. -/
theorem error (h : Rounds r x) :
    x.isFinite = true ∧ |value x - r| ≤ max (unit * |r|) leastHalf ∨
      IsInfinite x ∧ overflow ≤ |r| := by
  obtain ⟨num, den, hden, hdiv, hbits⟩ := h.bits
  rcases Nat.eq_zero_or_pos num with rfl | hnum
  · rw [Nat.cast_zero, zero_div, eq_comm, abs_eq_zero] at hdiv
    obtain ⟨hfinite, hvalue⟩ := @value_of_magnitudeBits x hbits
    refine .inl ⟨hfinite, ?_⟩
    rw [hvalue, hdiv, sub_zero, abs_zero, mul_zero]
    exact le_max_left _ _
  have hd : (0 : ℚ) < den := by exact_mod_cast hden
  have hr : r ≠ 0 := by
    rintro rfl
    rw [abs_zero, div_eq_zero_iff] at hdiv
    rcases hdiv with h | h
    · exact hnum.ne' (by exact_mod_cast h)
    · exact hd.ne' h
  rw [← hdiv]
  rcases nearestBits_cases hnum hden with ⟨hlt, herror⟩ | ⟨heq, hle⟩
  · rw [← hbits] at hlt herror
    have hfinite := isFinite_iff.mpr hlt
    refine .inl ⟨hfinite, ?_⟩
    rw [value_eq hfinite, h.sign hr]
    rw [hdiv] at herror ⊢
    rcases lt_or_gt_of_ne hr with hneg | hpos
    · rw [decide_eq_true hneg, if_pos rfl]
      rw [abs_of_neg hneg] at herror ⊢
      rwa [← abs_neg, neg_sub', neg_neg]
    · rw [decide_eq_false (not_lt.mpr hpos.le), if_neg Bool.false_ne_true]
      rwa [abs_of_pos hpos] at herror ⊢
  · exact .inr ⟨hbits.trans heq, hle⟩

/-- Away from the ends of the range the error is relative to the number. -/
theorem near (h : Rounds r x) (hlow : leastFull ≤ |r|) (hhigh : |r| < overflow) :
    x.isFinite = true ∧ |value x - r| ≤ unit * |r| := by
  obtain ⟨hx, herror⟩ := h.error.resolve_right fun h => absurd h.2 (not_le.mpr hhigh)
  refine ⟨hx, herror.trans (max_le le_rfl ?_)⟩
  rw [leastHalf_eq, unit]
  linarith

theorem value_nonneg (h : Rounds r x) (hr : 0 ≤ r) (hx : x.isFinite = true) : 0 ≤ value x := by
  rw [value_eq hx]
  rcases hr.eq_or_lt with rfl | hr
  · obtain ⟨num, den, hden, hdiv, hbits⟩ := h.bits
    have hnum : num = 0 := by
      rw [abs_zero, div_eq_zero_iff] at hdiv
      rcases hdiv with h | h
      · exact_mod_cast h
      · exact absurd (by exact_mod_cast h) hden.ne'
    rw [hnum] at hbits
    have hzero := (@value_of_magnitudeBits x hbits).2
    rw [value_eq hx] at hzero
    exact hzero.ge
  · rw [h.sign hr.ne', decide_eq_false (not_lt.mpr hr.le), if_neg Bool.false_ne_true]
    exact patternValue_nonneg _

/-- In the interval of a double a number is rounded to this double. -/
theorem of_roundsTo {m : Nat} {q : Int} (h : Rounds r x) (hc : Canonical m q)
    (hround : RoundsTo m q r) : x.isFinite = true ∧ value x = m * 2 ^ q := by
  have hr := hround.pos hc.pos
  obtain ⟨num, den, hden, hdiv, hbits⟩ := h.bits
  rw [abs_of_pos hr] at hdiv
  have hnum : 0 < num := by
    rcases Nat.eq_zero_or_pos num with rfl | hnum
    · rw [Nat.cast_zero, zero_div] at hdiv
      exact absurd hdiv hr.ne
    · exact hnum
  rw [← hdiv] at hround
  rw [nearestBits_of_roundsTo hc hnum hden hround] at hbits
  obtain ⟨-, hlt, hunpack⟩ := unpack_of_canonical hc
  have hfinite : x.isFinite = true := by rwa [isFinite_iff, hbits]
  refine ⟨hfinite, ?_⟩
  rw [value_eq hfinite, h.sign hr.ne', decide_eq_false (not_lt.mpr hr.le),
    if_neg Bool.false_ne_true, hbits, patternValue, hunpack]

/-- A number with at most 53 digits is not changed. -/
theorem exact {k : Nat} {q : Int} (h : Rounds (k * 2 ^ q) x) (hk : 0 < k) (hle : k ≤ 2 ^ 53)
    (hlow : -1022 ≤ q) (hhigh : q ≤ 900) : x.isFinite = true ∧ value x = k * 2 ^ q := by
  obtain ⟨M, E, hc, hvalue⟩ := exists_canonical hk hle
  have two : (1 : ℚ) < 2 := by norm_num
  have hM : (M : ℚ) < 2 ^ (53 : Int) := by exact_mod_cast hc.lt
  have hE : -52 ≤ E := by
    have h1 : (2 : ℚ) ^ (0 : Int) ≤ M * 2 ^ E := by
      rw [hvalue, zpow_zero]
      exact_mod_cast hk
    have hlt : (2 : ℚ) ^ (0 : Int) < 2 ^ (53 + E) := by
      rw [zpow_add₀ (by norm_num)]
      exact h1.trans_lt (mul_lt_mul_of_pos_right hM (two_zpow_pos E))
    have := (zpow_lt_zpow_iff_right₀ two).mp hlt
    omega
  have hfull := hc.full (by omega)
  have hE' : E ≤ 1 := by
    have hM' : (2 : ℚ) ^ (52 : Int) ≤ M := by exact_mod_cast hfull
    have hle' : (2 : ℚ) ^ (52 + E) ≤ 2 ^ (53 : Int) := by
      rw [zpow_add₀ (by norm_num)]
      refine (mul_le_mul_of_nonneg_right hM' (two_zpow_pos E).le).trans ?_
      rw [hvalue]
      exact_mod_cast hle
    have := (zpow_le_zpow_iff_right₀ two).mp hle'
    omega
  have hshift : (k : ℚ) * 2 ^ q = M * 2 ^ (E + q) := by
    rw [zpow_add₀ (by norm_num), ← mul_assoc, hvalue]
  rw [hshift] at h ⊢
  exact h.of_roundsTo ⟨hc.pos, hc.lt, by omega, by omega, fun _ => hfull⟩ (roundsTo_self hc.pos)

end Rounds

/-! ## The grid of all doubles -/

/-- A multiple of the least positive double. -/
def OnGrid (r : ℚ) : Prop :=
  ∃ z : Int, r = z * 2 ^ (-1074 : Int)

namespace OnGrid

variable {r t : ℚ}

theorem add (hr : OnGrid r) (ht : OnGrid t) : OnGrid (r + t) := by
  obtain ⟨a, rfl⟩ := hr
  obtain ⟨b, rfl⟩ := ht
  exact ⟨a + b, by rw [Int.cast_add, add_mul]⟩

theorem sub (hr : OnGrid r) (ht : OnGrid t) : OnGrid (r - t) := by
  obtain ⟨a, rfl⟩ := hr
  obtain ⟨b, rfl⟩ := ht
  exact ⟨a - b, by rw [Int.cast_sub, sub_mul]⟩

/-- On the grid nothing but zero is smaller than one unit. -/
theorem eq_zero (hr : OnGrid r) (h : |r| < 2 * leastHalf) : r = 0 := by
  obtain ⟨z, rfl⟩ := hr
  have hunit := two_zpow_pos (-1074)
  have htwo : 2 * leastHalf = 2 ^ (-1074 : Int) := by
    rw [leastHalf, show (-1074 : Int) = -1075 + 1 by norm_num, zpow_add_one₀ (by norm_num)]
    ring
  rw [htwo, abs_mul, abs_of_pos hunit, mul_lt_iff_lt_one_left hunit] at h
  have hz : |z| < 1 := by exact_mod_cast h
  rw [Int.abs_lt_one_iff.mp hz, Int.cast_zero, zero_mul]

end OnGrid

theorem onGrid_value {x : Float} (hx : x.isFinite = true) : OnGrid (value x) := by
  rw [value]
  rcases unpack_cases hx with ⟨s, hs⟩ | ⟨s, m, e, hm, hs, hc⟩
  · rw [hs]
    exact ⟨0, by rw [valueOf_zero, Int.cast_zero, zero_mul]⟩
  · obtain ⟨d, hd⟩ := Int.le.dest hc.low
    refine ⟨s.apply m * 2 ^ d, ?_⟩
    rw [hs, valueOf_finite, ← hd, zpow_add₀ (by norm_num), zpow_natCast, Int.cast_mul, Int.cast_pow,
      Int.cast_ofNat, mul_comm (2 ^ (-1074 : Int)), mul_assoc]

/-- On the grid the error is relative to the number. -/
theorem Rounds.error_of_onGrid {r : ℚ} {x : Float} (h : Rounds r x) (hr : OnGrid r) :
    x.isFinite = true ∧ |value x - r| ≤ unit * |r| ∨ IsInfinite x ∧ overflow ≤ |r| := by
  rcases h.error with ⟨hx, herror⟩ | h
  · refine .inl ⟨hx, ?_⟩
    rcases le_max_iff.mp herror with h | h
    · exact h
    · have hzero := ((onGrid_value hx).sub hr).eq_zero (by linarith [leastHalf_pos])
      rw [hzero, abs_zero]
      exact mul_nonneg (by rw [unit]; positivity) (abs_nonneg r)
  · exact .inr h

end Trendline.Double
