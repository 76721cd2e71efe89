import Trendline.Proofs.Double.Sums

/-!
# Doubles from a number on

Infinity is above every number.  A product of doubles from two positive numbers
on is a double from almost their product on, whether it overflows or not, and so
a comparison can be decided without knowing which.

* `value_abs`, `value_greatest`, `value_ofRatio_one`: the numbers of sizes,
  choices and counts.
* `bounded_iff`, `Rounds.bounded`: sizes of values and of rounded numbers.
* `AtLeast`: a double is infinity, or a number that is not below a bound.
* `AtLeast.mul`, `AtLeast.abs`, `AtLeast.greatest`: the operations.
* `AtLeast.not_lt_of_value_le`: what is below the bound is not above the double.
-/

namespace Trendline.Double

open Float.Model Float.Model.UnpackedFloat Trendline.Decimal

variable {b c : ℚ} {x y : Float}

/-! ## Values -/

theorem abs_apply (s : Sign) (m : Nat) : |(s.apply m : ℚ)| = m := by
  cases s with
  | positive => exact abs_of_nonneg (Nat.cast_nonneg m)
  | negative =>
    have hneg : ((Sign.negative.apply m : Int) : ℚ) = -m := by simp [Sign.apply]
    rw [hneg, abs_neg, abs_of_nonneg (Nat.cast_nonneg m)]

theorem value_abs (hx : x.isFinite = true) : x.abs.isFinite = true ∧ value x.abs = |value x| := by
  have habs := unpack_abs x
  have hfinite : x.abs.isFinite = x.abs.toModel.unpack.isFinite := rfl
  rw [hfinite, value, value, habs]
  rcases unpack_cases hx with ⟨s, hs⟩ | ⟨s, m, e, hm, hs, -⟩
  · rw [hs]
    exact ⟨rfl, (abs_zero).symm⟩
  · rw [hs, valueOf_finite, abs_mul, abs_apply, abs_of_pos (two_zpow_pos e)]
    exact ⟨rfl, rfl⟩

theorem abs_value_lt (x : Float) (hx : x.isFinite = true) : |value x| < overflow := by
  have hpos := two_zpow_pos 971
  rw [value]
  rcases unpack_cases hx with ⟨s, hs⟩ | ⟨s, m, e, hm, hs, hc⟩
  · rw [hs, valueOf_zero, abs_zero, overflow]
    exact mul_pos (by norm_num) hpos
  · have hm' : (m : ℚ) ≤ 2 ^ 53 - 1 := by
      have := hc.lt
      have h : ((m + 1 : Nat) : ℚ) ≤ (2 ^ 53 : Nat) := by exact_mod_cast this
      push_cast at h
      linarith
    rw [hs, valueOf_finite, abs_mul, abs_apply, abs_of_pos (two_zpow_pos e), overflow]
    calc (m : ℚ) * 2 ^ e ≤ (2 ^ 53 - 1) * 2 ^ e := mul_le_mul_of_nonneg_right hm' (two_zpow_pos e).le
      _ ≤ (2 ^ 53 - 1) * 2 ^ (971 : Int) := mul_le_mul_of_nonneg_left
          (zpow_le_zpow_right₀ (by norm_num) hc.high) (by norm_num)
      _ < (2 ^ 53 - 1 / 2) * 2 ^ (971 : Int) := mul_lt_mul_of_pos_right (by norm_num) hpos

theorem bounded_iff {k : Nat} :
    Bounded k x ↔ x.isFinite = true ∧ |value x| ≤ 2 ^ k := by
  constructor
  · intro h
    have hx := h.isFinite
    refine ⟨hx, ?_⟩
    rw [Bounded] at h
    rw [value]
    cases hu : x.toModel.unpack with
    | zero s =>
      rw [valueOf_zero, abs_zero]
      positivity
    | finite s m e hm =>
      rw [hu] at h
      cases h with
      | finite _ _ _ hb => rwa [valueOf_finite, abs_mul, abs_apply, abs_of_pos (two_zpow_pos e)]
    | _ =>
      rw [hu] at h
      cases h
  · rintro ⟨hx, hb⟩
    rw [value] at hb
    rw [Bounded]
    rcases unpack_cases hx with ⟨s, hs⟩ | ⟨s, m, e, hm, hs, hc⟩
    · rw [hs]
      exact .zero s (by positivity)
    · rw [hs, valueOf_finite, abs_mul, abs_apply, abs_of_pos (two_zpow_pos e)] at hb
      rw [hs]
      exact .finite s hm hc hb

theorem Rounds.bounded {k : Nat} {r : ℚ} (h : Rounds r x) (hr : |r| ≤ 2 ^ k)
    (hk : k + 1 ≤ 1023) : Bounded (k + 1) x := by
  have hone : (1 : ℚ) ≤ 2 ^ k := one_le_pow₀ (by norm_num)
  have hover := @two_pow_lt_overflow k (by omega)
  obtain ⟨hx, herror⟩ := h.error.resolve_right fun h => absurd h.2 (not_le.mpr (hr.trans_lt hover))
  have hmax : max (unit * |r|) leastHalf ≤ 2 ^ k := by
    refine max_le ((mul_le_of_le_one_left (abs_nonneg r) ?_).trans hr) ?_
    · rw [unit]
      norm_num
    · linarith [leastHalf_le]
  refine bounded_iff.mpr ⟨hx, (abs_le_of_near (herror.trans hmax) hr).trans ?_⟩
  rw [pow_succ]
  linarith

theorem isUndefined_of_isFinite (hx : x.isFinite = true) : Scalar.isUndefined x = false := by
  have h := (beq_iff (isNaN_of_isFinite hx) (isNaN_of_isFinite hx)).mpr (.inl rfl)
  show (!(x == x)) = false
  rw [h]
  rfl

theorem value_greatest (hx : x.isFinite = true) (hy : y.isFinite = true) :
    (Scalar.greatest x y).isFinite = true ∧
      value (Scalar.greatest x y) = max (value x) (value y) := by
  rw [Scalar.greatest, isUndefined_of_isFinite hx, if_neg Bool.false_ne_true]
  split
  case isTrue h =>
    exact ⟨hy, (max_eq_right ((lt_iff_value hx hy).mp h).le).symm⟩
  case isFalse h =>
    exact ⟨hx, (max_eq_left (not_lt.mp fun h' => h ((lt_iff_value hx hy).mpr h'))).symm⟩

theorem rounds_ofRatio (num : Nat) {den : Nat} (hden : 0 < den) :
    Rounds (num / den) (ofRatio false num den) := by
  obtain ⟨hbits, hsign⟩ := ofRatio_bits false num den
  have hnonneg : (0 : ℚ) ≤ num / den := by positivity
  exact ⟨⟨num, den, hden, (abs_of_nonneg hnonneg).symm, hbits⟩, fun _ => by
    rw [hsign, decide_eq_false (not_lt.mpr hnonneg)]⟩

/-- Counts with at most 53 digits are doubles. -/
theorem value_ofRatio_one {n : Nat} (hn : 0 < n) (hle : n ≤ 2 ^ 53) :
    (ofRatio false n 1).isFinite = true ∧ value (ofRatio false n 1) = n := by
  obtain ⟨M, E, hc, hvalue⟩ := exists_canonical hn hle
  have hround := rounds_ofRatio n Nat.one_pos
  rw [Nat.cast_one, div_one, ← hvalue] at hround
  rw [← hvalue]
  exact hround.of_roundsTo hc (roundsTo_self hc.pos)

/-! ## Bounds from below -/

/-- A double that is not below a number. -/
inductive AtLeast (b : ℚ) (x : Float) : Prop where
  | infinite (h : x.toModel.unpack = .infinity .positive)
  | finite (hx : x.isFinite = true) (hb : b ≤ value x)

theorem infinite_of_sign (hx : IsInfinite x) (hs : isNegative x = false) :
    x.toModel.unpack = .infinity .positive := by
  rw [unpack_toModel, hx, hs, decode_infinity]
  rfl

/-- Nothing is above infinity. -/
theorem not_lt_of_infinite (hx : x.toModel.unpack = .infinity .positive) : ¬ x < y := by
  rw [lt_iff, hx]
  cases y.toModel.unpack with
  | infinity s => cases s <;> exact nofun
  | _ => exact nofun

theorem not_isNaN_of_infinite (hx : x.toModel.unpack = .infinity .positive) :
    x.isNaN = false := by
  show x.toModel.unpack.isNaN = false
  rw [hx]
  rfl

namespace AtLeast

theorem mono (h : AtLeast b x) (hc : c ≤ b) : AtLeast c x := by
  cases h with
  | infinite h => exact .infinite h
  | finite hx hb => exact .finite hx (hc.trans hb)

theorem not_lt_of_value_le (hx : AtLeast b x) (hy : y.isFinite = true) (h : value y ≤ b) : ¬ x < y := by
  cases hx with
  | infinite hx => exact not_lt_of_infinite hx
  | finite hx hb =>
    rw [lt_iff_value hx hy, not_lt]
    exact h.trans hb

/-- A double is infinity if it is not below the numbers that overflow. -/
theorem infinite_of_overflow (h : AtLeast overflow x) : x.toModel.unpack = .infinity .positive := by
  cases h with
  | infinite h => exact h
  | finite hx hb => exact absurd (hb.trans (le_abs_self _)) (not_le.mpr (abs_value_lt x hx))

theorem of_rounds {r : ℚ} (h : Rounds r x) (hr : 0 < r) :
    AtLeast (r * (1 - unit) - leastHalf) x ∧ AtLeast 0 x := by
  rcases h.error with ⟨hx, herror⟩ | ⟨hx, -⟩
  · refine ⟨.finite hx ?_, .finite hx (h.value_nonneg hr.le hx)⟩
    rw [abs_of_pos hr] at herror
    have hmax : max (unit * r) leastHalf ≤ unit * r + leastHalf :=
      max_le_add_of_nonneg (mul_nonneg unit_pos.le hr.le) leastHalf_pos.le
    linarith [(abs_sub_le_iff.mp herror).2]
  · have hs : isNegative x = false := by
      rw [h.sign hr.ne', decide_eq_false (not_lt.mpr hr.le)]
    exact ⟨.infinite (infinite_of_sign hx hs), .infinite (infinite_of_sign hx hs)⟩

theorem mul_cases (hx : AtLeast b x) (hy : AtLeast c y) (hb : 0 < b) (hc : 0 < c) :
    (x * y).toModel.unpack = .infinity .positive ∨ ∃ r, b * c ≤ r ∧ Rounds r (x * y) := by
  have hmodel : (x * y).toModel =
      Float.Model.pack (UnpackedFloat.mul Format.binary64 x.toModel.unpack y.toModel.unpack) := rfl
  have hpositive : ∀ {z : Float}, z.isFinite = true → 0 < value z →
      ∃ m e h, z.toModel.unpack = .finite .positive m e h := by
    intro z hz h0
    rw [value] at h0
    rcases unpack_cases hz with ⟨s, hs⟩ | ⟨s, m, e, hm, hs, -⟩
    · rw [hs] at h0
      exact absurd h0 (lt_irrefl _)
    · rw [hs, valueOf_finite] at h0
      cases s with
      | positive => exact ⟨m, e, hm, hs⟩
      | negative =>
        have hle : ((Sign.negative.apply m : Int) : ℚ) * 2 ^ e ≤ 0 :=
          mul_nonpos_of_nonpos_of_nonneg (by simp [Sign.apply]) (two_zpow_pos e).le
        exact absurd h0 (not_lt.mpr hle)
  cases hx with
  | infinite hx =>
    left
    apply unpack_of_pack_infinity
    cases hy with
    | infinite hy =>
      rw [hmodel, hx, hy]
      rfl
    | finite hy hcy =>
      obtain ⟨n, f, hn, ht⟩ := hpositive hy (hc.trans_le hcy)
      rw [hmodel, hx, ht]
      rfl
  | finite hx hbx => cases hy with
    | infinite hy =>
      obtain ⟨m, e, hm, hs⟩ := hpositive hx (hb.trans_le hbx)
      left
      apply unpack_of_pack_infinity
      rw [hmodel, hs, hy]
      rfl
    | finite hy hcy =>
      exact .inr ⟨_, mul_le_mul hbx hcy hc.le (hb.le.trans hbx), rounds_mul hx hy⟩

section

variable (hx : AtLeast b x) (hy : AtLeast c y) (hb : 0 < b) (hc : 0 < c)

include hx hy hb hc

/-- A product loses half a unit to rounding, or near zero half of the least double. -/
theorem mul : AtLeast (b * c * (1 - unit) - leastHalf) (x * y) := by
  rcases mul_cases hx hy hb hc with h | ⟨r, hr, hround⟩
  · exact .infinite h
  · refine (of_rounds hround ((mul_pos hb hc).trans_le hr)).1.mono ?_
    have hu : 0 ≤ 1 - unit := by
      rw [unit]
      norm_num
    linarith [mul_le_mul_of_nonneg_right hr hu]

theorem nonneg_mul : AtLeast 0 (x * y) := by
  rcases mul_cases hx hy hb hc with h | ⟨r, hr, hround⟩
  · exact .infinite h
  · exact (of_rounds hround ((mul_pos hb hc).trans_le hr)).2

end

theorem abs_of_infinite (hx : IsInfinite x) : AtLeast b x.abs := by
  obtain ⟨s, hs⟩ := isInfinite_iff.mp hx
  refine .infinite ?_
  rw [unpack_abs, hs]
  rfl

theorem abs (hx : x.isFinite = true) : AtLeast |value x| x.abs :=
  .finite (value_abs hx).1 (value_abs hx).2.ge

theorem greatest (hx : AtLeast b x) (hy : y.isFinite = true) :
    AtLeast (max b (value y)) (Scalar.greatest x y) := by
  cases hx with
  | infinite hx =>
    have hself := (beq_iff (not_isNaN_of_infinite hx) (not_isNaN_of_infinite hx)).mpr (.inl rfl)
    have hdefined : Scalar.isUndefined x = false := by
      show (!(x == x)) = false
      rw [hself]
      rfl
    rw [Scalar.greatest, hdefined, if_neg Bool.false_ne_true, if_neg (not_lt_of_infinite hx)]
    exact .infinite hx
  | finite hx hb =>
    obtain ⟨hfinite, hvalue⟩ := value_greatest hx hy
    exact .finite hfinite (hvalue ▸ max_le_max_right _ hb)

/-- Numbers of one size are not added up to more than a double that has room for them all. -/
theorem not_lt_foldl {t : ℚ} {z : Float} (hx : AtLeast t x) (hz : z.isFinite = true)
    (hz0 : value z = 0) (hb : 0 ≤ b) {l : List Float}
    (hl : ∀ a ∈ l, a.isFinite = true ∧ |value a| ≤ b) (hlen : l.length * unit ≤ 1)
    (ht : (l.length + unit * growth l.length) * b ≤ t) :
    ¬ x < l.foldl (fun total a => total + a) z := by
  rcases abs_foldl_le hz hz0 hb l hl hlen with ⟨hs, hle⟩ | ⟨-, hover⟩
  · exact hx.not_lt_of_value_le hs ((le_abs_self _).trans (hle.trans ht))
  · exact not_lt_of_infinite (hx.mono (hover.trans ht)).infinite_of_overflow

end AtLeast

/-! ## Bounds from both sides -/

/-- A double that is a number of an interval. -/
structure Between (a b : ℚ) (x : Float) : Prop where
  isFinite : x.isFinite = true
  low : a ≤ value x
  high : value x ≤ b

namespace Between

variable {a d : ℚ}

theorem mono (h : Between a b x) (hc : c ≤ a) (hd : b ≤ d) : Between c d x :=
  ⟨h.isFinite, hc.trans h.low, h.high.trans hd⟩

theorem of_rounds {r : ℚ} (h : Rounds r x) (ha : a ≤ r) (hb : r ≤ b) (hlow : leastFull ≤ a)
    (hhigh : b < overflow) : Between (a * (1 - unit)) (b * (1 + unit)) x := by
  have hpos := leastFull_pos
  have hr : |r| = r := abs_of_nonneg (by linarith)
  obtain ⟨hx, herror⟩ := h.near (by rw [hr]; linarith) (by rw [hr]; linarith)
  rw [hr, abs_sub_le_iff] at herror
  have hu : 0 ≤ 1 - unit := by
    rw [unit]
    norm_num
  have hu' : 0 ≤ 1 + unit := add_nonneg zero_le_one unit_pos.le
  refine ⟨hx, ?_, ?_⟩
  · linarith [herror.2, mul_le_mul_of_nonneg_right ha hu]
  · linarith [herror.1, mul_le_mul_of_nonneg_right hb hu']

theorem mul (hx : Between a b x) (hy : Between c d y) (ha : 0 ≤ a) (hc : 0 ≤ c)
    (hlow : leastFull ≤ a * c) (hhigh : b * d < overflow) :
    Between (a * c * (1 - unit)) (b * d * (1 + unit)) (x * y) := by
  refine of_rounds (rounds_mul hx.isFinite hy.isFinite) ?_ ?_ hlow hhigh
  · exact mul_le_mul hx.low hy.low hc (ha.trans hx.low)
  · exact mul_le_mul hx.high hy.high (hc.trans hy.low) (ha.trans (hx.low.trans hx.high))

end Between

end Trendline.Double
