import Trendline.Proofs.LeastSquares.RoundOff

/-!
# A line without overflow

The slope is a quotient of two rounded sums, and a small divisor makes it large.
But the divisor is no smaller than the squares that it is added up from, and the
dividend is added up from products with the same deviations.  So for coordinates
up to `2 ^ 200` the slope stays below `2 ^ 770`, however small the deviations are,
and neither coefficient leaves the numbers.

* `bounded_mean`: the size of a mean.
* `abs_le_of_square`: a deviation by the square that it is rounded to.
* `isFinite_closedForm`: the coefficients of a line are numbers.
-/

namespace Trendline

open Double

namespace LeastSquares

/-! ## Sums of bounded numbers -/

theorem unit_mul_growth_le_of_short {n : Nat} (hn : n ≤ 2 ^ 24) : unit * growth n ≤ n / 2 ^ 28 := by
  have hmul := mul_le_mul_of_nonneg_left (growth_le hn) unit_pos.le
  have hn0 : (0 : ℚ) ≤ n := Nat.cast_nonneg n
  rw [unit] at *
  norm_num at *
  linarith

theorem size_lt_overflow {n k : Nat} (hn : n ≤ 2 ^ 24) (hk : k + 25 ≤ 1023) :
    (n + unit * growth n) * 2 ^ k < overflow := by
  have hn' : (n : ℚ) ≤ 2 ^ 24 := by exact_mod_cast hn
  have hgrowth := unit_mul_growth_le_of_short hn
  refine lt_of_le_of_lt ?_ (two_pow_lt_overflow hk)
  rw [pow_add, mul_comm]
  exact mul_le_mul_of_nonneg_left (by linarith) (by positivity)

theorem length_mul_unit_le {n : Nat} (hn : n ≤ 2 ^ 24) : n * unit ≤ 1 := by
  have hn' : (n : ℚ) ≤ 2 ^ 24 := by exact_mod_cast hn
  rw [unit]
  linarith

variable {k : Nat}

theorem bounded_mean {xs : List Float} (hxs : ∀ a ∈ xs, Bounded k a) (hpos : 0 < xs.length)
    (hn : xs.length ≤ 2 ^ 24) (hk : k + 25 ≤ 1023) : Bounded (k + 1) (mean xs.length xs) := by
  have hb : (1 : ℚ) ≤ 2 ^ k := one_le_pow₀ (by norm_num)
  have hpos' : (0 : ℚ) < xs.length := by exact_mod_cast hpos
  have hall := fun a ha => bounded_iff.mp (hxs a ha)
  obtain ⟨hm, herror⟩ := (mean_error (by linarith) hall hpos (hn.trans (by decide))).resolve_right
    fun h => absurd h.2 (not_le.mpr (size_lt_overflow hn hk))
  have hexact : |(xs.map value).sum / xs.length| ≤ 2 ^ k := by
    have h := @abs_sum_le (2 ^ k) (xs.map value) (by simpa using fun a ha => (hall a ha).2)
    rw [List.length_map] at h
    rwa [abs_div, abs_of_pos hpos', div_le_iff₀ hpos', mul_comm]
  have hgrowth : unit * (growth xs.length / xs.length) ≤ 1 / 2 ^ 28 := by
    rw [← mul_div_assoc, div_le_iff₀ hpos']
    linarith [unit_mul_growth_le_of_short hn]
  have hscaled := mul_le_mul_of_nonneg_right hgrowth (by linarith : (0 : ℚ) ≤ 2 ^ k)
  have hhalf := leastHalf_le
  refine bounded_iff.mpr ⟨hm, (abs_le_of_near herror hexact).trans ?_⟩
  rw [pow_succ]
  rw [unit] at *
  linarith

theorem isFinite_foldl {l : List Float} (hl : ∀ a ∈ l, Bounded k a) (hn : l.length ≤ 2 ^ 24)
    (hk : k + 25 ≤ 1023) : (l.foldl (fun total a => total + a) 0).isFinite = true := by
  obtain ⟨hzero, hzero'⟩ := value_zero
  have h := sumsTo_foldl hzero hzero' (by positivity) l (fun a ha => bounded_iff.mp (hl a ha))
    (length_mul_unit_le hn)
  exact (h.resolve_right fun h => absurd h.2 (not_le.mpr (size_lt_overflow hn hk))).1

/-! ## Deviations and their squares -/

theorem onGrid_sum {l : List Float} (hl : ∀ a ∈ l, a.isFinite = true) :
    OnGrid (l.map value).sum := by
  induction l with
  | nil => exact ⟨0, by simp⟩
  | cons a rest ih =>
    rw [List.map_cons, List.sum_cons]
    exact (onGrid_value (hl a (by simp))).add (ih fun a' h => hl a' (by simp [h]))

/-- A deviation is not much larger than its square, with the least double as the unit. -/
theorem abs_le_of_square {d : Float} {q : ℚ} (hd : d.isFinite = true)
    (hsq : (d * d).isFinite = true) (hle : value (d * d) ≤ q) (hq : 2 * leastHalf ≤ q) :
    |value d| ≤ 2 ^ (538 : Int) * q := by
  have hpos := leastHalf_pos
  have hround := rounds_mul hd hd
  rw [← sq] at hround
  have hsquare : value d ^ 2 ≤ 2 * q := by
    obtain ⟨-, herror⟩ := hround.error.resolve_right fun h => h.1.not_isFinite hsq
    rw [abs_of_nonneg (sq_nonneg (value d))] at herror
    have hdiff := (abs_sub_le_iff.mp herror).2
    rcases max_choice (unit * value d ^ 2) leastHalf with h | h
    · rw [h, unit] at hdiff
      linarith
    · rw [h] at hdiff
      linarith
  have hunit : 2 * q ≤ (2 ^ (538 : Int) * q) ^ 2 := by
    have hpow : (2 : ℚ) ^ (538 : Int) * 2 ^ (538 : Int) * (2 * leastHalf) = 4 := by
      rw [leastHalf, ← zpow_add₀ (by norm_num), mul_left_comm, ← zpow_add₀ (by norm_num)]
      norm_num
    have hmul := mul_le_mul_of_nonneg_left hq
      (mul_pos (two_zpow_pos 538) (two_zpow_pos 538)).le
    rw [hpow] at hmul
    calc 2 * q ≤ 4 * q := by linarith
      _ ≤ 2 ^ (538 : Int) * 2 ^ (538 : Int) * q * q :=
          mul_le_mul_of_nonneg_right hmul (by linarith)
      _ = (2 ^ (538 : Int) * q) ^ 2 := by ring
  have h0 : 0 ≤ 2 ^ (538 : Int) * q := mul_nonneg (two_zpow_pos 538).le (by linarith)
  exact abs_le_of_sq_le_sq (hsquare.trans hunit) h0

/-! ## The coefficients -/

section

variable {u v : List Float} {c d : Float}

/-- A sum of squares that is not zero is at least half of the exact sum of what they are rounded to,
and that is at least the least double. -/
theorem spread_lower {l : List Float} (hl : ∀ a ∈ l, a.isFinite = true ∧ 0 ≤ value a)
    (hn : l.length ≤ 2 ^ 24)
    (hs : (l.foldl (fun total a => total + a) 0).isFinite = true)
    (hpos : 0 < value (l.foldl (fun total a => total + a) 0)) :
    2 * leastHalf ≤ (l.map value).sum ∧
      (l.map value).sum / 2 ≤ value (l.foldl (fun total a => total + a) 0) := by
  obtain ⟨hzero, hzero'⟩ := value_zero
  have hnonneg : ∀ a ∈ l.map value, 0 ≤ a := by simpa using fun a ha => (hl a ha).2
  have hsum0 : 0 ≤ (l.map value).sum := List.sum_nonneg hnonneg
  have hle : ∀ a ∈ l, |value a| ≤ (l.map value).sum := by
    intro a ha
    rw [abs_of_nonneg (hl a ha).2]
    exact List.single_le_sum hnonneg _ (List.mem_map_of_mem ha)
  have hsums := sumsTo_foldl hzero hzero' hsum0 l (fun a ha => ⟨(hl a ha).1, hle a ha⟩)
    (length_mul_unit_le hn)
  obtain ⟨-, herror⟩ := hsums.resolve_right fun h => h.1.not_isFinite hs
  have hn' : (l.length : ℚ) ≤ 2 ^ 24 := by exact_mod_cast hn
  have hgrowth : unit * growth l.length ≤ 1 / 2 := by
    have := unit_mul_growth_le_of_short hn
    linarith
  have hscaled := mul_le_mul_of_nonneg_right hgrowth hsum0
  have hnear := abs_sub_le_iff.mp herror
  constructor
  · by_contra hsmall
    have hzero := (onGrid_sum fun a ha => (hl a ha).1).eq_zero
      (by rw [abs_of_nonneg hsum0]; exact not_le.mp hsmall)
    rw [hzero] at hnear
    linarith [hnear.1]
  · linarith [hnear.2]

/-- A spread above the tolerance is a positive number. -/
theorem spread_pos_of_hasSpread (hpos : 0 < u.length) (hn : u.length ≤ 2 ^ 24)
    (hmean : (mean u.length u).isFinite = true)
    (hs : (spread (mean u.length u) (u.zip v)).isFinite = true) (h : HasSpread u v) :
    0 < value (spread (mean u.length u) (u.zip v)) := by
  by_contra hle
  have hfull := mul_le_mul_of_nonneg_left
    (le_max_right |value (mean u.length u)| leastFull) part_pos.le
  have hscale := atLeast_roundOff (AtLeast.abs hmean)
  exact (nonneg_tolerance hpos (hn.trans (by decide)) hfull hscale).not_lt_of_value_le hs
    (not_lt.mp hle) h

/-- A product with a deviation is not much larger than the square of the deviation. -/
theorem abs_product_le {a b : Float} {q : ℚ} (ha : a.isFinite = true) (hb : Bounded 202 b)
    (hle : |value a| ≤ 2 ^ (538 : Int) * q) (hq : 2 * leastHalf ≤ q)
    (hab : (a * b).isFinite = true) : |value (a * b)| ≤ 2 ^ (742 : Int) * q := by
  obtain ⟨hbf, hbvalue⟩ := bounded_iff.mp hb
  have hpos := leastHalf_pos
  obtain ⟨-, herror⟩ := (rounds_mul ha hbf).error.resolve_right fun h => h.1.not_isFinite hab
  have hexact : |value a * value b| ≤ 2 ^ (740 : Int) * q := by
    rw [abs_mul]
    have h0 : 0 ≤ 2 ^ (538 : Int) * q := mul_nonneg (two_zpow_pos 538).le (by linarith)
    refine (mul_le_mul hle hbvalue (abs_nonneg _) h0).trans (le_of_eq ?_)
    rw [← zpow_natCast, mul_right_comm, ← zpow_add₀ (by norm_num)]
    norm_num
  have hone : (1 : ℚ) ≤ 2 ^ (740 : Int) := one_le_zpow₀ (by norm_num) (by norm_num)
  have hq1 : q ≤ 2 ^ (740 : Int) * q := le_mul_of_one_le_left (by linarith) hone
  have hmax : max (unit * |value a * value b|) leastHalf ≤ 2 ^ (740 : Int) * q := by
    refine max_le ?_ ((by linarith : leastHalf ≤ q).trans hq1)
    refine (mul_le_of_le_one_left (abs_nonneg _) ?_).trans hexact
    rw [unit]
    norm_num
  refine (abs_le_of_near (herror.trans hmax) hexact).trans ?_
  rw [show (742 : Int) = 740 + 2 by norm_num, zpow_add₀ (by norm_num)]
  generalize (2 : ℚ) ^ (740 : Int) = w at *
  norm_num
  linarith

theorem bounded_deviation {a c : Float} (ha : Bounded 200 a) (hc : Bounded 201 c) :
    Bounded 202 (a - c) :=
  (ha.mono (by decide)).sub hc (by decide)

section

variable {pairs : List (Float × Float)}
  (hdu : ∀ p ∈ pairs, Bounded 202 (p.1 - c)) (hdv : ∀ p ∈ pairs, Bounded 202 (p.2 - d))
  (hn : pairs.length ≤ 2 ^ 24)

include hdu hn

/-- The squares of the deviations add up to a number, of which each is a part. -/
theorem squares_le (hpos : (spread c pairs).isFinite = true → 0 < value (spread c pairs)) :
    (spread c pairs).isFinite = true ∧
      ∃ q, 2 * leastHalf ≤ q ∧ q / 2 ≤ value (spread c pairs) ∧
        ∀ p ∈ pairs, |value (p.1 - c)| ≤ 2 ^ (538 : Int) * q := by
  have hsquares : ∀ a ∈ pairs.map fun p => (p.1 - c) * (p.1 - c), Bounded 404 a ∧ 0 ≤ value a := by
    intro a ha
    obtain ⟨p, hp, rfl⟩ := List.mem_map.mp ha
    have hd := hdu p hp
    have hq := hd.mul hd (by decide)
    exact ⟨hq, (rounds_mul hd.isFinite hd.isFinite).value_nonneg (mul_self_nonneg _) hq.isFinite⟩
  have hnonneg : ∀ a ∈ (pairs.map fun p => (p.1 - c) * (p.1 - c)).map value, 0 ≤ a := by
    intro a ha
    obtain ⟨x, hx, rfl⟩ := List.mem_map.mp ha
    exact (hsquares x hx).2
  have hlen : (pairs.map fun p => (p.1 - c) * (p.1 - c)).length ≤ 2 ^ 24 := by
    rwa [List.length_map]
  rw [spread_eq_foldl] at hpos ⊢
  have hs := isFinite_foldl (fun a ha => (hsquares a ha).1) hlen (by decide)
  obtain ⟨hq, hlower⟩ := spread_lower (fun a ha => ⟨(hsquares a ha).1.isFinite, (hsquares a ha).2⟩)
    hlen hs (hpos hs)
  refine ⟨hs, _, hq, hlower, fun p hp => ?_⟩
  have hmem := List.mem_map_of_mem (f := fun p : Float × Float => (p.1 - c) * (p.1 - c)) hp
  refine abs_le_of_square (hdu p hp).isFinite (hsquares _ hmem).1.isFinite ?_ hq
  exact List.single_le_sum hnonneg _ (List.mem_map_of_mem hmem)

include hdv

theorem abs_covariation_le {q : ℚ} (hq : 2 * leastHalf ≤ q)
    (hle : ∀ p ∈ pairs, |value (p.1 - c)| ≤ 2 ^ (538 : Int) * q) :
    (covariation c d pairs).isFinite = true ∧
      |value (covariation c d pairs)| ≤ 2 ^ (767 : Int) * q := by
  have hpos := leastHalf_pos
  obtain ⟨hzero, hzero'⟩ := value_zero
  have hproducts : ∀ a ∈ pairs.map fun p => (p.1 - c) * (p.2 - d),
      Bounded 404 a ∧ |value a| ≤ 2 ^ (742 : Int) * q := by
    intro a ha
    obtain ⟨p, hp, rfl⟩ := List.mem_map.mp ha
    have hb := (hdu p hp).mul (hdv p hp) (by decide)
    exact ⟨hb, abs_product_le (hdu p hp).isFinite (hdv p hp) (hle p hp) hq hb.isFinite⟩
  have hlen : (pairs.map fun p => (p.1 - c) * (p.2 - d)).length ≤ 2 ^ 24 := by
    rwa [List.length_map]
  rw [covariation_eq_foldl]
  have hs := isFinite_foldl (fun a ha => (hproducts a ha).1) hlen (by decide)
  have hq0 : 0 ≤ 2 ^ (742 : Int) * q := mul_nonneg (two_zpow_pos 742).le (by linarith)
  have hsum := abs_foldl_le hzero hzero' hq0 _
    (fun a ha => ⟨(hproducts a ha).1.isFinite, (hproducts a ha).2⟩) (length_mul_unit_le hlen)
  refine ⟨hs, (hsum.resolve_right fun h => h.1.not_isFinite hs).2.trans ?_⟩
  have hn' : (pairs.length : ℚ) ≤ 2 ^ 24 := by exact_mod_cast hn
  have hgrowth := unit_mul_growth_le_of_short hn
  have hpow : (2 : ℚ) ^ (767 : Int) = 2 ^ (25 : Int) * 2 ^ (742 : Int) := by
    rw [← zpow_add₀ (by norm_num)]
    norm_num
  rw [List.length_map, hpow, mul_assoc]
  exact mul_le_mul_of_nonneg_right (by norm_num; linarith) hq0

end

/-- **The slope is bounded**, whatever the deviations are. -/
theorem bounded_slope (hlen : u.length = v.length) (hpos : 0 < u.length)
    (hn : u.length ≤ 2 ^ 24) (hu : ∀ a ∈ u, Bounded 200 a) (hv : ∀ a ∈ v, Bounded 200 a)
    (h : HasSpread u v) : Bounded 769 (closedForm u v).slope := by
  have hum := bounded_mean hu hpos hn (by decide)
  have hvm := bounded_mean hv (hlen ▸ hpos) (hlen ▸ hn) (by decide)
  rw [← hlen] at hvm
  have hzip : (u.zip v).length ≤ 2 ^ 24 := by
    rw [List.length_zip]
    omega
  have hdu : ∀ p ∈ u.zip v, Bounded 202 (p.1 - mean u.length u) := fun p hp =>
    bounded_deviation (hu _ (List.of_mem_zip hp).1) hum
  have hdv : ∀ p ∈ u.zip v, Bounded 202 (p.2 - mean u.length v) := fun p hp =>
    bounded_deviation (hv _ (List.of_mem_zip hp).2) hvm
  obtain ⟨hs, q, hq, hlower, hle⟩ := squares_le hdu hzip
    fun hs => spread_pos_of_hasSpread hpos hn hum.isFinite hs h
  obtain ⟨hc, hcle⟩ := abs_covariation_le hdu hdv hzip hq hle
  have hleast := leastHalf_pos
  have hs0 : 0 < value (spread (mean u.length u) (u.zip v)) := by linarith
  refine (rounds_div hc hs hs0.ne').bounded ?_ (by decide)
  have hpow : (2 : ℚ) ^ (768 : Nat) = 2 ^ (767 : Int) * 2 := by
    rw [← zpow_natCast, ← zpow_add_one₀ (by norm_num)]
    rfl
  rw [abs_div, abs_of_pos hs0, div_le_iff₀ hs0, hpow, mul_assoc]
  exact hcle.trans (mul_le_mul_of_nonneg_left (by linarith) (two_zpow_pos 767).le)

/-- **The coefficients of a line are numbers**, if the coordinates are not too large or too many. -/
theorem isFinite_closedForm (hlen : u.length = v.length) (hpos : 0 < u.length)
    (hn : u.length ≤ 2 ^ 24) (hu : ∀ a ∈ u, Bounded 200 a) (hv : ∀ a ∈ v, Bounded 200 a)
    (h : HasSpread u v) :
    (closedForm u v).intercept.isFinite = true ∧ (closedForm u v).slope.isFinite = true := by
  have hslope := bounded_slope hlen hpos hn hu hv h
  have hum := bounded_mean hu hpos hn (by decide)
  have hvm := bounded_mean hv (hlen ▸ hpos) (hlen ▸ hn) (by decide)
  rw [← hlen] at hvm
  have hproduct := hslope.mul hum (by decide)
  exact ⟨((hvm.mono (by decide)).sub hproduct (by decide)).isFinite, hslope.isFinite⟩

end

end LeastSquares

end Trendline
