import Mathlib.Tactic.Linarith
import Trendline.Proofs.Double.Bounded
import Trendline.Proofs.Double.Error

/-!
# The error of a sum

Numbers are added from left to right, with one rounding for each of them.  The
error of one addition is relative to the sum so far, so with numbers of one size
the error of the whole sum grows with the square of how many there are.  A sum
that leaves the numbers does not come back.

* `isInfinite_iff`, `IsInfinite.add`: an infinity stays one under additions.
* `growth`: the error of a sum, in units of its largest number.
* `SumsTo.add`, `sumsTo_foldl`: one addition, and a whole sum.
-/

namespace Trendline.Double

open Float.Model Float.Model.UnpackedFloat Trendline.Decimal

/-! ## Infinities -/

theorem isInfinite_iff {x : Float} : IsInfinite x ↔ ∃ s, x.toModel.unpack = .infinity s := by
  constructor
  · intro h
    exact ⟨signOf (isNegative x), by rw [unpack_toModel, h, decode_infinity]⟩
  · rintro ⟨s, hs⟩
    apply magnitudeBits_of_infinite
    · show x.toModel.unpack.isNaN = false
      rw [hs]
      rfl
    · show x.toModel.unpack.isFinite = false
      rw [hs]
      rfl

theorem unpack_of_pack_infinity {x : Float} {s : Sign}
    (hx : x.toModel = Float.Model.pack (.infinity s)) : x.toModel.unpack = .infinity s := by
  cases s with
  | positive =>
    obtain ⟨hbits, hsign⟩ := @toBits_of_toModel x false infinityBits le_rfl hx
    rw [unpack_toModel, hbits, hsign, decode_infinity]
    rfl
  | negative =>
    obtain ⟨hbits, hsign⟩ := @toBits_of_toModel x true infinityBits le_rfl hx
    rw [unpack_toModel, hbits, hsign, decode_infinity]
    rfl

theorem IsInfinite.not_isFinite {x : Float} (h : IsInfinite x) : ¬ x.isFinite = true := by
  rw [isFinite_iff, h]
  exact lt_irrefl _

theorem IsInfinite.add {x y : Float} (hx : IsInfinite x) (hy : y.isFinite = true) :
    IsInfinite (x + y) := by
  obtain ⟨s, hs⟩ := isInfinite_iff.mp hx
  refine isInfinite_iff.mpr ⟨s, unpack_of_pack_infinity ?_⟩
  show Float.Model.pack (UnpackedFloat.add Format.binary64 x.toModel.unpack y.toModel.unpack) = _
  rw [hs]
  rcases unpack_cases hy with ⟨t, ht⟩ | ⟨t, n, f, hn, ht, -⟩
  · rw [ht]
    rfl
  · rw [ht]
    rfl

theorem IsInfinite.div {x y : Float} (hx : IsInfinite x) (hy : y.isFinite = true) :
    IsInfinite (x / y) := by
  obtain ⟨s, hs⟩ := isInfinite_iff.mp hx
  have hmodel : (x / y).toModel =
      Float.Model.pack (UnpackedFloat.div Format.binary64 x.toModel.unpack y.toModel.unpack) := rfl
  rw [hs] at hmodel
  rcases unpack_cases hy with ⟨t, ht⟩ | ⟨t, n, f, hn, ht, -⟩
  · rw [ht] at hmodel
    exact isInfinite_iff.mpr ⟨_, unpack_of_pack_infinity hmodel⟩
  · rw [ht] at hmodel
    exact isInfinite_iff.mpr ⟨_, unpack_of_pack_infinity hmodel⟩

/-! ## Sums -/

theorem unit_pos : 0 < unit := by
  rw [unit]
  positivity

/-- The error of a sum of so many numbers, in half units of the largest of them. -/
def growth (k : Nat) : ℚ :=
  k * (k + 1) / 2 * (1 + k * unit)

theorem growth_nonneg (k : Nat) : 0 ≤ growth k := by
  have := unit_pos
  rw [growth]
  positivity

/-- One more number adds its own rounding to the error that is there. -/
theorem growth_succ {k : Nat} (hk : k * unit ≤ 1) :
    growth k * (1 + unit) + (k + 1) ≤ growth (k + 1) := by
  have hu := unit_pos
  have hk0 : (0 : ℚ) ≤ k := Nat.cast_nonneg k
  have hsquare : (k : ℚ) * (k + 1) / 2 * (k * unit) ≤ k * (k + 1) / 2 :=
    mul_le_of_le_one_right (by positivity) hk
  have hrest : (k : ℚ) * (k + 1) / 2 * (k * unit) * unit ≤ (k + 1) * (k + 1) * unit := by
    refine mul_le_mul_of_nonneg_right (hsquare.trans ?_) hu.le
    nlinarith
  rw [growth, growth]
  push_cast
  linarith [hrest]

theorem growth_le_succ {k : Nat} (hk : k * unit ≤ 1) : growth k ≤ growth (k + 1) := by
  have hu := unit_pos
  have hk0 : (0 : ℚ) ≤ k := Nat.cast_nonneg k
  have h := growth_succ hk
  have := mul_nonneg (growth_nonneg k) hu.le
  linarith

theorem growth_le {n m : Nat} (h : n ≤ m) : growth n ≤ n * ((m + 1) / 2 * (1 + m * unit)) := by
  have hu := unit_pos
  have h' : (n : ℚ) ≤ m := by exact_mod_cast h
  have hle : ((n : ℚ) + 1) / 2 * (1 + n * unit) ≤ (m + 1) / 2 * (1 + m * unit) := by gcongr
  have hmul := mul_le_mul_of_nonneg_left hle (Nat.cast_nonneg n)
  rw [growth]
  linarith

theorem abs_sum_le {b : ℚ} : ∀ {l : List ℚ}, (∀ a ∈ l, |a| ≤ b) → |l.sum| ≤ l.length * b := by
  intro l
  induction l with
  | nil => simp
  | cons a rest ih =>
    intro h
    rw [List.sum_cons, List.length_cons]
    push_cast
    have hrest := ih fun a' ha' => h a' (List.mem_cons_of_mem a ha')
    linarith [abs_add_le a rest.sum, h a List.mem_cons_self]

/-- A sum of so many numbers is near to the exact one, or it is infinite because it is too large. -/
def SumsTo (b exact : ℚ) (k : Nat) (s : Float) : Prop :=
  s.isFinite = true ∧ |value s - exact| ≤ unit * growth k * b ∨
    IsInfinite s ∧ overflow ≤ (k + unit * growth k) * b

section

variable {b exact : ℚ}

theorem SumsTo.add {k : Nat} {s a : Float} (h : SumsTo b exact k s) (hexact : |exact| ≤ k * b)
    (ha : a.isFinite = true) (hab : |value a| ≤ b) (hk : k * unit ≤ 1) :
    SumsTo b (exact + value a) (k + 1) (s + a) := by
  have hu := unit_pos
  have hb : 0 ≤ b := (abs_nonneg _).trans hab
  have hstep := mul_le_mul_of_nonneg_left (mul_le_mul_of_nonneg_right (growth_succ hk) hb) hu.le
  have hmono := mul_le_mul_of_nonneg_left (mul_le_mul_of_nonneg_right (growth_le_succ hk) hb) hu.le
  rw [SumsTo]
  push_cast
  rcases h with ⟨hs, herror⟩ | ⟨hs, hover⟩
  · have hsize : |value s + value a| ≤ (k + 1) * b + unit * growth k * b := by
      have hsplit : value s + value a = value s - exact + exact + value a := by ring
      rw [hsplit]
      refine (abs_add_three _ _ _).trans ?_
      linarith
    rcases (rounds_add hs ha).error_of_onGrid ((onGrid_value hs).add (onGrid_value ha)) with
      ⟨hf, hnear⟩ | ⟨hinf, hle⟩
    · refine .inl ⟨hf, ?_⟩
      have hsplit : value (s + a) - (exact + value a) =
          value (s + a) - (value s + value a) + (value s - exact) := by ring
      have hround := mul_le_mul_of_nonneg_left hsize hu.le
      rw [hsplit]
      refine (abs_add_le _ _).trans ?_
      linarith
    · refine .inr ⟨hinf, hle.trans (hsize.trans ?_)⟩
      linarith
  · refine .inr ⟨hs.add ha, hover.trans ?_⟩
    linarith

/-- **A sum of numbers of one size** is as near to the exact one as the growth of its error allows. -/
theorem sumsTo_foldl {z : Float} (hz : z.isFinite = true) (hz0 : value z = 0) (hb : 0 ≤ b)
    (l : List Float) (hl : ∀ a ∈ l, a.isFinite = true ∧ |value a| ≤ b)
    (hlen : l.length * unit ≤ 1) :
    SumsTo b (l.map value).sum l.length (l.foldl (fun total a => total + a) z) := by
  induction l using List.reverseRecOn with
  | nil =>
    refine .inl ⟨hz, ?_⟩
    show |value z - 0| ≤ _
    rw [hz0, sub_zero, abs_zero]
    exact mul_nonneg (mul_nonneg unit_pos.le (growth_nonneg 0)) hb
  | append_singleton l a ih =>
    obtain ⟨ha, hab⟩ := hl a (by simp)
    have hl' : ∀ a ∈ l, a.isFinite = true ∧ |value a| ≤ b := fun a' h => hl a' (by simp [h])
    have hlen' : l.length * unit ≤ 1 := by
      refine le_trans (mul_le_mul_of_nonneg_right ?_ unit_pos.le) hlen
      exact_mod_cast (by simp : l.length ≤ (l ++ [a]).length)
    have hexact : |(l.map value).sum| ≤ l.length * b := by
      have h := @abs_sum_le b (l.map value) (by simpa using fun a' h => (hl' a' h).2)
      rwa [List.length_map] at h
    rw [List.foldl_append, List.map_append, List.sum_append, List.length_append]
    show SumsTo b ((l.map value).sum + (value a + 0)) (l.length + 1) (l.foldl _ z + a)
    rw [add_zero]
    exact (ih hl' hlen').add hexact ha hab hlen'

/-- A sum has a size, or it is infinite because that is too large. -/
theorem abs_foldl_le {z : Float} (hz : z.isFinite = true) (hz0 : value z = 0) (hb : 0 ≤ b)
    (l : List Float) (hl : ∀ a ∈ l, a.isFinite = true ∧ |value a| ≤ b)
    (hlen : l.length * unit ≤ 1) :
    let s := l.foldl (fun total a => total + a) z
    s.isFinite = true ∧ |value s| ≤ (l.length + unit * growth l.length) * b ∨
      IsInfinite s ∧ overflow ≤ (l.length + unit * growth l.length) * b := by
  rcases sumsTo_foldl hz hz0 hb l hl hlen with ⟨hs, herror⟩ | h
  · have hexact := @abs_sum_le b (l.map value) (by simpa using fun a h => (hl a h).2)
    rw [List.length_map] at hexact
    exact .inl ⟨hs, (abs_le_of_near herror hexact).trans (by linarith)⟩
  · exact .inr h

end

end Trendline.Double
