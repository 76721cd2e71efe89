import Mathlib.Data.String.Basic
import Trendline.Proofs.Decimal.Characters
import Trendline.Proofs.Double.Error

/-!
# The lengths of numbers with a fixed count of places

* `roundDiv_toEven_lt_iff`: when a quotient is rounded to less than an even number.
* `length_fixed`: how long a finite double is with so many places.
* `utf8ByteSize_fixed`: each of its characters has one byte.
-/

namespace Trendline.Decimal

open Trendline.Double

/-! ## Rounding -/

/-- Half a unit below an even number a quotient is rounded to this number. -/
theorem roundDiv_toEven_lt_iff {num den n : Nat} (hden : 0 < den) (hn : n % 2 = 0) :
    roundDiv .toEven num den < n ↔ (num / den : ℚ) + 1 / 2 < n := by
  have hd : (0 : ℚ) < den := by exact_mod_cast hden
  have hreal : (num / den : ℚ) + 1 / 2 < n ↔ 2 * num + den < 2 * (n * den) := by
    rw [← lt_sub_iff_add_lt, div_lt_iff₀ hd, ← Nat.cast_lt (α := ℚ)]
    push_cast
    constructor <;> intro h <;> linarith
  rw [hreal]
  have hsplit : num = num / den * den + num % den := (Nat.div_add_mod' num den).symm
  have hrem : num % den < den := Nat.mod_lt _ hden
  unfold roundDiv
  dsimp only
  generalize num / den = q at *
  generalize num % den = r at *
  subst hsplit
  -- the quotient is two or more below `n`, or one below it and then odd, or not below it
  rcases Nat.lt_trichotomy (q + 1) n with hlt | rfl | hgt
  · have hmul : (q + 2) * den ≤ n * den := Nat.mul_le_mul_right den hlt
    rw [Nat.add_mul] at hmul
    split
    · omega
    · split <;> omega
  · rw [Nat.add_mul]
    split
    · omega
    · split <;> omega
  · have hmul : n * den ≤ q * den := Nat.mul_le_mul_right den (Nat.le_of_lt_succ hgt)
    split
    · omega
    · split <;> omega

/-- The size of a finite double as the quotient that is rounded. -/
theorem abs_value_eq_ratio {x : Float} (hx : x.isFinite = true) :
    |value x| = (ratio (magnitude x).1 (magnitude x).2).1 /
      (ratio (magnitude x).1 (magnitude x).2).2 := by
  have habs : |value x| = patternValue (magnitudeBits x) := by
    rw [value_eq hx]
    split
    · rw [abs_neg, abs_of_nonneg (patternValue_nonneg _)]
    · exact abs_of_nonneg (patternValue_nonneg _)
  rw [habs, ratio_div]
  rfl

variable {x : Float} (hx : x.isFinite = true)

include hx

theorem unitsOf_lt_iff (places : Nat) {n : Nat} (hn : n % 2 = 0) :
    unitsOf places x < n ↔ |value x| * 10 ^ places + 1 / 2 < n := by
  rw [unitsOf, abs_value_eq_ratio hx]
  dsimp only
  rw [roundDiv_toEven_lt_iff (ratio_snd_pos _ _) hn, Nat.pow_eq]
  push_cast
  rw [mul_div_right_comm]

theorem unitsOf_le (places : Nat) {n : Nat} (h : |value x| * 10 ^ places ≤ n) :
    unitsOf places x ≤ n := by
  have hpos := ratio_snd_pos (magnitude x).1 (magnitude x).2
  have hd : (0 : ℚ) < (ratio (magnitude x).1 (magnitude x).2).2 := by exact_mod_cast hpos
  rw [abs_value_eq_ratio hx, div_mul_eq_mul_div, div_le_iff₀ hd] at h
  rw [unitsOf]
  dsimp only
  apply roundDiv_le hpos
  rw [Nat.pow_eq]
  exact_mod_cast h

omit hx

/-! ## Lengths -/

theorem length_unitsText_zero (units : Nat) : (unitsText 0 units).length = digitCount units := by
  rw [unitsText, if_pos rfl, Nat.pow_eq, Nat.pow_zero, Nat.div_one]
  rfl

theorem digitCount_le_iff {n k : Nat} (hk : 0 < k) : digitCount n ≤ k ↔ n < 10 ^ k :=
  Nat.length_toDigits_le_iff (by decide) hk

/-- All places are written, and the point before them. -/
theorem length_unitsText {places : Nat} (hp : 0 < places) (units : Nat) :
    (unitsText places units).length = digitCount (units / 10 ^ places) + 1 + places := by
  have hpart : (digitsOf (units % 10 ^ places)).length ≤ places :=
    (digitCount_le_iff hp).mpr (Nat.mod_lt _ (Nat.pow_pos (by decide)))
  have hwhole : (digitsOf (units / 10 ^ places)).length = digitCount (units / 10 ^ places) := rfl
  rw [unitsText, if_neg hp.ne']
  simp only [Nat.pow_eq, List.length_append, List.length_cons, List.length_replicate]
  omega

include hx in
theorem length_fixed (places : Nat) : (fixed places x).length =
    (signText (isNegative x)).length + (unitsText places (unitsOf places x)).length := by
  rw [fixed, if_pos hx, String.length_ofList, List.length_append]

omit hx

theorem length_signText_le (negative : Bool) : (signText negative).length ≤ 1 := by
  cases negative <;> decide

theorem length_nonFiniteText_le (x : Float) : (nonFiniteText x).length ≤ 4 := by
  have hsign := length_signText_le (isNegative x)
  rw [nonFiniteText]
  split
  · exact Nat.le_of_ble_eq_true rfl
  · rw [List.length_append]
    exact Nat.add_le_add_right hsign 3

/-! ## Bytes -/

theorem utf8ByteSize_ofList {cs : List Char} (h : ∀ c ∈ cs, c.utf8Size = 1) :
    (String.ofList cs).utf8ByteSize = cs.length := by
  rw [String.utf8ByteSize_ofList]
  induction cs with
  | nil => rfl
  | cons c rest ih =>
    obtain ⟨hc, hrest⟩ := List.forall_mem_cons.mp h
    rw [String.utf8Len, ih hrest, hc, List.length_cons]

theorem utf8Size_of_isNumericChar {c : Char} (h : isNumericChar c = true) : c.utf8Size = 1 := by
  rw [isNumericChar, Bool.or_eq_true, Bool.or_eq_true, beq_iff_eq, beq_iff_eq] at h
  rcases h with (h | rfl) | rfl
  · rw [Char.isDigit, Bool.and_eq_true, decide_eq_true_iff, decide_eq_true_iff] at h
    have hle : ('9' : Char).val ≤ 127 := by decide
    exact Char.utf8Size_eq_one_iff.mpr (UInt32.le_trans h.2 hle)
  · rfl
  · rfl

theorem isNumericChar_of_mem_unitsText {places units : Nat} :
    ∀ c ∈ unitsText places units, isNumericChar c = true := by
  rw [unitsText]
  split
  · exact (allDigits_digitsOf _).isNumericChar
  · refine List.forall_mem_append.mpr ⟨List.forall_mem_append.mpr ⟨?_, ?_⟩, ?_⟩
    · exact (allDigits_digitsOf _).isNumericChar
    · exact List.forall_mem_cons.mpr ⟨rfl, (allDigits_zeros _).isNumericChar⟩
    · exact (allDigits_digitsOf _).isNumericChar

theorem utf8Size_of_mem_nonFiniteText {x : Float} : ∀ c ∈ nonFiniteText x, c.utf8Size = 1 := by
  rw [nonFiniteText]
  split
  · simp only [List.forall_mem_cons]
    exact ⟨rfl, rfl, rfl, nofun⟩
  · refine List.forall_mem_append.mpr ⟨fun c hc => ?_, ?_⟩
    · exact utf8Size_of_isNumericChar (isNumericChar_of_mem_signText c hc)
    · simp only [List.forall_mem_cons]
      exact ⟨rfl, rfl, rfl, nofun⟩

/-- **Every character of a number with fixed places has one byte.** -/
theorem utf8ByteSize_fixed (places : Nat) (x : Float) :
    (fixed places x).utf8ByteSize = (fixed places x).length := by
  rw [fixed, String.length_ofList]
  apply utf8ByteSize_ofList
  split
  · refine List.forall_mem_append.mpr ⟨fun c hc => ?_, fun c hc => ?_⟩
    · exact utf8Size_of_isNumericChar (isNumericChar_of_mem_signText c hc)
    · exact utf8Size_of_isNumericChar (isNumericChar_of_mem_unitsText c hc)
  · exact utf8Size_of_mem_nonFiniteText

end Trendline.Decimal
