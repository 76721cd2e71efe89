import Trendline.Proofs.Double.Rounding

/-!
# The order of the doubles

The patterns of the doubles from zero on grow with their numbers, up to
infinity.  So a double that is no NaN has a place among the integers, its
pattern with its sign, and doubles are compared as their places are.

* `compare_unpack`: patterns are compared by their power of two, then by their
  mantissa.
* `lt_iff_position`, `beq_iff_position`: the comparisons of doubles.
-/

namespace Trendline.Double

open Float.Model Float.Model.UnpackedFloat

/-- A pattern with its sign, as a number. -/
def signed (negative : Bool) (bits : Nat) : Int :=
  if negative then -(bits : Int) else bits

/-- Where a double stands among the others, counted from zero, where both zeros stand. -/
def position (x : Float) : Int :=
  signed (isNegative x) (magnitudeBits x)

theorem compare_unpack (a b : Nat) :
    (compare (unpack a).2 (unpack b).2).then (compare (unpack a).1 (unpack b).1) = compare a b := by
  have ha := unpack_bits a
  have hb := unpack_bits b
  have bound : ∀ c : Nat, -1074 ≤ (unpack c).2 ∧ (unpack c).1 < 2 ^ 53 ∧
      (-1074 < (unpack c).2 → 2 ^ 52 ≤ (unpack c).1) := by
    intro c
    rcases Nat.lt_or_ge c (2 ^ 52) with h | h
    · rw [unpack_of_lt h]
      dsimp only
      omega
    · rw [unpack_of_le h]
      dsimp only
      omega
  obtain ⟨ha₁, ha₂, ha₃⟩ := bound a
  obtain ⟨hb₁, hb₂, hb₃⟩ := bound b
  generalize (unpack a).1 = m, (unpack a).2 = e, (unpack b).1 = n, (unpack b).2 = f at *
  rcases lt_trichotomy e f with h | rfl | h
  · rw [Int.compare_eq_lt.mpr h, Nat.compare_eq_lt.mpr (show a < b by omega)]
    rfl
  · rw [Int.compare_eq_eq.mpr rfl, Ordering.eq_then]
    rcases Nat.lt_trichotomy m n with hm | rfl | hm
    · rw [Nat.compare_eq_lt.mpr hm, Nat.compare_eq_lt.mpr (show a < b by omega)]
    · rw [Nat.compare_eq_eq.mpr rfl, Nat.compare_eq_eq.mpr (show a = b by omega)]
    · rw [Nat.compare_eq_gt.mpr hm, Nat.compare_eq_gt.mpr (show b < a by omega)]
  · rw [Int.compare_eq_gt.mpr h, Nat.compare_eq_gt.mpr (show b < a by omega)]
    rfl

theorem compare_signed_self (negative : Bool) (a b : Nat) :
    compare (signed negative a) (signed negative b) =
      if negative then (compare a b).swap else compare a b := by
  cases negative with
  | false =>
    show compare (a : Int) b = compare a b
    rcases Nat.lt_trichotomy a b with h | rfl | h
    · rw [Int.compare_eq_lt.mpr (by omega), Nat.compare_eq_lt.mpr h]
    · rw [Int.compare_eq_eq.mpr rfl, Nat.compare_eq_eq.mpr rfl]
    · rw [Int.compare_eq_gt.mpr (by omega), Nat.compare_eq_gt.mpr h]
  | true =>
    show compare (-(a : Int)) (-b) = (compare a b).swap
    rcases Nat.lt_trichotomy a b with h | rfl | h
    · rw [Int.compare_eq_gt.mpr (by omega), Nat.compare_eq_lt.mpr h]
      rfl
    · rw [Int.compare_eq_eq.mpr rfl, Nat.compare_eq_eq.mpr rfl]
      rfl
    · rw [Int.compare_eq_lt.mpr (by omega), Nat.compare_eq_gt.mpr h]
      rfl

/-- What the pattern of a double that is no NaN stands for. -/
inductive Stands : Nat → Prop
  | zero : Stands 0
  | finite {bits : Nat} (hpos : bits ≠ 0) (hlt : bits < infinityBits) : Stands bits
  | infinity : Stands infinityBits

theorem stands_of_le {bits : Nat} (h : bits ≤ infinityBits) : Stands bits := by
  rcases eq_or_lt_of_le h with rfl | hlt
  · exact .infinity
  · rcases eq_or_ne bits 0 with rfl | hpos
    · exact .zero
    · exact .finite hpos hlt

theorem compare_decode_self (negative : Bool) {a b : Nat} (ha : Stands a) (hb : Stands b) :
    (decode negative a).compare (decode negative b) =
      some (compare (signed negative a) (signed negative b)) := by
  have hI : 0 < infinityBits := by decide
  rw [compare_signed_self]
  cases ha with
  | zero =>
    rw [decode_zero]
    cases hb with
    | zero => cases negative <;> rfl
    | finite hb0 hb =>
      rw [decode_finite hb0 hb, Nat.compare_eq_lt.mpr (Nat.pos_of_ne_zero hb0)]
      cases negative <;> rfl
    | infinity =>
      rw [decode_infinity, Nat.compare_eq_lt.mpr hI]
      cases negative <;> rfl
  | finite ha0 ha =>
    rw [decode_finite ha0 ha]
    cases hb with
    | zero =>
      rw [decode_zero, Nat.compare_eq_gt.mpr (Nat.pos_of_ne_zero ha0)]
      cases negative <;> rfl
    | finite hb0 hb =>
      rw [decode_finite hb0 hb, ← compare_unpack]
      cases negative <;> rfl
    | infinity =>
      rw [decode_infinity, Nat.compare_eq_lt.mpr ha]
      cases negative <;> rfl
  | infinity =>
    rw [decode_infinity]
    cases hb with
    | zero =>
      rw [decode_zero, Nat.compare_eq_gt.mpr hI]
      cases negative <;> rfl
    | finite hb0 hb =>
      rw [decode_finite hb0 hb, Nat.compare_eq_gt.mpr hb]
      cases negative <;> rfl
    | infinity =>
      rw [decode_infinity, Nat.compare_eq_eq.mpr rfl]
      cases negative <;> rfl

/-- A negative double is below a positive one, unless both are zeros. -/
theorem compare_decode_of_sign {a b : Nat} (ha : Stands a) (hb : Stands b) :
    (decode false a).compare (decode true b) = some (compare (signed false a) (signed true b)) ∧
    (decode true b).compare (decode false a) = some (compare (signed true b) (signed false a)) := by
  by_cases h : a = 0 ∧ b = 0
  · obtain ⟨rfl, rfl⟩ := h
    exact ⟨rfl, rfl⟩
  have hlt : signed true b < signed false a := by
    show -(b : Int) < a
    omega
  rw [Int.compare_eq_gt.mpr hlt, Int.compare_eq_lt.mpr hlt]
  cases ha with
  | zero =>
    cases hb with
    | zero => exact absurd ⟨rfl, rfl⟩ h
    | finite hb0 hb =>
      rw [decode_finite hb0 hb]
      exact ⟨rfl, rfl⟩
    | infinity => exact ⟨rfl, rfl⟩
  | finite ha0 ha =>
    rw [decode_finite ha0 ha]
    cases hb with
    | zero => exact ⟨rfl, rfl⟩
    | finite hb0 hb =>
      rw [decode_finite hb0 hb]
      exact ⟨rfl, rfl⟩
    | infinity => exact ⟨rfl, rfl⟩
  | infinity =>
    rw [decode_infinity]
    cases hb with
    | zero => exact ⟨rfl, rfl⟩
    | finite hb0 hb =>
      rw [decode_finite hb0 hb]
      exact ⟨rfl, rfl⟩
    | infinity => exact ⟨rfl, rfl⟩

theorem compare_decode (s t : Bool) {a b : Nat} (ha : Stands a) (hb : Stands b) :
    (decode s a).compare (decode t b) = some (compare (signed s a) (signed t b)) := by
  cases s with
  | false => cases t with
    | false => exact compare_decode_self false ha hb
    | true => exact (compare_decode_of_sign ha hb).1
  | true => cases t with
    | false => exact (compare_decode_of_sign hb ha).2
    | true => exact compare_decode_self true ha hb

theorem stands_magnitudeBits {x : Float} (h : x.isNaN = false) : Stands (magnitudeBits x) := by
  rw [← Bool.not_eq_true, isNaN_iff] at h
  exact stands_of_le (Nat.not_lt.mp h)

/-- **Doubles are ordered as their positions are.** -/
theorem lt_iff_position {x y : Float} (hx : x.isNaN = false) (hy : y.isNaN = false) :
    x < y ↔ position x < position y := by
  rw [lt_iff, unpack_toModel, unpack_toModel, UnpackedFloat.lt,
    compare_decode _ _ (stands_magnitudeBits hx) (stands_magnitudeBits hy), beq_iff_eq, Option.some_inj,
    Int.compare_eq_lt]
  rfl

theorem beq_iff_position {x y : Float} (hx : x.isNaN = false) (hy : y.isNaN = false) :
    (x == y) = true ↔ position x = position y := by
  show (UnpackedFloat.beq x.toModel.unpack y.toModel.unpack) = true ↔ _
  rw [unpack_toModel, unpack_toModel, UnpackedFloat.beq,
    compare_decode _ _ (stands_magnitudeBits hx) (stands_magnitudeBits hy), beq_iff_eq, Option.some_inj,
    Int.compare_eq_eq]
  rfl

end Trendline.Double
