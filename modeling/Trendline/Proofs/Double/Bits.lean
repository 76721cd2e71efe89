import Mathlib
import Trendline.Double

/-!
# The bits of a double

A double is determined by its sign and by its pattern without the sign.  What
the logical model of doubles computes by way of `UnpackedFloat` is said here
about these two.

* `unpack_toModel`: what a sign and a pattern stand for.
* `isFinite_iff`, `isNaN_iff`: finite doubles, infinities and NaNs follow each
  other in the order of their patterns.
* `beq_iff`: equality of numbers is equality of doubles, up to the sign of zero.
* `ofRatio_bits`: the sign and the pattern of a rounded quotient.
-/

namespace Trendline.Double

open Float.Model Float.Model.UnpackedFloat

/-! ## Fields -/

theorem unpackMantissa_toNat (b : BitVec Format.binary64.numBits) :
    (unpackMantissa b).toNat = b.toNat % 2 ^ 52 := by
  simp [unpackMantissa]

theorem unpackExponent_toNat (b : BitVec Format.binary64.numBits) :
    (unpackExponent b).toNat = b.toNat / 2 ^ 52 % 2 ^ 11 := by
  simp [unpackExponent, Nat.shiftRight_eq_div_pow]

theorem unpackSign_toNat (b : BitVec Format.binary64.numBits) :
    (unpackSign b).toNat = b.toNat / 2 ^ 63 := by
  have h : b.toNat < 2 ^ 64 := b.isLt
  simp [unpackSign, Nat.shiftRight_eq_div_pow]
  omega

theorem unpackExponent_eq_iff {b : BitVec Format.binary64.numBits} {e : Nat} (he : e < 2 ^ 11) :
    unpackExponent b = BitVec.ofNat 11 e ↔ b.toNat / 2 ^ 52 % 2 ^ 11 = e := by
  rw [← unpackExponent_toNat, ← BitVec.toNat_inj, BitVec.toNat_ofNat, Nat.mod_eq_of_lt he]

theorem unpackMantissa_eq_zero_iff {b : BitVec Format.binary64.numBits} :
    unpackMantissa b = 0#_ ↔ b.toNat % 2 ^ 52 = 0 := by
  rw [← unpackMantissa_toNat, ← BitVec.toNat_inj, BitVec.toNat_zero]

/-! ## What a pattern stands for -/

/-- The sign of a number. -/
def signOf (negative : Bool) : Sign :=
  if negative then .negative else .positive

theorem infinityBits_eq : infinityBits = 2047 * 2 ^ 52 := rfl

theorem unpack_of_lt {bits : Nat} (h : bits < 2 ^ 52) : unpack bits = (bits, -1074) :=
  if_pos h

theorem unpack_of_le {bits : Nat} (h : 2 ^ 52 ≤ bits) :
    unpack bits = (2 ^ 52 + bits % 2 ^ 52, ((bits / 2 ^ 52 : Nat) : Int) - 1075) :=
  if_neg (Nat.not_lt.mpr h)

theorem unpack_fst_pos {bits : Nat} (h : bits ≠ 0) : 0 < (unpack bits).1 := by
  rcases Nat.lt_or_ge bits (2 ^ 52) with hlt | hge
  · rw [unpack_of_lt hlt]
    exact Nat.pos_of_ne_zero h
  · rw [unpack_of_le hge]
    exact Nat.add_pos_left (by decide) _

/-- What a sign and an unsigned pattern stand for. -/
def decode (negative : Bool) (bits : Nat) : UnpackedFloat :=
  if infinityBits < bits then .notANumber
  else if bits = infinityBits then .infinity (signOf negative)
  else if h : bits = 0 then .zero (signOf negative)
  else .finite (signOf negative) (unpack bits).1 (unpack bits).2 (unpack_fst_pos h)

theorem decode_nan {negative : Bool} {bits : Nat} (h : infinityBits < bits) :
    decode negative bits = .notANumber :=
  if_pos h

theorem decode_infinity (negative : Bool) :
    decode negative infinityBits = .infinity (signOf negative) := by
  rw [decode, if_neg (Nat.lt_irrefl _), if_pos rfl]

theorem decode_zero (negative : Bool) : decode negative 0 = .zero (signOf negative) := rfl

theorem decode_finite {negative : Bool} {bits : Nat} (hpos : bits ≠ 0) (h : bits < infinityBits) :
    decode negative bits =
      .finite (signOf negative) (unpack bits).1 (unpack bits).2 (unpack_fst_pos hpos) := by
  rw [decode, if_neg (by omega), if_neg (by omega), dif_neg hpos]

/-- Below infinity's pattern are the numbers, above it the NaNs. -/
theorem status_decode (negative : Bool) (bits : Nat) :
    (decode negative bits).isNaN = decide (infinityBits < bits) ∧
      (decode negative bits).isFinite = decide (bits < infinityBits) := by
  rcases Nat.lt_trichotomy bits infinityBits with h | h | h
  · rw [decide_eq_false (Nat.lt_asymm h), decide_eq_true h]
    by_cases h0 : bits = 0
    · rw [h0, decode_zero]
      exact ⟨rfl, rfl⟩
    · rw [decode_finite h0 h]
      exact ⟨rfl, rfl⟩
  · rw [h, decode_infinity, decide_eq_false (Nat.lt_irrefl _)]
    exact ⟨rfl, rfl⟩
  · rw [decode_nan h, decide_eq_true h, decide_eq_false (Nat.lt_asymm h)]
    exact ⟨rfl, rfl⟩

theorem signOf_unpackSign (b : BitVec Format.binary64.numBits) :
    Sign.ofBitVec (unpackSign b) = signOf (decide (2 ^ 63 ≤ b.toNat)) := by
  have h := unpackSign_toNat b
  have hb : b.toNat < 2 ^ 64 := b.isLt
  have hzero : (0#1).toNat = 0 := rfl
  by_cases hn : 2 ^ 63 ≤ b.toNat
  · have hne : unpackSign b ≠ 0#1 := by
      intro h0
      rw [h0, hzero] at h
      omega
    rw [Sign.ofBitVec, if_neg hne, decide_eq_true hn]
    rfl
  · have heq : unpackSign b = 0#1 := by
      apply BitVec.eq_of_toNat_eq
      rw [h, hzero]
      omega
    rw [Sign.ofBitVec, if_pos heq, decide_eq_false hn]
    rfl

theorem unpack_eq_decode (b : BitVec Format.binary64.numBits) :
    UnpackedFloat.unpack Format.binary64 b =
      decode (decide (2 ^ 63 ≤ b.toNat)) (b.toNat % 2 ^ 63) := by
  have hb : b.toNat < 2 ^ 64 := b.isLt
  have hm := unpackMantissa_toNat b
  have he := unpackExponent_toNat b
  have hI := infinityBits_eq
  have e1 : unpackExponent b = -1#_ ↔ b.toNat / 2 ^ 52 % 2 ^ 11 = 2047 :=
    unpackExponent_eq_iff (by decide)
  have e0 : unpackExponent b = 0#_ ↔ b.toNat / 2 ^ 52 % 2 ^ 11 = 0 :=
    unpackExponent_eq_iff (by decide)
  have m0 := @unpackMantissa_eq_zero_iff b
  unfold UnpackedFloat.unpack
  dsimp only
  rw [signOf_unpackSign]
  generalize b.toNat = N at *
  by_cases h1 : N / 2 ^ 52 % 2 ^ 11 = 2047
  · rw [if_pos (e1.mpr h1)]
    by_cases h2 : N % 2 ^ 52 = 0
    · have h : N % 2 ^ 63 = infinityBits := by omega
      rw [if_pos (m0.mpr h2), h, decode_infinity]
    · rw [if_neg (mt m0.mp h2), decode_nan (by omega)]
  · rw [if_neg (mt e1.mp h1)]
    by_cases h0 : N / 2 ^ 52 % 2 ^ 11 = 0
    · rw [if_pos (e0.mpr h0)]
      by_cases h2 : N % 2 ^ 52 = 0
      · have h : N % 2 ^ 63 = 0 := by omega
        rw [dif_pos (m0.mpr h2), h, decode_zero]
      · rw [dif_neg (mt m0.mp h2), decode_finite (by omega) (by omega)]
        have hlt : N % 2 ^ 63 < 2 ^ 52 := by omega
        simp only [unpack_of_lt hlt, hm, he, h0]
        congr 1
        omega
    · rw [if_neg (mt e0.mp h0), decode_finite (by omega) (by omega)]
      have hge : 2 ^ 52 ≤ N % 2 ^ 63 := by omega
      have h53 : (1#1 ++ unpackMantissa b).toNat = 2 ^ 52 + N % 2 ^ 52 := by
        rw [BitVec.toNat_append, ← Nat.shiftLeft_add_eq_or_of_lt (unpackMantissa b).isLt, hm]
        rfl
      simp only [unpack_of_le hge, h53, he]
      congr 1
      · omega
      · have : N % 2 ^ 63 / 2 ^ 52 = N / 2 ^ 52 % 2 ^ 11 := by omega
        rw [this]
        rfl

/-! ## Packing -/

theorem valid_of_le {b : BitVec Format.binary64.numBits} (h : b.toNat % 2 ^ 63 ≤ infinityBits) :
    Format.binary64.Valid b := by
  refine ⟨fun he hm => ?_⟩
  have hI := infinityBits_eq
  have he' : b.toNat / 2 ^ 52 % 2 ^ 11 = 2047 := (unpackExponent_eq_iff (by decide)).mp he
  have hm' := mt unpackMantissa_eq_zero_iff.mpr hm
  omega

/-- Packing is the inverse, up to infinity. -/
theorem pack_decode (negative : Bool) {bits : Nat} (h : bits ≤ infinityBits) :
    (UnpackedFloat.pack Format.binary64 (decode negative bits)).toNat =
      (if negative then 2 ^ 63 else 0) + bits := by
  have hI := infinityBits_eq
  have hlt : (if negative then 2 ^ 63 else 0) + bits < 2 ^ 64 := by
    split <;> omega
  have hb := BitVec.toNat_ofNatLT _ hlt
  have hmod : ((if negative then 2 ^ 63 else 0) + bits) % 2 ^ 63 = bits := by
    split <;> omega
  have hsign : decide (2 ^ 63 ≤ (if negative then 2 ^ 63 else 0) + bits) = negative := by
    cases negative with
    | false => exact decide_eq_false (by rw [if_neg Bool.false_ne_true]; omega)
    | true => exact decide_eq_true (Nat.le_add_right _ _)
  have hunpack := unpack_eq_decode (BitVec.ofNatLT _ hlt)
  rw [hb, hmod, hsign] at hunpack
  have hvalid : Format.binary64.Valid (BitVec.ofNatLT _ hlt) := valid_of_le (by rwa [hb, hmod])
  rw [← hunpack, pack_unpack_of_valid hvalid, hb]

/-! ## Doubles -/

theorem toBits_eq (x : Float) :
    x.toBits.toNat = (if isNegative x then 2 ^ 63 else 0) + magnitudeBits x := by
  have h : x.toBits.toNat < 2 ^ 64 := x.toBits.toNat_lt
  have h63 : Nat.pow 2 63 = 2 ^ 63 := rfl
  simp only [isNegative, magnitudeBits, h63, decide_eq_true_eq]
  split <;> omega

theorem eq_of_bits {x y : Float} (hm : magnitudeBits x = magnitudeBits y)
    (hs : isNegative x = isNegative y) : x = y := by
  apply Float.toBits_inj.mp
  apply UInt64.toNat_inj.mp
  rw [toBits_eq, toBits_eq, hm, hs]

theorem unpack_toModel (x : Float) :
    x.toModel.unpack = decode (isNegative x) (magnitudeBits x) :=
  unpack_eq_decode _

theorem isNaN_iff {x : Float} : x.isNaN = true ↔ infinityBits < magnitudeBits x := by
  show x.toModel.unpack.isNaN = true ↔ _
  rw [unpack_toModel, (status_decode _ _).1, decide_eq_true_iff]

theorem isFinite_iff {x : Float} : x.isFinite = true ↔ magnitudeBits x < infinityBits := by
  show x.toModel.unpack.isFinite = true ↔ _
  rw [unpack_toModel, (status_decode _ _).2, decide_eq_true_iff]

theorem isNaN_of_isFinite {x : Float} (hx : x.isFinite = true) : x.isNaN = false := by
  rw [isFinite_iff] at hx
  rw [← Bool.not_eq_true, isNaN_iff]
  omega

theorem toBits_of_toModel {x : Float} {negative : Bool} {bits : Nat} (h : bits ≤ infinityBits)
    (hx : x.toModel = Float.Model.pack (decode negative bits)) :
    magnitudeBits x = bits ∧ isNegative x = negative := by
  have hbits : x.toBits.toNat = (if negative then 2 ^ 63 else 0) + bits := by
    rw [← pack_decode negative h]
    show x.toModel.toBits.toNat = _
    rw [hx]
    rfl
  have hI := infinityBits_eq
  have h63 : Nat.pow 2 63 = 2 ^ 63 := rfl
  rw [magnitudeBits, isNegative, hbits, h63]
  cases negative with
  | false =>
    rw [if_neg Bool.false_ne_true, Nat.zero_add]
    exact ⟨Nat.mod_eq_of_lt (by omega), decide_eq_false (by omega)⟩
  | true =>
    rw [if_pos rfl]
    exact ⟨by omega, decide_eq_true (by omega)⟩

theorem ofBits_bits {bits : Nat} (h : bits ≤ infinityBits) :
    magnitudeBits (Float.ofBits bits.toUInt64) = bits ∧
      isNegative (Float.ofBits bits.toUInt64) = false := by
  have hI := infinityBits_eq
  apply toBits_of_toModel h
  show Float.Model.pack (UnpackedFloat.unpack Format.binary64 bits.toUInt64.toBitVec) = _
  rw [unpack_eq_decode]
  have hn : bits.toUInt64.toBitVec.toNat = bits := by
    show bits % 2 ^ 64 = bits
    omega
  rw [hn, Nat.mod_eq_of_lt (by omega), decide_eq_false (by omega)]

theorem neg_signOf (negative : Bool) : -signOf negative = signOf !negative := by
  cases negative with
  | false => rfl
  | true => rfl

theorem neg_decode (negative : Bool) (bits : Nat) :
    (decode negative bits).neg = decode (!negative) bits := by
  rcases Nat.lt_trichotomy bits infinityBits with h | h | h
  · by_cases h0 : bits = 0
    · rw [h0, decode_zero, decode_zero, UnpackedFloat.neg, neg_signOf]
    · rw [decode_finite h0 h, decode_finite h0 h, UnpackedFloat.neg, neg_signOf]
  · rw [h, decode_infinity, decode_infinity, UnpackedFloat.neg, neg_signOf]
  · rw [decode_nan h, decode_nan h, UnpackedFloat.neg]

theorem neg_bits {x : Float} (h : magnitudeBits x ≤ infinityBits) :
    magnitudeBits (-x) = magnitudeBits x ∧ isNegative (-x) = !isNegative x := by
  apply toBits_of_toModel h
  show Float.Model.pack x.toModel.unpack.neg = _
  rw [unpack_toModel, neg_decode]

theorem nearestBits_le (num den : Nat) : nearestBits num den ≤ infinityBits := by
  unfold nearestBits
  split
  · exact Nat.zero_le _
  · exact Nat.min_le_left _ _

theorem ofRatio_bits (negative : Bool) (num den : Nat) :
    magnitudeBits (ofRatio negative num den) = nearestBits num den ∧
      isNegative (ofRatio negative num den) = negative := by
  obtain ⟨hm, hs⟩ := ofBits_bits (nearestBits_le num den)
  cases negative with
  | false => exact ⟨hm, hs⟩
  | true =>
    obtain ⟨hm', hs'⟩ := neg_bits (Nat.le_trans (Nat.le_of_eq hm) (nearestBits_le num den))
    rw [hs] at hs'
    exact ⟨hm'.trans hm, hs'⟩

/-- The unsigned pattern is determined by the mantissa and the power of two. -/
theorem unpack_bits (bits : Nat) :
    ((unpack bits).2 + 1074).toNat * 2 ^ 52 + (unpack bits).1 = bits := by
  rcases Nat.lt_or_ge bits (2 ^ 52) with h | h
  · rw [unpack_of_lt h]
    simp
  · rw [unpack_of_le h]
    dsimp only
    omega

theorem magnitudeBits_of_infinite {x : Float} (hnan : x.isNaN = false) (hx : x.isFinite = false) :
    magnitudeBits x = infinityBits := by
  apply Nat.le_antisymm
  · apply Nat.not_lt.mp
    rw [← isNaN_iff, hnan]
    exact nofun
  · apply Nat.not_lt.mp
    rw [← isFinite_iff, hx]
    exact nofun

theorem magnitude_fst_eq_zero_iff {x : Float} : (magnitude x).1 = 0 ↔ magnitudeBits x = 0 := by
  constructor
  · intro h
    apply Decidable.byContradiction
    intro h0
    exact absurd h (Nat.ne_of_gt (unpack_fst_pos h0))
  · intro h
    rw [magnitude, h]
    rfl

theorem toBitVec_eq_packedZero_iff (x : Float) (negative : Bool) :
    x.toBits.toBitVec = packedZero Format.binary64 (signOf negative) ↔
      magnitudeBits x = 0 ∧ isNegative x = negative := by
  have hzero : (packedZero Format.binary64 (signOf negative)).toNat =
      if negative then 2 ^ 63 else 0 := by
    cases negative with
    | false => rfl
    | true => rfl
  have hlt : magnitudeBits x < 2 ^ 63 := Nat.mod_lt _ (by decide)
  rw [← BitVec.toNat_inj, hzero]
  show x.toBits.toNat = _ ↔ _
  rw [toBits_eq]
  cases isNegative x with
  | false =>
    cases negative with
    | false => simp
    | true =>
      simp
      omega
  | true => cases negative <;> simp

/-- A NaN equals nothing. -/
theorem beq_eq_false_of_isNaN {x : Float} (hx : x.isNaN = true) (y : Float) : (x == y) = false := by
  rw [← Bool.not_eq_true]
  intro h
  exact ((unpack_beq_unpack_iff x.toModel.valid y.toModel.valid).mp h).1
    ((isNaN_unpack_iff_of_valid x.toModel.valid).mp hx)

/-- Doubles that are no NaNs are equal as numbers when they are the same, or both zero. -/
theorem beq_iff {x y : Float} (hx : x.isNaN = false) (hy : y.isNaN = false) :
    (x == y) = true ↔ x = y ∨ magnitudeBits x = 0 ∧ magnitudeBits y = 0 := by
  have ne : ∀ {z : Float}, z.isNaN = false → z.toBits.toBitVec ≠ packedNaN Format.binary64 := by
    intro z hz h
    have : z.isNaN = true := (isNaN_unpack_iff_of_valid z.toModel.valid).mpr h
    rw [hz] at this
    cases this
  have zero := toBitVec_eq_packedZero_iff
  refine (unpack_beq_unpack_iff x.toModel.valid y.toModel.valid).trans ?_
  constructor
  · rintro ⟨-, -, h | ⟨h, h'⟩ | ⟨h, h'⟩⟩
    · exact .inl (Float.toBits_inj.mp (UInt64.toBitVec_inj.mp h))
    · exact .inr ⟨((zero x false).mp h).1, ((zero y true).mp h').1⟩
    · exact .inr ⟨((zero x true).mp h).1, ((zero y false).mp h').1⟩
  · rintro (rfl | ⟨hx0, hy0⟩)
    · exact ⟨ne hx, ne hx, .inl rfl⟩
    · refine ⟨ne hx, ne hy, ?_⟩
      by_cases hs : isNegative x = isNegative y
      · rw [eq_of_bits (hx0.trans hy0.symm) hs]
        exact .inl rfl
      · right
        cases hsx : isNegative x with
        | false =>
          have hsy : isNegative y = true := by simpa [hsx] using hs
          exact .inl ⟨(zero x false).mpr ⟨hx0, hsx⟩, (zero y true).mpr ⟨hy0, hsy⟩⟩
        | true =>
          have hsy : isNegative y = false := by simpa [hsx] using hs
          exact .inr ⟨(zero x true).mpr ⟨hx0, hsx⟩, (zero y false).mpr ⟨hy0, hsy⟩⟩

end Trendline.Double
