import Trendline.Proofs.Decimal.Exponent
import Trendline.Proofs.Decimal.Nearest

/-!
# Doubles read back

* `read?_of_roundsTo`: a finite double is read from every positional text of a
  numeral that rounds to it.
* `read?_chars`: a finite double is read from every style as it was written.
* `read?_plain_chars`: without exponents, every double that is a number or an
  infinity is written as a text that is read as this double, sign included.
-/

namespace Trendline.Decimal

open Trendline.Double

theorem read?_signText {cs : List Char} {n : Numeral} (negative : Bool)
    (h : readNumeral? cs = some n) :
    read? (signText negative ++ cs) = some (n.nearest negative) := by
  have hsign : takeSign (signText negative ++ cs) = (negative, cs) := by
    cases negative with
    | false => exact takeSign_of_readNumeral? h
    | true => rfl
  rw [read?, hsign]
  dsimp only
  rw [h]

theorem read?_of_roundsTo {x : Float} {n : Numeral} (wholePoint : Bool) (hx : x.isFinite = true)
    (h0 : magnitudeBits x ≠ 0) (h : RoundsTo (magnitude x).1 (magnitude x).2 n.value) :
    read? (signText (isNegative x) ++ positionalText wholePoint n) = some x := by
  obtain ⟨n', hread, hvalue⟩ := readNumeral?_positionalText wholePoint n
  rw [read?_signText _ hread, nearest_eq_of_roundsTo hx h0 (by rwa [hvalue])]

/-- Zeros of both signs are read with the sign they are written with. -/
theorem read?_zero {n : Numeral} (negative wholePoint : Bool) (h : n.digits = 0) :
    ∃ y, read? (signText negative ++ positionalText wholePoint n) = some y ∧
      magnitudeBits y = 0 ∧ isNegative y = negative := by
  obtain ⟨n', hread, hvalue⟩ := readNumeral?_positionalText wholePoint n
  have h0 : n'.digits = 0 := by
    rw [Numeral.value, Numeral.value, h, Nat.cast_zero, zero_mul] at hvalue
    rcases mul_eq_zero.mp hvalue with hd | hp
    · exact_mod_cast hd
    · exact absurd hp (zpow_pos (by norm_num) _).ne'
  exact ⟨_, read?_signText negative hread, nearest_zero_bits negative h0⟩

/-- An infinity is read from its name. -/
theorem read?_infinity {x : Float} (h : magnitudeBits x = infinityBits) :
    read? (signText (isNegative x) ++ ['i', 'n', 'f']) = some x := by
  have hread : ∀ negative : Bool, read? (signText negative ++ ['i', 'n', 'f']) =
      some (ofRatio negative (Nat.pow 2 1024) 1) := by
    intro negative
    cases negative with
    | false => rfl
    | true => rfl
  have hbits : nearestBits (Nat.pow 2 1024) 1 = infinityBits := by decide +kernel
  obtain ⟨hmagnitude, hsign⟩ := ofRatio_bits (isNegative x) (Nat.pow 2 1024) 1
  rw [hread]
  exact congrArg some (eq_of_bits ((hmagnitude.trans hbits).trans h.symm) hsign)

/-- **A finite double is read from every style as it was written.** -/
theorem read?_chars (style : Style) {x : Float} (hx : x.isFinite = true) :
    read? (style.chars x) = some x := by
  rw [Style.chars, if_pos hx]
  dsimp only
  by_cases h0 : magnitudeBits x = 0
  · rw [if_pos (magnitude_fst_eq_zero_iff.mpr h0)]
    obtain ⟨y, hread, hbits, hsign⟩ := read?_zero (isNegative x) style.wholePoint (n := ⟨0, 0⟩) rfl
    rw [hread]
    exact congrArg some (eq_of_bits (hbits.trans h0.symm) hsign)
  · rw [if_neg (mt magnitude_fst_eq_zero_iff.mp h0)]
    obtain ⟨n, hread, hvalue⟩ :=
      readNumeral?_text style (shortest style.tie (magnitude x).1 (magnitude x).2)
    have hround : RoundsTo (magnitude x).1 (magnitude x).2 n.value := by
      rw [hvalue]
      exact roundsTo_shortest (canonical_unpack h0 (isFinite_iff.mp hx))
    rw [read?_signText _ hread, nearest_eq_of_roundsTo hx h0 hround]

/-- **A double written without exponents reads back as itself.** -/
theorem read?_plain_chars {x : Float} (hnan : x.isNaN = false) :
    read? (Style.plain.chars x) = some x := by
  cases hx : x.isFinite with
  | false =>
    rw [Style.chars, hx, if_neg Bool.false_ne_true, nonFiniteText, hnan,
      if_neg Bool.false_ne_true]
    exact read?_infinity (magnitudeBits_of_infinite hnan hx)
  | true => exact read?_chars .plain hx

end Trendline.Decimal
