import Trendline.Proofs.Decimal.Characters
import Trendline.Proofs.Decimal.RoundTrip
import Trendline.Proofs.Double.Bounded
import Trendline.Proofs.Value.Message
import Trendline.Proofs.Value.Parse

/-!
# Cells that are numbers

Whatever number is written into a cell is a number again when the cell is read.

* `parse_write`: a double without an exponent is read as itself.
* `parse_toString`: a count is read as the double nearest to it.
* `isAllBlank_of_isNumeric`: a blank cell is no number.
-/

namespace Trendline

/-- Whether the text of a cell is read as a number. -/
def IsNumeric (s : String) : Prop :=
  ∃ x, Value.parse s = .number x

namespace Decimal

theorem isBlank_of_isNumericChar {c : Char} (h : isNumericChar c = true) :
    Text.isBlank c = false := by
  rw [isNumericChar, Bool.or_eq_true, Bool.or_eq_true] at h
  rcases h with (h | h) | h
  · exact isBlank_of_isDigit h
  · rw [eq_of_beq h]
    decide
  · rw [eq_of_beq h]
    decide

theorem digitCount_le {n k : Nat} (hk : 0 < k) (h : n < 10 ^ k) : digitCount n ≤ k :=
  (Nat.length_toDigits_le_iff (by decide) hk).mpr h

/-- A count of at most twenty digits is read as the double nearest to it. -/
theorem nearest_natCast {n : Nat} (h : n < 10 ^ 20) :
    (⟨n, 0⟩ : Numeral).nearest false = Double.ofRatio false n 1 := by
  have hcount := digitCount_le (by decide) h
  rw [Numeral.nearest]
  dsimp only
  split
  case isTrue hzero =>
    rcases hzero with rfl | hlow
    · rfl
    · omega
  case isFalse hne =>
    rw [if_neg (by omega), Numeral.toDouble]
    simp

end Decimal

theorem Text.trim_of_forall {s : String} (h : ∀ c ∈ s.toList, isBlank c = false) : trim s = s :=
  trim_of_isTrimmed
    ⟨fun c hc => h c (List.mem_of_head? hc), fun c hc => h c (List.mem_of_getLast? hc)⟩

namespace Value

open Decimal

theorem parse_of_read? {s : String} {x : Float} (hs : ∀ c ∈ s.toList, Text.isBlank c = false)
    (hread : read? s.toList = some x) (hx : x.isFinite = true) : parse s = .number x := by
  rw [parse, Text.trim_of_forall hs, hread]
  exact if_pos hx

/-- **A finite double is read as it was written.** -/
theorem parse_write {x : Float} (hx : x.isFinite = true) :
    parse (Style.plain.write x) = .number x := by
  have hlist : (Style.plain.write x).toList = Style.plain.chars x := String.toList_ofList
  refine parse_of_read? ?_ ?_ hx
  · rw [hlist]
    exact fun c hc => isBlank_of_isNumericChar (isNumericChar_of_mem_plain_chars hx c hc)
  · rw [hlist]
    exact read?_plain_chars (Double.isNaN_of_isFinite hx)

/-- **A count is read as the double nearest to it.** -/
theorem parse_toString {n : Nat} (h : n ≤ 2 ^ 64) :
    parse (toString n) = .number (Double.ofRatio false n 1) := by
  have hlist : (toString n).toList = digitsOf n := String.toList_ofList
  have hfinite : (Double.ofRatio false n 1).isFinite = true :=
    (Double.bounded_ofRatio false (by decide) h).isFinite
  refine parse_of_read? ?_ ?_ hfinite
  · rw [hlist]
    exact fun c hc => isBlank_of_isDigit (allDigits_digitsOf n c hc)
  · have hnumeral := readNumeral?_digits (allDigits_digitsOf n) (digitsOf_ne_nil n)
    have hread := read?_signText false hnumeral
    rw [digitsValue_digitsOf, nearest_natCast (by omega)] at hread
    rw [hlist]
    exact hread

end Value

theorem isAllBlank_of_isNumeric {s : String} (h : IsNumeric s) : Text.isAllBlank s = false := by
  obtain ⟨x, hx⟩ := h
  rw [← Bool.not_eq_true]
  intro hblank
  have hdrop : s.toList.dropWhile Text.isBlank = [] :=
    List.dropWhile_eq_nil_iff.mpr (List.all_eq_true.mp hblank)
  have htrim : Text.trim s = "" := by
    rw [Text.trim, Text.trimBy, hdrop]
    rfl
  have hempty : Value.parse "" = .text "" := rfl
  rw [← Value.parse_trim, htrim, hempty] at hx
  cases hx

end Trendline
