import Trendline.Proofs.Decimal.Reader

/-!
# The characters of numbers

A number without an exponent is written with digits, a minus sign and a point, and nothing else.

* `isNumericChar_of_mem_plain_chars`: every character of a finite double is one of these.
-/

namespace Trendline.Decimal

/-- Whether a character may stand in a number without an exponent. -/
def isNumericChar (c : Char) : Bool :=
  c.isDigit || c == '-' || c == '.'

theorem isNumericChar_of_isDigit {c : Char} (h : c.isDigit = true) : isNumericChar c = true := by
  rw [isNumericChar, h]
  rfl

theorem AllDigits.isNumericChar {ds : List Char} (hd : AllDigits ds) :
    ∀ c ∈ ds, isNumericChar c = true :=
  fun c hc => isNumericChar_of_isDigit (hd c hc)

theorem isNumericChar_of_mem_signText {negative : Bool} :
    ∀ c ∈ signText negative, isNumericChar c = true := by
  cases negative with
  | false => exact nofun
  | true => exact List.forall_mem_singleton.mpr rfl

theorem isNumericChar_of_mem_positionalText {n : Numeral} :
    ∀ c ∈ positionalText false n, isNumericChar c = true := by
  have hdigits := allDigits_digitsOf n.digits
  have hzeros : ∀ k, ∀ c ∈ List.replicate k '0', isNumericChar c = true :=
    fun k => (allDigits_zeros k).isNumericChar
  rw [positionalText]
  dsimp only
  split
  · rw [if_neg Bool.false_ne_true, List.append_nil]
    exact List.forall_mem_append.mpr ⟨hdigits.isNumericChar, hzeros _⟩
  · split
    · exact List.forall_mem_append.mpr ⟨(hdigits.take _).isNumericChar,
        List.forall_mem_cons.mpr ⟨rfl, (hdigits.drop _).isNumericChar⟩⟩
    · refine List.forall_mem_append.mpr ⟨?_, hdigits.isNumericChar⟩
      exact List.forall_mem_cons.mpr ⟨rfl, List.forall_mem_cons.mpr ⟨rfl, hzeros _⟩⟩

/-- **Without an exponent, a finite double has only the characters of a number.** -/
theorem isNumericChar_of_mem_plain_chars {x : Float} (hx : x.isFinite = true) :
    ∀ c ∈ Style.plain.chars x, isNumericChar c = true := by
  rw [Style.chars, if_pos hx]
  refine List.forall_mem_append.mpr ⟨isNumericChar_of_mem_signText, ?_⟩
  split
  · exact isNumericChar_of_mem_positionalText
  · exact isNumericChar_of_mem_positionalText

end Trendline.Decimal
