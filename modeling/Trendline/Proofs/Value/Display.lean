import Trendline.Proofs.Value.Agreement
import Trendline.Proofs.Value.Numbers

/-!
# Displayed values

* `isNumericChar_of_mem_display`: a finite number is displayed with the characters of a number only.
* `parse_eq_text`, `parse_of_isTrimmed`: a text is what stands in the cell, without the blanks around
  it, and is parsed as itself.
* `beq_parse_display`: what is displayed of a cell is parsed as an equal value.
* `infix_of_infix_display`, `isAllBlank_display_parse`: apart from numbers the display has only what is
  in the text of the cell.
-/

namespace Trendline.Value

open Trendline.Decimal Trendline.Double

theorem isNaN_of_isParsed {v : Value} (h : v.IsParsed) : v.isNaN = false := by
  cases h with
  | number hfinite => exact isNaN_of_isFinite hfinite
  | text _ _ => rfl

theorem isNumericChar_of_mem_display {x : Float} (hx : x.isFinite = true) :
    ∀ c ∈ (number x).display.toList, isNumericChar c = true := by
  rw [display]
  split
  · rw [String.toList_ofList, integerChars]
    exact List.forall_mem_append.mpr
      ⟨isNumericChar_of_mem_signText, (allDigits_digitsOf _).isNumericChar⟩
  · rw [Style.write, String.toList_ofList]
    exact isNumericChar_of_mem_plain_chars hx

theorem isFinite_of_parse_eq_number {raw : String} {x : Float} (h : parse raw = number x) :
    x.isFinite = true := by
  have hparsed := isParsed_parse raw
  rw [h] at hparsed
  cases hparsed with
  | number hfinite => exact hfinite

theorem parse_eq_text {raw s : String} (h : parse raw = text s) : s = Text.trim raw := by
  unfold parse at h
  dsimp only at h
  split at h
  · split at h
    · cases h
    · exact (text.inj h).symm
  · exact (text.inj h).symm

/-- A trimmed text that denotes no finite number is parsed as itself. -/
theorem parse_of_isTrimmed {s : String} (htrim : Text.IsTrimmed s)
    (hnone : ∀ x, read? s.toList = some x → x.isFinite = false) : parse s = text s := by
  rw [parse, Text.trim_of_isTrimmed htrim]
  split
  · rename_i x hread
    rw [hnone x hread, if_neg Bool.false_ne_true]
  · rfl

/-- What is displayed of a number is parsed as an equal number. -/
theorem parse_display_number {x : Float} (hx : x.isFinite = true) :
    ∃ y, parse (number x).display = number y ∧ (number y == number x) = true := by
  have hnan := isNaN_of_isFinite hx
  obtain ⟨y, hread, hy⟩ := read?_display hnan
  have hyfinite : y.isFinite = true := by
    rcases hy with rfl | ⟨hy0, -⟩
    · exact hx
    · rw [isFinite_iff, hy0]
      decide
  refine ⟨y, parse_of_read? (fun c hc => ?_) hread hyfinite, ?_⟩
  · exact isBlank_of_isNumericChar (isNumericChar_of_mem_display hx c hc)
  · exact (beq_iff (isNaN_of_isFinite hyfinite) hnan).mpr hy

/-- **What is displayed of a cell is parsed as an equal value.** -/
theorem beq_parse_display {v : Value} (h : v.IsParsed) : (parse v.display == v) = true := by
  cases h with
  | number hfinite =>
    obtain ⟨y, hparse, heq⟩ := parse_display_number hfinite
    rw [hparse]
    exact heq
  | @text s htrim hnone =>
    rw [display, parse_of_isTrimmed htrim hnone]
    exact beq_self_eq_true s

/-! ## What the display has of the text -/

section

variable {raw : String}

/-- Only what a number can be displayed with is in the display and not in the text of the cell. -/
theorem infix_of_infix_display {cs : List Char} {c : Char} (hmem : c ∈ cs)
    (hc : isNumericChar c = false) (h : cs <:+: (parse raw).display.toList) : cs <:+: raw.toList := by
  cases hv : parse raw with
  | number x =>
    rw [hv] at h
    have hx := isFinite_of_parse_eq_number hv
    rw [isNumericChar_of_mem_display hx c (h.mem hmem)] at hc
    cases hc
  | text s =>
    rw [hv, display, parse_eq_text hv] at h
    exact h.trans (Text.trim_isInfix raw)

theorem isAllBlank_display_parse : Text.isAllBlank (parse raw).display = Text.isAllBlank raw := by
  cases hv : parse raw with
  | number x =>
    obtain ⟨y, hparse, -⟩ := parse_display_number (isFinite_of_parse_eq_number hv)
    rw [isAllBlank_of_isNumeric ⟨y, hparse⟩, isAllBlank_of_isNumeric ⟨x, hv⟩]
  | text s => rw [display, parse_eq_text hv, Text.isAllBlank_trim]

end

end Trendline.Value
