import Trendline.Proofs.Text.Blank
import Trendline.Value

/-!
# Parsed values

* `isParsed_parse`: a text is parsed as a finite number, or as a trimmed text
  that denotes no finite number.
* `parse_trim`: the blanks around it do not count.
-/

namespace Trendline.Value

/-- A value as parsing gives it. -/
inductive IsParsed : Value → Prop
  | number {x : Float} (finite : x.isFinite = true) : IsParsed (number x)
  | text {s : String} (trimmed : Text.IsTrimmed s)
      (noNumber : ∀ x, Decimal.read? s.toList = some x → x.isFinite = false) : IsParsed (text s)

theorem isParsed_parse (raw : String) : (parse raw).IsParsed := by
  unfold parse
  dsimp only
  split
  · rename_i x hread
    split
    · rename_i hfinite
      exact .number hfinite
    · rename_i hfinite
      refine .text (Text.isTrimmed_trim raw) fun x' hread' => ?_
      rw [hread] at hread'
      rw [← Option.some.inj hread']
      exact Bool.eq_false_iff.mpr hfinite
  · rename_i hread
    refine .text (Text.isTrimmed_trim raw) fun x' hread' => ?_
    rw [hread] at hread'
    cases hread'

@[simp] theorem parse_trim (raw : String) : parse (Text.trim raw) = parse raw := by
  unfold parse
  rw [Text.trim_trim]

theorem isParsed_empty : Value.IsParsed (.text "") := by
  refine .text ⟨nofun, nofun⟩ fun x h => ?_
  have hnone : Decimal.read? [] = none := by decide
  rw [show ("" : String).toList = [] from rfl, hnone] at h
  cases h

end Trendline.Value
