import Trendline.Proofs.Decimal.Reader

/-!
# Exponents read back

In the styles with exponents, a numeral whose point is far from its digits is
written with one digit before the point.  This text denotes the same numeral.

* `readNumeral?_exponentText`: a text with an exponent is read as its numeral.
* `readNumeral?_text`: a numeral is read back from every style.
-/

namespace Trendline.Decimal

/-! ## Exponents -/

/-- The sign of an exponent. -/
def powerSign (plusSign : Bool) (e : Int) : List Char :=
  if e < 0 then ['-'] else if plusSign then ['+'] else []

/-- Digits with a point after the first, if there are others. -/
def mantissaText : List Char → List Char
  | d :: d' :: rest => d :: '.' :: d' :: rest
  | short => short

/-- The exponent of a numeral once its point stands after the first digit. -/
def Numeral.power (n : Numeral) : Int :=
  n.exponent + ((digitsOf n.digits).length - 1 : Nat)

theorem exponentText_eq (plusSign : Bool) (n : Numeral) : exponentText plusSign n =
    mantissaText (digitsOf n.digits) ++
      'e' :: (powerSign plusSign n.power ++ digitsOf n.power.natAbs) := by
  rw [exponentText, powerSign, Numeral.power]
  rw [List.append_assoc, List.cons_append]
  congr 1

theorem takeSign_powerSign (plusSign : Bool) (e : Int) {ds : List Char} (hd : AllDigits ds)
    (hne : ds ≠ []) : takeSign (powerSign plusSign e ++ ds) = (decide (e < 0), ds) := by
  rw [powerSign]
  by_cases he : e < 0
  · rw [if_pos he, decide_eq_true he]
    rfl
  · rw [if_neg he, decide_eq_false he]
    cases plusSign with
    | true => rfl
    | false => exact takeSign_of_readNumeral? (readNumeral?_digits hd hne)

theorem readExponent?_power (plusSign : Bool) (e : Int) :
    readExponent? ('e' :: (powerSign plusSign e ++ digitsOf e.natAbs)) = some e := by
  have hd := allDigits_digitsOf e.natAbs
  have hne := digitsOf_ne_nil e.natAbs
  rw [readExponent?, if_pos (.inl rfl), takeSign_powerSign plusSign e hd hne]
  dsimp only
  rw [spanDigits_of_allDigits hd, digitsValue_digitsOf]
  dsimp only
  rw [if_neg (by simp [hne])]
  by_cases he : e < 0
  · rw [decide_eq_true he, if_pos rfl, Option.some_inj]
    omega
  · rw [decide_eq_false he, if_neg Bool.false_ne_true, Option.some_inj]
    omega

/-! ## Numerals with an exponent -/

theorem readNumeral?_mantissaText {ds power : List Char} {e : Int} (hd : AllDigits ds)
    (hne : ds ≠ []) (hpower : readExponent? ('e' :: power) = some e) :
    readNumeral? (mantissaText ds ++ 'e' :: power) =
      some ⟨digitsValue ds, e - (ds.length - 1 : Nat)⟩ := by
  have hend : ∀ c ∈ ('e' :: power).head?, c.isDigit = false ∧ c ≠ '.' := by
    rintro c ⟨⟩
    decide
  cases ds with
  | nil => exact absurd rfl hne
  | cons d rest =>
    have hfirst : AllDigits [d] := hd.take 1
    cases rest with
    | nil =>
      refine (readNumeral?_append hd hne hend hpower).trans ?_
      rw [List.length_singleton, Nat.sub_self, Nat.cast_zero, sub_zero]
    | cons d' rest =>
      exact readNumeral?_point_append hfirst (hd.drop 1) (List.cons_ne_nil d [])
        (fun c hc => (hend c hc).1) hpower

/-- **A text with an exponent is read as its numeral.** -/
theorem readNumeral?_exponentText (plusSign : Bool) (n : Numeral) :
    readNumeral? (exponentText plusSign n) = some n := by
  rw [exponentText_eq, readNumeral?_mantissaText (allDigits_digitsOf n.digits)
    (digitsOf_ne_nil n.digits) (readExponent?_power plusSign n.power), digitsValue_digitsOf,
    Numeral.power, add_sub_cancel_right]

/-- A numeral is read from every style as one of the same value. -/
theorem readNumeral?_text (style : Style) (n : Numeral) :
    ∃ n', readNumeral? (n.text style) = some n' ∧ n'.value = n.value := by
  rw [Numeral.text]
  split
  · exact readNumeral?_positionalText style.wholePoint n
  · split
    · exact readNumeral?_positionalText style.wholePoint n
    · exact ⟨n, readNumeral?_exponentText style.plusSign n, rfl⟩

end Trendline.Decimal
