import Mathlib.Data.List.TakeWhile
import Trendline.Decimal.Reader
import Trendline.Decimal.Style
import Trendline.Proofs.Decimal.Shortest

/-!
# Reading what was written

* `digitsValue_digitsOf`: the digits of a natural number denote it.
* `readNumeral?_positionalText`: a numeral with its point in place is read as a
  numeral of the same value.
-/

namespace Trendline.Decimal

/-! ## Digits -/

theorem digitsValue_eq (ds : List Char) : digitsValue ds = Nat.ofDigitChars 10 ds 0 :=
  Nat.ofDigitChars_eq_foldl.symm

theorem digitsValue_append (ds es : List Char) :
    digitsValue (ds ++ es) = 10 ^ es.length * digitsValue ds + digitsValue es := by
  simp only [digitsValue_eq]
  rw [Nat.ofDigitChars_append, Nat.ofDigitChars_eq_ofDigitChars_zero]

theorem digitsValue_zeros (k : Nat) : digitsValue (List.replicate k '0') = 0 := by
  rw [digitsValue_eq, Nat.ofDigitChars_replicate_zero, Nat.mul_zero]

theorem digitsValue_digitsOf (n : Nat) : digitsValue (digitsOf n) = n := by
  rw [digitsValue_eq]
  exact Nat.ofDigitChars_ten_toDigits

theorem digitsOf_ne_nil (n : Nat) : digitsOf n ≠ [] :=
  Nat.toDigits_ne_nil

/-- A text of digits only. -/
def AllDigits (ds : List Char) : Prop :=
  ∀ c ∈ ds, c.isDigit = true

theorem allDigits_digitsOf (n : Nat) : AllDigits (digitsOf n) :=
  fun _ hc => Nat.isDigit_of_mem_toDigits (by decide) (by decide) hc

theorem allDigits_zeros (k : Nat) : AllDigits (List.replicate k '0') := by
  intro c hc
  rw [List.eq_of_mem_replicate hc]
  rfl

theorem AllDigits.append {ds es : List Char} (hd : AllDigits ds) (he : AllDigits es) :
    AllDigits (ds ++ es) := by
  intro c hc
  rcases List.mem_append.mp hc with h | h
  · exact hd c h
  · exact he c h

theorem AllDigits.take {ds : List Char} (hd : AllDigits ds) (k : Nat) : AllDigits (ds.take k) :=
  fun c hc => hd c (List.mem_of_mem_take hc)

theorem AllDigits.drop {ds : List Char} (hd : AllDigits ds) (k : Nat) : AllDigits (ds.drop k) :=
  fun c hc => hd c (List.mem_of_mem_drop hc)

/-! ## Reading digits -/

/-- Digits are read up to where they end. -/
theorem spanDigits_append {ds rest : List Char} (hd : AllDigits ds)
    (hrest : ∀ c ∈ rest.head?, c.isDigit = false) : spanDigits (ds ++ rest) = (ds, rest) := by
  rw [spanDigits, List.takeWhile_append_of_pos hd, List.dropWhile_append_of_pos hd]
  cases rest with
  | nil => rw [List.takeWhile_nil, List.dropWhile_nil, List.append_nil]
  | cons c rest =>
    have hc : ¬ c.isDigit = true := Bool.eq_false_iff.mp (hrest c rfl)
    rw [List.takeWhile_cons_of_neg hc, List.dropWhile_cons_of_neg hc, List.append_nil]

theorem spanDigits_of_allDigits {ds : List Char} (hd : AllDigits ds) :
    spanDigits ds = (ds, []) := by
  have h : spanDigits (ds ++ []) = (ds, []) := spanDigits_append hd nofun
  rwa [List.append_nil] at h

theorem readNumeral?_append {ds rest : List Char} {e : Int} (hd : AllDigits ds) (hne : ds ≠ [])
    (hrest : ∀ c ∈ rest.head?, c.isDigit = false ∧ c ≠ '.') (he : readExponent? rest = some e) :
    readNumeral? (ds ++ rest) = some ⟨digitsValue ds, e⟩ := by
  rw [readNumeral?, spanDigits_append hd fun c hc => (hrest c hc).1]
  dsimp only
  split
  · exact absurd rfl (hrest '.' rfl).2
  · simp [hne, he]

theorem readNumeral?_point_append {ds es rest : List Char} {e : Int} (hd : AllDigits ds)
    (hes : AllDigits es) (hne : ds ≠ []) (hrest : ∀ c ∈ rest.head?, c.isDigit = false)
    (he : readExponent? rest = some e) : readNumeral? (ds ++ '.' :: (es ++ rest)) =
      some ⟨digitsValue (ds ++ es), e - (es.length : Nat)⟩ := by
  have hpoint : ∀ c ∈ ('.' :: (es ++ rest)).head?, c.isDigit = false := by
    rintro c ⟨⟩
    rfl
  rw [readNumeral?, spanDigits_append hd hpoint]
  simp [hne, he, spanDigits_append hes hrest]

theorem readNumeral?_digits {ds : List Char} (hd : AllDigits ds) (hne : ds ≠ []) :
    readNumeral? ds = some ⟨digitsValue ds, 0⟩ := by
  have h : readNumeral? (ds ++ []) = some ⟨digitsValue ds, 0⟩ :=
    readNumeral?_append hd hne nofun rfl
  rwa [List.append_nil] at h

theorem readNumeral?_point {ds es : List Char} (hd : AllDigits ds) (he : AllDigits es)
    (hne : ds ≠ []) :
    readNumeral? (ds ++ '.' :: es) = some ⟨digitsValue (ds ++ es), -(es.length : Int)⟩ := by
  have h : readNumeral? (ds ++ '.' :: (es ++ [])) =
      some ⟨digitsValue (ds ++ es), 0 - (es.length : Nat)⟩ :=
    readNumeral?_point_append hd he hne nofun rfl
  rwa [List.append_nil, zero_sub] at h

/-- A numeral has no sign. -/
theorem takeSign_of_readNumeral? {cs : List Char} {n : Numeral} (h : readNumeral? cs = some n) :
    takeSign cs = (false, cs) := by
  cases cs with
  | nil => rfl
  | cons c rest =>
    have hminus : c ≠ '-' := by
      rintro rfl
      cases h
    have hplus : c ≠ '+' := by
      rintro rfl
      cases h
    unfold takeSign
    split
    · rename_i heq
      exact absurd (List.cons.inj heq).1 hminus
    · rename_i heq
      exact absurd (List.cons.inj heq).1 hplus
    · rfl

/-! ## Reading what was written -/

/-- A decimal with more zeros at its end has the same value. -/
theorem value_shift (d k : Nat) (e : Int) :
    (⟨10 ^ k * d, e - k⟩ : Numeral).value = (⟨d, e⟩ : Numeral).value := by
  simp only [Numeral.value]
  rw [zpow_sub₀ (by norm_num), zpow_natCast]
  push_cast
  field_simp

theorem positionalText_of_nonneg (wholePoint : Bool) {n : Numeral} (h : 0 ≤ n.exponent) :
    positionalText wholePoint n =
      digitsOf n.digits ++ List.replicate n.exponent.toNat '0' ++
        if wholePoint then ['.', '0'] else [] := by
  rw [positionalText, if_pos h]

theorem readNumeral?_whole (wholePoint : Bool) {n : Numeral} (h : 0 ≤ n.exponent) :
    ∃ n', readNumeral? (positionalText wholePoint n) = some n' ∧ n'.value = n.value := by
  have hds := (allDigits_digitsOf n.digits).append (allDigits_zeros n.exponent.toNat)
  have hne : digitsOf n.digits ++ List.replicate n.exponent.toNat '0' ≠ [] := by
    simp [digitsOf_ne_nil]
  have hval : digitsValue (digitsOf n.digits ++ List.replicate n.exponent.toNat '0') =
      10 ^ n.exponent.toNat * n.digits := by
    rw [digitsValue_append, digitsValue_zeros, digitsValue_digitsOf, List.length_replicate,
      Nat.add_zero]
  have hshift := value_shift n.digits n.exponent.toNat n.exponent
  rw [Int.toNat_of_nonneg h, sub_self] at hshift
  rw [positionalText_of_nonneg wholePoint h]
  cases wholePoint with
  | false =>
    refine ⟨_, ?_, hshift⟩
    rw [if_neg Bool.false_ne_true, List.append_nil, readNumeral?_digits hds hne, hval]
  | true =>
    have hzero : AllDigits ['0'] := allDigits_zeros 1
    refine ⟨⟨10 ^ 1 * (10 ^ n.exponent.toNat * n.digits), 0 - (1 : Nat)⟩, ?_,
      (value_shift _ 1 0).trans hshift⟩
    rw [if_pos rfl, readNumeral?_point hds hzero hne, digitsValue_append, hval]
    rfl

theorem readNumeral?_fraction (wholePoint : Bool) {n : Numeral} (h : n.exponent < 0) :
    readNumeral? (positionalText wholePoint n) = some n := by
  have hds := allDigits_digitsOf n.digits
  have hval := digitsValue_digitsOf n.digits
  have hexp : -(((-n.exponent).toNat : Nat) : Int) = n.exponent := by omega
  rw [positionalText, if_neg (by omega)]
  dsimp only
  generalize digitsOf n.digits = ds at *
  generalize (-n.exponent).toNat = places at *
  split
  · rename_i hlt
    have hne : ds.take (ds.length - places) ≠ [] := by
      intro hnil
      have := congrArg List.length hnil
      rw [List.length_take, List.length_nil] at this
      omega
    have hlen : (ds.drop (ds.length - places)).length = places := by
      rw [List.length_drop]
      omega
    rw [readNumeral?_point (hds.take _) (hds.drop _) hne, List.take_append_drop, hval, hlen, hexp]
  · rename_i hge
    have hzero : AllDigits ['0'] := allDigits_zeros 1
    have hpart := (allDigits_zeros (places - ds.length)).append hds
    have hlen : (List.replicate (places - ds.length) '0' ++ ds).length = places := by
      rw [List.length_append, List.length_replicate]
      omega
    have hdigits : digitsValue (['0'] ++ (List.replicate (places - ds.length) '0' ++ ds)) =
        n.digits := by
      rw [digitsValue_append, digitsValue_append, digitsValue_zeros, hval]
      rw [show digitsValue ['0'] = 0 from digitsValue_zeros 1]
      rw [Nat.mul_zero, Nat.mul_zero, Nat.zero_add, Nat.zero_add]
    show readNumeral? (['0'] ++ '.' :: (List.replicate (places - ds.length) '0' ++ ds)) = _
    rw [readNumeral?_point hzero hpart (by simp), hdigits, hlen, hexp]

/-- **Reading a positional text gives a numeral of the same value.** -/
theorem readNumeral?_positionalText (wholePoint : Bool) (n : Numeral) :
    ∃ n', readNumeral? (positionalText wholePoint n) = some n' ∧ n'.value = n.value := by
  rcases lt_or_ge n.exponent 0 with h | h
  · exact ⟨n, readNumeral?_fraction wholePoint h, rfl⟩
  · exact readNumeral?_whole wholePoint h

end Trendline.Decimal
