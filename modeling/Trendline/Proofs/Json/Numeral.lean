import Trendline.Json.Reader
import Trendline.Proofs.Decimal.RoundTrip

/-!
# The numerals of documents

A numeral has an optional minus sign, a whole part without leading zeros, and
possibly a fraction and an exponent.  The reader takes it up to its end, wherever
what follows does not go on with it.  The doubles of a document are such numerals.

* `IsNumeral`: the grammar of numerals.
* `readNumber?_append`: a numeral is read up to its end.
* `isNumeral_chars`, `isNumeral_digitsOf`: doubles and counts are numerals.
-/

namespace Trendline.Json

open Decimal

/-! ## The grammar -/

/-- A whole part: a zero, or digits that begin with another one. -/
inductive IsWhole : List Char → Prop
  | zero : IsWhole ['0']
  | digits {d : Char} {ds : List Char} : d ≠ '0' → AllDigits (d :: ds) → IsWhole (d :: ds)

/-- A fraction, which may be missing. -/
inductive IsFraction : List Char → Prop
  | absent : IsFraction []
  | present {ds : List Char} : AllDigits ds → ds ≠ [] → IsFraction ('.' :: ds)

/-- An exponent, which may be missing. -/
inductive IsPower : List Char → Prop
  | absent : IsPower []
  | present {e : Char} {sign ds : List Char} : e = 'e' ∨ e = 'E' →
      sign = [] ∨ sign = ['+'] ∨ sign = ['-'] → AllDigits ds → ds ≠ [] →
      IsPower (e :: (sign ++ ds))

/-- A numeral. -/
inductive IsNumeral : List Char → Prop
  | parts (negative : Bool) {whole fraction power : List Char} : IsWhole whole →
      IsFraction fraction → IsPower power →
      IsNumeral (signText negative ++ (whole ++ (fraction ++ power)))

/-- Text that does not go on with a numeral. -/
def Ends (rest : List Char) : Prop :=
  ∀ c ∈ rest.head?, c.isDigit = false ∧ c ≠ '.' ∧ c ≠ 'e' ∧ c ≠ 'E'

/-! ## Reading the parts -/

theorem readDigits?_append {ds rest : List Char} (hd : AllDigits ds) (hne : ds ≠ [])
    (hrest : ∀ c ∈ rest.head?, c.isDigit = false) : readDigits? (ds ++ rest) = some (ds, rest) := by
  obtain ⟨htake, hdrop⟩ := Prod.mk.inj (spanDigits_append hd hrest)
  rw [readDigits?, htake, hdrop]
  cases ds with
  | nil => exact absurd rfl hne
  | cons d ds => rfl

theorem readWhole?_append {whole rest : List Char} (h : IsWhole whole)
    (hrest : ∀ c ∈ rest.head?, c.isDigit = false) :
    readWhole? (whole ++ rest) = some (whole, rest) := by
  cases h with
  | zero => rfl
  | @digits d ds hd hds =>
    rw [List.cons_append]
    unfold readWhole?
    split
    · rename_i heq
      exact absurd (List.cons.inj heq).1 hd
    · exact readDigits?_append hds (List.cons_ne_nil d ds) hrest

theorem readFraction?_append {fraction rest : List Char} (h : IsFraction fraction)
    (hrest : ∀ c ∈ rest.head?, c.isDigit = false ∧ c ≠ '.') :
    readFraction? (fraction ++ rest) = some (fraction, rest) := by
  cases h with
  | absent =>
    rw [List.nil_append]
    unfold readFraction?
    split
    · exact absurd rfl (hrest '.' rfl).2
    · rfl
  | present hds hne =>
    rw [List.cons_append, readFraction?, readDigits?_append hds hne fun c hc => (hrest c hc).1]
    rfl

theorem readPower?_signed {e s : Char} (he : e = 'e' ∨ e = 'E') (hs : s = '+' ∨ s = '-')
    (more : List Char) : readPower? (e :: s :: more) =
      (readDigits? more).map fun (ds, after) => (e :: s :: ds, after) :=
  (if_pos he).trans (if_pos hs)

theorem readPower?_unsigned {e d : Char} (he : e = 'e' ∨ e = 'E') (hd : d.isDigit = true)
    (more : List Char) : readPower? (e :: d :: more) =
      (readDigits? (d :: more)).map fun (ds, after) => (e :: ds, after) := by
  refine (if_pos he).trans (if_neg ?_)
  rintro (rfl | rfl)
  · cases hd
  · cases hd

theorem readPower?_append {power rest : List Char} (h : IsPower power) (hrest : Ends rest) :
    readPower? (power ++ rest) = some (power, rest) := by
  cases h with
  | absent =>
    cases rest with
    | nil => rfl
    | cons c rest =>
      obtain ⟨-, -, he, hE⟩ := hrest c rfl
      exact if_neg (not_or.mpr ⟨he, hE⟩)
  | @present e sign ds he hsign hds hne =>
    have hread := readDigits?_append hds hne fun c hc => (hrest c hc).1
    rw [List.cons_append, List.append_assoc]
    rcases hsign with rfl | rfl | rfl
    · cases ds with
      | nil => exact absurd rfl hne
      | cons d ds =>
        rw [List.cons_append] at hread
        rw [List.nil_append, List.cons_append, readPower?_unsigned he (hds d List.mem_cons_self),
          hread]
        rfl
    · rw [List.singleton_append, readPower?_signed he (.inl rfl), hread]
      rfl
    · rw [List.singleton_append, readPower?_signed he (.inr rfl), hread]
      rfl

/-! ## Reading numerals -/

theorem IsWhole.head_isDigit {whole : List Char} (h : IsWhole whole) (rest : List Char) :
    ∃ d, (whole ++ rest).head? = some d ∧ d.isDigit = true := by
  cases h with
  | zero => exact ⟨'0', rfl, rfl⟩
  | @digits d ds _ hds => exact ⟨d, rfl, hds d List.mem_cons_self⟩

theorem readNumber?_signText (negative : Bool) {cs : List Char} (h : ∀ c ∈ cs.head?, c ≠ '-') :
    readNumber? (signText negative ++ cs) = do
      let (whole, cs) ← readWhole? cs
      let (fraction, cs) ← readFraction? cs
      let (power, cs) ← readPower? cs
      return (signText negative ++ whole ++ fraction ++ power, cs) := by
  cases negative with
  | true => rfl
  | false =>
    rw [signText, if_neg Bool.false_ne_true, List.nil_append]
    unfold readNumber?
    split
    rename_i heq
    split at heq
    · exact absurd rfl (h '-' rfl)
    · obtain ⟨rfl, rfl⟩ := Prod.mk.inj heq
      rfl

/-- **A numeral is read up to its end.** -/
theorem readNumber?_append {cs rest : List Char} (h : IsNumeral cs) (hrest : Ends rest) :
    readNumber? (cs ++ rest) = some (cs, rest) := by
  cases h with
  | @parts negative whole fraction power hwhole hfraction hpower =>
    have hpowerRest : ∀ c ∈ (power ++ rest).head?, c.isDigit = false ∧ c ≠ '.' := by
      cases hpower with
      | absent => exact fun c hc => ⟨(hrest c hc).1, (hrest c hc).2.1⟩
      | present he =>
        rintro c ⟨⟩
        rcases he with rfl | rfl
        · decide
        · decide
    have hfractionRest : ∀ c ∈ (fraction ++ (power ++ rest)).head?, c.isDigit = false := by
      cases hfraction with
      | absent => exact fun c hc => (hpowerRest c hc).1
      | present =>
        rintro c ⟨⟩
        rfl
    obtain ⟨d, hhead, hd⟩ := hwhole.head_isDigit (fraction ++ (power ++ rest))
    rw [List.append_assoc, List.append_assoc, List.append_assoc, readNumber?_signText]
    · rw [readWhole?_append hwhole hfractionRest]
      dsimp only [Option.bind_eq_bind, Option.bind_some]
      rw [readFraction?_append hfraction hpowerRest]
      dsimp only [Option.bind_some]
      rw [readPower?_append hpower hrest]
      simp only [Option.bind_some, List.append_assoc]
      rfl
    · rw [hhead]
      rintro c ⟨⟩ rfl
      cases hd

/-- A numeral begins with a minus sign or a digit. -/
theorem IsNumeral.exists_head {cs : List Char} (h : IsNumeral cs) :
    ∃ c rest, cs = c :: rest ∧ (c = '-' ∨ c.isDigit = true) := by
  cases h with
  | @parts negative whole fraction power hwhole hfraction hpower =>
    cases negative with
    | true => exact ⟨'-', _, rfl, .inl rfl⟩
    | false =>
      obtain ⟨d, hhead, hd⟩ := hwhole.head_isDigit (fraction ++ power)
      obtain ⟨rest, hrest⟩ := List.head?_eq_some_iff.mp hhead
      exact ⟨d, rest, hrest, .inr hd⟩

/-! ## Numerals that are written -/

theorem head?_digitsOf {n : Nat} (h : 0 < n) : (digitsOf n).head? ≠ some '0' := by
  induction n using Nat.strong_induction_on with
  | _ n ih =>
    rw [digitsOf, Nat.toDigits_eq_if (by decide)]
    split
    · rw [List.head?_singleton, ne_eq, Option.some_inj, Nat.digitChar_eq_zero]
      omega
    · rw [List.head?_append_of_ne_nil _ Nat.toDigits_ne_nil]
      exact ih (n / 10) (by omega) (by omega)

theorem isWhole_of_head? {ds : List Char} (hd : AllDigits ds) (hne : ds ≠ [])
    (h : ds.head? ≠ some '0') : IsWhole ds := by
  cases ds with
  | nil => exact absurd rfl hne
  | cons d ds =>
    refine .digits ?_ hd
    rintro rfl
    exact h rfl

theorem isWhole_digitsOf (n : Nat) : IsWhole (digitsOf n) := by
  cases n with
  | zero => exact .zero
  | succ n =>
    exact isWhole_of_head? (allDigits_digitsOf _) (digitsOf_ne_nil _) (head?_digitsOf n.succ_pos)

/-- A count is a numeral. -/
theorem isNumeral_digitsOf (n : Nat) : IsNumeral (digitsOf n) := by
  have h := IsNumeral.parts false (isWhole_digitsOf n) .absent .absent
  rwa [List.append_nil, List.append_nil] at h

theorem isNumeral_positional (negative : Bool) {whole fraction : List Char} (hwhole : IsWhole whole)
    (hfraction : IsFraction fraction) : IsNumeral (signText negative ++ (whole ++ fraction)) := by
  have h := IsNumeral.parts negative hwhole hfraction .absent
  rwa [List.append_nil] at h

theorem isFraction_wholePoint (wholePoint : Bool) :
    IsFraction (if wholePoint then ['.', '0'] else []) := by
  cases wholePoint with
  | false => exact .absent
  | true => exact .present (allDigits_zeros 1) (List.cons_ne_nil _ _)

theorem isNumeral_positionalText (wholePoint negative : Bool) {n : Numeral} (h : 0 < n.digits) :
    IsNumeral (signText negative ++ positionalText wholePoint n) := by
  have hds := allDigits_digitsOf n.digits
  have hne := digitsOf_ne_nil n.digits
  have hhead := head?_digitsOf h
  rw [positionalText]
  dsimp only
  generalize digitsOf n.digits = ds at *
  split
  · refine isNumeral_positional negative ?_ (isFraction_wholePoint wholePoint)
    refine isWhole_of_head? (hds.append (allDigits_zeros _)) ?_ ?_
    · exact List.append_ne_nil_of_left_ne_nil hne _
    · rwa [List.head?_append_of_ne_nil _ hne]
  · have hplaces : 0 < (-n.exponent).toNat := by omega
    generalize (-n.exponent).toNat = places at *
    split
    · refine isNumeral_positional negative ?_ (.present (hds.drop _) ?_)
      · refine isWhole_of_head? (hds.take _) ?_ ?_
        · rw [ne_eq, List.take_eq_nil_iff]
          exact not_or.mpr ⟨by omega, hne⟩
        · rwa [List.head?_take, if_neg (by omega)]
      · rw [ne_eq, List.drop_eq_nil_iff]
        omega
    · rw [List.cons_append, List.cons_append]
      refine isNumeral_positional negative .zero (.present ((allDigits_zeros _).append hds) ?_)
      exact List.append_ne_nil_of_right_ne_nil _ hne

theorem isNumeral_exponentText (plusSign negative : Bool) {n : Numeral} (h : 0 < n.digits) :
    IsNumeral (signText negative ++ exponentText plusSign n) := by
  have hds := allDigits_digitsOf n.digits
  have hne := digitsOf_ne_nil n.digits
  have hhead := head?_digitsOf h
  have hpower : IsPower ('e' :: (powerSign plusSign n.power ++ digitsOf n.power.natAbs)) := by
    refine .present (.inl rfl) ?_ (allDigits_digitsOf _) (digitsOf_ne_nil _)
    rw [powerSign]
    split
    · exact .inr (.inr rfl)
    · cases plusSign with
      | true => exact .inr (.inl rfl)
      | false => exact .inl rfl
  rw [exponentText_eq]
  generalize digitsOf n.digits = ds at *
  cases ds with
  | nil => exact absurd rfl hne
  | cons d rest =>
    have hwhole : IsWhole [d] := isWhole_of_head? (hds.take 1) (List.cons_ne_nil _ _) hhead
    cases rest with
    | nil => exact .parts negative hwhole .absent hpower
    | cons d' rest =>
      exact .parts negative hwhole (.present (hds.drop 1) (List.cons_ne_nil _ _)) hpower

theorem isNumeral_text (style : Style) (negative : Bool) {n : Numeral} (h : 0 < n.digits) :
    IsNumeral (signText negative ++ n.text style) := by
  rw [Numeral.text]
  split
  · exact isNumeral_positionalText style.wholePoint negative h
  · split
    · exact isNumeral_positionalText style.wholePoint negative h
    · exact isNumeral_exponentText style.plusSign negative h

/-- **A finite double is written as a numeral**, in every style. -/
theorem isNumeral_chars (style : Style) {x : Float} (hx : x.isFinite = true) :
    IsNumeral (style.chars x) := by
  rw [Style.chars, if_pos hx]
  dsimp only
  split
  · exact isNumeral_positional (Double.isNegative x) .zero (isFraction_wholePoint style.wholePoint)
  · rename_i hne
    have h0 := mt Double.magnitude_fst_eq_zero_iff.mpr hne
    have hc := Double.canonical_unpack h0 (Double.isFinite_iff.mp hx)
    exact isNumeral_text style (Double.isNegative x)
      (digits_pos_of_roundsTo hc.pos (roundsTo_shortest hc))

end Trendline.Json
