import Mathlib.Data.Nat.Cast.Field
import Trendline.Proofs.Decimal.RoundTrip
import Trendline.Value

/-!
# When values agree

Numbers agree when they are equal, all other pairs when they are displayed
alike.  Without NaNs these are one relation.

* `read?_display`: the display of a number is read as an equal number.
* `display_number_eq_iff`: numbers are displayed alike exactly when they are
  equal, whether or not they are written as integers.
* `agrees_iff`: values agree exactly when they are displayed alike.
* `agrees_display_iff`: so agreement is an equivalence, by whichever of the two
  comparisons it is decided.
* `agrees_of_beq`: equal values agree with the same cells.
-/

namespace Trendline.Value

open Trendline.Decimal Trendline.Double

/-- Whether a value is the number that is no number. -/
def isNaN : Value → Bool
  | number x => x.isNaN
  | text _ => false

/-! ## Numbers written as integers -/

theorem floorMagnitude_eq (x : Float) :
    floorMagnitude x = (ratio (magnitude x).1 (magnitude x).2).1 /
      (ratio (magnitude x).1 (magnitude x).2).2 := rfl

theorem isIntegral_iff {x : Float} :
    isIntegral x = true ↔ (ratio (magnitude x).1 (magnitude x).2).1 %
      (ratio (magnitude x).1 (magnitude x).2).2 = 0 :=
  beq_iff_eq

/-- An integral double is the natural number it is cut to. -/
theorem floorMagnitude_of_isIntegral {x : Float} (h : isIntegral x = true) :
    (floorMagnitude x : ℚ) = (magnitude x).1 * 2 ^ (magnitude x).2 := by
  have hden : ((ratio (magnitude x).1 (magnitude x).2).2 : ℚ) ≠ 0 := by
    exact_mod_cast Nat.ne_of_gt (ratio_snd_pos _ _)
  rw [← ratio_div, floorMagnitude_eq,
    Nat.cast_div (Nat.dvd_of_mod_eq_zero (isIntegral_iff.mp h)) hden]

theorem floorMagnitude_eq_zero_iff {x : Float} (h : isIntegral x = true) :
    floorMagnitude x = 0 ↔ magnitudeBits x = 0 := by
  have hpow : (2 : ℚ) ^ (magnitude x).2 ≠ 0 := (zpow_pos (by norm_num) _).ne'
  have hvalue := floorMagnitude_of_isIntegral h
  rw [← magnitude_fst_eq_zero_iff]
  constructor
  · intro h0
    rw [h0, Nat.cast_zero] at hvalue
    rcases mul_eq_zero.mp hvalue.symm with hm | hp
    · exact_mod_cast hm
    · exact absurd hp hpow
  · intro h0
    rw [h0, Nat.cast_zero, zero_mul] at hvalue
    exact_mod_cast hvalue

theorem integerChars_eq {x : Float} :
    integerChars x = signText (isNegative x && floorMagnitude x != 0) ++
      positionalText false ⟨floorMagnitude x, 0⟩ := by
  rw [positionalText_of_nonneg false (le_refl 0)]
  simp [integerChars]

/-- Zeros of both signs are displayed as `0`. -/
theorem display_zero {x : Float} (h : magnitudeBits x = 0) : (number x).display = "0" := by
  have hmagnitude : magnitude x = (0, -1074) := by
    rw [magnitude, h]
    rfl
  have hfinite : x.isFinite = true := by
    rw [isFinite_iff, h]
    decide
  have hintegral : isIntegral x = true := by
    have hzero : (ratio 0 (-1074)).1 = 0 := rfl
    rw [isIntegral_iff, hmagnitude, hzero, Nat.zero_mod]
  have hfloor := (floorMagnitude_eq_zero_iff hintegral).mpr h
  have hshows : showsInteger x = true := by
    rw [showsInteger, hfinite, hintegral, hfloor]
    decide
  rw [display, if_pos hshows, integerChars_eq, hfloor]
  simp [signText]
  rfl

theorem read?_integerChars {x : Float} (hfinite : x.isFinite = true) (h : isIntegral x = true) :
    ∃ y, read? (integerChars x) = some y ∧
      (y = x ∨ magnitudeBits y = 0 ∧ magnitudeBits x = 0) := by
  have hzero := floorMagnitude_eq_zero_iff h
  rw [integerChars_eq]
  by_cases h0 : floorMagnitude x = 0
  · obtain ⟨y, hread, hbits, -⟩ := @read?_zero ⟨floorMagnitude x, 0⟩
      (isNegative x && floorMagnitude x != 0) false h0
    exact ⟨y, hread, .inr ⟨hbits, hzero.mp h0⟩⟩
  · refine ⟨x, ?_, .inl rfl⟩
    have hsign : (isNegative x && floorMagnitude x != 0) = isNegative x := by
      simp [h0]
    rw [hsign]
    apply read?_of_roundsTo false hfinite (mt hzero.mpr h0)
    have hpos : 0 < (magnitude x).1 :=
      Nat.pos_of_ne_zero (mt magnitude_fst_eq_zero_iff.mp (mt hzero.mpr h0))
    have hvalue : (⟨floorMagnitude x, 0⟩ : Numeral).value =
        (magnitude x).1 * 2 ^ (magnitude x).2 := by
      rw [← floorMagnitude_of_isIntegral h, Numeral.value, zpow_zero, mul_one]
    rw [hvalue]
    exact roundsTo_self hpos

/-! ## Display and agreement -/

/-- The display of a number is read as a number equal to it. -/
theorem read?_display {x : Float} (hnan : x.isNaN = false) :
    ∃ y, read? (number x).display.toList = some y ∧
      (y = x ∨ magnitudeBits y = 0 ∧ magnitudeBits x = 0) := by
  rw [display]
  by_cases h : showsInteger x = true
  · rw [if_pos h, String.toList_ofList]
    simp only [showsInteger, Bool.and_eq_true] at h
    exact read?_integerChars h.1.1 h.1.2
  · rw [if_neg h, Style.write, String.toList_ofList]
    exact ⟨x, read?_plain_chars hnan, .inl rfl⟩

/-- **Numbers are displayed alike exactly when they are equal.** -/
theorem display_number_eq_iff {x y : Float} (hx : x.isNaN = false) (hy : y.isNaN = false) :
    (number x).display = (number y).display ↔ (x == y) = true := by
  rw [beq_iff hx hy]
  constructor
  · intro h
    obtain ⟨a, hreadx, ha⟩ := read?_display hx
    obtain ⟨b, hready, hb⟩ := read?_display hy
    rw [h, hready] at hreadx
    obtain rfl := Option.some.inj hreadx
    rcases ha with rfl | ⟨_, ha⟩
    · exact hb
    · rcases hb with rfl | ⟨_, hb⟩
      · rename_i hzero
        exact .inr ⟨ha, hzero⟩
      · exact .inr ⟨ha, hb⟩
  · rintro (rfl | ⟨hx0, hy0⟩)
    · rfl
    · rw [display_zero hx0, display_zero hy0]

/-- **Values that are no NaNs agree exactly when they are displayed alike.** -/
theorem agrees_iff {a b : Value} (ha : a.isNaN = false) (hb : b.isNaN = false) :
    a.agrees b = true ↔ a.display = b.display := by
  cases a with
  | number x =>
    cases b with
    | number y => exact (display_number_eq_iff ha hb).symm
    | text t => exact beq_iff_eq
  | text s => exact beq_iff_eq

/-- Minus zero agrees with the text `0`, as zero does. -/
example : (number (Float.ofBits 0x8000000000000000)).agrees (text "0") = true := by
  decide +kernel

/-! ## An equivalence -/

variable {a b c : Value}

section

variable (ha : a.isNaN = false) (hb : b.isNaN = false) (hc : c.isNaN = false)

include ha

theorem agrees_refl : a.agrees a = true :=
  (agrees_iff ha ha).mpr rfl

include hb

theorem agrees_symm (h : a.agrees b = true) : b.agrees a = true :=
  (agrees_iff hb ha).mpr ((agrees_iff ha hb).mp h).symm

include hc

theorem agrees_trans (hab : a.agrees b = true) (hbc : b.agrees c = true) : a.agrees c = true :=
  (agrees_iff ha hc).mpr (((agrees_iff ha hb).mp hab).trans ((agrees_iff hb hc).mp hbc))

end

/-- The values that are no NaN. -/
abbrev Proper := { v : Value // v.isNaN = false }

/-- **Agreement is equality of what is displayed.**  This makes it an equivalence, and on two numbers,
which are compared as numbers, a comparison of their texts would decide the same. -/
theorem agrees_display_iff :
    (∀ a b : Value, a.isNaN = false → b.isNaN = false →
      (a.agrees b = true ↔ a.display = b.display)) ∧
    Equivalence (fun a b : Proper => a.val.agrees b.val = true) ∧
    ∀ x y : Float, x.isNaN = false → y.isNaN = false →
      (x == y) = ((number x).display == (number y).display) := by
  refine ⟨fun a b => agrees_iff, ⟨?refl, ?symm, ?trans⟩, fun x y hx hy => ?_⟩
  case refl => exact fun a => agrees_refl a.property
  case symm => exact fun {a b} hab => agrees_symm a.property b.property hab
  case trans =>
    exact fun {a b c} hab hbc => agrees_trans a.property b.property c.property hab hbc
  rw [Bool.eq_iff_iff, ← display_number_eq_iff hx hy]
  exact beq_iff_eq.symm

/-- The first number that is not written as an integer, `10 ^ 15`. -/
def longNumber : Float :=
  Float.ofBits 0x430c6bf526340000

/-- The last number that is written as an integer and is one less. -/
def lastInteger : Float :=
  Float.ofBits 0x430c6bf52633fff8

theorem agrees_display_iff_longNumber :
    ((number longNumber).isNaN = false ∧ (number lastInteger).isNaN = false ∧
      (text "1000000000000000").isNaN = false) ∧
    ((number longNumber).agrees (text "1000000000000000") = true ∧
      (lastInteger == longNumber) =
        ((number lastInteger).display == (number longNumber).display)) := by
  have hlong : (number longNumber).isNaN = false := by decide +kernel
  have hlast : (number lastInteger).isNaN = false := by decide +kernel
  have hdisplay : (number longNumber).display = (text "1000000000000000").display := by
    decide +kernel
  exact ⟨⟨hlong, hlast, rfl⟩, (agrees_display_iff.1 _ _ hlong rfl).mpr hdisplay,
    agrees_display_iff.2.2 _ _ hlast hlong⟩

/-! ## Equal values -/

theorem beq_self (ha : a.isNaN = false) : (a == a) = true := by
  cases a with
  | number x => exact (beq_iff ha ha).mpr (.inl rfl)
  | text s => exact beq_self_eq_true s

section

variable (ha : a.isNaN = false) (hb : b.isNaN = false) (heq : (a == b) = true)

include ha hb heq

theorem display_of_beq : a.display = b.display := by
  cases a with
  | number x =>
    cases b with
    | number y => exact (display_number_eq_iff ha hb).mpr heq
    | text t => cases heq
  | text s =>
    cases b with
    | number y => cases heq
    | text t => exact beq_iff_eq.mp heq

/-- Equal values agree with the same cells. -/
theorem agrees_of_beq (v : Value) : v.agrees a = v.agrees b := by
  have hdisplay := display_of_beq ha hb heq
  cases hv : v.isNaN with
  | false => rw [Bool.eq_iff_iff, agrees_iff hv ha, agrees_iff hv hb, hdisplay]
  | true =>
    cases v with
    | text s => cases hv
    | number x =>
      have hnan := beq_eq_false_of_isNaN hv
      cases a with
      | number y =>
        cases b with
        | number z => exact (hnan y).trans (hnan z).symm
        | text t => cases heq
      | text s =>
        cases b with
        | number z => cases heq
        | text t => rw [show s = t from hdisplay]

end

/-- No text is parsed as a NaN. -/
theorem isNaN_parse (raw : String) : (parse raw).isNaN = false := by
  unfold parse
  dsimp only
  split
  · split
    · rename_i hx
      exact isNaN_of_isFinite hx
    · rfl
  · rfl

end Trendline.Value
