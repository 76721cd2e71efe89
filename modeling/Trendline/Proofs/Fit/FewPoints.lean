import Trendline.CommandLine.Command
import Trendline.Proofs.Decimal.Reader
import Trendline.Proofs.Fit.Spaces
import Trendline.Proofs.Value.Numbers

/-!
# Series with too few points

A polynomial needs a point more than its degree.  That number has to be a word like the degree
itself, and of the largest degree it is none: there alone no series is refused, and the fit
overflows.

* `readWord_digitsOf`: every word is read from its digits.
* `exists_readDegree_iff`: every degree but zero can be asked for.
* `fitSeriesWith_of_size_le`: how the fit of a series with too few points ends.
-/

namespace Trendline

namespace Decimal

theorem le_ofDigitChars (ds : List Char) (n : Nat) : n ≤ Nat.ofDigitChars 10 ds n := by
  rw [Nat.ofDigitChars_eq_ofDigitChars_zero]
  have hpow : 1 ≤ 10 ^ ds.length := Nat.one_le_two_pow.trans (Nat.pow_le_pow_left (by decide) _)
  calc n = 1 * n := (Nat.one_mul n).symm
    _ ≤ 10 ^ ds.length * n := Nat.mul_le_mul_right n hpow
    _ ≤ _ := Nat.le_add_right _ _

/-- Digits are read as far as their number stays a word. -/
theorem appendDigits_of_lt : ∀ {ds : List Char} {n : Nat}, AllDigits ds →
    Nat.ofDigitChars 10 ds n < UInt64.size →
      appendDigits n ds = .ok (Nat.ofDigitChars 10 ds n) := by
  intro ds
  induction ds with
  | nil =>
    intro n _ _
    rfl
  | cons c rest ih =>
    intro n hdigits hlt
    obtain ⟨hc, hrest⟩ := List.forall_mem_cons.mp hdigits
    rw [Nat.ofDigitChars_cons] at hlt ⊢
    have hword := (le_ofDigitChars rest _).trans_lt hlt
    rw [appendDigits, hc]
    dsimp only
    rw [if_neg (by simp), if_neg (Nat.not_le.mpr hword)]
    exact ih hrest hlt

/-- A text that begins with a digit has no sign to be taken off. -/
theorem readWord_of_allDigits {ds : List Char} (hdigits : AllDigits ds) (hne : ds ≠ []) :
    readWord ds = (appendDigits 0 ds).map UInt64.ofNat := by
  have hplus : '+'.isDigit = false := rfl
  unfold readWord
  split
  · exact absurd rfl hne
  · exact absurd (hdigits '+' List.mem_cons_self) (by simp [hplus])
  · exact absurd (hdigits '+' List.mem_cons_self) (by simp [hplus])
  · rfl

/-- **Every word is read from its digits.** -/
theorem readWord_digitsOf (w : UInt64) : readWord (digitsOf w.toNat) = .ok w := by
  have hvalue : Nat.ofDigitChars 10 (digitsOf w.toNat) 0 = w.toNat :=
    Nat.ofDigitChars_ten_toDigits
  rw [readWord_of_allDigits (allDigits_digitsOf _) (digitsOf_ne_nil _),
    appendDigits_of_lt (allDigits_digitsOf _) (hvalue.trans_lt w.toNat_lt), hvalue]
  exact congrArg Except.ok UInt64.ofNat_toNat

end Decimal

/-! ## Degrees -/

/-- **Every degree but zero can be asked for.** -/
theorem CommandLine.exists_readDegree_iff (degree : UInt64) :
    (∃ text, readDegree text = .ok degree) ↔ degree ≠ 0 := by
  constructor
  · rintro ⟨text, h⟩ rfl
    unfold readDegree at h
    split at h
    · cases h
    · split at h
      · cases h
      · rename_i hword hne
        exact hne (Except.ok.inj h)
  · intro hne
    have htrim : Text.trim (String.ofList (Decimal.digitsOf degree.toNat)) =
        String.ofList (Decimal.digitsOf degree.toNat) := by
      refine Text.trim_of_forall fun c hc => ?_
      rw [String.toList_ofList] at hc
      exact isBlank_of_isDigit (Decimal.allDigits_digitsOf _ c hc)
    refine ⟨String.ofList (Decimal.digitsOf degree.toNat), ?_⟩
    rw [readDegree, htrim, String.toList_ofList, Decimal.readWord_digitsOf]
    exact if_neg hne

variable {α : Type} [Scalar α] {solve : LeastSquares.Solver α} {degree : UInt64}

/-- **A series with too few points.**  Any degree but zero can be asked for.  A series that has no
more points than the degree counts is refused with the number that it takes, whatever solver there
is; only of the largest degree that number is no word, and the fit overflows, as that of any series
does. -/
theorem fitSeriesWith_of_size_le (solve : LeastSquares.Solver α) {s : Series α} (space : Space)
    (hsize : s.size ≤ degree.toNat) :
    ((∃ text, CommandLine.readDegree text = .ok degree) ↔ degree ≠ 0) ∧
    ((∃ text, CommandLine.readDegree text = .ok degree) →
      fitSeriesWith solve s space degree =
        if degree.toNat + 1 < 2 ^ 64 then
          .error (.refused (.insufficientData (degree.toNat + 1) s.size))
        else .error .overflow) := by
  refine ⟨CommandLine.exists_readDegree_iff degree, fun h => ?_⟩
  have hne := (CommandLine.exists_readDegree_iff degree).mp h
  split
  · exact fitSeriesWith_of_few ‹_› hne hsize
  · exact fitSeriesWith_eq_overflow_iff.mpr ‹_›

/-- A series of a single point. -/
def onePoint : Series Float :=
  ⟨"one point", [(1, 2)]⟩

theorem fitSeriesWith_of_size_le_onePoint :
    (onePoint.size ≤ (18446744073709551614 : UInt64).toNat ∧
      CommandLine.readDegree " 18446744073709551614" = .ok 18446744073709551614) ∧
    fitSeriesWith LeastSquares.solve? onePoint .linear 18446744073709551614 =
      .error (.refused (.insufficientData 18446744073709551615 1)) := by
  have hsize : onePoint.size ≤ (18446744073709551614 : UInt64).toNat := by decide
  have hread : CommandLine.readDegree " 18446744073709551614" = .ok 18446744073709551614 := by
    decide
  exact ⟨⟨hsize, hread⟩,
    ((fitSeriesWith_of_size_le LeastSquares.solve? .linear hsize).2 ⟨_, hread⟩).trans rfl⟩

theorem not_fitSeries_of_size_le_greatest :
    CommandLine.readDegree "18446744073709551615" = .ok 18446744073709551615 ∧
    onePoint.size ≤ (18446744073709551615 : UInt64).toNat ∧
    fitSeries onePoint .linear 18446744073709551615 ≠
      .error (.refused (.insufficientData 18446744073709551616 1)) := by
  refine ⟨by decide, by decide, ?_⟩
  rw [fitSeries, fitSeriesWith_eq_overflow_iff.mpr (by decide)]
  intro h
  cases h

end Trendline
