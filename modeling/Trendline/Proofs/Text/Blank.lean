import Mathlib.Data.List.DropRight
import Trendline.Text.Blank

/-!
# Trimmed texts

* `isTrimmed_trim`: a trimmed text neither begins nor ends with a blank.
* `trim_trim`: trimming such a text again leaves it as it is.
* `head?_trim`: a text that does not begin with a blank begins as it did.
* `trim_isInfix`, `isAllBlank_trim`: what is left is a part of the text, and is blank only if all was.
-/

namespace Trendline.Text

/-- Neither the first nor the last element satisfies the test. -/
def Bare {σ : Type} (p : σ → Bool) (cs : List σ) : Prop :=
  (∀ c, cs.head? = some c → p c = false) ∧ ∀ c, cs.getLast? = some c → p c = false

/-- Whether a text neither begins nor ends with a blank. -/
def IsTrimmed (s : String) : Prop :=
  Bare isBlank s.toList

section

variable {σ : Type} {p : σ → Bool}

theorem bare_trimBy (p : σ → Bool) (cs : List σ) : Bare p (trimBy p cs) := by
  rcases eq_or_ne (trimBy p cs) [] with h | hne
  · simp [h, Bare]
  · have hpre : trimBy p cs <+: cs.dropWhile p := List.rdropWhile_prefix p _
    constructor
    · intro c hc
      rw [List.head?_eq_some_head hne, hpre.head hne] at hc
      rw [← Option.some.inj hc]
      exact List.head_dropWhile_not p _
    · intro c hc
      rw [List.getLast?_eq_some_getLast hne] at hc
      rw [← Option.some.inj hc, ← Bool.not_eq_true]
      exact List.rdropWhile_last_not p _ hne

theorem trimBy_of_bare {cs : List σ} (h : Bare p cs) : trimBy p cs = cs := by
  have hdrop : cs.dropWhile p = cs := by
    apply List.dropWhile_eq_self_iff.mpr
    intro hl
    rw [Bool.not_eq_true]
    exact h.1 _ (List.head?_eq_getElem? ▸ List.getElem?_eq_getElem hl)
  have hrdrop : cs.rdropWhile p = cs := by
    apply List.rdropWhile_eq_self_iff.mpr
    intro hl
    rw [Bool.not_eq_true]
    exact h.2 _ (List.getLast?_eq_some_getLast hl)
  show (cs.dropWhile p).rdropWhile p = cs
  rw [hdrop, hrdrop]

theorem trimBy_isInfix (p : σ → Bool) (cs : List σ) : trimBy p cs <:+: cs :=
  (List.rdropWhile_prefix p _).isInfix.trans (List.dropWhile_suffix p).isInfix

theorem all_trimBy (p : σ → Bool) (cs : List σ) : (trimBy p cs).all p = cs.all p := by
  rw [Bool.eq_iff_iff, List.all_eq_true, List.all_eq_true]
  constructor
  · intro h
    have hnil : trimBy p cs = [] := by
      cases htrim : trimBy p cs with
      | nil => rfl
      | cons c rest =>
        have hbare := (bare_trimBy p cs).1 c (by rw [htrim, List.head?_cons])
        rw [h c (by rw [htrim]; exact List.mem_cons_self)] at hbare
        cases hbare
    -- nothing is left of what begins with an element that fails the test
    have hdrop : cs.dropWhile p = [] := by
      by_contra hne
      have hhead := List.rdropWhile_eq_nil_iff.mp hnil _ (List.head_mem hne)
      rw [List.head_dropWhile_not p hne] at hhead
      cases hhead
    exact List.dropWhile_eq_nil_iff.mp hdrop
  · exact fun h c hc => h c ((trimBy_isInfix p cs).mem hc)

theorem head?_trimBy {cs : List σ} {c : σ} (h : cs.head? = some c) (hc : p c = false) :
    (trimBy p cs).head? = some c := by
  obtain ⟨rest, rfl⟩ := List.head?_eq_some_iff.mp h
  have htrim : trimBy p (c :: rest) = (c :: rest).rdropWhile p := by
    show ((c :: rest).dropWhile p).rdropWhile p = _
    rw [List.dropWhile_cons_of_neg (Bool.not_eq_true _ ▸ hc)]
  have hne : (c :: rest).rdropWhile p ≠ [] := by
    intro hnil
    have := List.rdropWhile_eq_nil_iff.mp hnil c List.mem_cons_self
    rw [hc] at this
    cases this
  rw [htrim, List.head?_eq_some_head hne, (List.rdropWhile_prefix p _).head hne, List.head_cons]

end

theorem isTrimmed_trim (s : String) : IsTrimmed (trim s) := by
  rw [IsTrimmed, trim, String.toList_ofList]
  exact bare_trimBy isBlank s.toList

theorem trim_of_isTrimmed {s : String} (h : IsTrimmed s) : trim s = s := by
  rw [trim, trimBy_of_bare h, String.ofList_toList]

@[simp] theorem trim_trim (s : String) : trim (trim s) = trim s :=
  trim_of_isTrimmed (isTrimmed_trim s)

theorem trim_isInfix (s : String) : (trim s).toList <:+: s.toList := by
  rw [trim, String.toList_ofList]
  exact trimBy_isInfix isBlank s.toList

@[simp] theorem isAllBlank_trim (s : String) : isAllBlank (trim s) = isAllBlank s := by
  rw [isAllBlank, trim, String.toList_ofList, all_trimBy]
  rfl

theorem head?_trim {s : String} {c : Char} (h : s.toList.head? = some c)
    (hc : isBlank c = false) : (trim s).toList.head? = some c := by
  rw [trim, String.toList_ofList]
  exact head?_trimBy h hc

end Trendline.Text
