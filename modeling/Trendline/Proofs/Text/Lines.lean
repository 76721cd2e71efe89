import Mathlib.Data.List.Basic
import Trendline.Proofs.Decimal.Reader

/-!
# Texts of one line

* `splitOn_join`: lines that are joined with an end of line each are the lines
  of the text.
* `oneLine_fixed`: a number with a fixed count of places is written on one line.
-/

namespace Trendline.Text

/-- A text without an end of line. -/
def OneLine (s : String) : Prop :=
  '\n' ∉ s.toList

instance (s : String) : Decidable (OneLine s) :=
  inferInstanceAs (Decidable ('\n' ∉ s.toList))

theorem oneLine_append {s t : String} : OneLine (s ++ t) ↔ OneLine s ∧ OneLine t := by
  rw [OneLine, String.toList_append, List.mem_append, not_or]
  rfl

theorem oneLine_ofList {cs : List Char} : OneLine (String.ofList cs) ↔ '\n' ∉ cs := by
  rw [OneLine, String.toList_ofList]

theorem splitOn_join : ∀ (ls : List String), (∀ s ∈ ls, OneLine s) →
    (String.join (ls.map (· ++ "\n"))).toList.splitOn '\n' = ls.map String.toList ++ [[]] := by
  intro ls
  induction ls with
  | nil =>
    intro _
    rfl
  | cons s rest ih =>
    intro h
    obtain ⟨hs, hrest⟩ := List.forall_mem_cons.mp h
    have htext : (String.join ((s :: rest).map (· ++ "\n"))).toList =
        s.toList ++ '\n' :: (String.join (rest.map (· ++ "\n"))).toList := by
      rw [List.map_cons, String.join_cons, String.toList_append, String.toList_append,
        List.append_assoc]
      rfl
    rw [htext, List.splitOn_append_cons_of_beq _ _ (beq_self_eq_true _),
      List.splitOn_eq_singleton hs, ih hrest]
    rfl

/-! ## Numbers -/

open Trendline.Decimal

theorem not_mem_of_allDigits {ds : List Char} (h : AllDigits ds) : '\n' ∉ ds := by
  intro hmem
  exact absurd (h _ hmem) (by decide)

theorem not_mem_signText (negative : Bool) : '\n' ∉ signText negative := by
  cases negative <;> decide

theorem not_mem_nonFiniteText (x : Float) : '\n' ∉ nonFiniteText x := by
  rw [nonFiniteText]
  split
  · decide
  · rw [List.mem_append]
    exact fun h => h.elim (not_mem_signText _) (by decide)

theorem not_mem_unitsText (places units : Nat) : '\n' ∉ unitsText places units := by
  have hwhole := not_mem_of_allDigits (allDigits_digitsOf (units / Nat.pow 10 places))
  have hpart := not_mem_of_allDigits (allDigits_digitsOf (units % Nat.pow 10 places))
  rw [unitsText]
  split
  · exact hwhole
  · simp only [List.mem_append, List.mem_cons, not_or]
    exact ⟨⟨hwhole, by decide, not_mem_of_allDigits (allDigits_zeros _)⟩, hpart⟩

theorem oneLine_fixed (places : Nat) (x : Float) : OneLine (fixed places x) := by
  rw [fixed, oneLine_ofList]
  split
  · rw [List.mem_append]
    exact fun h => h.elim (not_mem_signText _) (not_mem_unitsText _ _)
  · exact not_mem_nonFiniteText x

end Trendline.Text
