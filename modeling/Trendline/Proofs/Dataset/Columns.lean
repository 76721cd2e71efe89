import Trendline.Dataset.Basic

/-!
# Columns by name

* `lastIndex?_eq_none_iff`: a name has no position exactly when it does not occur.
* `getElem?_of_lastIndex?`: at the position of a name stands the name.
* `columnIndex_eq_ok_iff`, `columnIndex_eq_error_iff`: looking up a column
  succeeds for the names in the header, and names the missing column otherwise.
-/

namespace Trendline.Dataset

theorem lastIndex?_eq_none_iff {name : String} : ∀ {columns : List String},
    lastIndex? name columns = none ↔ name ∉ columns := by
  intro columns
  induction columns with
  | nil => simp [lastIndex?]
  | cons column rest ih =>
    rw [lastIndex?, List.mem_cons, not_or]
    cases h : lastIndex? name rest with
    | some i =>
      have hmem : name ∈ rest := by
        apply Decidable.byContradiction
        intro hn
        rw [ih.mpr hn] at h
        cases h
      simp [hmem]
    | none =>
      have hmem : name ∉ rest := ih.mp h
      by_cases hc : column = name
      · simp [hc]
      · simp [hc, hmem, Ne.symm hc]

theorem getElem?_of_lastIndex? {name : String} : ∀ {columns : List String} {i : Nat},
    lastIndex? name columns = some i → columns[i]? = some name := by
  intro columns
  induction columns with
  | nil => simp [lastIndex?]
  | cons column rest ih =>
    intro i h
    rw [lastIndex?] at h
    cases hrest : lastIndex? name rest with
    | some j =>
      rw [hrest] at h
      obtain rfl := Option.some.inj h
      rw [List.getElem?_cons_succ]
      exact ih hrest
    | none =>
      by_cases hc : column = name
      · rw [hrest, if_pos hc] at h
        obtain rfl := Option.some.inj h
        rw [List.getElem?_cons_zero, hc]
      · rw [hrest, if_neg hc] at h
        cases h

variable {d : Dataset} {name : String}

theorem lastIndex?_of_columnIndex {i : Nat} (h : d.columnIndex name = .ok i) :
    lastIndex? name d.columns = some i := by
  rw [columnIndex] at h
  split at h
  · rename_i hj
    rw [hj, Except.ok.inj h]
  · cases h

theorem columnIndex_eq_error_iff {e : DataError} :
    d.columnIndex name = .error e ↔ name ∉ d.columns ∧ e = .missingColumn d.source name := by
  rw [← lastIndex?_eq_none_iff, columnIndex]
  cases lastIndex? name d.columns with
  | none => simp [eq_comm]
  | some i => simp

theorem columnIndex_eq_ok_iff :
    (∃ i, d.columnIndex name = .ok i) ↔ name ∈ d.columns := by
  cases h : lastIndex? name d.columns with
  | none => simp [columnIndex, h, lastIndex?_eq_none_iff.mp h]
  | some i =>
    have hmem : name ∈ d.columns := by
      apply Decidable.byContradiction
      intro hn
      rw [lastIndex?_eq_none_iff.mpr hn] at h
      cases h
    simp [columnIndex, h, hmem]

end Trendline.Dataset
