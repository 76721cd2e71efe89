import Trendline.Proofs.Dataset.Series
import Trendline.Proofs.Value.Agreement

/-!
# Predicates that say the same

Two predicates are alike when they read the same columns, are displayed alike and hold of the same
rows.  Nothing else of a predicate counts for a selection.

* `alike_equals`: a column compared with equal values.
* `matchingRows_of_alike`, `selectSeries_of_alike`: alike predicates select the same.
-/

namespace Trendline

/-- Whether two predicates say the same of every table. -/
structure Predicate.Alike (p q : Predicate) : Prop where
  columns : p.columns = q.columns
  display : p.display = q.display
  holds : ∀ (d : Dataset) (row : Row), p.holds d row = q.holds d row

theorem Predicate.Alike.refl (p : Predicate) : p.Alike p :=
  ⟨rfl, rfl, fun _ _ => rfl⟩

theorem Predicate.alike_equals (column : String) {v w : Value} (hv : v.isNaN = false)
    (hw : w.isNaN = false) (heq : (v == w) = true) :
    (equals column v).Alike (equals column w) where
  columns := rfl
  display := by rw [Predicate.display, Predicate.display, Value.display_of_beq hv hw heq]
  holds := by
    intro d row
    simp only [Predicate.holds, Value.agrees_of_beq hv hw heq]

/-- One predicate of a list may be replaced by one that is alike. -/
theorem Predicate.forall₂_alike {p q : Predicate} (h : p.Alike q) (before after : List Predicate) :
    List.Forall₂ Predicate.Alike (before ++ p :: after) (before ++ q :: after) := by
  have hself : ∀ ps : List Predicate, List.Forall₂ Predicate.Alike ps ps :=
    fun ps => List.forall₂_same.mpr fun p _ => .refl p
  exact List.rel_append (hself before) (.cons h (hself after))

namespace Dataset

variable {d : Dataset} {ps qs : List Predicate} (h : List.Forall₂ Predicate.Alike ps qs)

include h

theorem flatMap_columns_of_alike : ps.flatMap Predicate.columns = qs.flatMap Predicate.columns := by
  induction h with
  | nil => rfl
  | cons hpq _ ih => rw [List.flatMap_cons, List.flatMap_cons, hpq.columns, ih]

theorem map_display_of_alike : ps.map Predicate.display = qs.map Predicate.display := by
  induction h with
  | nil => rfl
  | cons hpq _ ih => rw [List.map_cons, List.map_cons, hpq.display, ih]

theorem selects_of_alike (row : Row) : d.selects ps row = d.selects qs row := by
  induction h with
  | nil => rfl
  | cons hpq _ ih =>
    rw [selects, selects] at ih ⊢
    rw [List.all_cons, List.all_cons, hpq.holds, ih]

theorem selected_of_alike : d.selected ps = d.selected qs :=
  List.filter_congr fun row _ => selects_of_alike h row

theorem selectionLabel_of_alike (y : String) : selectionLabel ps y = selectionLabel qs y := by
  have hdisplay := map_display_of_alike h
  cases h with
  | nil => rfl
  | cons _ _ => simp only [selectionLabel, hdisplay]

/-- **Alike predicates match the same rows**, or fail alike. -/
theorem matchingRows_of_alike : d.matchingRows ps = d.matchingRows qs := by
  refine eq_of_fault?_eq ?_ fun rows => ?_
  · rw [fault?_matchingRows, fault?_matchingRows, flatMap_columns_of_alike h]
  · rw [matchingRows_eq_ok_iff_selected, matchingRows_eq_ok_iff_selected, selected_of_alike h,
      ← List.forall_mem_flatMap, ← List.forall_mem_flatMap, flatMap_columns_of_alike h]

/-- **Alike predicates select the same series**, name included, or fail alike. -/
theorem selectSeries_of_alike (x y : String) : d.selectSeries ps x y = d.selectSeries qs x y := by
  have hnames : namesRead ps x y = namesRead qs x y := by
    rw [namesRead, namesRead, flatMap_columns_of_alike h]
  refine eq_of_fault?_eq ?_ fun s => ?_
  · rw [fault?_selectSeries, fault?_selectSeries, hnames, selected_of_alike h]
  · rw [selectSeries_eq_ok_iff, selectSeries_eq_ok_iff, hnames, selected_of_alike h,
      selectionLabel_of_alike h]

end Dataset

end Trendline
