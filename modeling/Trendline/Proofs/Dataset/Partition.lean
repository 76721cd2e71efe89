import Trendline.Proofs.Dataset.Distinct
import Trendline.Proofs.Dataset.Selection

/-!
# Grouping by a column

Selecting once more for each distinct value of a column deals the selected rows
out to the values.

* `perm_flatMap_filter`: tests of which each element passes exactly one split a
  list without loss.
* `partitions_distinctFrom`: the distinct values of a column are such tests.
* `matchingRows_partition`: the statement about whole datasets.
-/

namespace Trendline

/-- Tests of which each element of a list passes exactly one split the list without loss. -/
theorem perm_flatMap_filter {α κ : Type} {p : κ → α → Bool} : ∀ (keys : List κ) {l : List α},
    keys.Pairwise (fun k k' => ∀ a ∈ l, p k a = true → p k' a = false) →
    (∀ a ∈ l, ∃ k ∈ keys, p k a = true) → (keys.flatMap fun k => l.filter (p k)).Perm l := by
  intro keys
  induction keys with
  | nil =>
    intro l _ hcover
    have hl : l = [] := by
      apply List.eq_nil_iff_forall_not_mem.mpr
      intro a ha
      obtain ⟨k, hk, _⟩ := hcover a ha
      cases hk
    rw [hl]
    exact List.Perm.nil
  | cons k rest ih =>
    intro l hdisjoint hcover
    obtain ⟨hk, hrest⟩ := List.pairwise_cons.mp hdisjoint
    -- the other tests see only what the first one leaves
    have hleft : ∀ k' ∈ rest, l.filter (p k') = (l.filter fun a => !p k a).filter (p k') := by
      intro k' hk'
      rw [List.filter_filter]
      apply List.filter_congr
      intro a ha
      cases hpa : p k a with
      | false => simp
      | true => simp [hk k' hk' a ha hpa]
    have hperm := @ih (l.filter fun a => !p k a)
      (hrest.imp fun h a ha => h a (List.mem_of_mem_filter ha)) (by
        intro a ha
        obtain ⟨hal, hpa⟩ := List.mem_filter.mp ha
        obtain ⟨k', hk', hpa'⟩ := hcover a hal
        rcases List.mem_cons.mp hk' with rfl | hk'
        · rw [hpa'] at hpa
          cases hpa
        · exact ⟨k', hk', hpa'⟩)
    rw [List.flatMap_cons, List.flatMap_congr hleft]
    exact (List.Perm.append_left _ hperm).trans (List.filter_append_perm _ l)

namespace Dataset

/-- The rows are dealt out to the groups: each to exactly one, in the order they stand in. -/
structure Partitions (groups : List Value) (part : Value → List Row) (rows : List Row) : Prop where
  exactlyOne : ∀ row ∈ rows, ∃! i : Fin groups.length, row ∈ part groups[i]
  sublist : ∀ g ∈ groups, (part g).Sublist rows
  perm : (groups.flatMap part).Perm rows
  count : (groups.map fun g => (part g).length).sum = rows.length

theorem nanFree_cells {d : Dataset} (hnan : ∀ row ∈ d.rows, NaNFree row.values) (column : Nat) :
    NaNFree (d.rows.map (·.cell column)) := by
  intro v hv
  obtain ⟨row, hrow, rfl⟩ := List.mem_map.mp hv
  show (row.values.getD column Value.empty).isNaN = false
  rw [List.getD_eq_getElem?_getD]
  cases h : row.values[column]? with
  | none => rfl
  | some w => exact hnan row hrow w (List.mem_of_getElem? h)

section

variable {d : Dataset} (hnan : ∀ row ∈ d.rows, NaNFree row.values) (column : Nat)

include hnan

theorem isNaN_of_mem_distinctFrom :
    ∀ g ∈ distinctFrom [] (d.rows.map (·.cell column)), g.isNaN = false :=
  fun g hg => nanFree_cells hnan column g (mem_distinctFrom hg).1

theorem isNaN_cell : ∀ row ∈ d.rows, (row.cell column).isNaN = false :=
  fun _ hrow => nanFree_cells hnan column _ (List.mem_map_of_mem hrow)

/-- A cell agrees with one of the distinct values at least. -/
theorem exists_cell_agrees : ∀ row ∈ d.rows,
    ∃ g ∈ distinctFrom [] (d.rows.map (·.cell column)), (row.cell column).agrees g = true := by
  intro row hrow
  obtain ⟨g, hg, hagrees⟩ := exists_agrees_distinctFrom (nanFree_cells hnan column) _
    (List.mem_map_of_mem hrow)
  exact ⟨g, hg, Value.agrees_symm (isNaN_of_mem_distinctFrom hnan column g hg)
    (isNaN_cell hnan column row hrow) hagrees⟩

/-- A cell agrees with one of the distinct values at most. -/
theorem pairwise_cell_agrees : (distinctFrom [] (d.rows.map (·.cell column))).Pairwise fun g g' =>
    ∀ row ∈ d.rows, (row.cell column).agrees g = true → (row.cell column).agrees g' = false := by
  refine (pairwise_distinctFrom _ _).imp_of_mem ?_
  intro g g' hg hg' hne row hrow hagrees
  have hnang := isNaN_of_mem_distinctFrom hnan column g hg
  have hnang' := isNaN_of_mem_distinctFrom hnan column g' hg'
  have hnanc := isNaN_cell hnan column row hrow
  rw [← Bool.not_eq_true]
  intro hagrees'
  have h := Value.agrees_trans hnang hnanc hnang' (Value.agrees_symm hnanc hnang hagrees) hagrees'
  rw [hne] at h
  cases h

theorem partitions_distinctFrom {rows : List Row} (hrows : rows.Sublist d.rows) :
    Partitions (distinctFrom [] (d.rows.map (·.cell column)))
      (fun g => rows.filter fun row => (row.cell column).agrees g) rows := by
  have hpair := pairwise_cell_agrees hnan column
  have hcover : ∀ row ∈ rows, _ := fun row hrow =>
    exists_cell_agrees hnan column row (hrows.subset hrow)
  generalize distinctFrom [] (d.rows.map (·.cell column)) = groups at *
  have hperm : (groups.flatMap fun g =>
      rows.filter fun row => (row.cell column).agrees g).Perm rows :=
    perm_flatMap_filter groups (hpair.imp fun h row hrow => h row (hrows.subset hrow)) hcover
  refine ⟨?_, fun g _ => List.filter_sublist, hperm, ?_⟩
  · intro row hrow
    obtain ⟨g, hg, hagrees⟩ := hcover row hrow
    obtain ⟨i, hi, rfl⟩ := List.getElem_of_mem hg
    refine ⟨⟨i, hi⟩, List.mem_filter.mpr ⟨hrow, hagrees⟩, ?_⟩
    rintro ⟨j, hj⟩ hmem
    obtain ⟨-, hagrees'⟩ := List.mem_filter.mp hmem
    have hne := List.pairwise_iff_getElem.mp hpair
    apply Fin.ext
    show j = i
    rcases Nat.lt_trichotomy j i with hlt | heq | hlt
    · have := hne j i hj hi hlt row (hrows.subset hrow) hagrees'
      rw [hagrees] at this
      cases this
    · exact heq
    · have := hne i j hi hj hlt row (hrows.subset hrow) hagrees
      exact absurd (hagrees'.symm.trans this) nofun
  · rw [← hperm.length_eq, List.length_flatMap]

end

/--
**Grouping by a column partitions the selected rows.**  No cell read from CSV is a NaN; and where no
cell is one, every selected row is selected for exactly one of the distinct values of the column.
-/
theorem matchingRows_partition :
    (∀ (source : String) (bytes : List UInt8) (d : Dataset), ofBytes source bytes = .ok d →
      ∀ row ∈ d.rows, NaNFree row.values) ∧
    ∀ (d : Dataset) (name : String) (predicates : List Predicate),
      (∀ row ∈ d.rows, NaNFree row.values) → name ∈ d.columns →
      (∀ p ∈ predicates, ∀ name ∈ p.columns, name ∈ d.columns) →
      ∃ (column : Nat) (groups : List Value) (rows : List Row) (part : Value → List Row),
        d.columnIndex name = .ok column ∧ d.distinctValues name = .ok groups ∧
        d.matchingRows predicates = .ok rows ∧
        (∀ g, d.matchingRows (predicates ++ [.equals name g]) = .ok (part g)) ∧
        Partitions groups part rows ∧ rows.Sublist d.rows ∧
        InOrder groups (d.rows.map (·.cell column)) := by
  refine ⟨fun source bytes d => nanFree_ofBytes, ?_⟩
  intro d name predicates hnan hname hpredicates
  obtain ⟨column, hcolumn⟩ := columnIndex_eq_ok_iff.mpr hname
  obtain ⟨tests, htests⟩ := exists_resolveAll_iff.mpr hpredicates
  have hrows := matchingRows_eq_ok_iff.mpr ⟨tests, htests, rfl⟩
  have hsublist := matchingRows_sublist hrows
  exact ⟨column, _, _, _, hcolumn, distinctValues_eq hcolumn, hrows,
    fun g => matchingRows_append_equals g hrows hcolumn,
    partitions_distinctFrom hnan column hsublist, hsublist,
    inOrder_distinctFrom (nanFree_cells hnan column)⟩

/-- The number one, the text of it, both zeros and infinity in a column with a text beside them. -/
def mixedCells : Dataset :=
  ofValues "cells" ["g", "h"]
    [[.number (Float.ofBits 0x3ff0000000000000), .text "a"], [.text "1", .text "b"],
      [.number (Float.ofBits 0), .text "a"], [.number (Float.ofBits 0x8000000000000000), .text "a"],
      [.number (Float.ofBits 0x7ff0000000000000), .text "a"], [.text "inf", .text "a"]]

theorem matchingRows_partition_mixedCells :
    ((∀ row ∈ mixedCells.rows, NaNFree row.values) ∧ "g" ∈ mixedCells.columns ∧
      ∀ p ∈ [Predicate.equals "h" (.text "a")], ∀ name ∈ p.columns, name ∈ mixedCells.columns) ∧
    ∃ (column : Nat) (groups : List Value) (rows : List Row) (part : Value → List Row),
      mixedCells.columnIndex "g" = .ok column ∧ mixedCells.distinctValues "g" = .ok groups ∧
      mixedCells.matchingRows [.equals "h" (.text "a")] = .ok rows ∧
      (∀ g, mixedCells.matchingRows ([.equals "h" (.text "a")] ++ [.equals "g" g]) =
        .ok (part g)) ∧
      Partitions groups part rows ∧ rows.Sublist mixedCells.rows ∧
      InOrder groups (mixedCells.rows.map (·.cell column)) := by
  have hnan : ∀ row ∈ mixedCells.rows, NaNFree row.values := by
    unfold NaNFree
    decide +kernel
  have hname : "g" ∈ mixedCells.columns := by decide
  have hpredicates : ∀ p ∈ [Predicate.equals "h" (.text "a")], ∀ name ∈ p.columns,
      name ∈ mixedCells.columns := by decide
  exact ⟨⟨hnan, hname, hpredicates⟩,
    matchingRows_partition.2 mixedCells "g" [.equals "h" (.text "a")] hnan hname hpredicates⟩

end Dataset

end Trendline
