import Trendline.Dataset.Selection
import Trendline.Proofs.Dataset.Columns
import Trendline.Proofs.Errors

/-!
# Selected rows

* `exists_resolveAll_iff`: the columns of predicates are found when all of them
  are in the header.
* `matchingRows_eq_ok_iff`: the rows selected are those that pass the tests.
* `matchingRows_append_equals`: one more predicate on a column narrows the
  selection to the rows that agree there, in their order.
-/

namespace Trendline.Dataset

variable {d : Dataset}

theorem exists_resolve_iff {p : Predicate} :
    (∃ test, d.resolve p = .ok test) ↔ ∀ name ∈ p.columns, name ∈ d.columns := by
  cases p with
  | equals column value =>
    rw [Predicate.columns, List.forall_mem_singleton, ← columnIndex_eq_ok_iff, resolve]
    constructor
    · rintro ⟨test, h⟩
      obtain ⟨i, hi, _⟩ := bind_eq_ok_iff.mp h
      exact ⟨i, hi⟩
    · rintro ⟨i, hi⟩
      exact ⟨_, bind_eq_ok_iff.mpr ⟨i, hi, rfl⟩⟩
  | columnsEqual left right =>
    rw [Predicate.columns, List.forall_mem_cons, List.forall_mem_singleton, ← columnIndex_eq_ok_iff,
      ← columnIndex_eq_ok_iff, resolve]
    constructor
    · rintro ⟨test, h⟩
      obtain ⟨l, hl, h⟩ := bind_eq_ok_iff.mp h
      obtain ⟨r, hr, _⟩ := bind_eq_ok_iff.mp h
      exact ⟨⟨l, hl⟩, r, hr⟩
    · rintro ⟨⟨l, hl⟩, r, hr⟩
      exact ⟨_, bind_eq_ok_iff.mpr ⟨l, hl, bind_eq_ok_iff.mpr ⟨r, hr, rfl⟩⟩⟩

theorem resolveAll_cons_eq_ok_iff {p : Predicate} {rest : List Predicate} {tests : List CellTest} :
    d.resolveAll (p :: rest) = .ok tests ↔
      ∃ test others, d.resolve p = .ok test ∧ d.resolveAll rest = .ok others ∧
        tests = test :: others := by
  rw [resolveAll, bind_eq_ok_iff]
  constructor
  · rintro ⟨test, htest, h⟩
    obtain ⟨others, hothers, h⟩ := bind_eq_ok_iff.mp h
    cases h
    exact ⟨test, others, htest, hothers, rfl⟩
  · rintro ⟨test, others, htest, hothers, rfl⟩
    exact ⟨test, htest, bind_eq_ok_iff.mpr ⟨others, hothers, rfl⟩⟩

theorem exists_resolveAll_iff : ∀ {predicates : List Predicate},
    (∃ tests, d.resolveAll predicates = .ok tests) ↔
      ∀ p ∈ predicates, ∀ name ∈ p.columns, name ∈ d.columns := by
  intro predicates
  induction predicates with
  | nil => exact ⟨fun _ => nofun, fun _ => ⟨[], rfl⟩⟩
  | cons p rest ih =>
    rw [List.forall_mem_cons, ← exists_resolve_iff, ← ih]
    constructor
    · rintro ⟨tests, h⟩
      obtain ⟨test, others, htest, hothers, -⟩ := resolveAll_cons_eq_ok_iff.mp h
      exact ⟨⟨test, htest⟩, others, hothers⟩
    · rintro ⟨⟨test, htest⟩, others, hothers⟩
      exact ⟨_, resolveAll_cons_eq_ok_iff.mpr ⟨test, others, htest, hothers, rfl⟩⟩

theorem resolveAll_append_singleton {p : Predicate} {test : CellTest}
    (hp : d.resolve p = .ok test) : ∀ {predicates : List Predicate} {tests : List CellTest},
      d.resolveAll predicates = .ok tests →
        d.resolveAll (predicates ++ [p]) = .ok (tests ++ [test]) := by
  intro predicates
  induction predicates with
  | nil =>
    intro tests h
    cases h
    exact resolveAll_cons_eq_ok_iff.mpr ⟨test, [], hp, rfl, rfl⟩
  | cons p' rest ih =>
    intro tests h
    obtain ⟨test', others, htest', hothers, rfl⟩ := resolveAll_cons_eq_ok_iff.mp h
    exact resolveAll_cons_eq_ok_iff.mpr ⟨test', others ++ [test], htest', ih hothers, rfl⟩

theorem matchingRows_eq_ok_iff {predicates : List Predicate} {rows : List Row} :
    d.matchingRows predicates = .ok rows ↔
      ∃ tests, d.resolveAll predicates = .ok tests ∧
        d.rows.filter (fun row => tests.all (·.holds row)) = rows := by
  rw [matchingRows, bind_eq_ok_iff]
  simp [pure, Except.pure]

theorem matchingRows_sublist {predicates : List Predicate} {rows : List Row}
    (h : d.matchingRows predicates = .ok rows) : rows.Sublist d.rows := by
  obtain ⟨tests, -, rfl⟩ := matchingRows_eq_ok_iff.mp h
  exact List.filter_sublist

theorem matchingRows_append_equals {predicates : List Predicate} {rows : List Row} {name : String}
    {column : Nat} (value : Value) (h : d.matchingRows predicates = .ok rows)
    (hcolumn : d.columnIndex name = .ok column) :
    d.matchingRows (predicates ++ [.equals name value]) =
      .ok (rows.filter fun row => (row.cell column).agrees value) := by
  obtain ⟨tests, htests, rfl⟩ := matchingRows_eq_ok_iff.mp h
  have hresolve : d.resolve (.equals name value) = .ok (.agreesWith column value) := by
    rw [resolve, hcolumn]
    rfl
  refine matchingRows_eq_ok_iff.mpr ⟨_, resolveAll_append_singleton hresolve htests, ?_⟩
  rw [List.filter_filter]
  apply List.filter_congr
  intro row _
  rw [List.all_append, Bool.and_comm]
  simp [CellTest.holds]

theorem distinctValues_eq {name : String} {column : Nat} (h : d.columnIndex name = .ok column) :
    d.distinctValues name = .ok (distinctFrom [] (d.rows.map (·.cell column))) := by
  rw [distinctValues, h]
  rfl

end Trendline.Dataset
