import Mathlib.Data.List.Forall2
import Trendline.Proofs.Dataset.Selection

/-!
# Selected series

What a selection means is said here on names: a row has a value under a name
(`value?`), predicates hold of these values, a pair of numbers under two names
is a point.  `selectSeries` looks the names up first and works with positions.

* `matchingRows_eq_ok_iff_selected`: the rows selected are those of which all
  predicates hold.
* `fault?_resolveAll`: the first name that is no column ends the call.
* `pointsOf_eq_ok_iff`, `fault?_pointsOf`: the rows become points one for one, or
  the first row with a text in it ends the call.
* `selectSeries_outcomes`: when a series is selected, which points it has, which
  error comes first, and what becomes of it when the predicates change.
-/

namespace Trendline

/-! ## Rows by name -/

namespace Dataset

/-- What a row has under a name. -/
def value? (d : Dataset) (row : Row) (name : String) : Option Value :=
  (lastIndex? name d.columns).map row.cell

end Dataset

/-- Whether a predicate holds of a row. -/
def Predicate.holds (d : Dataset) (row : Row) : Predicate → Bool
  | equals column value => (d.value? row column).any (·.agrees value)
  | columnsEqual left right =>
    (d.value? row left).any fun v => (d.value? row right).any fun w => v.agrees w

namespace Dataset

/-- Whether all predicates hold of a row. -/
def selects (d : Dataset) (predicates : List Predicate) (row : Row) : Bool :=
  predicates.all (·.holds d row)

/-- The rows of which all predicates hold. -/
def selected (d : Dataset) (predicates : List Predicate) : List Row :=
  d.rows.filter (d.selects predicates)

/-- The names a selection reads, in the order in which it looks them up. -/
def namesRead (predicates : List Predicate) (x y : String) : List String :=
  x :: y :: predicates.flatMap Predicate.columns

/-- The error of the first of the names that is no column. -/
def missingFault? (d : Dataset) (names : List String) : Option DataError :=
  (names.find? (!d.hasColumn ·)).map (.missingColumn d.source)

/-- Whether the row has these two numbers under the names. -/
def HasPoint (d : Dataset) (x y : String) (row : Row) (point : Float × Float) : Prop :=
  d.value? row x = some (.number point.1) ∧ d.value? row y = some (.number point.2)

/-- The error of a row that has a text under a name. -/
def textFault? (d : Dataset) (row : Row) (name : String) : Option DataError :=
  match d.value? row name with
  | some (.text s) => some (.invalidValue d.source row.line name s)
  | _ => none

/-- The error of a row that is no point. -/
def pointFault? (d : Dataset) (x y : String) (row : Row) : Option DataError :=
  (d.textFault? row x).or (d.textFault? row y)

variable {d : Dataset}

theorem value?_of_columnIndex {name : String} {i : Nat} (h : d.columnIndex name = .ok i)
    (row : Row) : d.value? row name = some (row.cell i) := by
  rw [value?, lastIndex?_of_columnIndex h]
  rfl

/-! ## The rows selected -/

theorem holds_of_resolve {p : Predicate} {test : CellTest} (h : d.resolve p = .ok test)
    (row : Row) : test.holds row = p.holds d row := by
  cases p with
  | equals column value =>
    obtain ⟨i, hi, h⟩ := bind_eq_ok_iff.mp h
    cases h
    rw [Predicate.holds, value?_of_columnIndex hi]
    rfl
  | columnsEqual left right =>
    obtain ⟨l, hl, h⟩ := bind_eq_ok_iff.mp h
    obtain ⟨r, hr, h⟩ := bind_eq_ok_iff.mp h
    cases h
    rw [Predicate.holds, value?_of_columnIndex hl, value?_of_columnIndex hr]
    rfl

theorem all_holds_of_resolveAll : ∀ {predicates : List Predicate} {tests : List CellTest},
    d.resolveAll predicates = .ok tests →
    ∀ row : Row, tests.all (·.holds row) = d.selects predicates row := by
  intro predicates
  induction predicates with
  | nil =>
    intro tests h row
    cases h
    rfl
  | cons p rest ih =>
    intro tests h row
    obtain ⟨test, others, htest, hothers, rfl⟩ := resolveAll_cons_eq_ok_iff.mp h
    rw [List.all_cons, holds_of_resolve htest, ih hothers]
    rfl

theorem matchingRows_eq_ok_iff_selected {predicates : List Predicate} {rows : List Row} :
    d.matchingRows predicates = .ok rows ↔
      (∀ p ∈ predicates, ∀ name ∈ p.columns, name ∈ d.columns) ∧ rows = d.selected predicates := by
  rw [matchingRows_eq_ok_iff, ← exists_resolveAll_iff]
  constructor
  · rintro ⟨tests, htests, rfl⟩
    exact ⟨⟨tests, htests⟩, List.filter_congr fun row _ => all_holds_of_resolveAll htests row⟩
  · rintro ⟨⟨tests, htests⟩, rfl⟩
    exact ⟨tests, htests, List.filter_congr fun row _ => all_holds_of_resolveAll htests row⟩

/-! ## The first missing column -/

theorem missingFault?_eq_none_iff {names : List String} :
    d.missingFault? names = none ↔ ∀ name ∈ names, name ∈ d.columns := by
  simp [missingFault?, hasColumn]

theorem missingFault?_append (names others : List String) :
    d.missingFault? (names ++ others) = (d.missingFault? names).or (d.missingFault? others) := by
  rw [missingFault?, List.find?_append, Option.map_or]
  rfl

theorem fault?_columnIndex (name : String) :
    fault? (d.columnIndex name) = d.missingFault? [name] := by
  by_cases h : name ∈ d.columns
  · rw [fault?_eq_none_iff.mpr (columnIndex_eq_ok_iff.mpr h), eq_comm, missingFault?_eq_none_iff]
    exact List.forall_mem_singleton.mpr h
  · rw [fault?_eq_some_iff.mpr (columnIndex_eq_error_iff.mpr ⟨h, rfl⟩)]
    simp [missingFault?, hasColumn, h]

theorem fault?_resolve (p : Predicate) : fault? (d.resolve p) = d.missingFault? p.columns := by
  cases p with
  | equals column value =>
    rw [resolve, fault?_bind_pure, fault?_columnIndex]
    rfl
  | columnsEqual left right =>
    rw [resolve, fault?_bind (o := d.missingFault? [right]), fault?_columnIndex,
      ← missingFault?_append]
    · rfl
    · intro _ _
      rw [fault?_bind_pure, fault?_columnIndex]

theorem fault?_resolveAll : ∀ predicates : List Predicate,
    fault? (d.resolveAll predicates) = d.missingFault? (predicates.flatMap Predicate.columns) := by
  intro predicates
  induction predicates with
  | nil => rfl
  | cons p rest ih =>
    rw [resolveAll, List.flatMap_cons, missingFault?_append, ← fault?_resolve, ← ih]
    refine fault?_bind fun _ _ => ?_
    rw [fault?_bind_pure]

theorem fault?_matchingRows (predicates : List Predicate) :
    fault? (d.matchingRows predicates) =
      d.missingFault? (predicates.flatMap Predicate.columns) := by
  rw [matchingRows, fault?_bind_pure, fault?_resolveAll]

/-! ## Rows as points -/

theorem numberAt_eq_ok_iff {name : String} {i : Nat} (h : d.columnIndex name = .ok i) {row : Row}
    {v : Float} : d.numberAt row i = .ok v ↔ d.value? row name = some (.number v) := by
  rw [numberAt, value?_of_columnIndex h]
  cases row.cell i with
  | number v' => simp
  | text s => simp

theorem fault?_numberAt {name : String} {i : Nat} (h : d.columnIndex name = .ok i) (row : Row) :
    fault? (d.numberAt row i) = d.textFault? row name := by
  have hname : d.columns.getD i "" = name := by
    rw [List.getD_eq_getElem?_getD, getElem?_of_lastIndex? (lastIndex?_of_columnIndex h)]
    rfl
  rw [numberAt, textFault?, value?_of_columnIndex h, hname]
  cases row.cell i with
  | number v => rfl
  | text s => rfl

section

variable {x y : String} {i j : Nat} (hx : d.columnIndex x = .ok i) (hy : d.columnIndex y = .ok j)

include hx hy

theorem pointsOf_eq_ok_iff : ∀ {rows : List Row} {points : List (Float × Float)},
    d.pointsOf i j rows = .ok points ↔ List.Forall₂ (d.HasPoint x y) rows points := by
  intro rows
  induction rows with
  | nil =>
    intro points
    simp [pointsOf, eq_comm]
  | cons row rest ih =>
    intro points
    rw [pointsOf, bind_eq_ok_iff]
    constructor
    · rintro ⟨px, hpx, h⟩
      obtain ⟨py, hpy, h⟩ := bind_eq_ok_iff.mp h
      obtain ⟨others, hothers, h⟩ := bind_eq_ok_iff.mp h
      cases h
      exact .cons ⟨(numberAt_eq_ok_iff hx).mp hpx, (numberAt_eq_ok_iff hy).mp hpy⟩ (ih.mp hothers)
    · intro h
      cases h with
      | cons hpoint hrest =>
        exact ⟨_, (numberAt_eq_ok_iff hx).mpr hpoint.1, bind_eq_ok_iff.mpr
          ⟨_, (numberAt_eq_ok_iff hy).mpr hpoint.2, bind_eq_ok_iff.mpr ⟨_, ih.mpr hrest, rfl⟩⟩⟩

theorem fault?_pointsOf : ∀ rows : List Row,
    fault? (d.pointsOf i j rows) = rows.findSome? (d.pointFault? x y) := by
  intro rows
  induction rows with
  | nil => rfl
  | cons row rest ih =>
    have hcons : (row :: rest).findSome? (d.pointFault? x y) =
        (d.textFault? row x).or ((d.textFault? row y).or (rest.findSome? (d.pointFault? x y))) := by
      rw [List.findSome?_cons, ← Option.or_assoc]
      rw [pointFault?]
      cases (d.textFault? row x).or (d.textFault? row y) <;> rfl
    rw [hcons, ← fault?_numberAt hx, ← fault?_numberAt hy, ← ih]
    refine fault?_bind fun _ _ => fault?_bind fun _ _ => ?_
    rw [fault?_bind_pure]

end

/-! ## The whole selection -/

variable {predicates : List Predicate} {x y : String}

theorem forall_mem_namesRead_iff :
    (∀ name ∈ namesRead predicates x y, name ∈ d.columns) ↔ x ∈ d.columns ∧ y ∈ d.columns ∧
      ∀ p ∈ predicates, ∀ name ∈ p.columns, name ∈ d.columns := by
  simp only [namesRead, List.forall_mem_cons, List.forall_mem_flatMap]

theorem selectSeries_eq_ok_iff {s : Series Float} :
    d.selectSeries predicates x y = .ok s ↔
      (∀ name ∈ namesRead predicates x y, name ∈ d.columns) ∧
        s.label = selectionLabel predicates y ∧
        List.Forall₂ (d.HasPoint x y) (d.selected predicates) s.points := by
  rw [forall_mem_namesRead_iff, selectSeries, bind_eq_ok_iff]
  constructor
  · rintro ⟨i, hi, h⟩
    obtain ⟨j, hj, h⟩ := bind_eq_ok_iff.mp h
    obtain ⟨rows, hrows, h⟩ := bind_eq_ok_iff.mp h
    obtain ⟨points, hpoints, h⟩ := bind_eq_ok_iff.mp h
    cases h
    obtain ⟨hnames, rfl⟩ := matchingRows_eq_ok_iff_selected.mp hrows
    exact ⟨⟨columnIndex_eq_ok_iff.mp ⟨i, hi⟩, columnIndex_eq_ok_iff.mp ⟨j, hj⟩, hnames⟩, rfl,
      (pointsOf_eq_ok_iff hi hj).mp hpoints⟩
  · rintro ⟨⟨hx, hy, hnames⟩, hlabel, hpoints⟩
    obtain ⟨i, hi⟩ := columnIndex_eq_ok_iff.mpr hx
    obtain ⟨j, hj⟩ := columnIndex_eq_ok_iff.mpr hy
    have hrows := matchingRows_eq_ok_iff_selected.mpr ⟨hnames, rfl⟩
    refine ⟨i, hi, bind_eq_ok_iff.mpr ⟨j, hj, bind_eq_ok_iff.mpr ⟨_, hrows, bind_eq_ok_iff.mpr
      ⟨_, (pointsOf_eq_ok_iff hi hj).mpr hpoints, ?_⟩⟩⟩⟩
    rw [← hlabel]
    rfl

/-- **Which error comes first**: that of a missing column, in the order of the names, and then that
of a text among the points, in the order of the rows. -/
theorem fault?_selectSeries : fault? (d.selectSeries predicates x y) =
    (d.missingFault? (namesRead predicates x y)).or
      ((d.selected predicates).findSome? (d.pointFault? x y)) := by
  have hnames : d.missingFault? (namesRead predicates x y) = (d.missingFault? [x]).or
      ((d.missingFault? [y]).or (d.missingFault? (predicates.flatMap Predicate.columns))) := by
    rw [← missingFault?_append, ← missingFault?_append]
    rfl
  rw [hnames, Option.or_assoc, Option.or_assoc, ← fault?_columnIndex, ← fault?_columnIndex,
    ← fault?_matchingRows]
  refine fault?_bind fun i hi => fault?_bind fun j hj => fault?_bind fun rows hrows => ?_
  obtain ⟨-, rfl⟩ := matchingRows_eq_ok_iff_selected.mp hrows
  rw [fault?_bind_pure, fault?_pointsOf hi hj]

theorem exists_forall₂_iff {α β : Type} {r : α → β → Prop} : ∀ {l : List α},
    (∃ l', List.Forall₂ r l l') ↔ ∀ a ∈ l, ∃ b, r a b := by
  intro l
  induction l with
  | nil => simp
  | cons a rest ih =>
    rw [List.forall_mem_cons, ← ih]
    constructor
    · rintro ⟨_, h⟩
      cases h with
      | cons hab hrest => exact ⟨⟨_, hab⟩, _, hrest⟩
    · rintro ⟨⟨b, hb⟩, l', hl'⟩
      exact ⟨b :: l', .cons hb hl'⟩

theorem exists_selectSeries_iff : (∃ s, d.selectSeries predicates x y = .ok s) ↔
    (x ∈ d.columns ∧ y ∈ d.columns ∧ ∀ p ∈ predicates, ∀ name ∈ p.columns, name ∈ d.columns) ∧
      ∀ row ∈ d.selected predicates, ∃ point, d.HasPoint x y row point := by
  rw [← forall_mem_namesRead_iff, ← exists_forall₂_iff]
  constructor
  · rintro ⟨s, h⟩
    obtain ⟨hnames, -, hpoints⟩ := selectSeries_eq_ok_iff.mp h
    exact ⟨hnames, s.points, hpoints⟩
  · rintro ⟨hnames, points, hpoints⟩
    exact ⟨⟨selectionLabel predicates y, points⟩,
      selectSeries_eq_ok_iff.mpr ⟨hnames, rfl, hpoints⟩⟩

/-! ## Other predicates -/

theorem selects_append (others : List Predicate) (row : Row) :
    d.selects (predicates ++ others) row = (d.selects predicates row && d.selects others row) :=
  List.all_append

theorem selected_append (others : List Predicate) :
    d.selected (predicates ++ others) = (d.selected predicates).filter (d.selects others) := by
  rw [selected, selected, List.filter_filter]
  apply List.filter_congr
  intro row _
  rw [selects_append, Bool.and_comm]

theorem selected_append_comm (others : List Predicate) :
    d.selected (predicates ++ others) = (d.selected others).filter (d.selects predicates) := by
  rw [selected, selected, List.filter_filter]
  apply List.filter_congr
  intro row _
  rw [selects_append]

/-- Only which predicates there are matters, not their order or how often. -/
theorem selected_congr {others : List Predicate} (h : ∀ p, p ∈ others ↔ p ∈ predicates) :
    d.selected others = d.selected predicates := by
  apply List.filter_congr
  intro row _
  rw [Bool.eq_iff_iff, selects, selects, List.all_eq_true, List.all_eq_true]
  simp only [h]

theorem selectSeries_congr {s : Series Float} {others : List Predicate}
    (h : d.selectSeries predicates x y = .ok s) (hmem : ∀ p, p ∈ others ↔ p ∈ predicates) :
    ∃ s', d.selectSeries others x y = .ok s' ∧ s'.points = s.points := by
  obtain ⟨hnames, -, hpoints⟩ := selectSeries_eq_ok_iff.mp h
  obtain ⟨hx, hy, hnames⟩ := forall_mem_namesRead_iff.mp hnames
  refine ⟨⟨selectionLabel others y, s.points⟩, selectSeries_eq_ok_iff.mpr ⟨?_, rfl, ?_⟩, rfl⟩
  · exact forall_mem_namesRead_iff.mpr ⟨hx, hy, fun p hp => hnames p ((hmem p).mp hp)⟩
  · rw [selected_congr hmem]
    exact hpoints

/-- More predicates on columns that exist cannot make a selection fail. -/
theorem exists_selectSeries_append {s : Series Float} {others : List Predicate}
    (h : d.selectSeries predicates x y = .ok s)
    (hothers : ∀ p ∈ others, ∀ name ∈ p.columns, name ∈ d.columns) :
    ∃ s', d.selectSeries (predicates ++ others) x y = .ok s' := by
  obtain ⟨⟨hx, hy, hnames⟩, hpoints⟩ := exists_selectSeries_iff.mp ⟨s, h⟩
  refine exists_selectSeries_iff.mpr ⟨⟨hx, hy, List.forall_mem_append.mpr ⟨hnames, hothers⟩⟩, ?_⟩
  intro row hrow
  rw [selected_append] at hrow
  exact hpoints row (List.mem_of_mem_filter hrow)

theorem matchingRows_append_eq_ok_iff {others : List Predicate} {rows : List Row} :
    d.matchingRows (predicates ++ others) = .ok rows ↔
      ∃ rows₁ rows₂, d.matchingRows predicates = .ok rows₁ ∧ d.matchingRows others = .ok rows₂ ∧
        rows = rows₁.filter (d.selects others) ∧ rows = rows₂.filter (d.selects predicates) ∧
        ∀ row, row ∈ rows ↔ row ∈ rows₁ ∧ row ∈ rows₂ := by
  simp only [matchingRows_eq_ok_iff_selected, List.forall_mem_append]
  constructor
  · rintro ⟨⟨hfirst, hsecond⟩, rfl⟩
    refine ⟨_, _, ⟨hfirst, rfl⟩, ⟨hsecond, rfl⟩, selected_append others,
      selected_append_comm others, fun row => ?_⟩
    simp only [selected, List.mem_filter, selects_append, Bool.and_eq_true]
    tauto
  · rintro ⟨_, _, ⟨hfirst, rfl⟩, ⟨hsecond, rfl⟩, rfl, -, -⟩
    exact ⟨⟨hfirst, hsecond⟩, (selected_append others).symm⟩

/-- **What a selection gives.**  It succeeds when every name it reads is a column and every row of
which the predicates hold has numbers under `x` and `y`; its points are those of exactly these rows,
in their order.  Otherwise the error is that of the first missing name, or else of the first row
with a text.  Other predicates with the same members select the same points, and more predicates
select what both lists select. -/
theorem selectSeries_outcomes (d : Dataset) (predicates : List Predicate) (x y : String) :
    ((∃ s, d.selectSeries predicates x y = .ok s) ↔
      (x ∈ d.columns ∧ y ∈ d.columns ∧ ∀ p ∈ predicates, ∀ name ∈ p.columns, name ∈ d.columns) ∧
        ∀ row ∈ d.selected predicates, ∃ point, d.HasPoint x y row point) ∧
    (∀ s, d.selectSeries predicates x y = .ok s →
      d.matchingRows predicates = .ok (d.selected predicates) ∧
        List.Forall₂ (d.HasPoint x y) (d.selected predicates) s.points) ∧
    (∀ e, d.selectSeries predicates x y = .error e ↔
      (d.missingFault? (namesRead predicates x y)).or
        ((d.selected predicates).findSome? (d.pointFault? x y)) = some e) ∧
    (∀ s others, d.selectSeries predicates x y = .ok s → (∀ p, p ∈ others ↔ p ∈ predicates) →
      ∃ s', d.selectSeries others x y = .ok s' ∧ s'.points = s.points) ∧
    (∀ s others, d.selectSeries predicates x y = .ok s →
      (∀ p ∈ others, ∀ name ∈ p.columns, name ∈ d.columns) →
      ∃ s', d.selectSeries (predicates ++ others) x y = .ok s') ∧
    ∀ others rows, d.matchingRows (predicates ++ others) = .ok rows ↔
      ∃ rows₁ rows₂, d.matchingRows predicates = .ok rows₁ ∧ d.matchingRows others = .ok rows₂ ∧
        rows = rows₁.filter (d.selects others) ∧ rows = rows₂.filter (d.selects predicates) ∧
        ∀ row, row ∈ rows ↔ row ∈ rows₁ ∧ row ∈ rows₂ := by
  refine ⟨exists_selectSeries_iff, fun s h => ?_, fun e => ?_,
    fun s others h hmem => selectSeries_congr h hmem,
    fun s others h hothers => exists_selectSeries_append h hothers,
    fun others rows => matchingRows_append_eq_ok_iff⟩
  · obtain ⟨hnames, -, hpoints⟩ := selectSeries_eq_ok_iff.mp h
    obtain ⟨-, -, hnames⟩ := forall_mem_namesRead_iff.mp hnames
    exact ⟨matchingRows_eq_ok_iff_selected.mpr ⟨hnames, rfl⟩, hpoints⟩
  · rw [← fault?_selectSeries, fault?_eq_some_iff]

end Dataset

end Trendline
