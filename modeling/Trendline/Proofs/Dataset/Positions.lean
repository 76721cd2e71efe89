import Trendline.Proofs.Dataset.Csv
import Trendline.Proofs.Dataset.Selection

/-!
# Positions of cells

A name is looked up once, and the cells below it are then taken by its position.  `Indexed` is a
computation that takes from lists by position and is left without any result, be it a value or an
error, where a list ends before the position.  Every question to a dataset is asked again in this
way, and has the same answer.

* `lastIndex?_eq_some_iff`: a name has the last of the positions at which it stands.
* `Row.Fits`: a row of any length made as wide as the header.
* `Dataset.IsEven`: all rows are as wide as the header, so a position of a name is one of each row.
* `ofRows_positions`: names, rows and positions of a dataset that is built from rows of any length.
-/

namespace Trendline

/-! ## Taking from lists by position -/

/-- A computation that takes from lists by position. -/
abbrev Indexed : Type → Type :=
  ExceptT DataError Option

namespace Indexed

variable {α β : Type}

/-- A computation that takes from no list. -/
def lift (x : Except DataError α) : Indexed α :=
  ExceptT.mk (some x)

/-- What stands at a position; there is no result if the list ends before it. -/
def entry (l : List α) (i : Nat) : Indexed α :=
  ExceptT.lift l[i]?

theorem entry_eq {l : List α} {i : Nat} {a : α} (h : l[i]? = some a) :
    entry l i = lift (.ok a) := by
  rw [entry, h]
  rfl

theorem bind_eq {x : Indexed α} {a : Except DataError α} {f : α → Indexed β}
    {g : α → Except DataError β} (hx : x = lift a) (hf : ∀ v, a = .ok v → f v = lift (g v)) :
    x >>= f = lift (a >>= g) := by
  subst hx
  cases a with
  | error e => rfl
  | ok v => exact hf v rfl

theorem allM_eq {p : α → Bool} {f : α → Indexed Bool} : ∀ {l : List α},
    (∀ a ∈ l, f a = lift (.ok (p a))) → l.allM f = lift (.ok (l.all p)) := by
  intro l
  induction l with
  | nil => exact fun _ => rfl
  | cons a rest ih =>
    intro h
    obtain ⟨ha, hrest⟩ := List.forall_mem_cons.mp h
    rw [List.allM, ha, List.all_cons]
    cases p a with
    | false => rfl
    | true => exact ih hrest

theorem mapM_eq {p : α → β} {f : α → Indexed β} : ∀ {l : List α},
    (∀ a ∈ l, f a = lift (.ok (p a))) → l.mapM f = lift (.ok (l.map p)) := by
  intro l
  induction l with
  | nil => exact fun _ => rfl
  | cons a rest ih =>
    intro h
    obtain ⟨ha, hrest⟩ := List.forall_mem_cons.mp h
    rw [List.mapM_cons, ha, ih hrest]
    rfl

/-- A filter keeps what it has found so far in front, in the opposite order. -/
theorem filterAuxM_eq {p : α → Bool} {f : α → Indexed Bool} : ∀ {l : List α} (found : List α),
    (∀ a ∈ l, f a = lift (.ok (p a))) →
    List.filterAuxM f l found = lift (.ok ((l.filter p).reverse ++ found)) := by
  intro l
  induction l with
  | nil => exact fun _ _ => rfl
  | cons a rest ih =>
    intro found h
    obtain ⟨ha, hrest⟩ := List.forall_mem_cons.mp h
    have hstep : List.filterAuxM f (a :: rest) found =
        List.filterAuxM f rest (if p a then a :: found else found) := by
      rw [List.filterAuxM, ha]
      cases p a <;> rfl
    rw [hstep, ih _ hrest]
    cases hp : p a with
    | false => rw [if_neg Bool.false_ne_true, List.filter_cons_of_neg (by simp [hp])]
    | true => simp [hp]

theorem filterM_eq {p : α → Bool} {f : α → Indexed Bool} {l : List α}
    (h : ∀ a ∈ l, f a = lift (.ok (p a))) : l.filterM f = lift (.ok (l.filter p)) := by
  rw [List.filterM, filterAuxM_eq [] h, List.append_nil]
  show lift (.ok (l.filter p).reverse.reverse) = _
  rw [List.reverse_reverse]

/-! ## Questions to a dataset -/

/-- Whether a row passes a test. -/
def holds (row : Row) : CellTest → Indexed Bool
  | .agreesWith column value => do
    return (← entry row.values column).agrees value
  | .columnsAgree left right => do
    return (← entry row.values left).agrees (← entry row.values right)

/-- The rows that satisfy every predicate. -/
def matchingRows (d : Dataset) (predicates : List Predicate) : Indexed (List Row) := do
  let tests ← lift (d.resolveAll predicates)
  d.rows.filterM fun row => tests.allM (holds row)

/-- The number in a cell. -/
def numberAt (d : Dataset) (row : Row) (column : Nat) : Indexed Float := do
  match ← entry row.values column with
  | .number x => return x
  | .text s =>
    let name ← entry d.columns column
    throw (.invalidValue d.source row.line name s)

/-- The numbers of a row in two columns. -/
def pointAt (d : Dataset) (x y : Nat) (row : Row) : Indexed (Float × Float) := do
  let px ← numberAt d row x
  let py ← numberAt d row y
  return (px, py)

/-- The points of two columns in the rows that satisfy every predicate. -/
def selectSeries (d : Dataset) (predicates : List Predicate) (x y : String) :
    Indexed (Series Float) := do
  let xColumn ← lift (d.columnIndex x)
  let yColumn ← lift (d.columnIndex y)
  let rows ← matchingRows d predicates
  let points ← rows.mapM (pointAt d xColumn yColumn)
  return ⟨Dataset.selectionLabel predicates y, points⟩

/-- The number in the first row, if there is a row. -/
def firstNumber (d : Dataset) (name : String) : Indexed (Option Float) := do
  let column ← lift (d.columnIndex name)
  match d.rows with
  | [] => return none
  | row :: _ => return some (← numberAt d row column)

/-- The distinct values of a column. -/
def distinctValues (d : Dataset) (name : String) : Indexed (List Value) := do
  let column ← lift (d.columnIndex name)
  let cells ← d.rows.mapM fun row => entry row.values column
  return Dataset.distinctFrom [] cells

end Indexed

/-! ## The position of a name -/

namespace Dataset

variable {name : String}

theorem le_of_lastIndex? : ∀ {columns : List String} {i : Nat},
    lastIndex? name columns = some i → ∀ j, columns[j]? = some name → j ≤ i := by
  intro columns
  induction columns with
  | nil => exact fun _ j hj => nomatch hj
  | cons column rest ih =>
    intro i h j hj
    cases j with
    | zero => exact Nat.zero_le i
    | succ j =>
      rw [lastIndex?] at h
      cases hrest : lastIndex? name rest with
      | some k =>
        rw [hrest] at h
        obtain rfl := Option.some.inj h
        exact Nat.succ_le_succ (ih hrest j hj)
      | none =>
        have hmem : name ∈ rest := List.mem_of_getElem? (i := j) hj
        exact absurd hmem (lastIndex?_eq_none_iff.mp hrest)

/-- **The position of a name** is the last at which it stands. -/
theorem lastIndex?_eq_some_iff {columns : List String} {i : Nat} :
    lastIndex? name columns = some i ↔
      columns[i]? = some name ∧ ∀ j, columns[j]? = some name → j ≤ i := by
  constructor
  · exact fun h => ⟨getElem?_of_lastIndex? h, le_of_lastIndex? h⟩
  · rintro ⟨hi, hlast⟩
    cases h : lastIndex? name columns with
    | none => exact absurd (List.mem_of_getElem? hi) (lastIndex?_eq_none_iff.mp h)
    | some k =>
      have hik := le_of_lastIndex? h i hi
      have hki := hlast k (getElem?_of_lastIndex? h)
      rw [Nat.le_antisymm hki hik]

variable {d : Dataset}

theorem columnIndex_eq_ok_iff_last {i : Nat} : d.columnIndex name = .ok i ↔
    i < d.columns.length ∧ d.columns[i]? = some name ∧
      ∀ j, d.columns[j]? = some name → j ≤ i := by
  rw [← lastIndex?_eq_some_iff]
  constructor
  · intro h
    have hlast := lastIndex?_of_columnIndex h
    exact ⟨(List.getElem?_eq_some_iff.mp (getElem?_of_lastIndex? hlast)).1, hlast⟩
  · rintro ⟨-, h⟩
    rw [columnIndex, h]

theorem lt_of_columnIndex {i : Nat} (h : d.columnIndex name = .ok i) : i < d.columns.length :=
  (columnIndex_eq_ok_iff_last.mp h).1

/-! ## Rows as wide as the header -/

/-- Whether all rows are as wide as the header. -/
def IsEven (d : Dataset) : Prop :=
  ∀ row ∈ d.rows, row.values.length = d.columns.length

end Dataset

/-- Whether a row is a given one, cut or filled to a width. -/
structure Row.Fits (width : Nat) (given row : Row) : Prop where
  line : row.line = given.line
  length : row.values.length = width
  kept : ∀ j < width, ∀ v, given.values[j]? = some v → row.values[j]? = some v
  filled : ∀ j < width, given.values[j]? = none → row.values[j]? = some Value.empty

theorem Row.fits_resize (width : Nat) (row : Row) : row.Fits width (row.resize width) where
  line := rfl
  length := length_resize width row
  kept j hj v hv := by
    rw [getElem?_resize row hj, List.getD_eq_getElem?_getD, hv]
    rfl
  filled j hj hnone := by
    rw [getElem?_resize row hj, List.getD_eq_getElem?_getD, hnone]
    rfl

theorem Dataset.forall₂_fits_ofRows (source : String) (columns : List String) (rows : List Row) :
    List.Forall₂ (Row.Fits columns.length) rows (ofRows source columns rows).rows :=
  List.forall₂_map_right_iff.mpr (List.forall₂_same.mpr fun row _ => row.fits_resize _)

theorem Dataset.isEven_ofRows (source : String) (columns : List String) (rows : List Row) :
    (ofRows source columns rows).IsEven := by
  intro row hrow
  obtain ⟨given, -, rfl⟩ := List.mem_map.mp hrow
  exact Row.length_resize _ given

/-! ## Cells by position -/

/-- The positions that a test takes from a row. -/
def CellTest.columns : CellTest → List Nat
  | agreesWith column _ => [column]
  | columnsAgree left right => [left, right]

namespace Indexed

variable {d : Dataset} {row : Row} {x y : Nat}

theorem entry_cell {column : Nat} (h : column < row.values.length) :
    entry row.values column = lift (.ok (row.cell column)) := by
  refine entry_eq ?_
  rw [Row.cell, List.getD_eq_getElem?_getD, List.getElem?_eq_getElem h]
  rfl

theorem holds_eq {test : CellTest} (h : ∀ column ∈ test.columns, column < row.values.length) :
    holds row test = lift (.ok (test.holds row)) := by
  cases test with
  | agreesWith column value =>
    have hcolumn := entry_cell (h column List.mem_cons_self)
    rw [holds, hcolumn]
    rfl
  | columnsAgree left right =>
    have hleft := entry_cell (h left List.mem_cons_self)
    have hright := entry_cell (h right (List.mem_cons_of_mem _ List.mem_cons_self))
    rw [holds, hleft, hright]
    rfl

theorem numberAt_eq (hrow : x < row.values.length) (hd : x < d.columns.length) :
    numberAt d row x = lift (d.numberAt row x) := by
  rw [numberAt, entry_cell hrow, Dataset.numberAt]
  cases row.cell x with
  | number v => rfl
  | text s =>
    have hname : entry d.columns x = lift (.ok (d.columns.getD x "")) := by
      refine entry_eq ?_
      rw [List.getD_eq_getElem?_getD, List.getElem?_eq_getElem hd]
      rfl
    show (entry d.columns x >>= fun name => throw _) = _
    rw [hname]
    rfl

theorem mapM_pointAt_eq (hx : x < d.columns.length) (hy : y < d.columns.length) :
    ∀ {rows : List Row}, (∀ row ∈ rows, row.values.length = d.columns.length) →
      rows.mapM (pointAt d x y) = lift (d.pointsOf x y rows) := by
  intro rows
  induction rows with
  | nil => exact fun _ => rfl
  | cons row rest ih =>
    intro h
    obtain ⟨hrow, hrest⟩ := List.forall_mem_cons.mp h
    have hpoint : ∀ {i : Nat}, i < d.columns.length →
        numberAt d row i = lift (d.numberAt row i) :=
      fun hi => numberAt_eq (hi.trans_eq hrow.symm) hi
    rw [List.mapM_cons, Dataset.pointsOf, pointAt, bind_assoc]
    refine bind_eq (hpoint hx) fun px _ => ?_
    rw [bind_assoc]
    refine bind_eq (hpoint hy) fun py _ => ?_
    rw [pure_bind]
    exact bind_eq (ih hrest) fun _ _ => rfl

end Indexed

namespace Dataset

variable {d : Dataset}

theorem lt_of_resolve {p : Predicate} {test : CellTest} (h : d.resolve p = .ok test) :
    ∀ column ∈ test.columns, column < d.columns.length := by
  cases p with
  | equals column value =>
    obtain ⟨i, hi, h⟩ := bind_eq_ok_iff.mp h
    cases h
    exact List.forall_mem_singleton.mpr (lt_of_columnIndex hi)
  | columnsEqual left right =>
    obtain ⟨l, hl, h⟩ := bind_eq_ok_iff.mp h
    obtain ⟨r, hr, h⟩ := bind_eq_ok_iff.mp h
    cases h
    exact List.forall_mem_cons.mpr
      ⟨lt_of_columnIndex hl, List.forall_mem_singleton.mpr (lt_of_columnIndex hr)⟩

theorem lt_of_resolveAll : ∀ {predicates : List Predicate} {tests : List CellTest},
    d.resolveAll predicates = .ok tests →
    ∀ test ∈ tests, ∀ column ∈ test.columns, column < d.columns.length := by
  intro predicates
  induction predicates with
  | nil =>
    intro tests h
    cases h
    exact nofun
  | cons p rest ih =>
    intro tests h
    obtain ⟨test, others, htest, hothers, rfl⟩ := resolveAll_cons_eq_ok_iff.mp h
    exact List.forall_mem_cons.mpr ⟨lt_of_resolve htest, ih hothers⟩

variable (h : d.IsEven)

include h

theorem indexed_matchingRows (predicates : List Predicate) :
    Indexed.matchingRows d predicates = .lift (d.matchingRows predicates) := by
  refine Indexed.bind_eq rfl fun tests htests => Indexed.filterM_eq fun row hrow => ?_
  refine Indexed.allM_eq fun test htest => Indexed.holds_eq fun column hcolumn => ?_
  exact (lt_of_resolveAll htests test htest column hcolumn).trans_eq (h row hrow).symm

theorem indexed_selectSeries (predicates : List Predicate) (x y : String) :
    Indexed.selectSeries d predicates x y = .lift (d.selectSeries predicates x y) := by
  refine Indexed.bind_eq rfl fun i hi => Indexed.bind_eq rfl fun j hj => ?_
  refine Indexed.bind_eq (indexed_matchingRows h predicates) fun rows hrows => ?_
  have hlength : ∀ row ∈ rows, row.values.length = d.columns.length :=
    fun row hrow => h row ((matchingRows_sublist hrows).subset hrow)
  exact Indexed.bind_eq
    (Indexed.mapM_pointAt_eq (lt_of_columnIndex hi) (lt_of_columnIndex hj) hlength) fun _ _ => rfl

theorem indexed_firstNumber (name : String) :
    Indexed.firstNumber d name = .lift (d.firstNumber name) := by
  refine Indexed.bind_eq rfl fun i hi => ?_
  cases hrows : d.rows with
  | nil => rfl
  | cons row rest =>
    have hrow : row.values.length = d.columns.length := h row (hrows ▸ List.mem_cons_self)
    have hlt := lt_of_columnIndex hi
    exact Indexed.bind_eq (Indexed.numberAt_eq (hlt.trans_eq hrow.symm) hlt) fun _ _ => rfl

theorem indexed_distinctValues (name : String) :
    Indexed.distinctValues d name = .lift (d.distinctValues name) := by
  refine Indexed.bind_eq rfl fun i hi => ?_
  have hcells : (d.rows.mapM fun row => Indexed.entry row.values i) =
      .lift (.ok (d.rows.map (·.cell i))) :=
    Indexed.mapM_eq fun row hrow =>
      Indexed.entry_cell ((lt_of_columnIndex hi).trans_eq (h row hrow).symm)
  rw [hcells]
  rfl

omit h

/-- **Every position is one of each row.**  A dataset that is built from rows of any length has rows
as wide as its header, cut or filled.  A name is found if it stands in the header, at the last of
its positions.  So nothing that is asked of the dataset ever takes a cell or a name from where there
is none. -/
theorem ofRows_positions (source : String) (columns : List String) (rows : List Row) :
    let d := ofRows source columns rows
    (d.columns = columns ∧ List.Forall₂ (Row.Fits columns.length) rows d.rows) ∧
    (∀ name, (d.hasColumn name = true ↔ name ∈ columns) ∧
      ((∃ i, d.columnIndex name = .ok i) ↔ name ∈ columns) ∧
      ∀ i, d.columnIndex name = .ok i ↔ i < columns.length ∧ columns[i]? = some name ∧
        ∀ j, columns[j]? = some name → j ≤ i) ∧
    ∀ predicates x y,
      Indexed.matchingRows d predicates = .lift (d.matchingRows predicates) ∧
      Indexed.selectSeries d predicates x y = .lift (d.selectSeries predicates x y) ∧
      Indexed.firstNumber d x = .lift (d.firstNumber x) ∧
      Indexed.distinctValues d x = .lift (d.distinctValues x) := by
  intro d
  have heven : d.IsEven := isEven_ofRows source columns rows
  refine ⟨⟨rfl, forall₂_fits_ofRows source columns rows⟩, fun name => ⟨?_, ?_, ?_⟩,
    fun predicates x y => ⟨?_, ?_, ?_, ?_⟩⟩
  · exact List.contains_iff_mem
  · exact columnIndex_eq_ok_iff
  · exact fun i => columnIndex_eq_ok_iff_last
  · exact indexed_matchingRows heven predicates
  · exact indexed_selectSeries heven predicates x y
  · exact indexed_firstNumber heven x
  · exact indexed_distinctValues heven x

end Dataset

end Trendline
