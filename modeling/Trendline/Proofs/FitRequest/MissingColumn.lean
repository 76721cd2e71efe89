import Trendline.Proofs.FitRequest.Failures

/-!
# Missing columns

Rows are selected once for a request without groups, and else once for each of its groups.  Each
time all columns are looked up, but without groups in the table there is no such time.

* `faultIn?_of_missing`: a request with something to fit fails for the first of its names that is
  no column.
* `not_overflowsIn_of_missing`: it does not get as far as to fit anything.
* `answerIn_of_fitsNothing`: the others succeed with nothing.
* `run_missing`: nothing else becomes of a request that names a missing column.
-/

namespace Trendline.FitRequest

/-- The names of a request, in the order in which they are looked up. -/
def namesRead (r : FitRequest) : List String :=
  r.groupBy.toList ++ Dataset.namesRead r.predicates r.x r.y

/-- Whether the groups are the values of a column that has none. -/
def FitsNothing (r : FitRequest) (d : Dataset) : Prop :=
  r.groups = [] ∧ d.rows = [] ∧ ∃ column ∈ d.columns, r.groupBy = some column

variable {files : FileTree} {dataDir : String} {d : Dataset} {r : FitRequest} {column : String}

theorem answerIn_of_fitsNothing (h : r.FitsNothing d) :
    ∃ column, r.groupBy = some column ∧ r.answerIn d = .ok (.grouped column ⟨[], []⟩) := by
  obtain ⟨hgroups, hrows, column, hmem, hcolumn⟩ := h
  obtain ⟨i, hi⟩ := Dataset.columnIndex_eq_ok_iff.mpr hmem
  refine ⟨column, hcolumn, ?_⟩
  rw [answerIn_of_groupBy_eq_some hcolumn, mapError_eq_ok_iff, runGrouped_eq_ok_iff]
  refine ⟨[], ⟨[], []⟩, ?_, ?_, rfl⟩
  · rw [groupsIn, hgroups]
    exact bind_eq_ok_iff.mpr ⟨i, hi, by rw [hrows]; rfl⟩
  · exact fitGroups_eq_ok_iff.mpr ⟨hmem, [], rfl, rfl⟩

theorem exists_groupsIn (hmem : column ∈ d.columns) (hcolumn : r.groupBy = some column)
    (h : ¬ r.FitsNothing d) : ∃ g rest, groupsIn d r column = .ok (g :: rest) := by
  rw [groupsIn]
  cases hgroups : r.groups with
  | cons g rest => exact ⟨g, rest, rfl⟩
  | nil =>
    obtain ⟨i, hi⟩ := Dataset.columnIndex_eq_ok_iff.mpr hmem
    cases hrows : d.rows with
    | nil => exact absurd ⟨hgroups, hrows, column, hmem, hcolumn⟩ h
    | cons row rows =>
      refine ⟨row.cell i, Dataset.distinctFrom [row.cell i] (rows.map (·.cell i)), ?_⟩
      refine bind_eq_ok_iff.mpr ⟨i, hi, ?_⟩
      rw [hrows]
      rfl

theorem fault?_selectSeries_of_missing {predicates : List Predicate} {x y : String} {e : DataError}
    (h : d.missingFault? (Dataset.namesRead predicates x y) = some e) (others : List Predicate) :
    fault? (d.selectSeries (predicates ++ others) x y) = some e := by
  have hnames : Dataset.namesRead (predicates ++ others) x y =
      Dataset.namesRead predicates x y ++ others.flatMap Predicate.columns := by
    simp [Dataset.namesRead]
  rw [Dataset.fault?_selectSeries, hnames, Dataset.missingFault?_append, h]
  rfl

theorem faultIn?_of_not_mem (hcolumn : r.groupBy = some column) (hmem : column ∉ d.columns) :
    r.faultIn? d = some (.missingColumn d.source column) := by
  have hindex := Dataset.columnIndex_eq_error_iff.mpr ⟨hmem, rfl⟩
  cases hgroups : groupsIn d r column with
  | error e =>
    rw [columnIndex_of_groupsIn_eq_error hgroups] at hindex
    rw [faultIn?, hcolumn, ← Except.error.inj hindex]
    dsimp only
    rw [hgroups]
  | ok groups =>
    rw [faultIn?_of_groupsIn hcolumn hgroups]
    exact dataFault?_eq_some_iff.mpr (.inl ⟨hmem, rfl⟩)

/-- **The first missing name** is the error of a request that has something to fit. -/
theorem faultIn?_of_missing {e : DataError} (h : d.missingFault? r.namesRead = some e)
    (hfits : ¬ r.FitsNothing d) : r.faultIn? d = some e := by
  rw [namesRead, Dataset.missingFault?_append] at h
  cases hcolumn : r.groupBy with
  | none =>
    rw [hcolumn] at h
    rw [faultIn?, hcolumn, ← List.append_nil r.predicates]
    exact fault?_selectSeries_of_missing h []
  | some column =>
    rw [hcolumn] at h
    by_cases hmem : column ∈ d.columns
    · -- selecting the rows of the first group looks up all the other names
      obtain ⟨g, rest, hgroups⟩ := exists_groupsIn hmem hcolumn hfits
      have hpresent : d.missingFault? [column] = none :=
        Dataset.missingFault?_eq_none_iff.mpr (List.forall_mem_singleton.mpr hmem)
      rw [Option.toList_some, hpresent] at h
      rw [faultIn?_of_groupsIn hcolumn hgroups]
      refine dataFault?_eq_some_iff.mpr (.inr ⟨hmem, [], g, rest, rfl, List.forall_mem_nil _, ?_⟩)
      exact fault?_eq_some_iff.mp (fault?_selectSeries_of_missing h [.equals column g])
    · have hindex := Dataset.columnIndex_eq_error_iff.mpr ⟨hmem, rfl⟩
      rw [Option.toList_some, ← Dataset.fault?_columnIndex, hindex] at h
      rw [← Option.some.inj h]
      exact faultIn?_of_not_mem hcolumn hmem

theorem not_overflowsIn_of_missing {e : DataError} (h : d.missingFault? r.namesRead = some e) :
    ¬ r.OverflowsIn d := by
  intro hoverflow
  rw [namesRead, Dataset.missingFault?_append] at h
  cases hcolumn : r.groupBy with
  | none =>
    rw [hcolumn] at h
    rw [OverflowsIn, hcolumn] at hoverflow
    obtain ⟨-, s, hs⟩ := hoverflow
    have hfault := fault?_selectSeries_of_missing h []
    rw [List.append_nil, hs] at hfault
    cases hfault
  | some column =>
    obtain ⟨groups, -, -, hmem, g, -, s, hs⟩ := (overflowsIn_iff_of_groupBy hcolumn).mp hoverflow
    have hpresent : d.missingFault? [column] = none :=
      Dataset.missingFault?_eq_none_iff.mpr (List.forall_mem_singleton.mpr hmem)
    rw [hcolumn, Option.toList_some, hpresent] at h
    have hfault := fault?_selectSeries_of_missing h [.equals column g]
    rw [show d.selectSeries (r.predicates ++ [.equals column g]) r.x r.y = .ok s from hs] at hfault
    cases hfault

/-- **A request that names a missing column** fails for the first such name, with the exit code of
data errors, unless it is about the values of a column in a table without rows.  Then it succeeds
with no fits. -/
theorem run_missing (hdegree : r.degree ≠ 0)
    (hd : Dataset.ofFile files (locate files r.file dataDir) = .ok d) {name : String}
    (hname : name ∈ r.namesRead) (hmissing : name ∉ d.columns) :
    ∃ first, r.namesRead.find? (!d.hasColumn ·) = some first ∧
      ((r.run files dataDir).result =
          .error (.refused (.ofData (.missingColumn d.source first))) ↔
        ¬ r.FitsNothing d) ∧
      (r.FitsNothing d → ∃ column, r.groupBy = some column ∧
        (r.run files dataDir).result = .ok (.grouped column ⟨[], []⟩)) := by
  obtain ⟨first, hfirst⟩ : ∃ first, r.namesRead.find? (!d.hasColumn ·) = some first := by
    rw [← Option.isSome_iff_exists, List.find?_isSome]
    exact ⟨name, hname, by simp [Dataset.hasColumn, hmissing]⟩
  have hnothing : r.FitsNothing d → ∃ column, r.groupBy = some column ∧
      (r.run files dataDir).result = .ok (.grouped column ⟨[], []⟩) := by
    intro h
    obtain ⟨column, hcolumn, hanswer⟩ := answerIn_of_fitsNothing h
    exact ⟨column, hcolumn, (run_eq_ok_iff hdegree).mpr ⟨d, hd, hanswer⟩⟩
  refine ⟨first, hfirst, ⟨fun herror h => ?_, fun h => ?_⟩, hnothing⟩
  · obtain ⟨column, -, hok⟩ := hnothing h
    rw [hok] at herror
    cases herror
  · have hfault : d.missingFault? r.namesRead = some (.missingColumn d.source first) := by
      rw [Dataset.missingFault?, hfirst]
      rfl
    exact (run_eq_refused_iff hdegree).mpr (.inr ⟨d, hd, answerIn_eq_refused_iff.mpr
      (.inl ⟨not_overflowsIn_of_missing hfault, _, faultIn?_of_missing hfault h, rfl⟩)⟩)

/-- A request for each value of `g`, with a column `x`. -/
def eachOfG : FitRequest :=
  { file := "t.csv", x := "x", y := "y", groupBy := some "g" }

theorem run_missing_oneRow : eachOfG.degree ≠ 0 ∧
    ∃ d, Dataset.ofFile (tableFile "g,y\n1,2\n")
        (locate (tableFile "g,y\n1,2\n") eachOfG.file "data") = .ok d ∧
      "x" ∈ eachOfG.namesRead ∧ "x" ∉ d.columns ∧
      (eachOfG.run (tableFile "g,y\n1,2\n") "data").result =
        .error (.refused ⟨2, "Missing required column `x` in 'data/t.csv'"⟩) := by
  have hdegree : eachOfG.degree ≠ 0 := by decide
  have hload : (Dataset.ofFile (tableFile "g,y\n1,2\n")
      (locate (tableFile "g,y\n1,2\n") eachOfG.file "data")).toOption.map
      (fun d => (d.source, d.columns, d.rows.length)) = some ("data/t.csv", ["g", "y"], 1) := by
    decide +kernel
  obtain ⟨d, hd, htable⟩ := toOption_map_eq_some_iff.mp hload
  obtain ⟨hsource, hcolumns, hrows⟩ :
      d.source = "data/t.csv" ∧ d.columns = ["g", "y"] ∧ d.rows.length = 1 := by
    simpa using htable
  have hname : "x" ∈ eachOfG.namesRead := by decide
  have hmissing : "x" ∉ d.columns := by
    rw [hcolumns]
    decide
  have hfits : ¬ eachOfG.FitsNothing d := by
    rintro ⟨-, hnil, -⟩
    rw [hnil] at hrows
    cases hrows
  obtain ⟨first, hfirst, hrun, -⟩ := run_missing hdegree hd hname hmissing
  have hx : first = "x" := by
    simp only [Dataset.hasColumn, hcolumns] at hfirst
    exact Option.some.inj (hfirst.symm.trans (by decide))
  refine ⟨hdegree, d, hd, hname, hmissing, (hrun.mpr hfits).trans ?_⟩
  rw [hsource, hx]
  exact congrArg (fun f => Except.error (Stop.refused f)) (by decide +kernel)

theorem not_run_missing_noRows : eachOfG.degree ≠ 0 ∧
    ∃ d, Dataset.ofFile (tableFile "g,y\n") (locate (tableFile "g,y\n") eachOfG.file "data") =
        .ok d ∧
      "x" ∈ eachOfG.namesRead ∧ "x" ∉ d.columns ∧
      (eachOfG.run (tableFile "g,y\n") "data").result = .ok (.grouped "g" ⟨[], []⟩) := by
  have hdegree : eachOfG.degree ≠ 0 := by decide
  have hload : (Dataset.ofFile (tableFile "g,y\n")
      (locate (tableFile "g,y\n") eachOfG.file "data")).toOption.map
      (fun d => (d.columns, d.rows.length)) = some (["g", "y"], 0) := by
    decide +kernel
  obtain ⟨d, hd, htable⟩ := toOption_map_eq_some_iff.mp hload
  obtain ⟨hcolumns, hrows⟩ : d.columns = ["g", "y"] ∧ d.rows = [] := by
    simpa using htable
  have hnothing : eachOfG.FitsNothing d := by
    refine ⟨rfl, hrows, "g", ?_, rfl⟩
    rw [hcolumns]
    decide
  obtain ⟨column, hcolumn, hanswer⟩ := answerIn_of_fitsNothing hnothing
  obtain rfl := Option.some.inj hcolumn
  refine ⟨hdegree, d, hd, by decide, ?_, (run_eq_ok_iff hdegree).mpr ⟨d, hd, hanswer⟩⟩
  rw [hcolumns]
  decide

end Trendline.FitRequest
