import Trendline.Proofs.Dataset.Series
import Trendline.Proofs.Figure.Inputs
import Trendline.Proofs.Groups.Outcomes

/-!
# Figures from tables of numbers

Selections fail for a column that is missing and for a text among the points,
and a figure fails with the first selection that does.  So a figure is built if
its tables have numbers in all the columns that it reads, whatever groups and
whatever window it is for.

* `HasNumbers`: a table has numbers in some columns.
* `exists_selectSeries_of_hasNumbers`: then these can be selected.
* `exists_addColumns`, `exists_addTrees`: the steps that figures are built in.
* `exists_figureOf`: a figure whose tables have numbers is built.
-/

namespace Trendline

/-- Whether a table has these columns and nothing but numbers in them. -/
structure Dataset.HasNumbers (d : Dataset) (names : List String) : Prop where
  columns : ∀ name ∈ names, name ∈ d.columns
  number : ∀ row ∈ d.rows, ∀ name ∈ names, ∃ v, d.value? row name = some (.number v)

variable {d : Dataset} {names : List String}

namespace Dataset

theorem HasNumbers.mono {others : List String} (h : d.HasNumbers names)
    (hsub : ∀ name ∈ others, name ∈ names) : d.HasNumbers others :=
  ⟨fun name hname => h.columns name (hsub name hname),
    fun row hrow name hname => h.number row hrow name (hsub name hname)⟩

/-- **Columns of numbers can be selected**, by any predicates on columns that exist. -/
theorem exists_selectSeries_of_hasNumbers {x y : String} (h : d.HasNumbers [x, y])
    {predicates : List Predicate}
    (hpredicates : ∀ p ∈ predicates, ∀ name ∈ p.columns, name ∈ d.columns) :
    ∃ s, d.selectSeries predicates x y = .ok s := by
  refine exists_selectSeries_iff.mpr
    ⟨⟨h.columns x (by simp), h.columns y (by simp), hpredicates⟩, fun row hrow => ?_⟩
  have hmem : row ∈ d.rows := List.mem_of_mem_filter hrow
  obtain ⟨px, hpx⟩ := h.number row hmem x (by simp)
  obtain ⟨py, hpy⟩ := h.number row hmem y (by simp)
  exact ⟨(px, py), hpx, hpy⟩

theorem requireColumns_eq_ok : ∀ {names : List String}, (∀ name ∈ names, name ∈ d.columns) →
    d.requireColumns names = .ok () := by
  intro names
  induction names with
  | nil => exact fun _ => rfl
  | cons name rest ih =>
    intro h
    obtain ⟨hname, hrest⟩ := List.forall_mem_cons.mp h
    obtain ⟨i, hi⟩ := columnIndex_eq_ok_iff.mpr hname
    rw [requireColumns, hi]
    exact ih hrest

theorem exists_firstNumber {name : String} (h : d.HasNumbers [name]) :
    ∃ v, d.firstNumber name = .ok v := by
  obtain ⟨i, hi⟩ := columnIndex_eq_ok_iff.mpr (h.columns name (by simp))
  cases hrows : d.rows with
  | nil => exact ⟨none, by rw [firstNumber, hi, hrows]; rfl⟩
  | cons row rest =>
    obtain ⟨v, hv⟩ := h.number row (by simp [hrows]) name (by simp)
    refine ⟨some v, ?_⟩
    have hnumber := (numberAt_eq_ok_iff hi).mpr hv
    rw [firstNumber, hi, hrows]
    show (do let x ← d.numberAt row i; pure (some x)) = _
    rw [hnumber]
    rfl

end Dataset

namespace Figure

theorem exists_addColumns {x : String} {predicates : List Predicate} (h : d.HasNumbers names)
    (hpredicates : ∀ p ∈ predicates, ∀ name ∈ p.columns, name ∈ names) :
    ∀ (columns : List ColumnSeries) (f : Figure Float),
      (∀ c ∈ columns, ∀ name ∈ [x, c.column], name ∈ names) →
        ∃ f', (addColumns d predicates x columns f).result = .ok f' := by
  intro columns
  induction columns with
  | nil => exact fun f _ => ⟨f, rfl⟩
  | cons c rest ih =>
    intro f hcolumns
    obtain ⟨hc, hrest⟩ := List.forall_mem_cons.mp hcolumns
    obtain ⟨s, hs⟩ := Dataset.exists_selectSeries_of_hasNumbers (h.mono hc)
      fun p hp name hname => h.columns name (hpredicates p hp name hname)
    have hlabelled :
        d.labelledSeries predicates x c.column c.label = .ok (s.withLabel c.label) := by
      rw [Dataset.labelledSeries, hs]
      rfl
    simp only [addColumns, Noted.result_bind, Noted.result_ofExcept, hlabelled]
    exact ih _ hrest

theorem exists_addTrees (full pruned : GroupFits) : ∀ (groups : List Value) (color : Nat)
    (f : Figure Float), ∃ f', (addTrees full pruned color groups f).result = .ok f' := by
  intro groups
  induction groups with
  | nil => exact fun color f => ⟨f, rfl⟩
  | cons g rest ih =>
    intro color f
    simp only [addTrees, Noted.result_bind, Noted.result_noteAll]
    exact ih _ _

theorem exists_addLevel {column : String} (h : d.HasNumbers [column]) (f : Figure Float)
    (label : String) (dashed : Bool) : ∃ f', f.addLevel d column label dashed = .ok f' := by
  obtain ⟨v, hv⟩ := Dataset.exists_firstNumber h
  rw [addLevel, hv]
  cases v with
  | none => exact ⟨f, rfl⟩
  | some y => exact ⟨_, rfl⟩

end Figure

theorem exists_fitTrees {groups : List Value} {space : Space}
    (h : d.HasNumbers ["NumberRecords", "NumberAttributes", "Size"]) :
    ∃ fits, (fitTrees d groups space).result = .ok fits := by
  have hcolumn : "NumberAttributes" ∈ d.columns := h.columns _ (by simp)
  have hfault : (treeSpec groups space).dataFault? d = none := by
    refine dataFault?_eq_none_iff.mpr ⟨hcolumn, fun g _ => ?_⟩
    refine Dataset.exists_selectSeries_of_hasNumbers (h.mono ?_) ?_
    · simp [treeSpec]
    · simpa [treeSpec, GroupSpec.predicatesOf, Predicate.columns] using hcolumn
  rcases exists_ok_or_error (fitTrees d groups space).result with hok | ⟨e, he⟩
  · exact hok
  · obtain ⟨-, hsome⟩ := fitGroups_eq_refused_iff.mp (Stop.settle_eq_error_iff.mp he)
    rw [hfault] at hsome
    cases hsome

/-! ## The catalogue -/

/-- The columns of numbers in the tables of a figure, the one of the window included. -/
def FigureKind.columnsRead : FigureKind → List String
  | recordAggregation => ["NumberNumerical", "NumberCategorical", "Size"]
  | recordSizes => ["NumberNumerical", "NumberCategorical", "RecordSize", "RecordAggregationSize"]
  | historyTree => ["NumberRecords", "NumberAttributes", "Size"]
  | queryProof | queryProofUnsorted => "w" :: queryColumns

/-- Whether the tables of a figure are there, with numbers in the columns that it reads. -/
def HasTables (files : FileTree) (dataDir : String) (kind : FigureKind) : Prop :=
  ∀ name ∈ kind.tableNames, ∃ d, Dataset.ofFile files (Path.join dataDir name) = .ok d ∧
    d.HasNumbers kind.columnsRead

theorem result_table (s : FigureSettings) (files : FileTree) (name : String) :
    (s.table files name).result = Dataset.ofFile files (Path.join s.dataDir name) := by
  simp only [FigureSettings.table, Dataset.load, Noted.result_bind, Noted.result_ofExcept,
    Noted.result_note, Noted.result_pure]
  cases Dataset.ofFile files (Path.join s.dataDir name) <;> rfl

variable {files : FileTree} {s : FigureSettings}

theorem exists_recordAggregation (h : HasTables files s.dataDir .recordAggregation) :
    ∃ f, (recordAggregation files s).result = .ok f := by
  obtain ⟨d, hd, hnumbers⟩ := h _ (List.mem_singleton_self _)
  simp only [recordAggregation, Noted.result_bind, result_table, hd]
  exact Figure.exists_addColumns hnumbers (by decide) _ _ (by decide)

theorem exists_recordSizes (h : HasTables files s.dataDir .recordSizes) :
    ∃ f, (recordSizes files s).result = .ok f := by
  obtain ⟨d, hd, hnumbers⟩ := h _ (List.mem_singleton_self _)
  simp only [recordSizes, Noted.result_bind, result_table, hd]
  exact Figure.exists_addColumns hnumbers (by decide) _ _ (by decide)

theorem exists_historyTree (h : HasTables files s.dataDir .historyTree) :
    ∃ f, (historyTree files s).result = .ok f := by
  obtain ⟨full, hfull, hfullNumbers⟩ := h "full_history_tree_size.csv" (by decide)
  obtain ⟨pruned, hpruned, hprunedNumbers⟩ := h "pruned_history_tree_size.csv" (by decide)
  simp only [historyTree, Noted.result_bind, result_table, hfull, hpruned, ok_bind]
  refine exists_bind_eq_ok (exists_fitTrees hfullNumbers) fun fullFits => ?_
  refine exists_bind_eq_ok (exists_fitTrees hprunedNumbers) fun prunedFits => ?_
  exact Figure.exists_addTrees fullFits prunedFits s.groups 0 _

theorem exists_queryProof {kind : FigureKind} {name : String} (hname : name ∈ kind.tableNames)
    (hcolumns : kind.columnsRead = "w" :: queryColumns) (h : HasTables files s.dataDir kind) :
    ∃ f, (queryProof files s name kind).result = .ok f := by
  obtain ⟨d, hd, hnumbers⟩ := h name hname
  rw [hcolumns] at hnumbers
  have hrequired : d.requireColumns queryColumns = .ok () :=
    Dataset.requireColumns_eq_ok fun name hmem =>
      hnumbers.columns name (List.mem_cons_of_mem _ hmem)
  have hwindow : ∀ p ∈ s.window.toList.map fun w => Predicate.equals "w" w,
      ∀ name ∈ p.columns, name ∈ "w" :: queryColumns := by
    intro p hp name hmem
    obtain ⟨w, -, rfl⟩ := List.mem_map.mp hp
    exact List.mem_cons.mpr (.inl (List.mem_singleton.mp hmem))
  simp only [queryProof, Noted.result_bind, Noted.result_ofExcept, result_table, hd, ok_bind,
    hrequired]
  refine exists_bind_eq_ok (Figure.exists_addColumns hnumbers hwindow _ _ (by decide)) fun f => ?_
  refine exists_bind_eq_ok (Figure.exists_addLevel (hnumbers.mono (by decide)) f _ _) fun f => ?_
  exact Figure.exists_addLevel (hnumbers.mono (by decide)) f _ _

/-- **A figure whose tables have numbers is built**, for any groups and any window. -/
theorem exists_figureOf {kind : FigureKind} (h : HasTables files s.dataDir kind) :
    ∃ f, (figureOf files s kind).result = .ok f := by
  cases kind with
  | recordAggregation => exact exists_recordAggregation h
  | recordSizes => exact exists_recordSizes h
  | historyTree => exact exists_historyTree h
  | queryProof => exact exists_queryProof (by decide) rfl h
  | queryProofUnsorted => exact exists_queryProof (by decide) rfl h

theorem exists_buildEntry {kind : FigureKind} (h : HasTables files s.dataDir kind) :
    ∃ f, (buildEntry files s kind).figure = .ok f := by
  obtain ⟨f, hf⟩ := exists_figureOf h
  have hbuilt : (buildFigure files s kind).result = .ok f := by
    simp only [buildFigure, Noted.result_bind, hf]
    rfl
  refine ⟨f, ?_⟩
  simp only [buildEntry, hbuilt]

end Trendline
