import Trendline.Figure.Catalogue

/-!
# What a figure is built from

Each figure of the catalogue reads tables of its own.  Two runs that find the
same bytes, or the same error, where these tables are, and that agree on the
groups or on the window as far as the figure looks at them, build the same entry.

* `SameInputs`: two runs agree on the inputs of a figure.
* `ofFile_congr`: a table depends on nothing but the bytes at its path.
* `buildEntry_congr`: an entry depends on nothing but the inputs of its figure.
* `not_mem_tableNames`: no table belongs to two figures.
* `buildAll_inputs`: all figures are listed, each for itself.
-/

namespace Trendline

/-- The bytes of the file at a path, or why it cannot be read. -/
def FileTree.bytesAt (files : FileTree) (path : String) : Except PathError (List UInt8) :=
  (files.read path).map Content.toBytes

namespace FigureKind

/-- The tables of a figure. -/
def tableNames : FigureKind → List String
  | recordAggregation => ["record_aggregation_size.csv"]
  | recordSizes => ["record_and_record_aggregation_size.csv"]
  | historyTree => ["full_history_tree_size.csv", "pruned_history_tree_size.csv"]
  | queryProof => ["query_proof_size.csv"]
  | queryProofUnsorted => ["query_proof_unsorted_size.csv"]

/-- Whether a figure has a curve for each of the configured groups. -/
def showsGroups : FigureKind → Bool
  | historyTree => true
  | _ => false

/-- Whether a figure shows only the configured window. -/
def showsWindow : FigureKind → Bool
  | queryProof | queryProofUnsorted => true
  | _ => false

/-- **No table belongs to two figures.** -/
theorem not_mem_tableNames {kind other : FigureKind} (h : other ≠ kind) :
    ∀ name ∈ other.tableNames, name ∉ kind.tableNames := by
  revert h
  cases kind <;> cases other <;> decide

theorem mem_all (kind : FigureKind) : kind ∈ all := by
  cases kind <;> decide

end FigureKind

/-- Whether two runs agree on everything that a figure is built from. -/
structure SameInputs (files files' : FileTree) (s s' : FigureSettings) (kind : FigureKind) :
    Prop where
  dataDir : s'.dataDir = s.dataDir
  tables : ∀ name ∈ kind.tableNames,
    files'.bytesAt (Path.join s.dataDir name) = files.bytesAt (Path.join s.dataDir name)
  groups : kind.showsGroups = true → s'.groups = s.groups
  window : kind.showsWindow = true → s'.window = s.window

/-! ## Tables -/

theorem ofFile_eq_bytesAt (files : FileTree) (path : String) :
    Dataset.ofFile files path =
      match files.bytesAt path with
      | .error .notFound => .error (.fileNotFound path)
      | .error e => .error (.unreadable path (.path e))
      | .ok bytes => Dataset.ofBytes path bytes := by
  rw [Dataset.ofFile, FileTree.bytesAt]
  cases files.read path with
  | error e => cases e <;> rfl
  | ok content => rfl

theorem ofFile_congr {files files' : FileTree} {path : String}
    (h : files'.bytesAt path = files.bytesAt path) :
    Dataset.ofFile files' path = Dataset.ofFile files path := by
  rw [ofFile_eq_bytesAt, ofFile_eq_bytesAt, h]

variable {files files' : FileTree} {s s' : FigureSettings} {kind : FigureKind}

theorem SameInputs.table_eq (h : SameInputs files files' s s' kind) {name : String}
    (hname : name ∈ kind.tableNames) : s'.table files' name = s.table files name := by
  rw [FigureSettings.table, FigureSettings.table, Dataset.load, Dataset.load, h.dataDir,
    ofFile_congr (h.tables name hname)]

/-! ## Figures -/

theorem recordAggregation_congr (h : SameInputs files files' s s' .recordAggregation) :
    recordAggregation files' s' = recordAggregation files s := by
  rw [recordAggregation, recordAggregation, h.table_eq (by decide)]

theorem recordSizes_congr (h : SameInputs files files' s s' .recordSizes) :
    recordSizes files' s' = recordSizes files s := by
  rw [recordSizes, recordSizes, h.table_eq (by decide)]

theorem historyTree_congr (h : SameInputs files files' s s' .historyTree) :
    historyTree files' s' = historyTree files s := by
  rw [historyTree, historyTree, h.table_eq (by decide), h.table_eq (by decide), h.groups rfl]

theorem queryProof_congr {name : String} (h : SameInputs files files' s s' kind)
    (hname : name ∈ kind.tableNames) (hwindow : kind.showsWindow = true) :
    queryProof files' s' name kind = queryProof files s name kind := by
  rw [queryProof, queryProof, h.table_eq hname, h.window hwindow]

theorem figureOf_congr (h : SameInputs files files' s s' kind) :
    figureOf files' s' kind = figureOf files s kind := by
  cases kind with
  | recordAggregation => exact recordAggregation_congr h
  | recordSizes => exact recordSizes_congr h
  | historyTree => exact historyTree_congr h
  | queryProof => exact queryProof_congr h (by decide) rfl
  | queryProofUnsorted => exact queryProof_congr h (by decide) rfl

theorem buildEntry_congr (h : SameInputs files files' s s' kind) :
    buildEntry files' s' kind = buildEntry files s kind := by
  rw [buildEntry, buildEntry, buildFigure, buildFigure, figureOf_congr h]

/-! ## The whole catalogue -/

theorem kind_buildEntry (files : FileTree) (s : FigureSettings) (kind : FigureKind) :
    (buildEntry files s kind).kind = kind := by
  rw [buildEntry]
  split <;> rfl

theorem map_kind_buildAll (files : FileTree) (s : FigureSettings) :
    (buildAll files s).map (·.kind) = FigureKind.all := by
  rw [buildAll, List.map_map]
  exact List.map_id'' (kind_buildEntry files s) _

theorem eq_buildEntry_of_mem {e : CatalogueEntry} (h : e ∈ buildAll files s) :
    e = buildEntry files s e.kind := by
  obtain ⟨kind, -, rfl⟩ := List.mem_map.mp h
  rw [kind_buildEntry]

/-- **Each figure has its own inputs.**  A run lists all figures, each of them once.  In two runs
over one data directory the entry of a figure is the same, notes included, if the runs agree on its
tables, on the groups if it shows groups and on the window if it shows one.  So tables that are
missing or broken in one of the runs make a difference to the figure they belong to, and to no
other. -/
theorem buildAll_inputs (files files' : FileTree) (dataDir : String) (groups groups' : List Value)
    (window window' : Option Value) :
    (buildAll files ⟨dataDir, groups, window⟩).map (·.kind) = FigureKind.all ∧
      (∀ kind, FigureKind.all.count kind = 1) ∧
      (∀ e ∈ buildAll files ⟨dataDir, groups, window⟩,
        ∀ e' ∈ buildAll files' ⟨dataDir, groups', window'⟩, e'.kind = e.kind →
          SameInputs files files' ⟨dataDir, groups, window⟩ ⟨dataDir, groups', window'⟩ e.kind →
          e' = e) ∧
      ∀ broken, (∀ name ∉ FigureKind.tableNames broken,
          files'.bytesAt (Path.join dataDir name) = files.bytesAt (Path.join dataDir name)) →
        ∀ e ∈ buildAll files ⟨dataDir, groups, window⟩, e.kind ≠ broken →
          e ∈ buildAll files' ⟨dataDir, groups, window⟩ := by
  refine ⟨map_kind_buildAll _ _, fun kind => by cases kind <;> decide, ?_, ?_⟩
  · intro e he e' he' hkind h
    rw [eq_buildEntry_of_mem he', eq_buildEntry_of_mem he, hkind]
    exact buildEntry_congr h
  · intro broken h e he hne
    have hsame : SameInputs files files' ⟨dataDir, groups, window⟩ ⟨dataDir, groups, window⟩
        e.kind :=
      ⟨rfl, fun name hname => h name (FigureKind.not_mem_tableNames hne name hname),
        fun _ => rfl, fun _ => rfl⟩
    rw [eq_buildEntry_of_mem he, ← buildEntry_congr hsame]
    exact List.mem_map.mpr ⟨e.kind, FigureKind.mem_all _, rfl⟩

end Trendline
