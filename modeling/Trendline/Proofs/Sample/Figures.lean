import Trendline.Proofs.Program.Tables
import Trendline.Proofs.Sample.Reload
import Trendline.Proofs.Sample.SizeModel

/-!
# Figures of a sample

Samples are made so that the program has something to show: once the tables of a
sample are written, all figures can be built from them.

* `IsSample.isFileName`, `IsSample.isHeader`: the names and columns of the tables
  are such that nothing is changed on the way.
* `buildAll_sample`: the tables that are written are read back cell by cell, and
  every figure is built from them.
-/

namespace Trendline.Sample

variable {ts : List Csv.Table}

theorem IsSample.fileNames (h : IsSample ts) : ts.map (·.fileName) = figureTables := by
  have hcolumns := congrArg (List.map Prod.fst) h.columns
  rwa [List.map_map] at hcolumns

theorem IsSample.mem_tableColumns (h : IsSample ts) {table : Csv.Table} (hmem : table ∈ ts) :
    (table.fileName, table.headers) ∈ tableColumns :=
  h.columns ▸ List.mem_map_of_mem hmem

theorem IsSample.isFileName (h : IsSample ts) {table : Csv.Table} (hmem : table ∈ ts) :
    IsFileName table.fileName := by
  have hnames : ∀ entry ∈ tableColumns, IsFileName entry.1 := by decide +kernel
  exact hnames _ (h.mem_tableColumns hmem)

theorem IsSample.isHeader (h : IsSample ts) {table : Csv.Table} (hmem : table ∈ ts) :
    IsHeader table.headers := by
  have hheaders : ∀ entry ∈ tableColumns, IsHeader entry.2 := by decide +kernel
  exact hheaders _ (h.mem_tableColumns hmem)

/-- **Figures of a sample.**  Whatever a sample is drawn from, its six tables are written into a
directory that can be made and holds no directory under their names.  Each of them is read back with
its columns and, in order, its rows cell by cell, all numbers but the filters; and for any groups
and any window all figures are built from them. -/
theorem buildAll_sample {σ : Type} {log2 : Float → Float} {sampler : Sampler σ} {state : σ}
    {settings : Settings} {dir : String} {t : Transcript} {files : FileTree}
    (hlog : IsLog2 log2) (hsampler : sampler.IsBounded)
    (h : generateWith log2 sampler state settings = .ok ts)
    (hmake : t.files.makeDirectories dir = .ok files)
    (hfree : ∀ path ∈ tablePaths dir, files.holdsDirectory path = false) :
    ts.map (·.fileName) = figureTables ∧
      ∃ t', (do makeDirectories dir; writeTables dir ts : Session (List String)).run.run t =
          (.ok (tablePaths dir), t') ∧
        (∀ table ∈ ts, ∃ d,
          Dataset.ofFile t'.files (Path.join dir table.fileName) = .ok d ∧ ReadsAs table d) ∧
        ∀ groups window, List.Forall₂ (fun kind entry => entry.kind = kind ∧
          ∃ f, entry.figure = .ok f) FigureKind.all (buildAll t'.files ⟨dir, groups, window⟩) := by
  have hsample : IsSample ts := isSample_of_generateWith hsampler hlog h
  have hnames : (ts.map (·.fileName)).Nodup := by
    rw [hsample.fileNames]
    decide
  have htexts := fun table (hmem : table ∈ ts) =>
    exists_text (Path.join dir table.fileName) (hsample.isHeader hmem) (hsample.rows table hmem)
  have hpaths : (ts.map fun table => Path.join dir table.fileName) = tablePaths dir := by
    rw [tablePaths, ← hsample.fileNames, List.map_map]
    rfl
  obtain ⟨q, t', hq, hrun, hwrote⟩ := run_makeDirectories_writeTables hmake hnames
    fun table hmem => ⟨hsample.isFileName hmem, (htexts table hmem).imp fun _ => And.left,
      hfree _ (hpaths ▸ List.mem_map_of_mem hmem)⟩
  have hread : ∀ table ∈ ts, ∃ d,
      Dataset.ofFile t'.files (Path.join dir table.fileName) = .ok d ∧ ReadsAs table d := by
    intro table hmem
    obtain ⟨text, htext, hfile⟩ := hwrote.ofFile_eq hq hmem (hsample.isFileName hmem)
    obtain ⟨text', htext', hreads⟩ := htexts table hmem
    obtain rfl := Except.ok.inj (htext.symm.trans htext')
    rwa [hfile]
  refine ⟨hsample.fileNames, t', hpaths ▸ hrun, hread, fun groups window => ?_⟩
  refine List.forall₂_map_right_iff.mpr (List.forall₂_same.mpr fun kind _ => ?_)
  exact ⟨kind_buildEntry _ _ kind, exists_buildEntry (hasTables_of_readsAs hsample hread kind)⟩

/-- The binary logarithm of the counts up to four, exact where there is an exact one. -/
def smallLog2 (x : Float) : Float :=
  if x < 2 then 0 else if x < 4 then 1 else 2

/-- Deviates that are drawn in turn, on both sides of the mean. -/
def alternating : Sampler Bool :=
  ⟨fun above => (if above then 1.5 else -0.5, !above), fun above => (0.25, above)⟩

def smallSettings : Settings :=
  { maxRecords := 4, maxAttributes := 2, queryRecords := 4, noise := 0.25 }

def smallTables : List Csv.Table :=
  ((tables smallLog2 alternating smallSettings true).map Prod.fst).getD []

/-- The tree after a directory was made in an empty one. -/
def madeTree : FileTree :=
  { directories := [["out"], ["out", "data"]] }

theorem isLog2_smallLog2 : IsLog2 smallLog2 := by
  have hbounds : ∀ x : Float, 0 ≤ smallLog2 x ∧ smallLog2 x ≤ 64 := by
    intro x
    rw [smallLog2]
    split
    · decide +kernel
    · split <;> decide +kernel
  exact fun n _ => hbounds (ofWord n)

theorem isBounded_alternating : alternating.IsBounded := by
  rintro (_ | _) <;> decide +kernel

theorem buildAll_sample_small :
    (IsLog2 smallLog2 ∧ alternating.IsBounded ∧
      generateWith smallLog2 alternating true smallSettings = .ok smallTables ∧
      FileTree.makeDirectories {} "out/data/" = .ok madeTree ∧
      ∀ path ∈ tablePaths "out/data/", madeTree.holdsDirectory path = false) ∧
    smallTables.map (·.fileName) = figureTables ∧
      ∃ t', (do makeDirectories "out/data/"; writeTables "out/data/" smallTables :
          Session (List String)).run.run { files := {} } = (.ok (tablePaths "out/data/"), t') ∧
        (∀ table ∈ smallTables, ∃ d,
          Dataset.ofFile t'.files (Path.join "out/data/" table.fileName) = .ok d ∧
            ReadsAs table d) ∧
        ∀ groups window, List.Forall₂ (fun kind entry => entry.kind = kind ∧
          ∃ f, entry.figure = .ok f) FigureKind.all
            (buildAll t'.files ⟨"out/data/", groups, window⟩) := by
  have hfault : smallSettings.fault? = none :=
    Option.isNone_iff_eq_none.mp (by decide +kernel)
  have hgenerate : generateWith smallLog2 alternating true smallSettings = .ok smallTables := by
    -- that the tables are there is known without drawing them
    have hsome : (tables smallLog2 alternating smallSettings true).isSome :=
      (runs_tables smallLog2 hfault true).mpr (by decide)
    obtain ⟨⟨ts, state⟩, hts⟩ := Option.isSome_iff_exists.mp hsome
    rw [smallTables, hts]
    exact generateWith_eq_ok_iff.mpr ⟨hfault, state, hts⟩
  have hmake : FileTree.makeDirectories {} "out/data/" = .ok madeTree := rfl
  have hfree : ∀ path ∈ tablePaths "out/data/", madeTree.holdsDirectory path = false := by
    decide +kernel
  exact ⟨⟨isLog2_smallLog2, isBounded_alternating, hgenerate, hmake, hfree⟩,
    buildAll_sample isLog2_smallLog2 isBounded_alternating hgenerate hmake hfree⟩

end Trendline.Sample
