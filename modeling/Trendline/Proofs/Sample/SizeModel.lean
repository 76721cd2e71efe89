import Trendline.Proofs.Sample.Tables

/-!
# Sizes by the model

The model of sizes is about numbers of records and attributes, and a sample computes with words.
Its sizes are those of the model as long as sums and numbers of nodes are words, and there are none
otherwise.

* `SizeModel.record`, `SizeModel.aggregation`, `SizeModel.fullTree`, `SizeModel.prunedTree`,
  `SizeModel.queryProof`: the model.
* `recordSize?_eq_some_iff`, `fullTreeSize?_eq_some_iff`, `prunedTreeSizeWith?_eq_some_iff`: where
  there is a size, and that it is the one of the model.
* `modelTables`, `gives_tables_sizes`: what the model says of the rows of each table.
* `runs_recordRows`, `runs_treeRows`, `runs_queryRows`, `runs_tables`: where there are rows.
* `generateWith_sizes`: settings without a fault give tables by the model if all their counts have
  doubles, and an overflow if not.
-/

namespace Trendline.Sample

/-! ## The model -/

namespace SizeModel

/-- The size of a record with so many attributes. -/
def record (attributes : Nat) : Float :=
  48 + 9 * Scalar.ofNat attributes

/-- The size of an aggregation. -/
def aggregation (numerical categorical : Nat) : Float :=
  64 + 8 * Scalar.ofNat numerical + 4 * Scalar.ofNat categorical

/-- The size of a full tree: every record, and an aggregation for each of its nodes. -/
def fullTree (records attributes : Nat) : Float :=
  Scalar.ofNat records * record (attributes + attributes) +
    Scalar.ofNat (2 * records - 1) * aggregation attributes attributes

/-- The number of levels above the leaves. -/
def depth (log2 : Float → Float) (records : Nat) : Float :=
  Double.ceil (log2 (Scalar.ofNat records))

/-- The size of a pruned tree: one record, and an aggregation for each level. -/
def prunedTree (log2 : Float → Float) (records attributes : Nat) : Float :=
  record (attributes + attributes) + (depth log2 records + 1) * aggregation attributes attributes

/-- The size of the proof of a query: each record that matches with its path, of which it shares
more the larger the window is. -/
def queryProof (log2 : Float → Float) (records matching : Nat) (part : Float) : Float :=
  let path := Scalar.greatest (depth log2 records) 1 * (32 + aggregation 1 3) * (1 - 0.8 * part)
  Scalar.ofNat matching * (record 4 + path) + 32

end SizeModel

/-! ## Words -/

section

variable {m n a : UInt64} {size : Float}

theorem recordSize?_eq_some_iff : recordSize? m n = some size ↔
    m.toNat + n.toNat < 2 ^ 64 ∧ size = SizeModel.record (m.toNat + n.toNat) := by
  rw [recordSize?]
  by_cases h : m.toNat + n.toNat < 2 ^ 64
  · have hsum : sum? m n = some (m + n) := if_pos h
    rw [hsum]
    show some (48 + 9 * ofWord (m + n)) = some size ↔ _
    rw [Option.some_inj, ofWord, sum?_eq_some_iff.mp hsum, and_iff_right h, eq_comm]
    rfl
  · have hsum : sum? m n = none := if_neg h
    rw [hsum]
    exact iff_of_false nofun fun hsize => h hsize.1

theorem aggregationSize_eq (m n : UInt64) :
    aggregationSize m n = SizeModel.aggregation m.toNat n.toNat :=
  rfl

theorem fullTreeSize?_eq_some_iff : fullTreeSize? n a = some size ↔
    n.toNat < 2 ^ 63 ∧ a.toNat < 2 ^ 63 ∧ size = SizeModel.fullTree n.toNat a.toNat := by
  constructor
  · intro h
    obtain ⟨nodes, hnodes, h⟩ := Option.bind_eq_some_iff.mp h
    obtain ⟨record, hrecord, hsize⟩ := Option.bind_eq_some_iff.mp h
    obtain ⟨hn, hcount⟩ := nodeCount?_eq_some_iff.mp hnodes
    obtain ⟨ha, rfl⟩ := recordSize?_eq_some_iff.mp hrecord
    refine ⟨hn, by omega, ?_⟩
    rw [← Option.some.inj hsize, ofWord, ofWord, hcount, aggregationSize_eq, SizeModel.fullTree]
  · rintro ⟨hn, ha, rfl⟩
    obtain ⟨nodes, hnodes⟩ := exists_nodeCount? hn
    obtain ⟨-, hcount⟩ := nodeCount?_eq_some_iff.mp hnodes
    have hrecord := recordSize?_eq_some_iff.mpr ⟨show a.toNat + a.toNat < 2 ^ 64 by omega, rfl⟩
    rw [fullTreeSize?, hnodes, hrecord]
    show some _ = _
    rw [ofWord, ofWord, hcount, aggregationSize_eq, SizeModel.fullTree]

theorem prunedTreeSizeWith?_eq_some_iff (log2 : Float → Float) :
    prunedTreeSizeWith? log2 n a = some size ↔
      a.toNat < 2 ^ 63 ∧ size = SizeModel.prunedTree log2 n.toNat a.toNat := by
  constructor
  · intro h
    obtain ⟨record, hrecord, hsize⟩ := Option.bind_eq_some_iff.mp h
    obtain ⟨ha, rfl⟩ := recordSize?_eq_some_iff.mp hrecord
    exact ⟨by omega, (Option.some.inj hsize).symm⟩
  · rintro ⟨ha, rfl⟩
    have hrecord := recordSize?_eq_some_iff.mpr ⟨show a.toNat + a.toNat < 2 ^ 64 by omega, rfl⟩
    rw [prunedTreeSizeWith?, hrecord]
    rfl

end

/-! ## Rows -/

variable {σ : Type} {sampler : Sampler σ} {noise : Float}

/-- Whether a cell shows a size with the noise of some deviate. -/
def IsDrawn (sampler : Sampler σ) (noise size : Float) (cell : String) : Prop :=
  ∃ s, cell = sizeText (size * (1 + noise * (sampler.normal s).1))

theorem gives_isDrawn (size : Float) :
    Gives (noisy sampler noise size) (IsDrawn sampler noise size) := by
  intro s cell s' h
  obtain ⟨hcell, -⟩ := Prod.mk.inj (Option.some.inj h)
  exact ⟨s, hcell.symm⟩

/-- Whether a row shows two counts, and sizes with noise. -/
def ShowsSizes (sampler : Sampler σ) (noise : Float) (m n : UInt64) (sizes : List Float)
    (row : List String) : Prop :=
  ∃ cells, row = [countText m, countText n] ++ cells ∧
    List.Forall₂ (IsDrawn sampler noise) sizes cells

theorem gives_recordRows_sizes (m n : UInt64) :
    Gives (recordRows sampler noise m n) fun r =>
      ShowsSizes sampler noise m n [SizeModel.aggregation m.toNat n.toNat] r.1 ∧
        ShowsSizes sampler noise m n
          [SizeModel.record (m.toNat + n.toNat), SizeModel.aggregation m.toNat n.toNat] r.2 := by
  refine (gives_isDrawn _).bind fun single hsingle => (gives_lift _).bind fun size hsize => ?_
  obtain ⟨-, rfl⟩ := recordSize?_eq_some_iff.mp hsize
  refine (gives_isDrawn _).bind fun record hrecord => (gives_isDrawn _).bind
    fun aggregation haggregation => gives_pure ⟨⟨_, rfl, .cons hsingle .nil⟩, _, rfl, ?_⟩
  exact .cons hrecord (.cons haggregation .nil)

theorem gives_treeRows_sizes (log2 : Float → Float) (n a : UInt64) :
    Gives (treeRows log2 sampler noise n a) fun r =>
      ShowsSizes sampler noise n a [SizeModel.fullTree n.toNat a.toNat] r.1 ∧
        ShowsSizes sampler noise n a [SizeModel.prunedTree log2 n.toNat a.toNat] r.2 := by
  refine (gives_lift _).bind fun fullSize hfull => (gives_isDrawn _).bind fun full hdrawn => ?_
  refine (gives_lift _).bind fun prunedSize hpruned => (gives_isDrawn _).bind
    fun pruned hdrawn' => gives_pure ?_
  obtain ⟨-, -, rfl⟩ := fullTreeSize?_eq_some_iff.mp hfull
  obtain ⟨-, rfl⟩ := (prunedTreeSizeWith?_eq_some_iff log2).mp hpruned
  exact ⟨⟨_, rfl, .cons hdrawn .nil⟩, _, rfl, .cons hdrawn' .nil⟩

/-- Whether a row shows the sizes of a query, of which some number of records match. -/
def ShowsQuery (log2 : Float → Float) (records : UInt64) (p part : Float) (filter : List Bool)
    (row : List String) : Prop :=
  ∃ matching : Nat,
    row = [filterText filter, Decimal.Style.plain.write p,
      toString (Double.truncateToWord (ofWord records * part)), toString matching,
      roundText (SizeModel.queryProof log2 records.toNat matching part),
      roundText (Scalar.ofNat matching * SizeModel.record 4), countText records,
      roundText (SizeModel.record 4 * ofWord records),
      roundText (SizeModel.fullTree records.toNat 3), "1", "3"]

theorem gives_queryRow_sizes (log2 : Float → Float) (settings : Settings) (p part : Float)
    (filter : List Bool) :
    Gives (queryRow log2 sampler settings (SizeModel.record 4)
        (SizeModel.fullTree settings.queryRecords.toNat 3) p part filter)
      (ShowsQuery log2 settings.queryRecords p part filter) := by
  have hdrawn : Gives (modifyGet sampler.uniform : Draw σ Float) fun _ => True :=
    fun _ _ _ _ => trivial
  exact hdrawn.bind fun u _ => gives_pure ⟨_, rfl⟩

/-! ## Tables -/

/-- The tables of a sample by their names, and what the model says of their rows. -/
def modelTables (log2 : Float → Float) (sampler : Sampler σ) (settings : Settings) :
    List (String × (List (List String) → Prop)) :=
  let attributes := powersOfTwo settings.maxAttributes
  let records := powersOfTwo settings.maxRecords
  let sizes := ShowsSizes sampler settings.noise
  let query := fun (p, part, filter) => ShowsQuery log2 settings.queryRecords p part filter
  [("record_aggregation_size.csv", List.Forall₂
      (fun (m, n) => sizes m n [SizeModel.aggregation m.toNat n.toNat])
      (pairs attributes attributes)),
    ("record_and_record_aggregation_size.csv", List.Forall₂
      (fun (m, n) => sizes m n
        [SizeModel.record (m.toNat + n.toNat), SizeModel.aggregation m.toNat n.toNat])
      (pairs attributes attributes)),
    ("full_history_tree_size.csv", List.Forall₂
      (fun (n, a) => sizes n a [SizeModel.fullTree n.toNat a.toNat])
      (pairs records attributes)),
    ("pruned_history_tree_size.csv", List.Forall₂
      (fun (n, a) => sizes n a [SizeModel.prunedTree log2 n.toNat a.toNat])
      (pairs records attributes)),
    ("query_proof_size.csv",
      List.Forall₂ query (pairs selectivities (pairs windowParts queryFilters))),
    ("query_proof_unsorted_size.csv",
      List.Forall₂ query (pairs selectivities (pairs [0] queryFilters)))]

theorem forall₂_halves {α : Type} {p q : α → List String → Prop} {as : List α}
    {rows : List (List String × List String)}
    (h : List.Forall₂ (fun a r => p a r.1 ∧ q a r.2) as rows) :
    List.Forall₂ p as (rows.map (·.1)) ∧ List.Forall₂ q as (rows.map (·.2)) :=
  ⟨List.forall₂_map_right_iff.mpr (h.imp fun _ _ => And.left),
    List.forall₂_map_right_iff.mpr (h.imp fun _ _ => And.right)⟩

theorem gives_queryRows_sizes (log2 : Float → Float) (settings : Settings) (parts : List Float) :
    Gives (queryRows log2 sampler settings parts) (List.Forall₂
      (fun (p, part, filter) => ShowsQuery log2 settings.queryRecords p part filter)
      (pairs selectivities (pairs parts queryFilters))) := by
  refine (gives_lift _).bind fun perRecord hrecord => (gives_lift _).bind fun proofOfAll hall => ?_
  obtain ⟨-, rfl⟩ := recordSize?_eq_some_iff.mp hrecord
  obtain ⟨-, -, rfl⟩ := fullTreeSize?_eq_some_iff.mp hall
  exact gives_mapM_forall₂ fun (p, part, filter) _ =>
    gives_queryRow_sizes log2 settings p part filter

theorem gives_tables_sizes (log2 : Float → Float) (settings : Settings) :
    Gives (tables log2 sampler settings) (List.Forall₂
      (fun model t => t.fileName = model.1 ∧ model.2 t.rows)
      (modelTables log2 sampler settings)) := by
  refine (gives_mapM_forall₂ fun counts _ => gives_recordRows_sizes counts.1 counts.2).bind
    fun recordRows hrecordRows => ?_
  refine (gives_mapM_forall₂ fun counts _ => gives_treeRows_sizes log2 counts.1 counts.2).bind
    fun treeRows htreeRows => ?_
  refine (gives_queryRows_sizes log2 settings windowParts).bind fun sorted hsorted => ?_
  refine (gives_queryRows_sizes log2 settings [0]).bind fun unsorted hunsorted => gives_pure ?_
  obtain ⟨hsingle, hrecord⟩ := forall₂_halves hrecordRows
  obtain ⟨hfull, hpruned⟩ := forall₂_halves htreeRows
  exact .cons ⟨rfl, hsingle⟩ (.cons ⟨rfl, hrecord⟩ (.cons ⟨rfl, hfull⟩ (.cons ⟨rfl, hpruned⟩
    (.cons ⟨rfl, hsorted⟩ (.cons ⟨rfl, hunsorted⟩ .nil)))))

/-! ## Overflows -/

theorem runs_noisy (size : Float) : Runs (noisy sampler noise size) True := by
  have h : Runs (noisy sampler noise size) (True ∧ True) :=
    (runs_modifyGet _).bind fun z => runs_pure _
  simpa using h

theorem runs_recordRows (m n : UInt64) :
    Runs (recordRows sampler noise m n) (m.toNat + n.toNat < 2 ^ 64) := by
  have h : Runs (recordRows sampler noise m n)
      (True ∧ (recordSize? m n).isSome ∧ True ∧ True ∧ True) :=
    (runs_noisy _).bind fun single => (runs_lift _).bind fun size => (runs_noisy _).bind
      fun record => (runs_noisy _).bind fun aggregation => runs_pure _
  simpa [Option.isSome_iff_exists, recordSize?_eq_some_iff] using h

theorem runs_treeRows (log2 : Float → Float) (n a : UInt64) :
    Runs (treeRows log2 sampler noise n a) (n.toNat < 2 ^ 63 ∧ a.toNat < 2 ^ 63) := by
  have h : Runs (treeRows log2 sampler noise n a) ((fullTreeSize? n a).isSome ∧ True ∧
      (prunedTreeSizeWith? log2 n a).isSome ∧ True ∧ True) :=
    (runs_lift _).bind fun fullSize => (runs_noisy _).bind fun full => (runs_lift _).bind
      fun prunedSize => (runs_noisy _).bind fun pruned => runs_pure _
  simpa [Option.isSome_iff_exists, fullTreeSize?_eq_some_iff, prunedTreeSizeWith?_eq_some_iff,
    and_assoc] using h

theorem runs_queryRow (log2 : Float → Float) (settings : Settings)
    (perRecord proofOfAll p part : Float) (filter : List Bool) :
    Runs (queryRow log2 sampler settings perRecord proofOfAll p part filter) True := by
  have h : Runs (queryRow log2 sampler settings perRecord proofOfAll p part filter)
      (True ∧ True) :=
    (runs_modifyGet _).bind fun u => runs_pure _
  simpa using h

theorem runs_queryRows (log2 : Float → Float) (settings : Settings) (parts : List Float) :
    Runs (queryRows log2 sampler settings parts) (settings.queryRecords.toNat < 2 ^ 63) := by
  have h : Runs (queryRows log2 sampler settings parts) ((recordSize? 1 3).isSome ∧
      (fullTreeSize? settings.queryRecords 3).isSome ∧
        ∀ _ ∈ pairs selectivities (pairs parts queryFilters), True) :=
    (runs_lift _).bind fun perRecord => (runs_lift _).bind fun proofOfAll =>
      runs_mapM (fun (p, part, filter) => runs_queryRow log2 settings _ _ p part filter) _
  simpa [Option.isSome_iff_exists, recordSize?_eq_some_iff, fullTreeSize?_eq_some_iff] using h

theorem forall_mem_pairs_iff {α β : Type} {as : List α} {bs : List β} {c : α × β → Prop} :
    (∀ p ∈ pairs as bs, c p) ↔ ∀ a ∈ as, ∀ b ∈ bs, c (a, b) := by
  constructor
  · exact fun h a ha b hb => h (a, b) (mem_pairs.mpr ⟨ha, hb⟩)
  · rintro h ⟨a, b⟩ hmem
    exact h a (mem_pairs.mp hmem).1 b (mem_pairs.mp hmem).2

/-- Both record tables are there if the counts of attributes have doubles. -/
theorem runs_recordTables (max : UInt64) :
    Runs ((pairs (powersOfTwo max) (powersOfTwo max)).mapM fun (m, n) =>
      recordRows sampler noise m n) (max.toNat < 2 ^ 63) := by
  refine Runs.of_iff (runs_mapM (c := fun p : UInt64 × UInt64 => p.1.toNat + p.2.toNat < 2 ^ 64)
    (fun (m, n) => runs_recordRows m n) _) ?_
  exact forall_mem_pairs_iff.trans forall_mem_powersOfTwo_add_lt_iff

/-- Both tree tables are there if the counts of records and of attributes have doubles. -/
theorem runs_treeTables (log2 : Float → Float) {records attributes : UInt64} (hr : records ≠ 0)
    (ha : attributes ≠ 0) :
    Runs ((pairs (powersOfTwo records) (powersOfTwo attributes)).mapM fun (n, a) =>
      treeRows log2 sampler noise n a) (records.toNat < 2 ^ 63 ∧ attributes.toNat < 2 ^ 63) := by
  refine Runs.of_iff (runs_mapM
    (c := fun p : UInt64 × UInt64 => p.1.toNat < 2 ^ 63 ∧ p.2.toNat < 2 ^ 63)
    (fun (n, a) => runs_treeRows log2 n a) _) ?_
  rw [forall_mem_pairs_iff, ← forall_mem_powersOfTwo_lt_iff, ← forall_mem_powersOfTwo_lt_iff]
  constructor
  · exact fun h => ⟨fun n hn => (h n hn 1 (one_mem_powersOfTwo ha)).1,
      fun a hmem => (h 1 (one_mem_powersOfTwo hr) a hmem).2⟩
  · exact fun h n hn a hmem => ⟨h.1 n hn, h.2 a hmem⟩

/-- **The tables of a sample** are there if all counts have doubles. -/
theorem runs_tables (log2 : Float → Float) {settings : Settings} (h : settings.fault? = none) :
    Runs (tables log2 sampler settings) (settings.maxRecords.toNat < 2 ^ 63 ∧
      settings.maxAttributes.toNat < 2 ^ 63 ∧ settings.queryRecords.toNat < 2 ^ 63) := by
  obtain ⟨hrecords, hattributes, -⟩ := of_fault?_eq_none h
  refine Runs.of_iff ((runs_recordTables settings.maxAttributes).bind fun recordRows =>
    (runs_treeTables log2 hrecords hattributes).bind fun treeRows =>
      (runs_queryRows log2 settings windowParts).bind fun sorted =>
        (runs_queryRows log2 settings [0]).bind fun unsorted => runs_pure _) ?_
  constructor
  · rintro ⟨ha, ⟨hr, -⟩, hq, -⟩
    exact ⟨hr, ha, hq⟩
  · rintro ⟨hr, ha, hq⟩
    exact ⟨ha, ⟨hr, ha⟩, hq, hq, trivial⟩

/-- **Sizes by the model.**  Settings without a fault give tables if all their counts have doubles,
and all sizes in these are those of the model: a record is counted by the true sum of its
attributes, and a full tree by the true number of its nodes.  A count of `2 ^ 63` or more overflows
on the way to the tables. -/
theorem generateWith_sizes (log2 : Float → Float) (sampler : Sampler σ) (state : σ)
    {settings : Settings} (h : settings.fault? = none) :
    (settings.maxRecords.toNat < 2 ^ 63 ∧ settings.maxAttributes.toNat < 2 ^ 63 ∧
        settings.queryRecords.toNat < 2 ^ 63 →
      ∃ ts, generateWith log2 sampler state settings = .ok ts ∧
        List.Forall₂ (fun model t => t.fileName = model.1 ∧ model.2 t.rows)
          (modelTables log2 sampler settings) ts) ∧
    (generateWith log2 sampler state settings = .error .overflow ↔
      2 ^ 63 ≤ settings.maxRecords.toNat ∨ 2 ^ 63 ≤ settings.maxAttributes.toNat ∨
        2 ^ 63 ≤ settings.queryRecords.toNat) := by
  have hruns : Runs (tables log2 sampler settings) _ := runs_tables log2 h
  constructor
  · intro hcounts
    obtain ⟨⟨ts, state'⟩, hts⟩ := Option.isSome_iff_exists.mp ((hruns state).mpr hcounts)
    exact ⟨ts, generateWith_eq_ok_iff.mpr ⟨h, state', hts⟩,
      gives_tables_sizes log2 settings state ts state' hts⟩
  · rw [generateWith_eq_overflow_iff, and_iff_right h, ← Option.not_isSome_iff_eq_none, hruns state]
    omega

/-- Settings with the largest counts that have doubles, and the largest noise. -/
def largestSettings : Settings :=
  { maxRecords := 9223372036854775807, maxAttributes := 9223372036854775807
    queryRecords := 9223372036854775807, noise := 0.49999999999999994 }

theorem generateWith_sizes_largest :
    largestSettings.fault? = none ∧
    (∃ ts, generate largestSettings = .ok ts ∧
      List.Forall₂ (fun model t => t.fileName = model.1 ∧ model.2 t.rows)
        (modelTables Float.log2 Sampler.stream largestSettings) ts) := by
  have hfault : largestSettings.fault? = none :=
    Option.isNone_iff_eq_none.mp (by decide +kernel)
  exact ⟨hfault, (generateWith_sizes Float.log2 Sampler.stream
    (Stream.ofSeed largestSettings.seed) hfault).1 (by decide)⟩

/-- Settings with the least count of records that has no double. -/
def overflowingSettings : Settings :=
  { maxRecords := 9223372036854775808, maxAttributes := 1, queryRecords := 1, noise := 0 }

theorem not_generateWith_sizes_overflowing :
    overflowingSettings.fault? = none ∧ ¬ ∃ ts, generate overflowingSettings = .ok ts := by
  have hfault : overflowingSettings.fault? = none :=
    Option.isNone_iff_eq_none.mp (by decide +kernel)
  refine ⟨hfault, ?_⟩
  rintro ⟨ts, h⟩
  obtain ⟨-, state, hts⟩ := generateWith_eq_ok_iff.mp h
  have hsome := (runs_tables Float.log2 hfault _).mp (Option.isSome_iff_exists.mpr ⟨_, hts⟩)
  exact absurd hsome.1 (by decide)

end Trendline.Sample
