import Mathlib.Data.List.Forall2
import Trendline.Program.Uses
import Trendline.Proofs.Sample.Counts
import Trendline.Proofs.Sample.Sizes
import Trendline.Proofs.Value.Numbers
import Trendline.Sample.Tables

/-!
# What is in the sample tables

Rows are drawn from a sampler in some state, and what is said of them has to
hold whatever that state is.  Neither does it depend on the state whether there
is a row at all.

* `Gives`: a computation gives results with a property only, from every state.
* `Runs`: it has a result under a condition, from every state.
* `IsSampleRow`: a row has one cell for each column, and all but a filter are numbers.
* `gives_recordRows`, `gives_treeRows`, `gives_queryRow`: so are the rows that are drawn.
* `gives_tables`: the six tables have their names, their columns and such rows.
* `generateWith_eq_ok_iff`, `generateWith_eq_overflow_iff`: what is drawn is what is generated.
-/

namespace Trendline.Sample

open Double

variable {σ α β : Type}

/-! ## Drawing -/

/-- Whether a computation has only results with a property, whatever state it starts from. -/
def Gives (m : Draw σ α) (p : α → Prop) : Prop :=
  ∀ s a s', m s = some (a, s') → p a

theorem gives_pure {p : α → Prop} {a : α} (h : p a) : Gives (pure a : Draw σ α) p := by
  intro s b s' hb
  obtain ⟨rfl, -⟩ := Prod.mk.inj (Option.some.inj hb)
  exact h

theorem Gives.bind {m : Draw σ α} {f : α → Draw σ β} {p : α → Prop} {q : β → Prop}
    (h : Gives m p) (hf : ∀ a, p a → Gives (f a) q) : Gives (m >>= f) q := by
  intro s b s'' hb
  obtain ⟨⟨a, s'⟩, ha, hb⟩ := Option.bind_eq_some_iff.mp hb
  exact hf a (h s a s' ha) s' b s'' hb

theorem gives_lift (o : Option α) : Gives (liftM o : Draw σ α) fun a => o = some a := by
  intro s a s' ha
  obtain ⟨b, hb, ha⟩ := Option.bind_eq_some_iff.mp ha
  obtain ⟨rfl, -⟩ := Prod.mk.inj (Option.some.inj ha)
  exact hb

theorem gives_mapM_forall₂ {f : α → Draw σ β} {p : α → β → Prop} : ∀ {l : List α},
    (∀ a ∈ l, Gives (f a) (p a)) → Gives (l.mapM f) (List.Forall₂ p l) := by
  intro l
  induction l with
  | nil =>
    intro _
    exact gives_pure .nil
  | cons a rest ih =>
    intro h
    obtain ⟨ha, hrest⟩ := List.forall_mem_cons.mp h
    rw [List.mapM_cons]
    exact ha.bind fun b hb => (ih hrest).bind fun bs hbs => gives_pure (.cons hb hbs)

theorem gives_mapM {f : α → Draw σ β} {p : β → Prop} {l : List α}
    (h : ∀ a ∈ l, Gives (f a) p) : Gives (l.mapM f) fun bs => ∀ b ∈ bs, p b := by
  intro s bs s' hbs
  have hall : List.Forall₂ (fun b _ => p b ∧ True) bs l :=
    ((gives_mapM_forall₂ h s bs s' hbs).imp fun _ _ hb => ⟨hb, trivial⟩).flip
  exact ((List.forall₂_and_left _ _).mp hall).1

/-- Whether a computation has a result under a condition, whatever state it starts from. -/
def Runs (m : Draw σ α) (condition : Prop) : Prop :=
  ∀ s, (m s).isSome ↔ condition

theorem runs_pure (a : α) : Runs (pure a : Draw σ α) True :=
  fun _ => iff_true_intro rfl

theorem Runs.of_iff {m : Draw σ α} {c c' : Prop} (h : Runs m c) (hc : c ↔ c') : Runs m c' :=
  fun s => (h s).trans hc

/-- A chain has a result if each of its steps does. -/
theorem Runs.bind {m : Draw σ α} {f : α → Draw σ β} {c c' : Prop} (h : Runs m c)
    (hf : ∀ a, Runs (f a) c') : Runs (m >>= f) (c ∧ c') := by
  intro s
  rw [← h s]
  show ((m s).bind fun p => f p.1 p.2).isSome ↔ _
  cases m s with
  | none => simp
  | some p => simpa using hf p.1 p.2

theorem runs_lift (o : Option α) : Runs (liftM o : Draw σ α) o.isSome := by
  intro s
  cases o with
  | none => exact Iff.rfl
  | some a => exact iff_of_true rfl rfl

theorem runs_modifyGet (f : σ → α × σ) : Runs (modifyGet f : Draw σ α) True :=
  fun _ => iff_true_intro rfl

theorem runs_mapM {f : α → Draw σ β} {c : α → Prop} (h : ∀ a, Runs (f a) (c a)) :
    ∀ l : List α, Runs (l.mapM f) (∀ a ∈ l, c a) := by
  intro l
  induction l with
  | nil => exact fun s => iff_of_true rfl nofun
  | cons a rest ih =>
    rw [List.mapM_cons]
    have hcons : Runs (f a >>= fun b => rest.mapM f >>= fun bs => pure (b :: bs))
        (c a ∧ (∀ a ∈ rest, c a) ∧ True) :=
      (h a).bind fun b => ih.bind fun bs => runs_pure _
    simpa using hcons

/-- What is expected of a sampler: deviates this far from the mean are not drawn. -/
def Sampler.IsBounded (sampler : Sampler σ) : Prop :=
  ∀ s, (sampler.normal s).1.abs ≤ 100

theorem Sampler.IsBounded.gives_normal {sampler : Sampler σ} (h : sampler.IsBounded) :
    Gives (modifyGet sampler.normal) (Bounded 7) := by
  have h100 : Bounded 7 100 := bounded_of_bits (by decide) (by decide +kernel)
  intro s z s' hz
  obtain ⟨rfl, -⟩ := Prod.mk.inj (Option.some.inj hz)
  exact bounded_of_abs_le h100 (h s)

/-! ## Cells -/

theorem isNumeric_write {k : Nat} {x : Float} (h : Bounded k x) :
    IsNumeric (Decimal.Style.plain.write x) :=
  ⟨x, Value.parse_write h.isFinite⟩

theorem isNumeric_toString {n : Nat} (h : n ≤ 2 ^ 64) : IsNumeric (toString n) :=
  ⟨_, Value.parse_toString h⟩

theorem isNumeric_countText (n : UInt64) : IsNumeric (countText n) :=
  isNumeric_toString n.toNat_lt.le

theorem isNumeric_roundText {k : Nat} {x : Float} (h : Bounded k x) (hk : k ≤ 1023) :
    IsNumeric (roundText x) :=
  isNumeric_write (h.round hk)

theorem truncateToWord_le (x : Float) : truncateToWord x ≤ 2 ^ 64 := by
  have hmax : wordMax ≤ 2 ^ 64 := by decide
  rw [truncateToWord]
  split
  · exact Nat.zero_le _
  · split
    · exact Nat.zero_le _
    · split
      · exact (Nat.min_le_left _ _).trans hmax
      · exact hmax

/-- **A size with noise is a number**, as long as the size is. -/
theorem gives_noisy {sampler : Sampler σ} (hsampler : sampler.IsBounded) {k : Nat}
    {noise size : Float} (hnoise : Bounded 0 noise) (hsize : Bounded k size) (hk : k ≤ 1000) :
    Gives (noisy sampler noise size) IsNumeric := by
  refine hsampler.gives_normal.bind fun z hz => ?_
  have hfactor : Bounded 8 (1 + noise * z) :=
    (bounded_one 7).add ((hnoise.mul hz (by decide)).mono (by decide)) (by decide)
  have hround := (hsize.mul hfactor (by omega)).round (by omega)
  exact gives_pure (isNumeric_write (hround.greatest (bounded_one _)))

/-! ## Rows -/

/-- Whether a row has a cell for each column, which is a number unless it is a filter. -/
def IsSampleRow (headers row : List String) : Prop :=
  List.Forall₂ (fun name cell => name ≠ "Query" → IsNumeric cell) headers row

theorem isSampleRow_of_forall {headers row : List String} (hlength : headers.length = row.length)
    (h : ∀ cell ∈ row, IsNumeric cell) : IsSampleRow headers row :=
  List.forall₂_iff_zip.mpr ⟨hlength, fun hmem _ => h _ (List.of_mem_zip hmem).2⟩

theorem mem_pairs {a : α} {b : β} {as : List α} {bs : List β} :
    (a, b) ∈ pairs as bs ↔ a ∈ as ∧ b ∈ bs := by
  simp [pairs]

theorem isSampleRow_counts {headers cells : List String} (m n : UInt64)
    (hlength : headers.length = cells.length + 2) (h : ∀ cell ∈ cells, IsNumeric cell) :
    IsSampleRow headers ([countText m, countText n] ++ cells) :=
  isSampleRow_of_forall hlength (List.forall_mem_append.mpr
    ⟨List.forall_mem_cons.mpr
      ⟨isNumeric_countText m, List.forall_mem_singleton.mpr (isNumeric_countText n)⟩, h⟩)

theorem gives_recordRows {sampler : Sampler σ} (hsampler : sampler.IsBounded) {noise : Float}
    (hnoise : Bounded 0 noise) (numerical categorical : UInt64) :
    Gives (recordRows sampler noise numerical categorical) fun r =>
      IsSampleRow ["NumberNumerical", "NumberCategorical", "Size"] r.1 ∧
        IsSampleRow ["NumberNumerical", "NumberCategorical", "RecordSize",
          "RecordAggregationSize"] r.2 := by
  have haggregation := gives_noisy hsampler hnoise
    (bounded_aggregationSize numerical categorical) (by decide)
  refine haggregation.bind fun single hsingle => (gives_lift _).bind fun size hsize => ?_
  have hrecord := gives_noisy hsampler hnoise (bounded_recordSize? hsize) (by decide)
  refine hrecord.bind fun record hrecord => haggregation.bind fun aggregation haggregation => ?_
  exact gives_pure ⟨isSampleRow_counts _ _ rfl (List.forall_mem_singleton.mpr hsingle),
    isSampleRow_counts _ _ rfl
      (List.forall_mem_cons.mpr ⟨hrecord, List.forall_mem_singleton.mpr haggregation⟩)⟩

theorem bounded_of_mem_selectivities {p : Float} (h : p ∈ selectivities) : Bounded 0 p := by
  have hbits : ∀ p ∈ selectivities, magnitudeBits p ≤ powerBits 0 := by decide +kernel
  exact bounded_of_bits (by decide) (hbits p h)

theorem bounded_of_mem_windowParts {part : Float} (h : part ∈ windowParts) : Bounded 0 part := by
  have hbits : ∀ part ∈ windowParts, magnitudeBits part ≤ powerBits 0 := by decide +kernel
  exact bounded_of_bits (by decide) (hbits part h)

section

variable {sampler : Sampler σ} {log2 : Float → Float} (hlog : IsLog2 log2)

include hlog

theorem gives_treeRows (hsampler : sampler.IsBounded) {noise : Float} (hnoise : Bounded 0 noise)
    {records : UInt64} (hrecords : records ≠ 0) (attributes : UInt64) :
    Gives (treeRows log2 sampler noise records attributes) fun r =>
      IsSampleRow ["NumberRecords", "NumberAttributes", "Size"] r.1 ∧
        IsSampleRow ["NumberRecords", "NumberAttributes", "Size"] r.2 := by
  refine (gives_lift _).bind fun fullSize hfullSize => ?_
  have hfull := gives_noisy hsampler hnoise (bounded_fullTreeSize? hfullSize) (by decide)
  refine hfull.bind fun full hfull => (gives_lift _).bind fun prunedSize hprunedSize => ?_
  have hpruned := gives_noisy hsampler hnoise
    (bounded_prunedTreeSizeWith? hlog hrecords hprunedSize) (by decide)
  refine hpruned.bind fun pruned hpruned => ?_
  exact gives_pure ⟨isSampleRow_counts _ _ rfl (List.forall_mem_singleton.mpr hfull),
    isSampleRow_counts _ _ rfl (List.forall_mem_singleton.mpr hpruned)⟩

/-- **The row of a query**: whatever is drawn, the number of records that match is a word. -/
theorem gives_queryRow {settings : Settings} (hrecords : settings.queryRecords ≠ 0)
    {perRecord proofOfAll p part : Float} (hrecord : Bounded 69 perRecord)
    (hall : Bounded 134 proofOfAll) (hp : Bounded 0 p) (hpart : Bounded 0 part)
    (filter : List Bool) :
    Gives (queryRow log2 sampler settings perRecord proofOfAll p part filter)
      (IsSampleRow queryHeaders) := by
  -- the count is cut to a word, so nothing has to be known of the draw
  have hdrawn : Gives (modifyGet sampler.uniform : Draw σ Float) fun _ => True :=
    fun _ _ _ _ => trivial
  refine hdrawn.bind fun u _ => gives_pure ?_
  have hcount := fun x : Float => bounded_ofNat (truncateToWord_le x)
  have hlevels := (bounded_depthWith hlog hrecords).greatest (bounded_one 7)
  have hfactor : Bounded 0 0.8 := bounded_of_bits (by decide) (by decide +kernel)
  have hhash : Bounded 69 32 := bounded_of_bits (by decide) (by decide +kernel)
  have hshared : Bounded 1 (1 - 0.8 * part) :=
    (bounded_one 0).sub (hfactor.mul hpart (by decide)) (by decide)
  have hnode := hhash.add (bounded_aggregationSize 1 3) (by decide)
  have hpath := (hlevels.mul hnode (by decide)).mul hshared (by decide)
  have hparts := (hrecord.mono (by decide)).add hpath (by decide)
  have hproof := fun x : Float =>
    ((hcount x).mul hparts (by decide)).add (hhash.mono (by decide)) (by decide)
  refine .cons (fun h => absurd rfl h) (isSampleRow_of_forall rfl ?_)
  simp only [List.forall_mem_cons]
  exact ⟨isNumeric_write hp, isNumeric_toString (truncateToWord_le _),
    isNumeric_toString (truncateToWord_le _), isNumeric_roundText (hproof _) (by decide),
    isNumeric_roundText ((hcount _).mul hrecord (by decide)) (by decide), isNumeric_countText _,
    isNumeric_roundText (hrecord.mul (bounded_ofWord _) (by decide)) (by decide),
    isNumeric_roundText hall (by decide), isNumeric_countText 1,
    isNumeric_countText 3, nofun⟩

theorem gives_queryRows {settings : Settings} (hrecords : settings.queryRecords ≠ 0)
    {parts : List Float} (hparts : ∀ part ∈ parts, part ∈ windowParts) :
    Gives (queryRows log2 sampler settings parts) fun rows =>
      ∀ row ∈ rows, IsSampleRow queryHeaders row := by
  refine (gives_lift _).bind fun perRecord hperRecord => ?_
  refine (gives_lift _).bind fun proofOfAll hall => ?_
  refine gives_mapM fun (p, part, filter) hmem => ?_
  obtain ⟨hp, hpart⟩ := mem_pairs.mp hmem
  exact gives_queryRow hlog hrecords (bounded_recordSize? hperRecord) (bounded_fullTreeSize? hall)
    (bounded_of_mem_selectivities hp)
    (bounded_of_mem_windowParts (hparts part (mem_pairs.mp hpart).1)) filter

end

/-! ## Tables -/

/-- The tables of a sample by their names, and their columns. -/
def tableColumns : List (String × List String) :=
  [("record_aggregation_size.csv", ["NumberNumerical", "NumberCategorical", "Size"]),
    ("record_and_record_aggregation_size.csv",
      ["NumberNumerical", "NumberCategorical", "RecordSize", "RecordAggregationSize"]),
    ("full_history_tree_size.csv", ["NumberRecords", "NumberAttributes", "Size"]),
    ("pruned_history_tree_size.csv", ["NumberRecords", "NumberAttributes", "Size"]),
    ("query_proof_size.csv", queryHeaders),
    ("query_proof_unsorted_size.csv", queryHeaders)]

/-- Whether tables have the names and columns of a sample, and rows of numbers. -/
structure IsSample (ts : List Csv.Table) : Prop where
  columns : ts.map (fun t => (t.fileName, t.headers)) = tableColumns
  rows : ∀ t ∈ ts, ∀ row ∈ t.rows, IsSampleRow t.headers row

theorem of_fault?_eq_none {settings : Settings} (h : settings.fault? = none) :
    settings.maxRecords ≠ 0 ∧ settings.maxAttributes ≠ 0 ∧ settings.queryRecords ≠ 0 ∧
      0 ≤ settings.noise ∧ settings.noise < 0.5 := by
  rw [Settings.fault?] at h
  split at h
  · cases h
  · rename_i hpositive
    simp only [not_or] at hpositive
    split at h
    · rename_i hnoise
      exact ⟨hpositive.1, hpositive.2.1, hpositive.2.2, hnoise.2⟩
    · cases h

theorem generateWith_eq_ok_iff {log2 : Float → Float} {sampler : Sampler σ} {settings : Settings}
    {state : σ} {ts : List Csv.Table} :
    generateWith log2 sampler state settings = .ok ts ↔ settings.fault? = none ∧
      ∃ state', tables log2 sampler settings state = some (ts, state') := by
  rw [generateWith]
  cases settings.fault? with
  | some f => simp
  | none => cases tables log2 sampler settings state <;> simp [Stop.checked, Prod.ext_iff]

theorem generateWith_eq_overflow_iff {log2 : Float → Float} {sampler : Sampler σ}
    {settings : Settings} {state : σ} :
    generateWith log2 sampler state settings = .error .overflow ↔
      settings.fault? = none ∧ tables log2 sampler settings state = none := by
  rw [generateWith]
  cases settings.fault? with
  | some f => simp
  | none => cases tables log2 sampler settings state <;> simp [Stop.checked]

section

variable {sampler : Sampler σ} (hsampler : sampler.IsBounded) {log2 : Float → Float}
  (hlog : IsLog2 log2) {settings : Settings}

include hsampler hlog

theorem gives_tables (hrecords : settings.queryRecords ≠ 0) (hnoise : Bounded 0 settings.noise) :
    Gives (tables log2 sampler settings) IsSample := by
  refine (gives_mapM fun (n, c) _ => gives_recordRows hsampler hnoise n c).bind
    fun recordRows hrecordRows => ?_
  refine (gives_mapM fun (n, a) hmem => gives_treeRows hlog hsampler hnoise
    (ne_zero_of_mem_powersOfTwo (mem_pairs.mp hmem).1) a).bind fun treeRows htreeRows => ?_
  refine (gives_queryRows hlog hrecords fun _ => id).bind fun sorted hsorted => ?_
  have hzero : ∀ part ∈ [0], part ∈ windowParts := by simp [windowParts]
  refine (gives_queryRows hlog hrecords hzero).bind fun unsorted hunsorted => ?_
  refine gives_pure ⟨rfl, ?_⟩
  simp only [List.forall_mem_cons, List.forall_mem_map]
  exact ⟨fun r hr => (hrecordRows r hr).1, fun r hr => (hrecordRows r hr).2,
    fun r hr => (htreeRows r hr).1, fun r hr => (htreeRows r hr).2, hsorted, hunsorted, nofun⟩

/-- **The tables of a sample** have numbers in all their columns but that of the filters. -/
theorem isSample_of_generateWith {state : σ} {ts : List Csv.Table}
    (h : generateWith log2 sampler state settings = .ok ts) : IsSample ts := by
  have hhalf : Bounded 0 0.5 := bounded_of_bits (by decide) (by decide +kernel)
  obtain ⟨hfault, state', hts⟩ := generateWith_eq_ok_iff.mp h
  obtain ⟨-, -, hrecords, hlow, hhigh⟩ := of_fault?_eq_none hfault
  exact gives_tables hsampler hlog hrecords (bounded_of_le hhalf hlow (le_of_lt hhigh)) state ts
    state' hts

end

end Trendline.Sample
