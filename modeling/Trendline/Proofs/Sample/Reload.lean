import Trendline.Proofs.Dataset.Reload
import Trendline.Proofs.Figure.Numbers
import Trendline.Proofs.Sample.Tables

/-!
# Sample tables read back

A row of a sample has a number in it, so no row is blank, and none is lost.

* `ReadsAs`: a dataset has the cells of a table, and numbers where a sample has them.
* `exists_text`: a table of a sample can be written, and is read back.
* `hasTables_of_readsAs`: every figure finds its numbers in the tables of a sample.
-/

namespace Trendline.Sample

variable {headers row : List String}

theorem hasText_of_isSampleRow (h : IsSampleRow headers row) {name : String}
    (hname : name ∈ headers) (hcount : name ≠ "Query") : Dataset.hasText row = true := by
  induction h with
  | nil => cases hname
  | @cons name' cell names cells hcell hcells ih =>
    rw [Dataset.hasText, List.any_cons, Bool.or_eq_true]
    rcases List.mem_cons.mp hname with rfl | hname
    · refine .inl ?_
      rw [isAllBlank_of_isNumeric (hcell hcount)]
      rfl
    · exact .inr (ih hname)

/-- Whether a dataset has the columns and the cells of a table, and numbers in all columns but that
of the filters. -/
structure ReadsAs (t : Csv.Table) (d : Dataset) : Prop where
  columns : d.columns = t.headers
  cells : d.rows.map (·.values) = t.rows.map (·.map Value.parse)
  number : ∀ row ∈ d.rows, List.Forall₂ (fun name v => name ≠ "Query" → ∃ x, v = .number x)
    d.columns row.values

theorem number_of_cells {d : Dataset} {rows : List (List String)}
    (hcells : d.rows.map (·.values) = rows.map (·.map Value.parse))
    (hrows : ∀ row ∈ rows, IsSampleRow headers row) {r : Row} (hr : r ∈ d.rows) :
    List.Forall₂ (fun name v => name ≠ "Query" → ∃ x, v = .number x) headers r.values := by
  have hmem : r.values ∈ rows.map (·.map Value.parse) :=
    hcells ▸ List.mem_map_of_mem hr
  obtain ⟨row, hrow, hvalues⟩ := List.mem_map.mp hmem
  rw [← hvalues]
  exact List.forall₂_map_right_iff.mpr (hrows row hrow)

/-- What the names of columns have to be, to be read as they are written. -/
structure IsHeader (headers : List String) : Prop where
  count : ∃ name ∈ headers, name ≠ "Query"
  plain : ∀ name ∈ headers, Dataset.columnName name = name
  mark : ∀ name ∈ headers, name.toList.head? ≠ some Csv.byteOrderMark

instance (headers : List String) : Decidable (IsHeader headers) :=
  decidable_of_iff ((∃ name ∈ headers, name ≠ "Query") ∧
      (∀ name ∈ headers, Dataset.columnName name = name) ∧
      ∀ name ∈ headers, name.toList.head? ≠ some Csv.byteOrderMark)
    ⟨fun h => ⟨h.1, h.2.1, h.2.2⟩, fun h => ⟨h.count, h.plain, h.mark⟩⟩

/-- **A table of a sample is written**, and read back as it was. -/
theorem exists_text {t : Csv.Table} (source : String) (hheader : IsHeader t.headers)
    (hrows : ∀ row ∈ t.rows, IsSampleRow t.headers row) :
    ∃ text, t.text = .ok text ∧
      ∃ d, Dataset.ofBytes source text.toUTF8.toList = .ok d ∧ ReadsAs t d := by
  -- rows that are blank would be lost, so every row needs a column that is not a filter
  obtain ⟨name, hname, hcount⟩ := hheader.count
  have hlength : ∀ row ∈ t.rows, row.length = t.headers.length :=
    fun row hrow => (hrows row hrow).length_eq.symm
  have htext : t.rows.filter Dataset.hasText = t.rows :=
    List.filter_eq_self.mpr fun row hrow => hasText_of_isSampleRow (hrows row hrow) hname hcount
  obtain ⟨text, hwrite, hrecords⟩ :=
    Csv.records_write (List.ne_nil_of_mem hname) hlength hheader.mark
  obtain ⟨hcolumns, hcells⟩ := @Dataset.values_ofText source _ _ _ hlength hrecords
  have hnames : t.headers.map Dataset.columnName = t.headers :=
    (List.map_congr_left hheader.plain).trans (List.map_id _)
  rw [htext] at hcells
  rw [hnames] at hcolumns
  refine ⟨text, ?_, _, Dataset.ofBytes_toUTF8 source text, hcolumns, hcells, fun row hrow => ?_⟩
  · rw [Csv.Table.text, hwrite]
    rfl
  · rw [hcolumns]
    exact number_of_cells hcells hrows hrow

/-! ## Figures -/

theorem exists_value? {d : Dataset} {r : Row} {R : String → Value → Prop}
    (h : List.Forall₂ R d.columns r.values) {name : String} (hname : name ∈ d.columns) :
    ∃ v, d.value? r name = some v ∧ R name v := by
  cases hi : Dataset.lastIndex? name d.columns with
  | none => exact absurd hname (Dataset.lastIndex?_eq_none_iff.mp hi)
  | some i =>
    obtain ⟨hlt, hcolumn⟩ := List.getElem?_eq_some_iff.mp (Dataset.getElem?_of_lastIndex? hi)
    have hlt' : i < r.values.length := h.length_eq ▸ hlt
    refine ⟨r.cell i, by rw [Dataset.value?, hi]; rfl, ?_⟩
    rw [Row.cell, List.getD_eq_getElem _ _ hlt']
    exact hcolumn ▸ h.get hlt hlt'

theorem ReadsAs.hasNumbers {t : Csv.Table} {d : Dataset} (h : ReadsAs t d) {names : List String}
    (hnames : ∀ name ∈ names, name ∈ t.headers ∧ name ≠ "Query") : d.HasNumbers names where
  columns name hname := h.columns ▸ (hnames name hname).1
  number row hrow name hname := by
    have hcolumn : name ∈ d.columns := h.columns ▸ (hnames name hname).1
    obtain ⟨v, hv, hnumber⟩ := exists_value? (h.number row hrow) hcolumn
    obtain ⟨x, rfl⟩ := hnumber (hnames name hname).2
    exact ⟨x, hv⟩

/-- The columns that a figure reads are in its tables. -/
theorem exists_tableColumns (kind : FigureKind) : ∀ name ∈ kind.tableNames,
    ∃ entry ∈ tableColumns, entry.1 = name ∧
      ∀ column ∈ kind.columnsRead, column ∈ entry.2 ∧ column ≠ "Query" := by
  cases kind <;> decide

/-- **Every figure finds its numbers** in the tables of a sample. -/
theorem hasTables_of_readsAs {ts : List Csv.Table} (hsample : IsSample ts) {files : FileTree}
    {dataDir : String} (h : ∀ t ∈ ts, ∃ d,
      Dataset.ofFile files (Path.join dataDir t.fileName) = .ok d ∧ ReadsAs t d)
    (kind : FigureKind) : HasTables files dataDir kind := by
  intro name hname
  obtain ⟨entry, hentry, rfl, hcolumns⟩ := exists_tableColumns kind name hname
  rw [← hsample.columns] at hentry
  obtain ⟨t, ht, rfl⟩ := List.mem_map.mp hentry
  obtain ⟨d, hd, hreads⟩ := h t ht
  exact ⟨d, hd, hreads.hasNumbers hcolumns⟩

end Trendline.Sample
