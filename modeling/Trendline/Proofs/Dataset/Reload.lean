import Trendline.Csv.Table
import Trendline.Proofs.Csv.RoundTrip
import Trendline.Proofs.Dataset.Csv

/-!
# Loading what was written

* `values_ofText`: where the records of a text are known, so are the cells.
* `columnName_of_head?`: a name without a byte order mark is only trimmed.
* `ofBytes_table`: a written table can be loaded, and nothing is lost but what
  is blank.
-/

namespace Trendline.Dataset

/-- Whether a record has something else than blanks in a cell. -/
def hasText (record : List String) : Bool :=
  record.any (!Text.isAllBlank ·)

section

variable {r : Csv.Record Char} {record : List String}
  (h : r.fields = record.map String.toList)

include h

theorem hasContent_eq : hasContent r = hasText record := by
  simp only [hasContent, h, hasText, Text.isAllBlank, List.any_map, List.not_all_eq_any_not]
  rfl

theorem values_rowOf {width : Nat} (hwidth : record.length = width) :
    (rowOf width r).values = record.map Value.parse := by
  have hvalues : (r.fields.map fun field => Value.parse (String.ofList field)) =
      record.map Value.parse := by
    simp only [h, List.map_map, Function.comp_def, String.ofList_toList]
  rw [rowOf, hvalues, Row.resize_of_length]
  rw [List.length_map, hwidth]

theorem columnsOf_eq : columnsOf r = record.map columnName := by
  simp only [columnsOf, h, List.map_map, Function.comp_def, fieldText, String.ofList_toList]
  rfl

end

theorem values_rows {width : Nat} : ∀ {records : List (Csv.Record Char)}
    {rows : List (List String)}, (∀ row ∈ rows, row.length = width) →
    records.map (·.fields) = rows.map (·.map String.toList) →
    ((records.filter hasContent).map (rowOf width)).map (·.values) =
      (rows.filter hasText).map (·.map Value.parse) := by
  intro records
  induction records with
  | nil =>
    intro rows _ h
    rw [List.map_nil, eq_comm, List.map_eq_nil_iff] at h
    rw [h]
    rfl
  | cons r rest ih =>
    intro rows hrows h
    cases rows with
    | nil => cases h
    | cons row rows =>
      obtain ⟨hfields, hrest⟩ := List.cons.inj h
      obtain ⟨hrow, hrows⟩ := List.forall_mem_cons.mp hrows
      rw [List.filter_cons, List.filter_cons, hasContent_eq hfields]
      split
      · rw [List.map_cons, List.map_cons, List.map_cons, values_rowOf hfields hrow, ih hrows hrest]
      · exact ih hrows hrest

/-- Where the records of a text are known, so are the columns and the cells. -/
theorem values_ofText {source : String} {text : List Char} {header : List String}
    {rows : List (List String)} (hrows : ∀ row ∈ rows, row.length = header.length)
    (h : (Csv.records text).map (·.fields) = (header :: rows).map (·.map String.toList)) :
    (ofText source text).columns = header.map columnName ∧
      (ofText source text).rows.map (·.values) =
        (rows.filter hasText).map (·.map Value.parse) := by
  rw [ofText_eq]
  cases hrecords : Csv.records text with
  | nil =>
    rw [hrecords] at h
    cases h
  | cons r rest =>
    rw [hrecords] at h
    obtain ⟨hfields, hrest⟩ := List.cons.inj h
    refine ⟨columnsOf_eq hfields, values_rows (fun row hrow => ?_) hrest⟩
    rw [columnsOf_eq hfields, List.length_map]
    exact hrows row hrow

theorem columnName_of_head? {name : String}
    (h : (Text.trim name).toList.head? ≠ some Csv.byteOrderMark) :
    columnName name = Text.trim name := by
  have hdrop : (Text.trim name).toList.dropWhile (· == Csv.byteOrderMark) =
      (Text.trim name).toList := by
    cases hname : (Text.trim name).toList with
    | nil => rfl
    | cons c rest =>
      rw [hname] at h
      have hc : ¬ (c == Csv.byteOrderMark) = true := fun hc => h (congrArg some (eq_of_beq hc))
      exact List.dropWhile_cons_of_neg hc
  rw [columnName, hdrop, String.ofList_toList]

/-- **Loading what was written.**  A table with columns, whose rows are as long as its header and
whose names begin with no byte order mark, is written; and loading it gives the names without the
blanks around them and, in order, the cells of the rows that are not blank. -/
theorem ofBytes_table (t : Csv.Table) (source : String) (hheaders : t.headers ≠ [])
    (hrows : ∀ row ∈ t.rows, row.length = t.headers.length)
    (hmark : ∀ name ∈ t.headers, (Text.trim name).toList.head? ≠ some Csv.byteOrderMark) :
    ∃ text d, t.text = .ok text ∧ ofBytes source text.toUTF8.toList = .ok d ∧
      d.columns = t.headers.map Text.trim ∧
      d.rows.map (·.values) = (t.rows.filter hasText).map (·.map Value.parse) := by
  have hmark' : ∀ name ∈ t.headers, name.toList.head? ≠ some Csv.byteOrderMark :=
    fun name hname h => hmark name hname (Text.head?_trim h (by decide))
  obtain ⟨text, hwrite, hrecords⟩ := Csv.records_write hheaders hrows hmark'
  obtain ⟨hcolumns, hvalues⟩ := values_ofText hrows hrecords
  refine ⟨text, _, ?_, ofBytes_toUTF8 source text, ?_, hvalues⟩
  · rw [Csv.Table.text, hwrite]
    rfl
  · rw [hcolumns]
    apply List.map_congr_left
    exact fun name hname => columnName_of_head? (hmark name hname)

/-- A table with all that needs care: blanks around a name, quotes, commas and ends of line in
cells, and a row that is blank. -/
def awkwardTable : Csv.Table :=
  ⟨"t.csv", [" a\"b", ","], [["", " "], ["\r", "x\n\"y\""], ["1", ","]]⟩

theorem ofBytes_table_awkward :
    (awkwardTable.headers ≠ [] ∧
      (∀ row ∈ awkwardTable.rows, row.length = awkwardTable.headers.length) ∧
      ∀ name ∈ awkwardTable.headers,
        (Text.trim name).toList.head? ≠ some Csv.byteOrderMark) ∧
    ∃ text d, awkwardTable.text = .ok text ∧ ofBytes "t.csv" text.toUTF8.toList = .ok d ∧
      d.columns = awkwardTable.headers.map Text.trim ∧
      d.rows.map (·.values) =
        (awkwardTable.rows.filter hasText).map (·.map Value.parse) := by
  have hheaders : awkwardTable.headers ≠ [] := by decide
  have hrows : ∀ row ∈ awkwardTable.rows, row.length = awkwardTable.headers.length := by decide
  have hmark : ∀ name ∈ awkwardTable.headers,
      (Text.trim name).toList.head? ≠ some Csv.byteOrderMark := by decide +kernel
  exact ⟨⟨hheaders, hrows, hmark⟩, ofBytes_table awkwardTable "t.csv" hheaders hrows hmark⟩

end Trendline.Dataset
