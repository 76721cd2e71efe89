import Trendline.Proofs.Dataset.Reload
import Trendline.Proofs.Dataset.Series
import Trendline.Proofs.Value.Message
import Trendline.Report.Export

/-!
# Loading exported fits

An exported table goes through the quotes of the writer, and through the blanks, the empty records
and the widths of the reader.

* `hasText_of_mem_records`: no record is blank, whatever the labels are.
* `values_exportCsv`: so each of them is a row.
* `exportCsv_rows`: what stands in the rows, by the names of the columns.
-/

namespace Trendline.Report

/-- The row of a fit. -/
structure IsFitRow (d : Dataset) (r : FittedSeries Float) (row : Row) : Prop where
  series : d.value? row "series" = some (Value.parse r.label)
  degree : d.value? row "degree" = some (Value.parse (toString r.fit.degree.toNat))
  n : d.value? row "n" = some (Value.parse (toString r.fit.quality.n))
  error : d.value? row "error" = some (.text "")

/-- The row of a skipped series. -/
structure IsSkippedRow (d : Dataset) (s : SkippedSeries Float) (row : Row) : Prop where
  series : d.value? row "series" = some (Value.parse s.label)
  between : ∀ name ∈ exportHeader, name ≠ "series" → name ≠ "error" →
    d.value? row name = some (.text "")
  error : d.value? row "error" = some (.text s.error.message)

variable {rows : List (FittedSeries Float)} {skipped : List (SkippedSeries Float)}

/-! ## The records -/

theorem length_of_mem_records : ∀ record ∈ rows.map fitRecord ++ skipped.map skippedRecord,
    record.length = exportHeader.length := by
  intro record hrecord
  rcases List.mem_append.mp hrecord with h | h
  · obtain ⟨r, -, rfl⟩ := List.mem_map.mp h
    rfl
  · obtain ⟨s, -, rfl⟩ := List.mem_map.mp h
    rfl

theorem hasText_of_mem_records : ∀ record ∈ rows.map fitRecord ++ skipped.map skippedRecord,
    Dataset.hasText record = true := by
  intro record hrecord
  rw [Dataset.hasText, List.any_eq_true]
  rcases List.mem_append.mp hrecord with h | h
  · -- the label may be blank, but the name of the space is not
    obtain ⟨r, -, rfl⟩ := List.mem_map.mp h
    have hspace : (!Text.isAllBlank r.fit.space.name) = true := by
      cases r.fit.space <;> decide
    exact ⟨_, List.mem_cons_of_mem _ List.mem_cons_self, hspace⟩
  · obtain ⟨s, -, rfl⟩ := List.mem_map.mp h
    refine ⟨s.error.message, List.mem_append_right _ List.mem_cons_self, ?_⟩
    rw [isAllBlank_message]
    rfl

theorem values_exportCsv (source : String) (rows : List (FittedSeries Float))
    (skipped : List (SkippedSeries Float)) :
    ∃ text d, exportCsv rows skipped = .ok text ∧
      Dataset.ofBytes source text.toUTF8.toList = .ok d ∧ d.columns = exportHeader ∧
      d.rows.map (·.values) =
        (rows.map fitRecord ++ skipped.map skippedRecord).map (·.map Value.parse) := by
  have hlength : ∀ record ∈ rows.map fitRecord ++ skipped.map skippedRecord,
      record.length = exportHeader.length := length_of_mem_records
  have hheader : exportHeader ≠ [] := nofun
  obtain ⟨text, hwrite, hrecords⟩ := Csv.records_write hheader hlength (by decide)
  obtain ⟨hcolumns, hvalues⟩ := Dataset.values_ofText hlength hrecords
  refine ⟨text, _, hwrite, Dataset.ofBytes_toUTF8 source text, ?_, ?_⟩
  · rw [hcolumns]
    decide +kernel
  · rw [hvalues, List.filter_eq_self.mpr hasText_of_mem_records]

/-! ## The cells -/

theorem parse_empty : Value.parse "" = Value.empty := rfl

section

variable {d : Dataset} {row : Row} (hcolumns : d.columns = exportHeader)

include hcolumns

theorem value?_eq {record : List String} (hvalues : row.values = record.map Value.parse)
    {name : String} (i : Nat) (h : Dataset.lastIndex? name exportHeader = some i) :
    d.value? row name = some (Value.parse (record.getD i "")) := by
  rw [Dataset.value?, hcolumns, h, Option.map_some, Row.cell, hvalues, ← parse_empty,
    List.getD_map]

theorem isFitRow_of_values {r : FittedSeries Float}
    (hvalues : row.values = (fitRecord r).map Value.parse) : IsFitRow d r row where
  series := value?_eq hcolumns hvalues 0 (by decide)
  degree := value?_eq hcolumns hvalues 2 (by decide)
  n := value?_eq hcolumns hvalues 3 (by decide)
  error := (value?_eq hcolumns hvalues 10 (by decide)).trans (congrArg some parse_empty)

theorem isSkippedRow_of_values {s : SkippedSeries Float}
    (hvalues : row.values = (skippedRecord s).map Value.parse) : IsSkippedRow d s row where
  series := value?_eq hcolumns hvalues 0 (by decide)
  between := by
    intro name hname hseries herror
    have hindex : ∀ name ∈ exportHeader, name ≠ "series" → name ≠ "error" →
        ∃ i ∈ List.range 9, Dataset.lastIndex? name exportHeader = some (i + 1) := by
      decide
    obtain ⟨i, hi, hname⟩ := hindex name hname hseries herror
    have hcell : (skippedRecord s).getD (i + 1) "" = "" := by
      rw [skippedRecord, List.cons_append, List.getD_cons_succ, List.getD_append]
      · exact List.getD_replicate _ (List.mem_range.mp hi)
      · rw [List.length_replicate]
        exact List.mem_range.mp hi
    rw [value?_eq hcolumns hvalues (i + 1) hname, hcell, parse_empty]
    rfl
  error := (value?_eq hcolumns hvalues 10 (by decide)).trans (congrArg some (parse_message s.error))

end

/-- Rows with these cells stand for these things, one for one. -/
theorem forall₂_of_values {α : Type} {p : α → Row → Prop} {record : α → List String}
    {things : List α} {rows : List Row}
    (h : rows.map (·.values) = (things.map record).map (·.map Value.parse))
    (hp : ∀ a row, row.values = (record a).map Value.parse → p a row) :
    List.Forall₂ p things rows := by
  have heq : List.Forall₂ (· = ·) (things.map fun a => (record a).map Value.parse)
      (rows.map (·.values)) := by
    rw [List.forall₂_eq_eq_eq, h, List.map_map]
    rfl
  rw [List.forall₂_map_left_iff, List.forall₂_map_right_iff] at heq
  exact heq.imp fun a row h => hp a row h.symm

/-- **Loading exported fits.**  Whatever the labels and the errors are, an export is written, and it
is loaded with its own header and as many rows as there are fits and skipped series: the rows of the
fits first, and then those of the skipped series, each in order. -/
theorem exportCsv_rows (source : String) (rows : List (FittedSeries Float))
    (skipped : List (SkippedSeries Float)) :
    ∃ text d, exportCsv rows skipped = .ok text ∧
      Dataset.ofBytes source text.toUTF8.toList = .ok d ∧ d.columns = exportHeader ∧
      d.rows.length = rows.length + skipped.length ∧
      List.Forall₂ (IsFitRow d) rows (d.rows.take rows.length) ∧
      List.Forall₂ (IsSkippedRow d) skipped (d.rows.drop rows.length) := by
  obtain ⟨text, d, htext, hd, hcolumns, hvalues⟩ := values_exportCsv source rows skipped
  rw [List.map_append] at hvalues
  have hlength : ((rows.map fitRecord).map (·.map Value.parse)).length = rows.length := by
    rw [List.length_map, List.length_map]
  refine ⟨text, d, htext, hd, hcolumns, ?_, ?_, ?_⟩
  · have hrows := congrArg List.length hvalues
    simp only [List.length_append, List.length_map] at hrows
    exact hrows
  · refine forall₂_of_values ?_ fun r row => isFitRow_of_values hcolumns
    rw [List.map_take, hvalues, List.take_left' hlength]
  · refine forall₂_of_values ?_ fun s row => isSkippedRow_of_values hcolumns
    rw [List.map_drop, hvalues, List.drop_left' hlength]

end Trendline.Report
