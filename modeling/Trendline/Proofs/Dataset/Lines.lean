import Trendline.Proofs.Csv.Lines
import Trendline.Proofs.Dataset.Csv

/-!
# The lines of rows

A row remembers a line so that an error can say where a cell is bad.

* `getElem?_of_mem_below`: the records below the header with their indices.
* `ofBytes_lines`: how far the line of a row is from that on which its record begins.
* `not_line_eq_of_carriageReturn`: it is another one where a carriage return and a line feed end a record.
-/

namespace Trendline.Dataset

/-- The records below the header that become rows, with their indices in the text. -/
def below (text : List Char) : List (Csv.Record Char × Nat) :=
  (Csv.records text).zipIdx.tail.filter fun r => hasContent r.1

theorem below_eq {text : List Char} {header : Csv.Record Char} {rest : List (Csv.Record Char)}
    (h : Csv.records text = header :: rest) :
    below text = (rest.zipIdx 1).filter fun r => hasContent r.1 := by
  rw [below, h]
  rfl

theorem map_fst_below {text : List Char} {header : Csv.Record Char} {rest : List (Csv.Record Char)}
    (h : Csv.records text = header :: rest) :
    (below text).map (·.1) = rest.filter hasContent := by
  rw [below_eq h]
  conv_rhs => rw [← List.zipIdx_map_fst 1 rest, List.filter_map]
  rfl

theorem getElem?_of_mem_below {text : List Char} {r : Csv.Record Char × Nat} (h : r ∈ below text) :
    0 < r.2 ∧ (Csv.records text)[r.2]? = some r.1 := by
  obtain ⟨hmem, -⟩ := List.mem_filter.mp h
  refine ⟨?_, List.mem_zipIdx_iff_getElem?.mp (List.mem_of_mem_tail hmem)⟩
  cases hrecords : Csv.records text with
  | nil =>
    rw [hrecords] at hmem
    cases hmem
  | cons header rest =>
    rw [hrecords] at hmem
    exact (List.mem_zipIdx hmem).1

theorem numberAt_eq_error {d : Dataset} {row : Row} {column : Nat} {fault : DataError}
    (h : d.numberAt row column = .error fault) :
    ∃ name value, fault = .invalidValue d.source row.line name value := by
  rw [numberAt] at h
  split at h
  · cases h
  · cases h
    exact ⟨_, _, rfl⟩

/-- **The line of a row**, which is also that of an error about one of its cells: it is too small by the
line feeds between its record and the one before, and right if no line breaks follow on each other. -/
theorem ofBytes_lines (source text : String) :
    ∃ d, ofBytes source text.toUTF8.toList = .ok d ∧
      List.Forall₂ (fun r row =>
          LoadedFrom d.columns.length r.1 row ∧ Csv.NamesLine text.toList r.2 row.line ∧
            ∀ column fault, d.numberAt row column = .error fault →
              ∃ name value, fault = .invalidValue source row.line name value)
        (below text.toList) d.rows := by
  refine ⟨_, ofBytes_toUTF8 source text, ?_⟩
  rw [ofText_eq]
  cases hrecords : Csv.records text.toList with
  | nil =>
    rw [below, hrecords]
    exact .nil
  | cons header rest =>
    dsimp only
    rw [← map_fst_below hrecords, List.map_map, List.forall₂_map_right_iff, List.forall₂_same]
    intro r hr
    obtain ⟨hi, hget⟩ := getElem?_of_mem_below hr
    exact ⟨loadedFrom_rowOf _ r.1, Csv.namesLine_of_getElem?_records hi hget,
      fun column fault => numberAt_eq_error⟩

/-- A record that ends with a carriage return and a line feed is over before the line feed. -/
theorem not_line_eq_of_carriageReturn :
    ∃ d, ofBytes "t.csv" "a\r\nx\r\n".toUTF8.toList = .ok d ∧
      (∃ place : Csv.Place "a\r\nx\r\n".toList 1, place.line = 2) ∧
      d.rows.map (·.line) = [1] ∧
      d.firstNumber "a" = .error (.invalidValue "t.csv" 1 "a" "x") := by
  have hwaits : Csv.Waits 1 ['a', '\r'] ['\n'] :=
    ⟨by decide, by decide, .inr (by decide), List.forall_mem_singleton.mpr rfl⟩
  have hbegins : Csv.Begins 1 ['a', '\r'] ['\n'] ['x', '\r', '\n'] :=
    ⟨hwaits, 'x', rfl, rfl⟩
  refine ⟨_, ofBytes_toUTF8 _ _, ⟨⟨_, _, _, by decide, hbegins⟩, rfl⟩, by decide, ?_⟩
  rfl

end Trendline.Dataset
