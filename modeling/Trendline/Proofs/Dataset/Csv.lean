import Mathlib.Data.List.Forall2
import Trendline.Dataset.Csv
import Trendline.Proofs.Errors
import Trendline.Proofs.Text.Utf8
import Trendline.Proofs.Value.Parse

/-!
# What is loaded from CSV

Said on the records of the text, of which the first is the header.

* `getElem?_resize`: a row is cut or filled to the width of the header.
* `ofText_eq`: the header becomes the columns, and every record below it with
  something else than blanks becomes a row.
* `loadedFrom_rowOf`: what is in such a row.
* `ofBytes_eq_error`: only bytes that are no text cannot be loaded.
* `ofBytes_records`: all of this for a file.
-/

namespace Trendline

theorem Row.getElem?_resize {width j : Nat} (row : Row) (h : j < width) :
    (row.resize width).values[j]? = some (row.values.getD j Value.empty) := by
  rw [Row.resize, List.getElem?_append, List.length_take, List.getElem?_take, if_pos h,
    List.getD_eq_getElem?_getD]
  by_cases hj : j < row.values.length
  · rw [if_pos (by omega), List.getElem?_eq_getElem hj]
    rfl
  · rw [if_neg (by omega), List.getElem?_replicate, if_pos (by omega),
      List.getElem?_eq_none (by omega)]
    rfl

theorem Row.resize_of_length {width : Nat} {row : Row} (h : row.values.length = width) :
    row.resize width = row := by
  rw [Row.resize, List.take_of_length_le h.le, h, Nat.sub_self, List.replicate_zero,
    List.append_nil]

namespace Dataset

/-- A field of a record as a text, without the blanks around it. -/
def fieldText (field : List Char) : String :=
  Text.trim (String.ofList field)

/-- A name without the byte order marks before it. -/
def dropMarks (name : String) : String :=
  String.ofList (name.toList.dropWhile (· == Csv.byteOrderMark))

/-- Whether a record has something else than blanks. -/
def hasContent (r : Csv.Record Char) : Bool :=
  r.fields.any fun field => field.any (!Text.isBlank ·)

/-- What a record is loaded as below a header of so many columns. -/
structure LoadedFrom (width : Nat) (r : Csv.Record Char) (row : Row) : Prop where
  line : row.line = r.line
  length : row.values.length = width
  value : ∀ j < width, row.values[j]? =
    some (match (r.fields.map fieldText)[j]? with
      | some field => Value.parse field
      | none => .text "")
  parsed : ∀ v ∈ row.values, v.IsParsed

/-! ## The text -/

/-- The columns under a header. -/
def columnsOf (header : Csv.Record Char) : List String :=
  header.fields.map fun field => dropMarks (fieldText field)

/-- The row of a record. -/
def rowOf (width : Nat) (r : Csv.Record Char) : Row :=
  Row.resize width ⟨r.line, r.fields.map fun field => Value.parse (String.ofList field)⟩

theorem isAllBlank_fields (r : Csv.Record Char) :
    (r.fields.map String.ofList).all Text.isAllBlank = !hasContent r := by
  have hfield : ∀ field : List Char,
      Text.isAllBlank (String.ofList field) = field.all Text.isBlank := by
    intro field
    rw [Text.isAllBlank, String.toList_ofList]
  simp [hasContent, List.all_map, Function.comp_def, hfield, List.not_any_eq_all_not]

/-- **Loading a text**, record by record. -/
theorem ofText_eq (source : String) (text : List Char) :
    ofText source text =
      match Csv.records text with
      | [] => ⟨source, [], []⟩
      | header :: rest =>
        ⟨source, columnsOf header,
          (rest.filter hasContent).map (rowOf (columnsOf header).length)⟩ := by
  rw [ofText]
  cases Csv.records text with
  | nil => rfl
  | cons header rest =>
    have hcolumns : (header.fields.map String.ofList).map columnName = columnsOf header :=
      List.map_map
    have hcontent : ((fun r : Nat × List String => !r.2.all Text.isAllBlank) ∘
        fun r : Csv.Record Char => (r.line, r.fields.map String.ofList)) = hasContent := by
      funext r
      rw [Function.comp_apply, isAllBlank_fields, Bool.not_not]
    simp only [List.map_cons, ofRecords, ofRows, List.filter_map, hcontent, hcolumns,
      List.map_map]
    congr 1
    apply List.map_congr_left
    intro r _
    simp only [rowOf, List.map_map, Function.comp_def]

theorem loadedFrom_rowOf (width : Nat) (r : Csv.Record Char) :
    LoadedFrom width r (rowOf width r) where
  line := rfl
  length := Row.length_resize width _
  value := by
    intro j hj
    rw [rowOf, Row.getElem?_resize _ hj, List.getD_eq_getElem?_getD, List.getElem?_map,
      List.getElem?_map]
    cases r.fields[j]? with
    | none => rfl
    | some field =>
      have hparse : Value.parse (fieldText field) = Value.parse (String.ofList field) :=
        Value.parse_trim _
      simp [hparse]
  parsed := by
    intro v hv
    rcases List.mem_append.mp hv with hv | hv
    · have hfields : v ∈ r.fields.map fun field => Value.parse (String.ofList field) :=
        List.mem_of_mem_take hv
      obtain ⟨field, -, hfield⟩ := List.mem_map.mp hfields
      rw [← hfield]
      exact Value.isParsed_parse _
    · rw [List.eq_of_mem_replicate hv]
      exact Value.isParsed_empty

/-! ## The bytes -/

theorem ofBytes_toUTF8 (source text : String) :
    ofBytes source text.toUTF8.toList = .ok (ofText source text.toList) := by
  rw [ofBytes, Text.decode?_toUTF8]

/-- Whether the fault is a field that is no text. -/
def isEncodingFault : ReadFault → Prop
  | .encoding .. => True
  | .path _ => False

theorem isEncodingFault_decodeFields {index : Nat} {record : Csv.Record UInt8} {e : ReadFault} :
    ∀ {fields : List (List UInt8)} {field : Nat},
      decodeFields index record field fields = .error e → isEncodingFault e := by
  intro fields
  induction fields with
  | nil =>
    intro field h
    cases h
  | cons bytes rest ih =>
    intro field h
    rw [decodeFields] at h
    split at h
    · cases hrest : decodeFields index record (field + 1) rest with
      | ok others =>
        rw [hrest] at h
        cases h
      | error e' =>
        rw [hrest] at h
        cases h
        exact ih hrest
    · cases h
      trivial

theorem isEncodingFault_decodeRecords {e : ReadFault} :
    ∀ {records : List (Csv.Record UInt8)} {index : Nat},
      decodeRecords index records = .error e → isEncodingFault e := by
  intro records
  induction records with
  | nil =>
    intro index h
    cases h
  | cons record rest ih =>
    intro index h
    rcases bind_eq_error_iff.mp h with h | ⟨fields, -, h⟩
    · exact isEncodingFault_decodeFields h
    · rcases bind_eq_error_iff.mp h with h | ⟨others, -, h⟩
      · exact ih h
      · cases h

theorem ofBytes_eq_error {source : String} {bytes : List UInt8} {e : DataError}
    (h : ofBytes source bytes = .error e) :
    (∀ text : String, bytes ≠ text.toUTF8.toList) ∧
      ∃ fault, isEncodingFault fault ∧ e = .unreadable source fault := by
  constructor
  · rintro text rfl
    rw [ofBytes_toUTF8] at h
    cases h
  · rw [ofBytes] at h
    split at h
    · cases h
    · split at h
      · cases h
      · rename_i hfault
        cases h
        exact ⟨_, isEncodingFault_decodeRecords hfault, rfl⟩

/-- **What is loaded.**  Every text can be loaded: the first of its records gives the columns, and
those below it that have something else than blanks give the rows, in their order.  Bytes that
cannot be loaded are no text. -/
theorem ofBytes_records (source : String) :
    (∀ text : String, ∃ d, ofBytes source text.toUTF8.toList = .ok d ∧ d.source = source ∧
      match Csv.records text.toList with
      | [] => d.columns = [] ∧ d.rows = []
      | header :: rest =>
        d.columns = header.fields.map (fun field => dropMarks (fieldText field)) ∧
          List.Forall₂ (LoadedFrom d.columns.length) (rest.filter hasContent) d.rows) ∧
    ∀ bytes e, ofBytes source bytes = .error e →
      (∀ text : String, bytes ≠ text.toUTF8.toList) ∧
        ∃ fault, isEncodingFault fault ∧ e = .unreadable source fault := by
  refine ⟨fun text => ⟨_, ofBytes_toUTF8 source text, ?_⟩, fun bytes e => ofBytes_eq_error⟩
  rw [ofText_eq]
  cases Csv.records text.toList with
  | nil => exact ⟨rfl, rfl, rfl⟩
  | cons header rest =>
    refine ⟨rfl, rfl, ?_⟩
    rw [List.forall₂_map_right_iff, List.forall₂_same]
    exact fun r _ => loadedFrom_rowOf _ r

end Dataset

end Trendline
