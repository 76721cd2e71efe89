import Trendline.Csv.Reader
import Trendline.Dataset.Basic
import Trendline.Text.Utf8

/-!
# Datasets from CSV

The first record names the columns; the others are rows, except those that
have nothing but blanks.  Names and cells are trimmed, and a byte order mark
before a name is dropped.

A text is split as it is.  Bytes that are no valid UTF-8 as a whole are split
as bytes and every field is decoded by itself, which finds the first field that
cannot be decoded and says where it stands.
-/

namespace Trendline.Dataset

/-- A column name without blanks and byte order marks around it. -/
def columnName (field : String) : String :=
  String.ofList ((Text.trim field).toList.dropWhile (· == Csv.byteOrderMark))

/-- The dataset of records whose fields are text. -/
def ofRecords (source : String) (records : List (Nat × List String)) : Dataset :=
  match records with
  | [] => ofRows source [] []
  | (_, header) :: rest =>
    let rows := rest.filter fun (_, fields) => !fields.all Text.isAllBlank
    ofRows source (header.map columnName)
      (rows.map fun (line, fields) => ⟨line, fields.map Value.parse⟩)

/-- The dataset of a CSV text. -/
def ofText (source : String) (text : List Char) : Dataset :=
  ofRecords source ((Csv.records text).map fun r => (r.line, r.fields.map String.ofList))

/-- Whether a byte is an ASCII blank. -/
def isBlankByte (b : UInt8) : Bool :=
  b == 0x20 || (0x09 ≤ b && b ≤ 0x0d && b != 0x0b)

/-- The fields of a record from index `field` on as text, or the first that is none. -/
def decodeFields (index : Nat) (record : Csv.Record UInt8) :
    (field : Nat) → List (List UInt8) → Except ReadFault (List String)
  | _, [] => .ok []
  | field, bytes :: rest =>
    match Text.decode? bytes with
    | some s => (decodeFields index record (field + 1) rest).map (s :: ·)
    | none => .error (.encoding index record.line field record.offset (Text.validLength bytes))

/-- The record of an index as text.  Only below the header, blanks around a field do not count. -/
def decodeRecord (index : Nat) (record : Csv.Record UInt8) : Except ReadFault (List String) :=
  decodeFields index record 0 <|
    if index = 0 then record.fields else record.fields.map (Text.trimBy isBlankByte)

/-- The records from `index` on as text, or the first field that is none. -/
def decodeRecords : (index : Nat) → List (Csv.Record UInt8) → Except ReadFault (List (Nat × List String))
  | _, [] => .ok []
  | index, record :: rest => do
    let fields ← decodeRecord index record
    let others ← decodeRecords (index + 1) rest
    return (record.line, fields) :: others

/-- The dataset of the bytes of a CSV file. -/
def ofBytes (source : String) (bytes : List UInt8) : Except DataError Dataset :=
  match Text.decode? bytes with
  | some text => .ok (ofText source text.toList)
  | none =>
    match decodeRecords 0 (Csv.byteRecords bytes) with
    | .ok records => .ok (ofRecords source records)
    | .error fault => .error (.unreadable source fault)

end Trendline.Dataset
