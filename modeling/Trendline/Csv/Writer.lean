/-!
# Writing CSV

A field is quoted when it has a quote, a comma or a line break in it, and when
it is empty and the only one of its record, which would else be an empty line.
Inside quotes a quote is written twice.  All records have as many fields as the
first.
-/

namespace Trendline.Csv

/-- Whether a character is only allowed inside quotes. -/
def needsQuotes (c : Char) : Bool :=
  c = '"' || c = ',' || c = '\n' || c = '\r'

/-- The characters of a field inside quotes. -/
def doubled (cs : List Char) : List Char :=
  cs.flatMap fun c => if c = '"' then ['"', '"'] else [c]

/-- A field in quotes. -/
def inQuotes (cs : List Char) : List Char :=
  '"' :: doubled cs ++ ['"']

/-- A field of a record that has others. -/
def fieldChars (cs : List Char) : List Char :=
  if cs.any needsQuotes then inQuotes cs else cs

/-- Fields with commas between them. -/
def joinFields : List (List Char) → List Char
  | [] => []
  | [field] => fieldChars field
  | field :: rest => fieldChars field ++ ',' :: joinFields rest

/-- A record with its line feed. -/
def recordChars : List (List Char) → List Char
  | [] => ['"', '"', '\n']
  | [[]] => ['"', '"', '\n']
  | fields => joinFields fields ++ ['\n']

/-- A record whose length is not that of the first one. -/
structure LengthMismatch where
  found : Nat
  expected : Nat
  deriving DecidableEq, Repr

/-- What the user is told about it. -/
def LengthMismatch.message (m : LengthMismatch) : String :=
  let found := m.found
  let expected := m.expected
  s!"CSV error: found record with {found} fields, but the previous record has {expected} fields"

/-- Records that all have so many fields. -/
def writeRecords (width : Nat) : List (List String) → Except LengthMismatch (List Char)
  | [] => .ok []
  | record :: rest =>
    if record.length = width then
      (writeRecords width rest).map (recordChars (record.map String.toList) ++ ·)
    else .error ⟨record.length, width⟩

/-- A header and the records below it. -/
def write (header : List String) (rows : List (List String)) : Except LengthMismatch String :=
  (writeRecords header.length (header :: rows)).map String.ofList

end Trendline.Csv
