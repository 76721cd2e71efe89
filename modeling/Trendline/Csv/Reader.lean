/-!
# Splitting CSV into records

The reader looks at one symbol at a time.  It needs to know of a symbol only
whether it is a quote, a comma, a line break or anything else, so it reads
characters and bytes alike.

* A record ends at a line feed or a carriage return; a pair of them ends a
  record at the carriage return, and the line feed is an empty line.
* Empty lines are skipped.
* A quote opens a quoted field only as the first symbol of the field.  Inside,
  two quotes stand for one, and what follows the closing quote belongs to the
  field as it is.  The end of the input closes a quote that is open.

A record remembers where the reader stood before it, so the empty lines that
precede a record are counted only for the next one.
-/

namespace Trendline.Csv

/-- What a symbol means to the reader. -/
inductive Kind where
  | quote
  | comma
  | lineFeed
  | carriageReturn
  | other
  deriving DecidableEq, Repr

/-- The meaning of a character. -/
def Kind.ofChar (c : Char) : Kind :=
  if c = '"' then quote
  else if c = ',' then comma
  else if c = '\n' then lineFeed
  else if c = '\r' then carriageReturn
  else other

/-- The meaning of a byte. -/
def Kind.ofByte (b : UInt8) : Kind :=
  if b < 0x80 then Kind.ofChar (Char.ofNat b.toNat) else other

/-- Whether the symbol ends a record. -/
def Kind.isLineBreak : Kind → Bool
  | lineFeed | carriageReturn => true
  | _ => false

/-- A record, and where the reader stood before it. -/
structure Record (σ : Type) where
  /-- One more than the line feeds before the record. -/
  line : Nat
  /-- The symbols before the record. -/
  offset : Nat
  fields : List (List σ)
  deriving DecidableEq, Repr

/-- Where the reader is within a record. -/
inductive Mode where
  /-- Before a record. -/
  | recordStart
  /-- Before a field that is not the first. -/
  | fieldStart
  /-- In a field, outside quotes. -/
  | bare
  /-- Inside quotes. -/
  | quoted
  /-- After a quote that was inside quotes. -/
  | quoteSeen
  deriving DecidableEq, Repr

/-- What the reader knows.  Lists that grow are kept in reverse. -/
structure State (σ : Type) where
  mode : Mode := .recordStart
  field : List σ := []
  fields : List (List σ) := []
  line : Nat := 1
  offset : Nat := 0
  startLine : Nat := 1
  startOffset : Nat := 0
  records : List (Record σ) := []

namespace State

variable {σ : Type}

/-- The symbol is part of the field. -/
def push (s : State σ) (mode : Mode) (c : σ) : State σ :=
  { s with mode, field := c :: s.field }

/-- The field is over. -/
def endField (s : State σ) : State σ :=
  { s with mode := .fieldStart, field := [], fields := s.field.reverse :: s.fields }

/-- The record is over; the next one starts here. -/
def endRecord (s : State σ) : State σ :=
  { s with
    mode := .recordStart
    field := []
    fields := []
    startLine := s.line
    startOffset := s.offset
    records :=
      ⟨s.startLine, s.startOffset, (s.field.reverse :: s.fields).reverse⟩ :: s.records }

/-- Counts a symbol that has been read. -/
def advance (s : State σ) (k : Kind) : State σ :=
  { s with line := if k = .lineFeed then s.line + 1 else s.line, offset := s.offset + 1 }

/-- What the symbol does to a field outside quotes. -/
def stepOutside (s : State σ) (k : Kind) (c : σ) : State σ :=
  match k with
  | .comma => s.endField
  | .lineFeed | .carriageReturn => s.endRecord
  | .quote | .other => s.push .bare c

/-- Reads one symbol. -/
def step (kind : σ → Kind) (before : State σ) (c : σ) : State σ :=
  let k := kind c
  let s := before.advance k
  match s.mode with
  | .recordStart =>
    if k.isLineBreak then s
    else if k = .quote then { s with mode := .quoted }
    else s.stepOutside k c
  | .fieldStart => if k = .quote then { s with mode := .quoted } else s.stepOutside k c
  | .bare => s.stepOutside k c
  | .quoted => if k = .quote then { s with mode := .quoteSeen } else s.push .quoted c
  | .quoteSeen => if k = .quote then s.push .quoted c else s.stepOutside k c

/-- The records after the end of the input. -/
def finish (s : State σ) : List (Record σ) :=
  match s.mode with
  | .recordStart => s.records.reverse
  | _ => s.endRecord.records.reverse

end State

/-- The records of the input, of which `skipped` symbols come before it. -/
def recordsFrom {σ : Type} (kind : σ → Kind) (skipped : Nat) (input : List σ) : List (Record σ) :=
  (input.foldl (State.step kind) { offset := skipped }).finish

/-- The character that may stand before a text to mark its encoding. -/
def byteOrderMark : Char :=
  '\ufeff'

/-- The records of a text; a byte order mark before it is dropped. -/
def records (text : List Char) : List (Record Char) :=
  match text with
  | c :: rest => recordsFrom Kind.ofChar 0 (if c = byteOrderMark then rest else c :: rest)
  | [] => []

/-- The records of bytes; a byte order mark before them is dropped but counted. -/
def byteRecords (bytes : List UInt8) : List (Record UInt8) :=
  match bytes with
  | 0xef :: 0xbb :: 0xbf :: rest => recordsFrom Kind.ofByte 3 rest
  | _ => recordsFrom Kind.ofByte 0 bytes

end Trendline.Csv
