import Trendline.Csv.Reader

/-!
# What a symbol does to the reader

The reader apart from where it stands in the input: its mode, the field and the
fields of the record it is in, and the records before, all in the order of the
text (`Holds`).  Each lemma says what one kind of symbol does in the modes in
which it has that meaning.
-/

namespace Trendline.Csv

/-- What the reader holds. -/
structure Holds {σ : Type} (s : State σ) (mode : Mode) (field : List σ) (fields : List (List σ))
    (records : List (List (List σ))) : Prop where
  mode : s.mode = mode
  field : s.field.reverse = field
  fields : s.fields.reverse = fields
  records : s.records.reverse.map (·.fields) = records

namespace Holds

variable {σ : Type} {kind : σ → Kind} {s : State σ} {mode : Mode} {field : List σ}
  {fields : List (List σ)} {records : List (List (List σ))} {c : σ}

theorem start (offset : Nat) : Holds ({ offset } : State σ) .recordStart [] [] [] :=
  ⟨rfl, rfl, rfl, rfl⟩

/-- Outside quotes a plain symbol belongs to the field. -/
theorem other (h : Holds s mode field fields records) (hmode : mode ≠ .quoted)
    (hc : kind c = .other) : Holds (s.step kind c) .bare (field ++ [c]) fields records := by
  obtain ⟨rfl, rfl, rfl, rfl⟩ := h
  cases hm : s.mode with
  | quoted => exact absurd hm hmode
  | recordStart | fieldStart | bare | quoteSeen =>
    constructor <;>
      simp [State.step, State.advance, State.stepOutside, State.push, Kind.isLineBreak, hm, hc]

/-- Outside quotes a comma ends the field. -/
theorem comma (h : Holds s mode field fields records) (hmode : mode ≠ .quoted)
    (hc : kind c = .comma) :
    Holds (s.step kind c) .fieldStart [] (fields ++ [field]) records := by
  obtain ⟨rfl, rfl, rfl, rfl⟩ := h
  cases hm : s.mode with
  | quoted => exact absurd hm hmode
  | recordStart | fieldStart | bare | quoteSeen =>
    constructor <;>
      simp [State.step, State.advance, State.stepOutside, State.endField, Kind.isLineBreak, hm, hc]

/-- Within a record, outside quotes, a line feed ends the record. -/
theorem lineFeed (h : Holds s mode field fields records) (hmode : mode ≠ .quoted)
    (hstart : mode ≠ .recordStart) (hc : kind c = .lineFeed) :
    Holds (s.step kind c) .recordStart [] [] (records ++ [fields ++ [field]]) := by
  obtain ⟨rfl, rfl, rfl, rfl⟩ := h
  cases hm : s.mode with
  | quoted => exact absurd hm hmode
  | recordStart => exact absurd hm hstart
  | fieldStart | bare | quoteSeen =>
    constructor <;> simp [State.step, State.advance, State.stepOutside, State.endRecord, hm, hc]

/-- Before a field a quote opens it. -/
theorem openQuote (h : Holds s mode field fields records)
    (hmode : mode = .recordStart ∨ mode = .fieldStart) (hc : kind c = .quote) :
    Holds (s.step kind c) .quoted field fields records := by
  obtain ⟨rfl, rfl, rfl, rfl⟩ := h
  rcases hmode with hm | hm <;>
    constructor <;> simp [State.step, State.advance, Kind.isLineBreak, hm, hc]

/-- Inside quotes every other symbol belongs to the field. -/
theorem inside (h : Holds s .quoted field fields records) (hc : kind c ≠ .quote) :
    Holds (s.step kind c) .quoted (field ++ [c]) fields records := by
  obtain ⟨hm, rfl, rfl, rfl⟩ := h
  constructor <;> simp [State.step, State.advance, State.push, hm, hc]

theorem closeQuote (h : Holds s .quoted field fields records) (hc : kind c = .quote) :
    Holds (s.step kind c) .quoteSeen field fields records := by
  obtain ⟨hm, rfl, rfl, rfl⟩ := h
  constructor <;> simp [State.step, State.advance, hm, hc]

/-- A quote after a quote belongs to the field. -/
theorem secondQuote (h : Holds s .quoteSeen field fields records) (hc : kind c = .quote) :
    Holds (s.step kind c) .quoted (field ++ [c]) fields records := by
  obtain ⟨hm, rfl, rfl, rfl⟩ := h
  constructor <;> simp [State.step, State.advance, State.push, hm, hc]

/-- Between records the reader has nothing to finish. -/
theorem finish (h : Holds s .recordStart field fields records) :
    s.finish.map (·.fields) = records := by
  rw [State.finish, h.mode]
  exact h.records

end Holds

end Trendline.Csv
