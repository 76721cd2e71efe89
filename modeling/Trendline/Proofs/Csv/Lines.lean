import Mathlib.Data.List.Induction
import Mathlib.Data.List.Infix
import Trendline.Proofs.Csv.RoundTrip

/-!
# Where records begin

A record is read from its first symbol on, but the line that it remembers is the one on which the
reader stood when the record before was over. Between the two there are only line breaks.

* `outcome_step`: all that a symbol does to the lines and the records.
* `traced_reading`: what the reader knows of lines after any part of a text.
* `stoodOn_recordsFrom`: on which line the reader stood before each record.
* `Begins.unique`: where a record begins is determined by its index.
* `Begins.gap_eq_nil`: records follow on each other if line breaks do not.
* `namesLine_of_getElem?_records`: how far a line is from that on which the record begins.
-/

namespace Trendline.Csv

/-! ## One symbol -/

/-- What a symbol does to the lines and the records. -/
inductive Outcome {σ : Type} (kind : σ → Kind) (s : State σ) (c : σ) : State σ → Prop where
  | between (hmode : s.mode = .recordStart) (hbreak : (kind c).isLineBreak = true) :
      Outcome kind s c (s.advance (kind c))
  | ends (hmode : s.mode ≠ .recordStart) (hbreak : (kind c).isLineBreak = true) :
      Outcome kind s c (s.advance (kind c)).endRecord
  | within {s' : State σ} (hmode : s'.mode ≠ .recordStart)
      (hfirst : s.mode = .recordStart → (kind c).isLineBreak = false)
      (hline : s'.line = (s.advance (kind c)).line) (hstart : s'.startLine = s.startLine)
      (hrecords : s'.records = s.records) : Outcome kind s c s'

section

variable {σ : Type} {kind : σ → Kind} {s : State σ} {c : σ}

theorem Outcome.stepOutside (h : s.mode = .recordStart → (kind c).isLineBreak = false) :
    Outcome kind s c ((s.advance (kind c)).stepOutside (kind c) c) := by
  have hends : (kind c).isLineBreak = true → Outcome kind s c (s.advance (kind c)).endRecord := by
    intro hbreak
    refine .ends (fun hmode => ?_) hbreak
    rw [h hmode] at hbreak
    cases hbreak
  cases hk : kind c with
  | comma | quote | other => exact .within nofun h (by rw [hk]; rfl) rfl rfl
  | lineFeed | carriageReturn =>
    rw [hk] at hends
    exact hends rfl

theorem outcome_step : Outcome kind s c (s.step kind c) := by
  rw [State.step]
  have hadvance : (s.advance (kind c)).mode = s.mode := rfl
  have hquoted : Mode.quoted ≠ .recordStart := by decide
  have hquoteSeen : Mode.quoteSeen ≠ .recordStart := by decide
  -- within a record it does not matter whether the symbol is a line break
  have hwithin : s.mode ≠ .recordStart → s.mode = .recordStart → (kind c).isLineBreak = false :=
    fun h hmode => absurd hmode h
  rw [hadvance]
  cases hmode : s.mode with
  | recordStart =>
    dsimp only
    split
    · rename_i hbreak
      exact .between hmode hbreak
    · rename_i hbreak
      have hfirst : s.mode = .recordStart → (kind c).isLineBreak = false :=
        fun _ => Bool.not_eq_true _ ▸ hbreak
      split
      · exact .within hquoted hfirst rfl rfl rfl
      · exact .stepOutside hfirst
  | fieldStart =>
    have hfirst := hwithin (by rw [hmode]; decide)
    dsimp only
    split
    · exact .within hquoted hfirst rfl rfl rfl
    · exact .stepOutside hfirst
  | bare => exact .stepOutside (hwithin (by rw [hmode]; decide))
  | quoted =>
    have hfirst := hwithin (by rw [hmode]; decide)
    dsimp only
    split
    · exact .within hquoteSeen hfirst rfl rfl rfl
    · exact .within hquoted hfirst rfl rfl rfl
  | quoteSeen =>
    have hfirst := hwithin (by rw [hmode]; decide)
    dsimp only
    split
    · exact .within hquoted hfirst rfl rfl rfl
    · exact .stepOutside hfirst

end

/-! ## Lines -/

/-- The line on which the symbol stands that comes after these. -/
def lineAfter (cs : List Char) : Nat :=
  cs.count '\n' + 1

theorem lineAfter_append (cs cs' : List Char) :
    lineAfter (cs ++ cs') = lineAfter cs + cs'.count '\n' := by
  rw [lineAfter, lineAfter, List.count_append]
  omega

theorem ofChar_eq_lineFeed_iff {c : Char} : Kind.ofChar c = .lineFeed ↔ c = '\n' := by
  unfold Kind.ofChar
  grind

theorem line_advance {cs : List Char} {s : State Char} (c : Char) (h : s.line = lineAfter cs) :
    (s.advance (Kind.ofChar c)).line = lineAfter (cs ++ [c]) := by
  rw [State.advance, lineAfter_append, ← h]
  simp only [ofChar_eq_lineFeed_iff, List.count_singleton, beq_iff_eq]
  split <;> rfl

/-! ## Before a record -/

/-- The reader after a part of a text. -/
def reading (cs : List Char) : State Char :=
  readChars {} cs

theorem reading_concat (cs : List Char) (c : Char) :
    reading (cs ++ [c]) = (reading cs).step Kind.ofChar c := by
  rw [reading, readChars_append]
  rfl

/-- The reader waits for the record with index `i`: with the last symbol of `ended` the record before
was over, and since then there were only line breaks. -/
structure Waits (i : Nat) (ended gap : List Char) : Prop where
  between : (reading ended).mode = .recordStart
  count : (reading ended).records.length = i
  last : ended = [] ∨ (reading ended.dropLast).mode ≠ .recordStart
  breaks : ∀ c ∈ gap, (Kind.ofChar c).isLineBreak = true

/-- What is left of the text begins with the record with index `i`. -/
structure Begins (i : Nat) (ended gap rest : List Char) : Prop extends Waits i ended gap where
  first : ∃ c, rest.head? = some c ∧ (Kind.ofChar c).isLineBreak = false

/-- The reader stood on that line when the record before the one with index `i` was over. -/
def StoodOn (text : List Char) (i line : Nat) : Prop :=
  ∃ ended gap rest, text = ended ++ gap ++ rest ∧ Begins i ended gap rest ∧ line = lineAfter ended

theorem Begins.append {i : Nat} {ended gap rest : List Char} (h : Begins i ended gap rest)
    (more : List Char) : Begins i ended gap (rest ++ more) := by
  obtain ⟨c, hc, hbreak⟩ := h.first
  exact ⟨h.toWaits, c, by rw [List.head?_append, hc, Option.some_or], hbreak⟩

theorem StoodOn.append {text : List Char} {i line : Nat} (h : StoodOn text i line)
    (more : List Char) : StoodOn (text ++ more) i line := by
  obtain ⟨ended, gap, rest, rfl, hbegins, hline⟩ := h
  exact ⟨ended, gap, rest ++ more, by simp, hbegins.append more, hline⟩

/-! ## The whole text -/

/-- What the reader knows of lines. -/
structure Traced (text : List Char) (s : State Char) : Prop where
  line : s.line = lineAfter text
  waits : s.mode = .recordStart → ∃ ended gap, text = ended ++ gap ∧
    Waits s.records.length ended gap ∧ s.startLine = lineAfter ended
  begins : s.mode ≠ .recordStart → StoodOn text s.records.length s.startLine
  records : ∀ i r, s.records.reverse[i]? = some r → StoodOn text i r.line

theorem traced_start : Traced [] (reading []) where
  line := rfl
  waits _ := ⟨[], [], rfl, ⟨rfl, rfl, .inl rfl, nofun⟩, rfl⟩
  begins h := absurd rfl h
  records i r h := by cases h

/-- The records when the one that is being read is over as well. -/
theorem Traced.endRecord {text : List Char} {s : State Char} (h : Traced text s)
    (hmode : s.mode ≠ .recordStart) : ∀ i r, s.endRecord.records.reverse[i]? = some r →
      StoodOn text i r.line := by
  intro i r hr
  rw [State.endRecord, List.reverse_cons, List.getElem?_append, List.length_reverse] at hr
  split at hr
  · exact h.records i r hr
  · rename_i hi
    obtain ⟨hzero, rfl⟩ : i - s.records.length = 0 ∧ _ = r := by
      rwa [List.getElem?_singleton, Option.ite_none_right_eq_some, Option.some.injEq] at hr
    obtain rfl : i = s.records.length := by omega
    exact h.begins hmode

/-- One more symbol. -/
theorem Traced.step {text : List Char} (h : Traced text (reading text)) (c : Char) :
    Traced (text ++ [c]) (reading (text ++ [c])) := by
  have hline := line_advance c h.line
  have hout : Outcome Kind.ofChar (reading text) c (reading (text ++ [c])) := by
    rw [reading_concat]
    exact outcome_step
  generalize hs' : reading (text ++ [c]) = s' at hout
  cases hout with
  | between hmode hbreak =>
    refine ⟨hline, fun _ => ?_, fun hne => absurd hmode hne, fun i r hr => ?_⟩
    · obtain ⟨ended, gap, htext, hwaits, hstart⟩ := h.waits hmode
      refine ⟨ended, gap ++ [c], by rw [htext, List.append_assoc], ?_, hstart⟩
      refine { hwaits with breaks := ?_ }
      exact List.forall_mem_append.mpr ⟨hwaits.breaks, List.forall_mem_singleton.mpr hbreak⟩
    · exact (h.records i r hr).append [c]
  | ends hmode hbreak =>
    refine ⟨hline, fun _ => ?_, fun hne => absurd rfl hne, fun i r hr => ?_⟩
    · refine ⟨text ++ [c], [], (List.append_nil _).symm, ⟨?_, by rw [hs'], .inr ?_, nofun⟩, hline⟩
      · rw [hs']
        rfl
      · rw [List.dropLast_concat]
        exact hmode
    · exact (h.endRecord hmode i r hr).append [c]
  | within hmode hfirst hline' hstart hrecords =>
    refine ⟨hline'.trans hline, fun heq => absurd heq hmode, fun _ => ?_, fun i r hr => ?_⟩
    · rw [hrecords, hstart]
      by_cases hbefore : (reading text).mode = .recordStart
      · obtain ⟨ended, gap, htext, hwaits, hended⟩ := h.waits hbefore
        exact ⟨ended, gap, [c], by rw [htext], ⟨hwaits, c, rfl, hfirst hbefore⟩, hended⟩
      · exact (h.begins hbefore).append [c]
    · rw [hrecords] at hr
      exact (h.records i r hr).append [c]

theorem traced_reading (text : List Char) : Traced text (reading text) := by
  induction text using List.reverseRecOn with
  | nil => exact traced_start
  | append_singleton text c ih => exact ih.step c

/-- **Where the reader stood before each record.** -/
theorem stoodOn_recordsFrom {text : List Char} {i : Nat} {r : Record Char}
    (h : (recordsFrom Kind.ofChar 0 text)[i]? = some r) : StoodOn text i r.line := by
  have htraced := traced_reading text
  have hfinish : (reading text).finish[i]? = some r := h
  rw [State.finish] at hfinish
  split at hfinish
  · exact htraced.records i r hfinish
  · rename_i hmode
    exact htraced.endRecord hmode i r hfinish

/-! ## One place for each record -/

theorem length_records_step (s : State Char) (c : Char) :
    s.records.length ≤ (s.step Kind.ofChar c).records.length := by
  have hout : Outcome Kind.ofChar s c (s.step Kind.ofChar c) := outcome_step
  generalize s.step Kind.ofChar c = s' at hout
  cases hout with
  | between => exact Nat.le_refl _
  | ends => exact Nat.le_succ _
  | within _ _ _ _ hrecords => exact Nat.le_of_eq (by rw [hrecords])

theorem length_records_append (cs more : List Char) :
    (reading cs).records.length ≤ (reading (cs ++ more)).records.length := by
  induction more using List.reverseRecOn with
  | nil => exact Nat.le_of_eq (by rw [List.append_nil])
  | append_singleton more c ih =>
    rw [← List.append_assoc, reading_concat]
    exact Nat.le_trans ih (length_records_step _ c)

/-- The last symbol before the reader waits is the line break that ends the record before. -/
theorem Waits.of_concat {i : Nat} {cs gap : List Char} {c : Char} (h : Waits i (cs ++ [c]) gap) :
    (Kind.ofChar c).isLineBreak = true ∧ (reading cs).records.length + 1 = i := by
  have hcount := h.count
  have hbetween := h.between
  have hmode : (reading cs).mode ≠ .recordStart := by
    rcases h.last with hnil | hmode
    · exact absurd hnil (List.append_ne_nil_of_right_ne_nil cs (List.cons_ne_nil c []))
    · rwa [List.dropLast_concat] at hmode
  have hout : Outcome Kind.ofChar (reading cs) c (reading (cs ++ [c])) := by
    rw [reading_concat]
    exact outcome_step
  generalize reading (cs ++ [c]) = s' at hout hcount hbetween
  cases hout with
  | between hstart => exact absurd hstart hmode
  | ends _ hbreak => exact ⟨hbreak, hcount⟩
  | within hwithin => exact absurd hbetween hwithin

theorem Waits.eq_of_isPrefix {i : Nat} {ended ended' gap gap' : List Char} (h : Waits i ended gap)
    (h' : Waits i ended' gap') (hpre : ended <+: ended') : ended = ended' := by
  obtain ⟨more, rfl⟩ := hpre
  rcases List.eq_nil_or_concat more with rfl | ⟨others, c, rfl⟩
  · rw [List.append_nil]
  · rw [List.concat_eq_append, ← List.append_assoc] at h'
    have hcount := h'.of_concat.2
    have hle := length_records_append ended others
    rw [h.count] at hle
    omega

theorem Begins.gap_eq {i : Nat} {ended gap rest : List Char} (h : Begins i ended gap rest) :
    (gap ++ rest).takeWhile (fun c => (Kind.ofChar c).isLineBreak) = gap := by
  obtain ⟨c, hc, hbreak⟩ := h.first
  obtain ⟨others, rfl⟩ := List.head?_eq_some_iff.mp hc
  rw [List.takeWhile_append_of_pos h.breaks, List.takeWhile_cons_of_neg (Bool.not_eq_true _ ▸ hbreak),
    List.append_nil]

/-- **A record begins at one place only.** -/
theorem Begins.unique {i : Nat} {ended gap rest ended' gap' rest' : List Char}
    (h : Begins i ended gap rest) (h' : Begins i ended' gap' rest')
    (heq : ended ++ gap ++ rest = ended' ++ gap' ++ rest') : ended = ended' ∧ gap = gap' := by
  rw [List.append_assoc, List.append_assoc] at heq
  have hended : ended = ended' := by
    have hpre : ended <+: ended' ++ (gap' ++ rest') := ⟨gap ++ rest, heq⟩
    rcases List.prefix_or_prefix_of_prefix hpre (List.prefix_append ended' _) with hle | hle
    · exact h.toWaits.eq_of_isPrefix h'.toWaits hle
    · exact (h'.toWaits.eq_of_isPrefix h.toWaits hle).symm
  subst hended
  have hrest := List.append_cancel_left heq
  exact ⟨rfl, by rw [← h.gap_eq, hrest, h'.gap_eq]⟩

/-- No two line breaks follow on each other: every record ends with one of them, and there are no empty
lines. -/
def BreaksApart (text : List Char) : Prop :=
  ∀ a b, [a, b] <:+: text → (Kind.ofChar a).isLineBreak = true → (Kind.ofChar b).isLineBreak = false

theorem Begins.gap_eq_nil {i : Nat} {ended gap rest : List Char} (h : Begins i ended gap rest)
    (hi : 0 < i) (hapart : BreaksApart (ended ++ gap ++ rest)) : gap = [] := by
  cases gap with
  | nil => rfl
  | cons g others =>
    rcases List.eq_nil_or_concat ended with rfl | ⟨before, c, rfl⟩
    · exact absurd h.count (Nat.ne_of_lt hi)
    · rw [List.concat_eq_append] at h hapart
      have hg := h.breaks g List.mem_cons_self
      rw [hapart c g ⟨before, others ++ rest, by simp⟩ h.of_concat.1] at hg
      cases hg

/-! ## The text with its mark -/

/-- The byte order mark before a text, if there is one. -/
def markOf : List Char → List Char
  | c :: _ => if c = byteOrderMark then [c] else []
  | [] => []

/-- The text without a byte order mark before it. -/
def unmarked (text : List Char) : List Char :=
  text.drop (markOf text).length

theorem count_markOf (text : List Char) : (markOf text).count '\n' = 0 := by
  cases text with
  | nil => rfl
  | cons c rest =>
    rw [markOf]
    split
    · rename_i hc
      rw [hc]
      decide
    · rfl

theorem records_eq_recordsFrom (text : List Char) :
    records text = recordsFrom Kind.ofChar 0 (unmarked text) := by
  cases text with
  | nil => rfl
  | cons c rest =>
    rw [records, unmarked, markOf]
    split <;> rfl

/-- The place where the record with an index begins in a text. -/
structure Place (text : List Char) (i : Nat) where
  ended : List Char
  gap : List Char
  rest : List Char
  split : unmarked text = ended ++ gap ++ rest
  begins : Begins i ended gap rest

namespace Place

variable {text : List Char} {i : Nat}

/-- All that stands before the record. -/
def before (place : Place text i) : List Char :=
  markOf text ++ (place.ended ++ place.gap)

/-- The line on which the first symbol of the record stands. -/
def line (place : Place text i) : Nat :=
  lineAfter place.before

/-- The line feeds between the record and the one before it. -/
def skipped (place : Place text i) : Nat :=
  place.gap.count '\n'

theorem line_eq (place : Place text i) : place.line = lineAfter place.ended + place.skipped := by
  rw [line, before, lineAfter_append, lineAfter, count_markOf, List.count_append, lineAfter, skipped]
  omega

theorem skipped_eq_zero (place : Place text i) (hi : 0 < i) (hapart : BreaksApart text) :
    place.skipped = 0 := by
  have hgap : place.gap = [] := by
    refine place.begins.gap_eq_nil hi fun a b hab => hapart a b (hab.trans ?_)
    rw [← place.split]
    exact (List.drop_suffix _ text).isInfix
  rw [skipped, hgap]
  rfl

theorem eq_of_index (place place' : Place text i) :
    place.ended = place'.ended ∧ place.gap = place'.gap :=
  place.begins.unique place'.begins (place.split ▸ place'.split)

end Place

/-- What a line that is remembered for a record says of the place of the record. -/
structure NamesLine (text : List Char) (i line : Nat) : Prop where
  place : Nonempty (Place text i)
  add_skipped : ∀ place : Place text i, line + place.skipped = place.line
  eq_of_breaksApart : BreaksApart text → ∀ place : Place text i, line = place.line

/-- **The line of a record below the header** is too small by the line feeds that stand between the record
and the one before it, and by nothing else. -/
theorem namesLine_of_getElem?_records {text : List Char} {i : Nat} {r : Record Char} (hi : 0 < i)
    (h : (records text)[i]? = some r) : NamesLine text i r.line := by
  rw [records_eq_recordsFrom] at h
  obtain ⟨ended, gap, rest, hsplit, hbegins, hline⟩ := stoodOn_recordsFrom h
  have hplace : ∀ place : Place text i, r.line + place.skipped = place.line := by
    intro place
    obtain ⟨hended, -⟩ := place.eq_of_index ⟨ended, gap, rest, hsplit, hbegins⟩
    rw [place.line_eq, hline, hended]
  refine ⟨⟨ended, gap, rest, hsplit, hbegins⟩, hplace, fun hapart place => ?_⟩
  rw [← hplace place, place.skipped_eq_zero hi hapart, Nat.add_zero]

end Trendline.Csv
