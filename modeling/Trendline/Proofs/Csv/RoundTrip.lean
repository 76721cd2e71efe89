import Trendline.Csv.Writer
import Trendline.Proofs.Csv.Reader

/-!
# Reading what was written

The reader goes through a written record and holds it as it was given, whatever
is in its fields.  A field that is written in quotes comes back because the
reader does with every symbol what the writer did to it; a field that is not has
nothing but plain symbols.

* `readChars_fieldChars`: one field, in whichever form.
* `readChars_recordChars`: one record with its line feed.
* `writeRecords_eq`: records of one length are written, one after the other.
* `records_write`: the records of a written text are those that were written.
-/

namespace Trendline.Csv

/-- Going through characters. -/
def readChars (s : State Char) (cs : List Char) : State Char :=
  cs.foldl (State.step Kind.ofChar) s

theorem readChars_append (s : State Char) (cs cs' : List Char) :
    readChars s (cs ++ cs') = readChars (readChars s cs) cs' :=
  List.foldl_append

theorem ofChar_eq_other_iff {c : Char} : Kind.ofChar c = .other ↔ needsQuotes c = false := by
  unfold Kind.ofChar needsQuotes
  grind

theorem ofChar_ne_quote {c : Char} (h : c ≠ '"') : Kind.ofChar c ≠ .quote := by
  unfold Kind.ofChar
  grind

section

variable {s : State Char} {mode : Mode} {field : List Char} {fields : List (List Char)}
  {records : List (List (List Char))}

/-! ## One field -/

theorem readChars_plain : ∀ {cs : List Char} {s : State Char} {mode : Mode} {field : List Char},
    Holds s mode field fields records → mode ≠ .quoted → cs.any needsQuotes = false →
    Holds (readChars s cs) (if cs = [] then mode else .bare) (field ++ cs) fields records := by
  intro cs
  induction cs with
  | nil =>
    intro s mode field h _ _
    rw [List.append_nil]
    exact h
  | cons c rest ih =>
    intro s mode field h hmode hplain
    obtain ⟨hc, hrest⟩ := Bool.or_eq_false_iff.mp hplain
    have hbare := ih (h.other hmode (ofChar_eq_other_iff.mpr hc)) nofun hrest
    rw [List.append_cons, if_neg (List.cons_ne_nil c rest)]
    rw [ite_self] at hbare
    exact hbare

theorem readChars_doubled : ∀ {cs : List Char} {s : State Char} {field : List Char},
    Holds s .quoted field fields records →
    Holds (readChars s (doubled cs)) .quoted (field ++ cs) fields records := by
  intro cs
  induction cs with
  | nil =>
    intro s field h
    rw [List.append_nil]
    exact h
  | cons c rest ih =>
    intro s field h
    rw [doubled, List.flatMap_cons, readChars_append, List.append_cons]
    refine ih ?_
    split
    · rename_i hc
      rw [hc]
      exact (h.closeQuote rfl).secondQuote rfl
    · rename_i hc
      exact h.inside (ofChar_ne_quote hc)

theorem readChars_inQuotes {cs : List Char} (h : Holds s mode [] fields records)
    (hmode : mode = .recordStart ∨ mode = .fieldStart) :
    Holds (readChars s (inQuotes cs)) .quoteSeen cs fields records := by
  rw [inQuotes, readChars_append]
  exact (readChars_doubled (h.openQuote hmode rfl)).closeQuote rfl

/-- **A field is read back**, and only a field without characters leaves the reader where it was. -/
theorem readChars_fieldChars (cs : List Char) (h : Holds s mode [] fields records)
    (hmode : mode = .recordStart ∨ mode = .fieldStart) :
    ∃ mode', mode' ≠ .quoted ∧ (mode' = .recordStart → mode = .recordStart ∧ cs = []) ∧
      Holds (readChars s (fieldChars cs)) mode' cs fields records := by
  rw [fieldChars]
  split
  · exact ⟨.quoteSeen, nofun, nofun, readChars_inQuotes h hmode⟩
  · rename_i hplain
    have hquoted : mode ≠ .quoted := by rcases hmode with rfl | rfl <;> nofun
    have hread := readChars_plain h hquoted (Bool.eq_false_iff.mpr hplain)
    refine ⟨_, ?_, ?_, hread⟩
    · split
      · exact hquoted
      · nofun
    · intro hstart
      split at hstart
      · rename_i hnil
        exact ⟨hstart, hnil⟩
      · cases hstart

/-! ## One record -/

theorem joinFields_cons {cs : List Char} {rest : List (List Char)} (hne : rest ≠ []) :
    joinFields (cs :: rest) = fieldChars cs ++ ',' :: joinFields rest := by
  rw [joinFields]
  exact hne

theorem recordChars_eq {record : List (List Char)} (hne : record ≠ []) (hblank : record ≠ [[]]) :
    recordChars record = joinFields record ++ ['\n'] := by
  rw [recordChars]
  · exact hne
  · exact hblank

theorem readChars_joinFields : ∀ {pending : List (List Char)} {s : State Char} {mode : Mode}
    {fields : List (List Char)}, Holds s mode [] fields records →
    mode = .recordStart ∨ mode = .fieldStart → pending ≠ [] →
    ¬ (mode = .recordStart ∧ pending = [[]]) →
    Holds (readChars s (joinFields pending ++ ['\n'])) .recordStart [] []
      (records ++ [fields ++ pending]) := by
  intro pending
  induction pending with
  | nil =>
    intro s mode fields _ _ hne
    exact absurd rfl hne
  | cons cs rest ih =>
    intro s mode fields h hmode _ halone
    obtain ⟨mode', hquoted, hstart, hread⟩ := readChars_fieldChars cs h hmode
    cases rest with
    | nil =>
      rw [joinFields, readChars_append]
      refine hread.lineFeed hquoted (fun hmode' => halone ?_) rfl
      obtain ⟨hmode, hcs⟩ := hstart hmode'
      exact ⟨hmode, by rw [hcs]⟩
    | cons cs' rest =>
      have hcomma : Holds (State.step Kind.ofChar _ ',') .fieldStart [] (fields ++ [cs]) records :=
        hread.comma hquoted rfl
      have hrest := ih hcomma (.inr rfl) (List.cons_ne_nil cs' rest) (fun hmode => nomatch hmode.1)
      rw [← List.append_cons] at hrest
      rw [joinFields_cons (List.cons_ne_nil cs' rest), List.append_assoc, readChars_append,
        List.cons_append]
      exact hrest

/-- **A record is read back** with its line feed. -/
theorem readChars_recordChars {record : List (List Char)}
    (h : Holds s .recordStart [] [] records) (hne : record ≠ []) :
    Holds (readChars s (recordChars record)) .recordStart [] [] (records ++ [record]) := by
  by_cases hblank : record = [[]]
  · rw [hblank]
    exact ((h.openQuote (.inl rfl) rfl).closeQuote rfl).lineFeed nofun nofun rfl
  · rw [recordChars_eq hne hblank]
    exact readChars_joinFields h (.inl rfl) hne (fun hmode => hblank hmode.2)

end

/-! ## All records -/

theorem writeRecords_eq {width : Nat} : ∀ {records : List (List String)},
    (∀ record ∈ records, record.length = width) →
    writeRecords width records =
      .ok (records.flatMap fun record => recordChars (record.map String.toList)) := by
  intro records
  induction records with
  | nil =>
    intro _
    rfl
  | cons record rest ih =>
    intro h
    obtain ⟨hrecord, hrest⟩ := List.forall_mem_cons.mp h
    rw [writeRecords, if_pos hrecord, ih hrest]
    rfl

theorem readChars_records : ∀ {written : List (List (List Char))} {s : State Char}
    {records : List (List (List Char))}, Holds s .recordStart [] [] records →
    (∀ record ∈ written, record ≠ []) →
    Holds (readChars s (written.flatMap recordChars)) .recordStart [] [] (records ++ written) := by
  intro written
  induction written with
  | nil =>
    intro s records h _
    rw [List.append_nil]
    exact h
  | cons record rest ih =>
    intro s records h hne
    obtain ⟨hrecord, hrest⟩ := List.forall_mem_cons.mp hne
    rw [List.flatMap_cons, readChars_append, List.append_cons]
    exact ih (readChars_recordChars h hrecord) hrest

theorem recordChars_ne_nil {record : List (List Char)} : recordChars record ≠ [] := by
  unfold recordChars
  split <;> simp

theorem head?_fieldChars {cs : List Char} {c : Char} (h : (fieldChars cs).head? = some c) :
    c = '"' ∨ cs.head? = some c := by
  rw [fieldChars] at h
  split at h
  · exact .inl (Option.some.inj h).symm
  · exact .inr h

/-- A record begins as its first field does, unless a symbol of the format comes first. -/
theorem head?_recordChars {first : List Char} {rest : List (List Char)} {c : Char}
    (h : (recordChars (first :: rest)).head? = some c) :
    c = '"' ∨ c = ',' ∨ c = '\n' ∨ first.head? = some c := by
  by_cases hblank : first :: rest = [[]]
  · rw [hblank] at h
    exact .inl (Option.some.inj h).symm
  · rw [recordChars_eq (List.cons_ne_nil first rest) hblank, List.head?_append,
      Option.or_eq_some_iff] at h
    rcases h with h | ⟨-, h⟩
    · cases rest with
      | nil => exact (head?_fieldChars h).imp_right fun h => .inr (.inr h)
      | cons next rest =>
        rw [joinFields_cons (List.cons_ne_nil next rest), List.head?_append,
          Option.or_eq_some_iff] at h
        rcases h with h | ⟨-, h⟩
        · exact (head?_fieldChars h).imp_right fun h => .inr (.inr h)
        · exact .inr (.inl (Option.some.inj h).symm)
    · exact .inr (.inr (.inl (Option.some.inj h).symm))

theorem records_of_head? {text : List Char} (h : text.head? ≠ some byteOrderMark) :
    records text = recordsFrom Kind.ofChar 0 text := by
  cases text with
  | nil => rfl
  | cons c rest =>
    have hc : c ≠ byteOrderMark := fun hc => h (congrArg some hc)
    rw [records, if_neg hc]

/-- **Reading what was written.** -/
theorem records_write {header : List String} {rows : List (List String)}
    (hheader : header ≠ []) (hrows : ∀ row ∈ rows, row.length = header.length)
    (hmark : ∀ name ∈ header, name.toList.head? ≠ some byteOrderMark) :
    ∃ text, write header rows = .ok text ∧
      (records text.toList).map (·.fields) = (header :: rows).map (·.map String.toList) := by
  have hlength : ∀ record ∈ header :: rows, record.length = header.length :=
    List.forall_mem_cons.mpr ⟨rfl, hrows⟩
  have hne : ∀ record ∈ (header :: rows).map (·.map String.toList), record ≠ [] := by
    intro record hmem
    obtain ⟨record, hrecord, rfl⟩ := List.mem_map.mp hmem
    intro hnil
    rw [List.map_eq_nil_iff] at hnil
    have := hlength record hrecord
    rw [hnil] at this
    exact hheader (List.length_eq_zero_iff.mp this.symm)
  refine ⟨_, by rw [write, writeRecords_eq hlength]; rfl, ?_⟩
  rw [String.toList_ofList, ← List.flatMap_map, records_of_head?]
  · exact (readChars_records (.start 0) hne).finish
  · obtain ⟨name, names, rfl⟩ := List.exists_cons_of_ne_nil hheader
    intro hhead
    rw [List.map_cons, List.map_cons, List.flatMap_cons, List.head?_append,
      Option.or_eq_some_iff] at hhead
    rcases hhead with hhead | ⟨hnone, -⟩
    · rcases head?_recordChars hhead with h | h | h | h
      · exact absurd h (by decide)
      · exact absurd h (by decide)
      · exact absurd h (by decide)
      · exact hmark name List.mem_cons_self h
    · exact recordChars_ne_nil (List.head?_eq_none_iff.mp hnone)

end Trendline.Csv
