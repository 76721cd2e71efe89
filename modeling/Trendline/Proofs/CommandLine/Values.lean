import Trendline.CommandLine.Command
import Trendline.Figure.QueryProof
import Trendline.Proofs.Dataset.Alike
import Trendline.Proofs.Value.Display

/-!
# Values typed back

A value that is shown somewhere can be given to the program again, as a window, as a group, or in a
list of groups with commas between them.

* `readCell_eq_ok_iff`, `readGroups_eq_ok_iff`: which values are read from a word.
* `queryProof_of_beq`: a figure does not tell equal windows apart.
* `Value.selectsAlike_of_beq`: nothing that is selected with values tells equal ones apart.
* `readGroups_display`: a list of groups is read from its display, group for group.
* `typedBack_selectsAlike`: a displayed value that is typed back selects what the value selects.
-/

namespace Trendline

/-- The value that is read when the display of a value is typed. -/
def Value.typedBack (v : Value) : Value :=
  parse v.display

theorem Value.beq_typedBack {v : Value} (h : v.IsParsed) : (v.typedBack == v) = true := by
  rw [typedBack]
  exact beq_parse_display h

theorem Value.isNaN_typedBack (v : Value) : v.typedBack.isNaN = false :=
  isNaN_parse v.display

/-! ## Windows -/

theorem Figure.addColumns_of_alike {ps qs : List Predicate} (d : Dataset) (x : String)
    (h : List.Forall₂ Predicate.Alike ps qs) : ∀ (columns : List ColumnSeries) (f : Figure Float),
      Figure.addColumns d ps x columns f = Figure.addColumns d qs x columns f := by
  intro columns
  induction columns with
  | nil =>
    intro f
    rfl
  | cons c rest ih =>
    intro f
    have hseries : d.labelledSeries ps x c.column c.label =
        d.labelledSeries qs x c.column c.label := by
      rw [Dataset.labelledSeries, Dataset.selectSeries_of_alike h, Dataset.labelledSeries]
    simp only [Figure.addColumns, hseries, ih]

theorem queryTitle_congr {v w : Value} (kind : FigureKind) (h : v.display = w.display) :
    queryTitle kind (some v) = queryTitle kind (some w) := by
  have htitle : ∃ opening : String, ∀ u : Value,
      queryTitle kind (some u) = opening ++ u.display ++ ")" := by
    cases kind <;> exact ⟨_, fun u => rfl⟩
  obtain ⟨opening, htitle⟩ := htitle
  rw [htitle, htitle, h]

/-- **Equal windows give the same figure**, notes and errors included. -/
theorem queryProof_of_beq {v w : Value} (hv : v.isNaN = false) (hw : w.isNaN = false)
    (heq : (v == w) = true) (files : FileTree) (s : FigureSettings) (fileName : String)
    (kind : FigureKind) :
    queryProof files { s with window := some v } fileName kind =
      queryProof files { s with window := some w } fileName kind := by
  have halike := Predicate.forall₂_alike (Predicate.alike_equals "w" hv hw heq) [] []
  have htitle := queryTitle_congr kind (Value.display_of_beq hv hw heq)
  have hcolumns := fun d columns f => Figure.addColumns_of_alike d queryX halike columns f
  simp only [List.nil_append] at hcolumns
  simp only [queryProof, FigureSettings.table, Option.toList_some, List.map_cons, List.map_nil,
    htitle, hcolumns]

/-! ## Equal values select alike -/

/-- Two values between which nothing that is selected with them tells apart. -/
structure Value.SelectsAlike (v w : Value) : Prop where
  equal : (v == w) = true
  rows : ∀ (d : Dataset) (column : String) (before after : List Predicate),
    d.matchingRows (before ++ .equals column v :: after) =
      d.matchingRows (before ++ .equals column w :: after)
  group : ∀ (d : Dataset) (spec : GroupSpec), selectGroup d spec v = selectGroup d spec w
  window : ∀ (files : FileTree) (s : FigureSettings) (fileName : String) (kind : FigureKind),
    queryProof files { s with window := some v } fileName kind =
      queryProof files { s with window := some w } fileName kind

/-- **Equal values select alike**: the same rows, the same groups and the same figures. -/
theorem Value.selectsAlike_of_beq {v w : Value} (hv : v.isNaN = false) (hw : w.isNaN = false)
    (heq : (v == w) = true) : v.SelectsAlike w where
  equal := heq
  rows d column before after :=
    Dataset.matchingRows_of_alike
      (Predicate.forall₂_alike (Predicate.alike_equals column hv hw heq) before after)
  group d spec := by
    have hseries := Dataset.selectSeries_of_alike (d := d)
      (Predicate.forall₂_alike (Predicate.alike_equals spec.column hv hw heq) spec.predicates [])
      spec.x spec.y
    rw [selectGroup, selectGroup, groupLabel, groupLabel, hseries, display_of_beq hv hw heq]
  window := queryProof_of_beq hv hw heq

end Trendline

namespace Trendline.CommandLine

/-! ## Words -/

theorem readCell_eq_ok_iff {s : String} {v : Value} :
    readCell s = .ok v ↔ Text.isAllBlank s = false ∧ Value.parse s = v := by
  rw [readCell]
  split
  · rename_i hblank
    simp [hblank]
  · rename_i hblank
    simp [Bool.eq_false_iff.mpr hblank]

/-- How a list of groups is read. -/
def readGroups : ValueReader (List Value) :=
  .separated (.reasoned readCell)

/-- The parts of a word between its commas. -/
def parts (word : String) : List String :=
  (word.toList.splitOn ',').map String.ofList

theorem parts_ne_nil (word : String) : parts word ≠ [] := by
  rw [parts, Ne, List.map_eq_nil_iff]
  exact List.splitOn_ne_nil ',' word.toList

theorem not_mem_of_mem_splitOn {c : Char} : ∀ {cs part : List Char},
    part ∈ cs.splitOn c → c ∉ part := by
  intro cs
  induction cs with
  | nil =>
    intro part h
    rw [List.splitOn_nil, List.mem_singleton] at h
    rw [h]
    exact List.not_mem_nil
  | cons a rest ih =>
    intro part h
    rw [List.splitOn_cons_eq_if_modifyHead] at h
    split at h
    · rcases List.mem_cons.mp h with rfl | h
      · exact List.not_mem_nil
      · exact ih h
    · rename_i hne
      obtain ⟨first, others, hsplit⟩ := List.exists_cons_of_ne_nil (List.splitOn_ne_nil c rest)
      rw [hsplit, List.modifyHead_cons] at h
      rcases List.mem_cons.mp h with rfl | h
      · rw [List.mem_cons, not_or]
        refine ⟨fun hc => hne (beq_iff_eq.mpr hc.symm), ih ?_⟩
        rw [hsplit]
        exact List.mem_cons_self
      · apply ih
        rw [hsplit]
        exact List.mem_cons_of_mem first h

theorem not_mem_of_mem_parts {word part : String} (h : part ∈ parts word) : ',' ∉ part.toList := by
  obtain ⟨cs, hcs, rfl⟩ := List.mem_map.mp h
  rw [String.toList_ofList]
  exact not_mem_of_mem_splitOn hcs

theorem parts_intercalate {texts : List String} (hne : texts ≠ [])
    (h : ∀ s ∈ texts, ',' ∉ s.toList) : parts (String.intercalate "," texts) = texts := by
  have hsplit : (String.intercalate "," texts).toList.splitOn ',' = texts.map String.toList := by
    rw [String.toList_intercalate]
    refine List.splitOn_intercalate ',' ?_ (by simpa using hne)
    intro cs hcs
    obtain ⟨s, hs, rfl⟩ := List.mem_map.mp hcs
    exact h s hs
  rw [parts, hsplit, List.map_map]
  simp [Function.comp_def]

/-- Each part between the commas is read on its own. -/
theorem readGroups_eq_ok_iff {word : String} {groups : List Value} :
    readGroups word = .ok groups ↔
      (∀ part ∈ parts word, Text.isAllBlank part = false) ∧ (parts word).map Value.parse = groups := by
  have hread : readGroups word = .ok groups ↔
      List.Forall₂ (fun part g => Text.isAllBlank part = false ∧ Value.parse part = g)
        (parts word) groups := by
    rw [readGroups, ValueReader.separated, mapM_eq_ok_iff, parts, List.forall₂_map_left_iff]
    simp only [ValueReader.reasoned, mapError_eq_ok_iff, readCell_eq_ok_iff]
  rw [hread, List.forall₂_and_left,
    ← List.forall₂_map_left_iff (R := (· = ·)) (f := Value.parse), List.forall₂_eq_eq_eq]

/-! ## Typed back -/

theorem readCell_display {s : String} {v : Value} (h : readCell s = .ok v) :
    readCell v.display = .ok v.typedBack := by
  obtain ⟨hblank, rfl⟩ := readCell_eq_ok_iff.mp h
  exact readCell_eq_ok_iff.mpr ⟨by rw [Value.isAllBlank_display_parse, hblank], rfl⟩

/-- **A list of groups is read from its display**, group for group. -/
theorem readGroups_display {word : String} {groups : List Value} (h : readGroups word = .ok groups) :
    readGroups (String.intercalate "," (groups.map Value.display)) =
      .ok (groups.map Value.typedBack) := by
  obtain ⟨hblank, rfl⟩ := readGroups_eq_ok_iff.mp h
  have hparts : parts (String.intercalate "," (((parts word).map Value.parse).map Value.display)) =
      ((parts word).map Value.parse).map Value.display := by
    apply parts_intercalate
    · simp [parts_ne_nil]
    · simp only [List.forall_mem_map]
      intro part hpart hcomma
      have hpart' := Value.infix_of_infix_display (List.mem_singleton_self ',') (by decide)
        ((List.singleton_infix_iff _ _).mpr hcomma)
      exact not_mem_of_mem_parts hpart ((List.singleton_infix_iff _ _).mp hpart')
  rw [readGroups_eq_ok_iff, hparts]
  refine ⟨?_, by simp only [List.map_map, Function.comp_def, Value.typedBack]⟩
  simp only [List.forall_mem_map]
  intro part hpart
  rw [Value.isAllBlank_display_parse, hblank part hpart]

/-- **A displayed value that is typed back is equal to the value and selects the same.** It can be
typed where it was read from: as one value, or in a list of groups. -/
theorem typedBack_selectsAlike :
    (∀ raw : String, (Value.parse raw).typedBack.SelectsAlike (Value.parse raw)) ∧
    (∀ (word : String) (v : Value), readCell word = .ok v →
      readCell v.display = .ok v.typedBack) ∧
    ∀ (word : String) (groups : List Value), readGroups word = .ok groups →
      readGroups (String.intercalate "," (groups.map Value.display)) =
        .ok (groups.map Value.typedBack) := by
  refine ⟨fun raw => ?_, fun word v => readCell_display, fun word groups => readGroups_display⟩
  have hparsed := Value.isParsed_parse raw
  exact Value.selectsAlike_of_beq (Value.isNaN_typedBack _) (Value.isNaN_of_isParsed hparsed)
    (Value.beq_typedBack hparsed)

/-- A negative zero is displayed, and so typed back, without its sign. -/
theorem typedBack_selectsAlike_negativeZero :
    (readCell "-0" = .ok (.parse "-0") ∧
      readGroups "-0, NaN" = .ok [.parse "-0", .parse " NaN"]) ∧
    readCell "0" = .ok (.typedBack (.parse "-0")) ∧
    readGroups "0,NaN" = .ok [.typedBack (.parse "-0"), .typedBack (.parse " NaN")] := by
  have hcell : readCell "-0" = .ok (.parse "-0") := readCell_eq_ok_iff.mpr ⟨by decide, rfl⟩
  have hgroups : readGroups "-0, NaN" = .ok [.parse "-0", .parse " NaN"] :=
    readGroups_eq_ok_iff.mpr ⟨by decide, rfl⟩
  have hzero : (Value.parse "-0").display = "0" := by decide +kernel
  have hnan : (Value.parse " NaN").display = "NaN" := by decide +kernel
  have htyped := typedBack_selectsAlike.2.1 _ _ hcell
  have hlist := typedBack_selectsAlike.2.2 _ _ hgroups
  simp only [List.map_cons, List.map_nil, hzero, hnan] at htyped hlist
  exact ⟨⟨hcell, hgroups⟩, htyped, hlist⟩

end Trendline.CommandLine
