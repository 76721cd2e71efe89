import Trendline.Proofs.Dataset.Series
import Trendline.Proofs.FitRequest.Result

/-!
# Which requests fail

A request fails for its data, with exit code `2`, or for the fit of its only
series, with exit code `3`.  `dataFault?` says which data error a request has
without fitting anything, and `Overflows` whether it gets as far as to fit a
series with the largest degree.

* `run_eq_overflow_iff_overflows`: a request of that kind is stopped.
* `answerIn_eq_refused_iff`, `run_fails_iff`: there is no other failure.
* `run_failures`: the exit codes and messages, and that a grouped request whose
  data are in order has one entry for each group.
-/

namespace Trendline

/-! ## Entries of a report -/

/-- What a report has for a group: its fit, or why it has none. -/
def GroupOutcome.entry (column : String) : GroupOutcome → FittedSeries Float ⊕ SkippedSeries Float
  | fitted g => .inl ⟨g.series.label, g.fit⟩
  | skipped group e => .inr ⟨groupLabel column group, e⟩

theorem rows_ofOutcomes (column : String) (outcomes : List GroupOutcome) :
    (GroupFits.ofOutcomes outcomes).rows =
      (outcomes.map (GroupOutcome.entry column)).filterMap Sum.getLeft? := by
  rw [GroupFits.rows, fits_ofOutcomes, List.map_filterMap, List.filterMap_map]
  apply List.filterMap_congr
  intro o _
  cases o <;> rfl

theorem skippedSeries_ofOutcomes (column : String) (outcomes : List GroupOutcome) :
    (GroupFits.ofOutcomes outcomes).skippedSeries column =
      (outcomes.map (GroupOutcome.entry column)).filterMap Sum.getRight? := by
  rw [GroupFits.skippedSeries, skipped_ofOutcomes, List.map_filterMap, List.filterMap_map]
  apply List.filterMap_congr
  intro o _
  cases o <;> rfl

theorem length_getLeft?_add_length_getRight? {α β : Type} : ∀ l : List (α ⊕ β),
    (l.filterMap Sum.getLeft?).length + (l.filterMap Sum.getRight?).length = l.length := by
  intro l
  induction l with
  | nil => rfl
  | cons a rest ih =>
    cases a with
    | inl a => rw [List.length_cons, ← ih]; exact Nat.add_right_comm _ _ _
    | inr b => rw [List.length_cons, ← ih]; rfl

theorem label_entry {d : Dataset} {spec : GroupSpec} {g : Value} {o : GroupOutcome}
    (h : fitGroup d spec g = .ok o) :
    (o.entry spec.column).elim (·.label) (·.label) = groupLabel spec.column g := by
  obtain ⟨s, -, houtcome⟩ := fitGroup_eq_ok_iff.mp h
  rcases outcome_eq_ok_iff.mp houtcome with ⟨fit, -, rfl⟩ | ⟨e, -, rfl⟩ <;> rfl

namespace FitRequest

variable {files : FileTree} {dataDir : String} {d : Dataset} {r : FitRequest} {column : String}
  {out : FitOutcome} {f : Failure}

/-! ## The data error -/

/-- The data error of a request about a table: of its columns, of its groups or of its rows. -/
def faultIn? (r : FitRequest) (d : Dataset) : Option DataError :=
  match r.groupBy with
  | none => fault? (d.selectSeries r.predicates r.x r.y)
  | some column =>
    match groupsIn d r column with
    | .error e => some e
    | .ok groups => (r.specFor column groups).dataFault? d

/-- The data error of a request, also that of a file which cannot be loaded. -/
def dataFault? (r : FitRequest) (files : FileTree) (dataDir : String) : Option DataError :=
  match Dataset.ofFile files (locate files r.file dataDir) with
  | .error e => some e
  | .ok d => r.faultIn? d

/-- Whether a request about a table gets as far as to fit a series with a degree whose successor is
no word. -/
def OverflowsIn (r : FitRequest) (d : Dataset) : Prop :=
  match r.groupBy with
  | none =>
    ¬ r.degree.toNat + 1 < 2 ^ 64 ∧ ∃ s, d.selectSeries r.predicates r.x r.y = .ok s
  | some column =>
    ∃ groups, groupsIn d r column = .ok groups ∧ (r.specFor column groups).Overflows d

/-- Whether a request gets that far, which takes a file that can be loaded. -/
def Overflows (r : FitRequest) (files : FileTree) (dataDir : String) : Prop :=
  ∃ d, Dataset.ofFile files (locate files r.file dataDir) = .ok d ∧ r.OverflowsIn d

theorem overflowsIn_iff_of_groupBy (hcolumn : r.groupBy = some column) : r.OverflowsIn d ↔
    ∃ groups, groupsIn d r column = .ok groups ∧ (r.specFor column groups).Overflows d := by
  rw [OverflowsIn, hcolumn]

theorem answerIn_eq_overflow_iff : r.answerIn d = .error .overflow ↔ r.OverflowsIn d := by
  cases hcolumn : r.groupBy with
  | none =>
    rw [answerIn_of_groupBy_eq_none hcolumn, runSingle_eq_overflow_iff, OverflowsIn, hcolumn]
  | some column =>
    rw [answerIn_of_groupBy_eq_some hcolumn, Stop.mapError_map_eq_overflow_iff,
      runGrouped_eq_overflow_iff, overflowsIn_iff_of_groupBy hcolumn]

/-- Of all degrees only the largest overflows. -/
theorem degree_of_overflowsIn (h : r.OverflowsIn d) : ¬ r.degree.toNat + 1 < 2 ^ 64 := by
  rw [OverflowsIn] at h
  split at h
  · exact h.1
  · obtain ⟨groups, -, hspec⟩ := h
    exact hspec.1

/-- **A request overflows** if it gets as far as to fit a series with the largest degree. -/
theorem run_eq_overflow_iff_overflows :
    (r.run files dataDir).result = .error .overflow ↔ r.Overflows files dataDir := by
  by_cases hdegree : r.degree = 0
  · rw [run_of_degree_eq_zero hdegree]
    refine iff_of_false nofun fun ⟨d, _, h⟩ => degree_of_overflowsIn h ?_
    rw [hdegree]
    decide
  · rw [run_eq_overflow_iff hdegree]
    simp only [answerIn_eq_overflow_iff]
    rfl

theorem faultIn?_of_groupsIn {groups : List Value} (hcolumn : r.groupBy = some column)
    (hgroups : groupsIn d r column = .ok groups) :
    r.faultIn? d = (r.specFor column groups).dataFault? d := by
  rw [faultIn?, hcolumn]
  dsimp only
  rw [hgroups]

/-- Grouped requests fail for their data only. -/
theorem runGrouped_eq_refused_iff_faultIn? (hcolumn : r.groupBy = some column) {e : DataError} :
    (runGrouped d r column).result = .error (.refused e) ↔
      ¬ r.OverflowsIn d ∧ r.faultIn? d = some e := by
  rw [runGrouped_eq_refused_iff, overflowsIn_iff_of_groupBy hcolumn]
  cases hgroups : groupsIn d r column with
  | error e' =>
    have hfault : r.faultIn? d = some e' := by
      rw [faultIn?, hcolumn]
      dsimp only
      rw [hgroups]
    simp [hfault]
  | ok groups => simp [faultIn?_of_groupsIn hcolumn hgroups, fitGroups_eq_refused_iff]

theorem answerIn_eq_refused_iff : r.answerIn d = .error (.refused f) ↔
    (¬ r.OverflowsIn d ∧ ∃ e, r.faultIn? d = some e ∧ f = .ofData e) ∨
    (r.groupBy = none ∧ ∃ s e, d.selectSeries r.predicates r.x r.y = .ok s ∧
      fitSeries s r.space r.degree = .error (.refused e) ∧ f = fitFailure s e) := by
  cases hcolumn : r.groupBy with
  | none =>
    rw [answerIn_of_groupBy_eq_none hcolumn, runSingle_eq_refused_iff, faultIn?, OverflowsIn,
      hcolumn]
    simp only [fault?_eq_some_iff, true_and]
    -- a series that overflows has been selected
    refine or_congr_left (and_iff_right_of_imp ?_).symm
    rintro ⟨e, he, -⟩ ⟨-, s, hs⟩
    exact nomatch hs.symm.trans he
  | some column =>
    rw [answerIn_of_groupBy_eq_some hcolumn, Stop.mapError_map_eq_refused_iff]
    simp only [runGrouped_eq_refused_iff_faultIn? hcolumn, eq_comm (a := f), reduceCtorEq,
      false_and, or_false, and_assoc, exists_and_left]

/-- **The failures of a request** whose degree is not zero. -/
theorem run_fails_iff (h : r.degree ≠ 0) : (r.run files dataDir).result = .error (.refused f) ↔
    (¬ r.Overflows files dataDir ∧ ∃ e, r.dataFault? files dataDir = some e ∧ f = .ofData e) ∨
    (r.groupBy = none ∧ ∃ d s e, Dataset.ofFile files (locate files r.file dataDir) = .ok d ∧
      d.selectSeries r.predicates r.x r.y = .ok s ∧
      fitSeries s r.space r.degree = .error (.refused e) ∧ f = fitFailure s e) := by
  rw [run_eq_refused_iff h, dataFault?, Overflows]
  cases Dataset.ofFile files (locate files r.file dataDir) with
  | error e => simp [eq_comm]
  | ok d => simp [answerIn_eq_refused_iff]

/-! ## The exit codes -/

/-- The exit code of data errors is for them alone. -/
theorem run_eq_refused_two_iff (h : r.degree ≠ 0) {message : String} :
    (r.run files dataDir).result = .error (.refused ⟨2, message⟩) ↔
      ¬ r.Overflows files dataDir ∧
        ∃ e, r.dataFault? files dataDir = some e ∧ message = e.message := by
  rw [run_fails_iff h]
  constructor
  · rintro (⟨hoverflow, e, he, hf⟩ | ⟨-, _, _, _, -, -, -, hf⟩)
    · exact ⟨hoverflow, e, he, congrArg Failure.message hf⟩
    · exact absurd (congrArg Failure.exitCode hf) (show (2 : Nat) ≠ 3 by decide)
  · rintro ⟨hoverflow, e, he, rfl⟩
    exact .inl ⟨hoverflow, e, he, rfl⟩

theorem exists_exitCode_eq_two_iff (h : r.degree ≠ 0) :
    (∃ f, (r.run files dataDir).result = .error (.refused f) ∧ f.exitCode = 2) ↔
      ¬ r.Overflows files dataDir ∧ r.dataFault? files dataDir ≠ none := by
  rw [Option.ne_none_iff_exists']
  constructor
  · rintro ⟨⟨_, message⟩, hf, rfl⟩
    obtain ⟨hoverflow, e, he, -⟩ := (run_eq_refused_two_iff h).mp hf
    exact ⟨hoverflow, e, he⟩
  · rintro ⟨hoverflow, e, he⟩
    exact ⟨_, (run_eq_refused_two_iff h).mpr ⟨hoverflow, e, he, rfl⟩, rfl⟩

/-- The exit code of fits is for the fit of a single series alone. -/
theorem run_eq_refused_three_iff (h : r.degree ≠ 0) {message : String} :
    (r.run files dataDir).result = .error (.refused ⟨3, message⟩) ↔
      r.groupBy = none ∧ ∃ d s e, Dataset.ofFile files (locate files r.file dataDir) = .ok d ∧
        d.selectSeries r.predicates r.x r.y = .ok s ∧
        fitSeries s r.space r.degree = .error (.refused e) ∧
        message = (fitFailure s e).message := by
  rw [run_fails_iff h]
  constructor
  · rintro (⟨-, e, -, hf⟩ | ⟨hcolumn, d, s, e, hd, hs, he, hf⟩)
    · exact absurd (congrArg Failure.exitCode hf) (show (3 : Nat) ≠ 2 by decide)
    · exact ⟨hcolumn, d, s, e, hd, hs, he, congrArg Failure.message hf⟩
  · rintro ⟨hcolumn, d, s, e, hd, hs, he, rfl⟩
    exact .inr ⟨hcolumn, d, s, e, hd, hs, he, rfl⟩

theorem exitCode_of_run_eq_refused (h : (r.run files dataDir).result = .error (.refused f)) :
    f.exitCode = 2 ∨ f.exitCode = 3 := by
  by_cases hdegree : r.degree = 0
  · rw [run_of_degree_eq_zero hdegree] at h
    rw [← Stop.refused.inj (Except.error.inj h)]
    exact .inr rfl
  · rcases (run_fails_iff hdegree).mp h with ⟨-, e, -, rfl⟩ | ⟨-, _, _, _, -, -, -, rfl⟩
    · exact .inl rfl
    · exact .inr rfl

/-- Grouped requests do not fail for a fit. -/
theorem exitCode_of_run_grouped (hdegree : r.degree ≠ 0) (hcolumn : r.groupBy = some column)
    (h : (r.run files dataDir).result = .error (.refused f)) : f.exitCode = 2 := by
  rcases (run_fails_iff hdegree).mp h with ⟨-, e, -, rfl⟩ | ⟨hnone, -⟩
  · rfl
  · rw [hcolumn] at hnone
    cases hnone

/-- A grouped request that does not fail has an outcome for each of its groups. -/
theorem outcomes_of_run (hdegree : r.degree ≠ 0) (hcolumn : r.groupBy = some column)
    (h : (r.run files dataDir).result = .ok out) :
    ∃ d groups outcomes, Dataset.ofFile files (locate files r.file dataDir) = .ok d ∧
      groupsIn d r column = .ok groups ∧
      List.Forall₂ (fun g o => fitGroup d (r.specFor column groups) g = .ok o) groups outcomes ∧
      out = .grouped column (.ofOutcomes outcomes) := by
  obtain ⟨d, hd, hanswer⟩ := (run_eq_ok_iff hdegree).mp h
  rw [answerIn_of_groupBy_eq_some hcolumn, mapError_eq_ok_iff] at hanswer
  obtain ⟨groups, fits, hgroups, hfits, rfl⟩ := runGrouped_eq_ok_iff.mp hanswer
  obtain ⟨-, outcomes, houtcomes, rfl⟩ := fitGroups_eq_ok_iff.mp hfits
  exact ⟨d, groups, outcomes, hd, hgroups, fitEach_eq_ok_iff.mp houtcomes, rfl⟩

/-- What a grouped request reports: one entry for each of its groups. -/
theorem entries_of_run (hdegree : r.degree ≠ 0) (hcolumn : r.groupBy = some column)
    (h : (r.run files dataDir).result = .ok out) :
    ∃ d groups, ∃ entries : List (FittedSeries Float ⊕ SkippedSeries Float),
      Dataset.ofFile files (locate files r.file dataDir) = .ok d ∧
      groupsIn d r column = .ok groups ∧
      List.Forall₂ (fun g entry => entry.elim (·.label) (·.label) = groupLabel column g)
        groups entries ∧
      out.rows = entries.filterMap Sum.getLeft? ∧ out.skipped = entries.filterMap Sum.getRight? ∧
      out.rows.length + out.skipped.length = groups.length := by
  obtain ⟨d, groups, outcomes, hd, hgroups, houtcomes, rfl⟩ := outcomes_of_run hdegree hcolumn h
  have hrows := rows_ofOutcomes column outcomes
  have hskipped := skippedSeries_ofOutcomes column outcomes
  have hlength := length_getLeft?_add_length_getRight? (outcomes.map (GroupOutcome.entry column))
  rw [← hrows, ← hskipped, List.length_map, ← houtcomes.length_eq] at hlength
  refine ⟨d, groups, outcomes.map (GroupOutcome.entry column), hd, hgroups, ?_, hrows, hskipped,
    hlength⟩
  exact List.forall₂_map_right_iff.mpr (houtcomes.imp fun g o ho => label_entry ho)

/-- **The failures of a request.**  It is stopped by an overflow if it gets as far as to fit a
series with the largest degree.  With exit code `3` it fails for a degree of zero, whatever the
file, and for a single series that has no fit; with exit code `2` for a data error, which it
reports; and with no other.  A grouped request whose degree is not zero never fails for a fit, and
when it does not fail, its fits and its skipped groups are one entry for each group, in order. -/
theorem run_failures (files : FileTree) (dataDir : String) (r : FitRequest) :
    ((r.run files dataDir).result = .error .overflow ↔ r.Overflows files dataDir) ∧
    (∀ f, (r.run files dataDir).result = .error (.refused f) →
      f.exitCode = 2 ∨ f.exitCode = 3) ∧
    (∀ message, (r.run files dataDir).result = .error (.refused ⟨3, message⟩) ↔
      (r.degree = 0 ∧ message = (FitError.zeroDegree).message) ∨
      (r.degree ≠ 0 ∧ r.groupBy = none ∧
        ∃ d s e, Dataset.ofFile files (locate files r.file dataDir) = .ok d ∧
          d.selectSeries r.predicates r.x r.y = .ok s ∧
          fitSeries s r.space r.degree = .error (.refused e) ∧
          message = (fitFailure s e).message)) ∧
    (∀ message, (r.run files dataDir).result = .error (.refused ⟨2, message⟩) ↔
      r.degree ≠ 0 ∧ ¬ r.Overflows files dataDir ∧
        ∃ e, r.dataFault? files dataDir = some e ∧ message = e.message) ∧
    ∀ column, r.degree ≠ 0 → r.groupBy = some column →
      (∀ f, (r.run files dataDir).result = .error (.refused f) → f.exitCode = 2) ∧
      ∀ out, (r.run files dataDir).result = .ok out →
        ∃ d groups, ∃ entries : List (FittedSeries Float ⊕ SkippedSeries Float),
          Dataset.ofFile files (locate files r.file dataDir) = .ok d ∧
          groupsIn d r column = .ok groups ∧
          List.Forall₂ (fun g entry => entry.elim (·.label) (·.label) = groupLabel column g)
            groups entries ∧
          out.rows = entries.filterMap Sum.getLeft? ∧
          out.skipped = entries.filterMap Sum.getRight? ∧
          out.rows.length + out.skipped.length = groups.length := by
  refine ⟨run_eq_overflow_iff_overflows, fun f => exitCode_of_run_eq_refused, fun message => ?_,
    fun message => ?_, fun column hdegree hcolumn =>
      ⟨fun f => exitCode_of_run_grouped hdegree hcolumn, fun out => entries_of_run hdegree hcolumn⟩⟩
  · by_cases hdegree : r.degree = 0
    · rw [run_of_degree_eq_zero hdegree]
      simp [Failure.ofFit, hdegree, eq_comm]
    · simp only [run_eq_refused_three_iff hdegree, hdegree, false_and, false_or, ne_eq,
        not_false_eq_true, true_and]
  · by_cases hdegree : r.degree = 0
    · rw [run_of_degree_eq_zero hdegree]
      simp [Failure.ofFit, hdegree]
    · simp only [run_eq_refused_two_iff hdegree, hdegree, ne_eq, not_false_eq_true, true_and]

/-- A file of the text in a data directory. -/
def tableFile (text : String) : FileTree :=
  { files := [(["data", "t.csv"], .bytes text.toUTF8.toList)], directories := [["data"]] }

/-- A request for a curve of the largest degree. -/
def greatestDegree : FitRequest :=
  { file := "t.csv", x := "x", y := "y", degree := 18446744073709551615 }

theorem not_run_failures_greatest :
    ¬ ∀ (files : FileTree) (dataDir : String) (r : FitRequest),
      (∃ out, (r.run files dataDir).result = .ok out) ∨
      ∃ f, (r.run files dataDir).result = .error (.refused f) ∧
        (f.exitCode = 2 ∨ f.exitCode = 3) := by
  intro h
  have hoverflow : (greatestDegree.run (tableFile "g,x,y\na,1,2\n") "data").result =
      .error .overflow :=
    fault?_eq_some_iff.mp (by decide +kernel)
  rcases h (tableFile "g,x,y\na,1,2\n") "data" greatestDegree with ⟨out, hout⟩ | ⟨f, hf, -⟩
  · rw [hoverflow] at hout
    cases hout
  · rw [hoverflow] at hf
    cases hf

end FitRequest

end Trendline
