import Trendline.FitRequest
import Trendline.Proofs.Groups.Outcomes

/-!
# How a request is answered

What a request gives, path by path and without its notes.  All that is said about
requests elsewhere rests on these equivalences.

* `runSingle_eq_ok_iff`, `runSingle_eq_refused_iff`, `runSingle_eq_overflow_iff`:
  one series.
* `runGrouped_eq_ok_iff`, `runGrouped_eq_refused_iff`, `runGrouped_eq_overflow_iff`:
  one series for each group.
* `run_eq_ok_iff`, `run_eq_refused_iff`, `run_eq_overflow_iff`: the file comes
  before either, and the degree before the file.
-/

namespace Trendline.FitRequest

/-- The groups of a request, and how it fits each of them. -/
def specFor (r : FitRequest) (column : String) (groups : List Value) : GroupSpec :=
  { column, groups, predicates := r.predicates, x := r.x, y := r.y, space := r.space
    degree := r.degree }

/-- The answer to a request about a table that is already loaded. -/
def answerIn (r : FitRequest) (d : Dataset) : Except (Stop Failure) FitOutcome :=
  match r.groupBy with
  | none => (runSingle d r).result
  | some column => (runGrouped d r column).result.mapError (.map .ofData)

variable {files : FileTree} {dataDir : String} {d : Dataset} {r : FitRequest} {column : String}
  {out : FitOutcome} {f : Failure}

/-! ## One series -/

theorem result_runSingle (d : Dataset) (r : FitRequest) : (runSingle d r).result =
    (d.selectSeries r.predicates r.x r.y).mapError (.refused ∘ .ofData) >>= fun s =>
      (fitSeries s r.space r.degree).mapError (.map (fitFailure s)) >>= fun fit =>
        .ok (.single s fit) := by
  simp only [runSingle, Noted.result_bind, Noted.result_mapError, Noted.result_ofExcept,
    Noted.result_note, Noted.result_noteAll]
  rfl

theorem runSingle_eq_ok_iff : (runSingle d r).result = .ok out ↔
    ∃ s fit, d.selectSeries r.predicates r.x r.y = .ok s ∧
      fitSeries s r.space r.degree = .ok fit ∧ out = .single s fit := by
  simp only [result_runSingle, bind_eq_ok_iff, mapError_eq_ok_iff]
  constructor
  · rintro ⟨s, hs, fit, hfit, h⟩
    exact ⟨s, fit, hs, hfit, (Except.ok.inj h).symm⟩
  · rintro ⟨s, fit, hs, hfit, rfl⟩
    exact ⟨s, hs, fit, hfit, rfl⟩

theorem runSingle_eq_refused_iff : (runSingle d r).result = .error (.refused f) ↔
    (∃ e, d.selectSeries r.predicates r.x r.y = .error e ∧ f = .ofData e) ∨
    ∃ s e, d.selectSeries r.predicates r.x r.y = .ok s ∧
      fitSeries s r.space r.degree = .error (.refused e) ∧ f = fitFailure s e := by
  simp only [result_runSingle, bind_eq_error_iff, mapError_eq_ok_iff,
    Stop.mapError_refused_eq_refused_iff, Stop.mapError_map_eq_refused_iff]
  constructor
  · rintro (⟨e, he, rfl⟩ | ⟨s, hs, ⟨e, he, rfl⟩ | ⟨_, _, h⟩⟩)
    · exact .inl ⟨e, he, rfl⟩
    · exact .inr ⟨s, e, hs, he, rfl⟩
    · exact nomatch h
  · rintro (⟨e, he, rfl⟩ | ⟨s, e, hs, he, rfl⟩)
    · exact .inl ⟨e, he, rfl⟩
    · exact .inr ⟨s, hs, .inl ⟨e, he, rfl⟩⟩

theorem runSingle_eq_overflow_iff : (runSingle d r).result = .error .overflow ↔
    ¬ r.degree.toNat + 1 < 2 ^ 64 ∧ ∃ s, d.selectSeries r.predicates r.x r.y = .ok s := by
  have hfit : ∀ s, fitSeries s r.space r.degree = .error .overflow ↔
      ¬ r.degree.toNat + 1 < 2 ^ 64 := fun s => fitSeriesWith_eq_overflow_iff
  simp only [result_runSingle, bind_eq_error_iff, mapError_eq_ok_iff,
    Stop.mapError_map_eq_overflow_iff, hfit]
  constructor
  · rintro (h | ⟨s, hs, h | ⟨_, _, h⟩⟩)
    · obtain ⟨_, _, h⟩ := mapError_eq_error_iff.mp h
      cases h
    · exact ⟨h, s, hs⟩
    · exact nomatch h
  · rintro ⟨h, s, hs⟩
    exact .inr ⟨s, hs, .inl h⟩

/-! ## One series for each group -/

theorem groupsIn_of_ne_nil (h : r.groups ≠ []) : groupsIn d r column = .ok r.groups := by
  rw [groupsIn, if_neg]
  rwa [List.isEmpty_iff]

theorem columnIndex_of_groupsIn_eq_error {e : DataError} (h : groupsIn d r column = .error e) :
    d.columnIndex column = .error e := by
  rw [groupsIn] at h
  split at h
  · rcases bind_eq_error_iff.mp h with h | ⟨_, _, h⟩
    · exact h
    · exact nomatch h
  · exact nomatch h

theorem result_runGrouped (d : Dataset) (r : FitRequest) (column : String) :
    (runGrouped d r column).result = (groupsIn d r column).mapError .refused >>= fun groups =>
      fitGroups d (r.specFor column groups) >>= fun fits => .ok (.grouped column fits) := by
  simp only [runGrouped, Noted.result_bind, Noted.result_ofExcept]
  rfl

theorem runGrouped_eq_ok_iff : (runGrouped d r column).result = .ok out ↔
    ∃ groups fits, groupsIn d r column = .ok groups ∧
      fitGroups d (r.specFor column groups) = .ok fits ∧ out = .grouped column fits := by
  simp only [result_runGrouped, bind_eq_ok_iff, mapError_eq_ok_iff]
  constructor
  · rintro ⟨groups, hgroups, fits, hfits, h⟩
    exact ⟨groups, fits, hgroups, hfits, (Except.ok.inj h).symm⟩
  · rintro ⟨groups, fits, hgroups, hfits, rfl⟩
    exact ⟨groups, hgroups, fits, hfits, rfl⟩

theorem runGrouped_eq_error_iff {e : Stop DataError} : (runGrouped d r column).result = .error e ↔
    (∃ e', groupsIn d r column = .error e' ∧ .refused e' = e) ∨
    ∃ groups, groupsIn d r column = .ok groups ∧
      fitGroups d (r.specFor column groups) = .error e := by
  simp only [result_runGrouped, bind_eq_error_iff, mapError_eq_error_iff, mapError_eq_ok_iff]
  refine or_congr_right (exists_congr fun groups => and_congr_right fun _ => ?_)
  exact or_iff_left fun ⟨_, _, h⟩ => nomatch h

theorem runGrouped_eq_refused_iff {e : DataError} :
    (runGrouped d r column).result = .error (.refused e) ↔ groupsIn d r column = .error e ∨
    ∃ groups, groupsIn d r column = .ok groups ∧
      fitGroups d (r.specFor column groups) = .error (.refused e) := by
  rw [runGrouped_eq_error_iff]
  simp only [Stop.refused.injEq, exists_eq_right]

theorem runGrouped_eq_overflow_iff : (runGrouped d r column).result = .error .overflow ↔
    ∃ groups, groupsIn d r column = .ok groups ∧ (r.specFor column groups).Overflows d := by
  rw [runGrouped_eq_error_iff]
  simp only [fitGroups_eq_overflow_iff]
  exact or_iff_right fun ⟨_, _, h⟩ => nomatch h

/-! ## The whole request -/

theorem run_of_degree_eq_zero (h : r.degree = 0) :
    (r.run files dataDir).result = .error (.refused (.ofFit .zeroDegree)) := by
  rw [run, if_pos h]
  rfl

theorem result_run (h : r.degree ≠ 0) : (r.run files dataDir).result =
    (Dataset.ofFile files (locate files r.file dataDir)).mapError
      (.refused ∘ .ofData) >>= r.answerIn := by
  rw [run, if_neg h]
  simp only [Dataset.load, Noted.result_bind, Noted.result_mapError, Noted.result_ofExcept,
    Noted.result_note]
  cases Dataset.ofFile files (locate files r.file dataDir) with
  | error e => rfl
  | ok d =>
    show (match r.groupBy with
      | none => runSingle d r
      | some column => (runGrouped d r column).mapError (.map .ofData)).result = r.answerIn d
    rw [answerIn]
    cases r.groupBy <;> rfl

theorem run_eq_ok_iff (h : r.degree ≠ 0) : (r.run files dataDir).result = .ok out ↔
    ∃ d, Dataset.ofFile files (locate files r.file dataDir) = .ok d ∧ r.answerIn d = .ok out := by
  rw [result_run h, bind_eq_ok_iff]
  simp only [mapError_eq_ok_iff]

theorem run_eq_refused_iff (h : r.degree ≠ 0) :
    (r.run files dataDir).result = .error (.refused f) ↔
      (∃ e, Dataset.ofFile files (locate files r.file dataDir) = .error e ∧ f = .ofData e) ∨
      ∃ d, Dataset.ofFile files (locate files r.file dataDir) = .ok d ∧
        r.answerIn d = .error (.refused f) := by
  rw [result_run h, bind_eq_error_iff, Stop.mapError_refused_eq_refused_iff]
  simp only [mapError_eq_ok_iff, eq_comm (a := f)]

theorem run_eq_overflow_iff (h : r.degree ≠ 0) :
    (r.run files dataDir).result = .error .overflow ↔
      ∃ d, Dataset.ofFile files (locate files r.file dataDir) = .ok d ∧
        r.answerIn d = .error .overflow := by
  rw [result_run h, bind_eq_error_iff]
  simp only [mapError_eq_ok_iff]
  refine or_iff_right fun hfile => ?_
  obtain ⟨_, _, hfile⟩ := mapError_eq_error_iff.mp hfile
  cases hfile

theorem answerIn_of_groupBy_eq_none (h : r.groupBy = none) :
    r.answerIn d = (runSingle d r).result := by
  rw [answerIn, h]

theorem answerIn_of_groupBy_eq_some (h : r.groupBy = some column) :
    r.answerIn d = (runGrouped d r column).result.mapError (.map .ofData) := by
  rw [answerIn, h]

end Trendline.FitRequest
