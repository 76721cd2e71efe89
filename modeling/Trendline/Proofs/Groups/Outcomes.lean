import Trendline.Groups
import Trendline.Proofs.Dataset.Columns
import Trendline.Proofs.Fit.Spaces

/-!
# What becomes of each group

`fitGroups` selects and fits the groups of a request in turn and puts the fitted
and the skipped ones apart.

* `fits_ofOutcomes`, `skipped_ofOutcomes`: nothing is lost by putting them apart.
* `fitGroup_eq_ok_iff`, `fitGroup_eq_refused_iff`, `fitGroup_eq_overflow_iff`: one
  group.
* `fitEach_eq_ok_iff`, `fitEach_eq_refused_iff`, `fitEach_eq_overflow_iff`: the
  groups are fitted one for one, and the first one that cannot be selected ends
  the call, unless one overflows.
* `fitGroups_outcomes`: when a grouped fit overflows, when it fails and with which
  error, and that otherwise its fits and skipped groups merge to the request, with
  an outcome for each group that does not depend on the others.
-/

namespace Trendline

/-! ## Fitted and skipped groups -/

/-- The fit of a group, if it has one. -/
def GroupOutcome.fit? : GroupOutcome → Option GroupFit
  | fitted g => some g
  | skipped _ _ => none

/-- A group without a fit, and why. -/
def GroupOutcome.skipped? : GroupOutcome → Option (Value × FitError Float)
  | fitted _ => none
  | skipped group e => some (group, e)

theorem fits_ofOutcomes : ∀ outcomes : List GroupOutcome,
    (GroupFits.ofOutcomes outcomes).fits = outcomes.filterMap GroupOutcome.fit? := by
  intro outcomes
  induction outcomes with
  | nil => rfl
  | cons o rest ih =>
    cases o with
    | fitted g => exact congrArg (g :: ·) ih
    | skipped group e => exact ih

theorem skipped_ofOutcomes : ∀ outcomes : List GroupOutcome,
    (GroupFits.ofOutcomes outcomes).skipped = outcomes.filterMap GroupOutcome.skipped? := by
  intro outcomes
  induction outcomes with
  | nil => rfl
  | cons o rest ih =>
    cases o with
    | fitted g => exact ih
    | skipped group e => exact congrArg ((group, e) :: ·) ih

/-! ## One group -/

/-- The predicates that select the rows of a group. -/
def GroupSpec.predicatesOf (spec : GroupSpec) (group : Value) : List Predicate :=
  spec.predicates ++ [.equals spec.column group]

/-- The series of a group under the name of the group. -/
def GroupSpec.named (spec : GroupSpec) (group : Value) (series : Series Float) : Series Float :=
  series.withLabel (spec.column ++ "=" ++ group.display)

/-- What a group is reported as, given its rows. -/
def GroupSpec.outcome (spec : GroupSpec) (group : Value) (series : Series Float) :
    Except (Stop DataError) GroupOutcome :=
  match fitSeries (spec.named group series) spec.space spec.degree with
  | .ok fit => .ok (.fitted ⟨group, spec.named group series, fit⟩)
  | .error (.refused e) => .ok (.skipped group e)
  | .error .overflow => .error .overflow

/-- A group is reported unless its rows cannot be selected. -/
theorem fitGroup_eq (d : Dataset) (spec : GroupSpec) (group : Value) :
    fitGroup d spec group =
      (d.selectSeries (spec.predicatesOf group) spec.x spec.y).mapError .refused >>=
        spec.outcome group := by
  rw [fitGroup, selectGroup, GroupSpec.predicatesOf]
  cases d.selectSeries (spec.predicates ++ [.equals spec.column group]) spec.x spec.y <;> rfl

variable {d : Dataset} {spec : GroupSpec} {g : Value} {o : GroupOutcome}

theorem outcome_eq_ok_iff {s : Series Float} : spec.outcome g s = .ok o ↔
    (∃ fit, fitSeries (spec.named g s) spec.space spec.degree = .ok fit ∧
      o = .fitted ⟨g, spec.named g s, fit⟩) ∨
    ∃ e, fitSeries (spec.named g s) spec.space spec.degree = .error (.refused e) ∧
      o = .skipped g e := by
  rw [GroupSpec.outcome]
  cases fitSeries (spec.named g s) spec.space spec.degree with
  | ok fit => simp [eq_comm]
  | error e => cases e <;> simp [eq_comm]

/-- Once its rows are selected, a group is reported or the counting of coefficients overflows. -/
theorem outcome_eq_error_iff {s : Series Float} {e : Stop DataError} :
    spec.outcome g s = .error e ↔ ¬ spec.degree.toNat + 1 < 2 ^ 64 ∧ e = .overflow := by
  have hfit : fitSeries (spec.named g s) spec.space spec.degree = .error .overflow ↔
      ¬ spec.degree.toNat + 1 < 2 ^ 64 := fitSeriesWith_eq_overflow_iff
  rw [← hfit, GroupSpec.outcome]
  cases fitSeries (spec.named g s) spec.space spec.degree with
  | ok fit => simp
  | error e => cases e <;> simp [eq_comm]

theorem fitGroup_eq_ok_iff : fitGroup d spec g = .ok o ↔
    ∃ s, d.selectSeries (spec.predicatesOf g) spec.x spec.y = .ok s ∧
      spec.outcome g s = .ok o := by
  rw [fitGroup_eq, bind_eq_ok_iff]
  simp only [mapError_eq_ok_iff]

theorem fitGroup_eq_refused_iff {e : DataError} : fitGroup d spec g = .error (.refused e) ↔
    d.selectSeries (spec.predicatesOf g) spec.x spec.y = .error e := by
  rw [fitGroup_eq, bind_eq_error_iff]
  simp [mapError_eq_error_iff, outcome_eq_error_iff]

theorem fitGroup_eq_overflow_iff : fitGroup d spec g = .error .overflow ↔
    ¬ spec.degree.toNat + 1 < 2 ^ 64 ∧
      ∃ s, d.selectSeries (spec.predicatesOf g) spec.x spec.y = .ok s := by
  rw [fitGroup_eq, bind_eq_error_iff]
  simp [mapError_eq_error_iff, mapError_eq_ok_iff, outcome_eq_error_iff, and_comm]

theorem exists_fitGroup_eq_ok_iff (h : fitGroup d spec g ≠ .error .overflow) :
    (∃ o, fitGroup d spec g = .ok o) ↔
      ∃ s, d.selectSeries (spec.predicatesOf g) spec.x spec.y = .ok s := by
  constructor
  · rintro ⟨o, ho⟩
    obtain ⟨s, hs, -⟩ := fitGroup_eq_ok_iff.mp ho
    exact ⟨s, hs⟩
  · rintro ⟨s, hs⟩
    rcases exists_ok_or_error (fitGroup d spec g) with hok | ⟨e, he⟩
    · exact hok
    · cases e with
      | refused e => exact nomatch hs.symm.trans (fitGroup_eq_refused_iff.mp he)
      | overflow => exact absurd he h

/-! ## All groups -/

theorem fitEach_eq_overflow_iff {groups : List Value} : fitEach d spec groups = .error .overflow ↔
    ∃ g ∈ groups, fitGroup d spec g = .error .overflow := by
  rw [fitEach]
  split
  case isTrue h =>
    obtain ⟨g, hg, hoverflow⟩ := List.any_eq_true.mp h
    exact iff_of_true rfl ⟨g, hg, Stop.eq_of_isOverflow hoverflow⟩
  case isFalse h =>
    refine iff_of_false (fun hmap => h ?_) ?_
    · obtain ⟨before, g, after, rfl, -, hg⟩ := mapM_eq_error_iff.mp hmap
      exact List.any_eq_true.mpr ⟨g, by simp, by rw [hg]; rfl⟩
    · rintro ⟨g, hg, hoverflow⟩
      exact h (List.any_eq_true.mpr ⟨g, hg, by rw [hoverflow]; rfl⟩)

theorem fitEach_eq_mapM {groups : List Value}
    (h : ¬ ∃ g ∈ groups, fitGroup d spec g = .error .overflow) :
    fitEach d spec groups = groups.mapM (fitGroup d spec) := by
  rw [fitEach, if_neg]
  rw [List.any_eq_true]
  rintro ⟨g, hg, hoverflow⟩
  exact h ⟨g, hg, Stop.eq_of_isOverflow hoverflow⟩

/-- **The groups are fitted one for one.** -/
theorem fitEach_eq_ok_iff {groups : List Value} {outcomes : List GroupOutcome} :
    fitEach d spec groups = .ok outcomes ↔
      List.Forall₂ (fun g o => fitGroup d spec g = .ok o) groups outcomes := by
  by_cases h : ∃ g ∈ groups, fitGroup d spec g = .error .overflow
  · rw [fitEach_eq_overflow_iff.mpr h]
    refine iff_of_false nofun fun hall => ?_
    obtain ⟨g, hg, hoverflow⟩ := h
    obtain ⟨o, -, ho⟩ := exists_mem_of_forall₂ hall hg
    rw [hoverflow] at ho
    cases ho
  · rw [fitEach_eq_mapM h, mapM_eq_ok_iff]

/-- **The first group that cannot be selected** decides the error. -/
theorem fitEach_eq_refused_iff {groups : List Value} {e : DataError} :
    fitEach d spec groups = .error (.refused e) ↔
      (¬ ∃ g ∈ groups, fitGroup d spec g = .error .overflow) ∧
      ∃ before g after, groups = before ++ g :: after ∧
        (∀ h ∈ before, ∃ s, d.selectSeries (spec.predicatesOf h) spec.x spec.y = .ok s) ∧
        d.selectSeries (spec.predicatesOf g) spec.x spec.y = .error e := by
  by_cases h : ∃ g ∈ groups, fitGroup d spec g = .error .overflow
  · rw [fitEach_eq_overflow_iff.mpr h]
    exact iff_of_false nofun fun hfirst => hfirst.1 h
  have hselected : ∀ g ∈ groups, (∃ o, fitGroup d spec g = .ok o) ↔
      ∃ s, d.selectSeries (spec.predicatesOf g) spec.x spec.y = .ok s :=
    fun g hg => exists_fitGroup_eq_ok_iff fun hoverflow => h ⟨g, hg, hoverflow⟩
  rw [fitEach_eq_mapM h, mapM_eq_error_iff, and_iff_right h]
  refine exists_congr fun before => exists_congr fun g => exists_congr fun after =>
    and_congr_right fun hgroups => and_congr ?_ fitGroup_eq_refused_iff
  exact forall₂_congr fun b hb => hselected b (hgroups ▸ List.mem_append_left _ hb)

theorem fitGroups_eq_ok_iff {out : GroupFits} : fitGroups d spec = .ok out ↔
    spec.column ∈ d.columns ∧
      ∃ outcomes, fitEach d spec spec.groups = .ok outcomes ∧ out = .ofOutcomes outcomes := by
  rw [fitGroups, bind_eq_ok_iff, ← Dataset.columnIndex_eq_ok_iff]
  simp only [mapError_eq_ok_iff]
  constructor
  · rintro ⟨i, hi, h⟩
    obtain ⟨outcomes, houtcomes, h⟩ := bind_eq_ok_iff.mp h
    exact ⟨⟨i, hi⟩, outcomes, houtcomes, (Except.ok.inj h).symm⟩
  · rintro ⟨⟨i, hi⟩, outcomes, houtcomes, rfl⟩
    exact ⟨i, hi, bind_eq_ok_iff.mpr ⟨outcomes, houtcomes, rfl⟩⟩

theorem fitGroups_eq_error_iff {e : Stop DataError} : fitGroups d spec = .error e ↔
    (spec.column ∉ d.columns ∧ e = .refused (.missingColumn d.source spec.column)) ∨
    (spec.column ∈ d.columns ∧ fitEach d spec spec.groups = .error e) := by
  rw [fitGroups, bind_eq_error_iff, mapError_eq_error_iff]
  simp only [Dataset.columnIndex_eq_error_iff, mapError_eq_ok_iff, bind_eq_error_iff]
  constructor
  · rintro (⟨_, ⟨hc, rfl⟩, rfl⟩ | ⟨i, hi, h | ⟨_, _, h⟩⟩)
    · exact .inl ⟨hc, rfl⟩
    · exact .inr ⟨Dataset.columnIndex_eq_ok_iff.mp ⟨i, hi⟩, h⟩
    · exact nomatch h
  · rintro (⟨hc, rfl⟩ | ⟨hc, h⟩)
    · exact .inl ⟨_, ⟨hc, rfl⟩, rfl⟩
    · obtain ⟨i, hi⟩ := Dataset.columnIndex_eq_ok_iff.mpr hc
      exact .inr ⟨i, hi, .inl h⟩

/-- Whether a grouped fit overflows: its degree has no successor among the words, and there is a
group that gets as far as to be fitted. -/
def GroupSpec.Overflows (d : Dataset) (spec : GroupSpec) : Prop :=
  ¬ spec.degree.toNat + 1 < 2 ^ 64 ∧ spec.column ∈ d.columns ∧
    ∃ g ∈ spec.groups, ∃ s, d.selectSeries (spec.predicatesOf g) spec.x spec.y = .ok s

theorem overflows_iff : spec.Overflows d ↔
    spec.column ∈ d.columns ∧ ∃ g ∈ spec.groups, fitGroup d spec g = .error .overflow := by
  simp only [GroupSpec.Overflows, fitGroup_eq_overflow_iff]
  constructor
  · rintro ⟨hdegree, hc, g, hg, hs⟩
    exact ⟨hc, g, hg, hdegree, hs⟩
  · rintro ⟨hc, g, hg, hdegree, hs⟩
    exact ⟨hdegree, hc, g, hg, hs⟩

theorem fitGroups_eq_overflow_iff : fitGroups d spec = .error .overflow ↔ spec.Overflows d := by
  rw [fitGroups_eq_error_iff, fitEach_eq_overflow_iff, overflows_iff]
  exact or_iff_right fun h => nomatch h.2

/-- The error of a grouped fit, looked for without fitting anything. -/
def GroupSpec.dataFault? (d : Dataset) (spec : GroupSpec) : Option DataError :=
  (fault? (d.columnIndex spec.column)).or <| spec.groups.findSome? fun g =>
    fault? (d.selectSeries (spec.predicatesOf g) spec.x spec.y)

theorem dataFault?_eq_some_iff {e : DataError} : spec.dataFault? d = some e ↔
    (spec.column ∉ d.columns ∧ e = .missingColumn d.source spec.column) ∨
    (spec.column ∈ d.columns ∧ ∃ before g after, spec.groups = before ++ g :: after ∧
      (∀ h ∈ before, ∃ s, d.selectSeries (spec.predicatesOf h) spec.x spec.y = .ok s) ∧
      d.selectSeries (spec.predicatesOf g) spec.x spec.y = .error e) := by
  rw [GroupSpec.dataFault?, Option.or_eq_some_iff, List.findSome?_eq_some_iff]
  simp only [fault?_eq_some_iff, fault?_eq_none_iff, Dataset.columnIndex_eq_error_iff,
    Dataset.columnIndex_eq_ok_iff, and_comm (a := Dataset.selectSeries d _ _ _ = .error e)]

theorem dataFault?_eq_none_iff : spec.dataFault? d = none ↔
    spec.column ∈ d.columns ∧
      ∀ g ∈ spec.groups, ∃ s, d.selectSeries (spec.predicatesOf g) spec.x spec.y = .ok s := by
  rw [GroupSpec.dataFault?, Option.or_eq_none_iff, List.findSome?_eq_none_iff]
  simp only [fault?_eq_none_iff, Dataset.columnIndex_eq_ok_iff]

theorem exists_dataFault?_iff : (∃ e, spec.dataFault? d = some e) ↔
    spec.column ∉ d.columns ∨
    ∃ g ∈ spec.groups, ∃ e, d.selectSeries (spec.predicatesOf g) spec.x spec.y = .error e := by
  rw [← Option.ne_none_iff_exists', ne_eq, dataFault?_eq_none_iff, not_and_or]
  simp only [not_forall, exists_prop, ← fault?_eq_none_iff, ← ne_eq, Option.ne_none_iff_exists',
    fault?_eq_some_iff]

/-- **The error of a grouped fit**: that of its column, or else of the first group that has one. -/
theorem fitGroups_eq_refused_iff {e : DataError} : fitGroups d spec = .error (.refused e) ↔
    ¬ spec.Overflows d ∧ spec.dataFault? d = some e := by
  rw [fitGroups_eq_error_iff, overflows_iff, fitEach_eq_refused_iff, dataFault?_eq_some_iff,
    Stop.refused.injEq]
  by_cases hc : spec.column ∈ d.columns
  · simp only [hc, not_true_eq_false, false_and, true_and, false_or]
  · simp only [hc, not_false_eq_true, false_and, true_and, or_false]

/-- **The outcomes of a grouped fit.**  It overflows if a group whose rows can be selected is fitted
with the largest degree.  Otherwise it fails for a missing group column, and else with the error of
the first group that cannot be selected.  If it does neither, its fits and its skipped groups merge,
in their order, to the outcomes of the requested groups, one for each position; and the outcome of
a group is its own, whatever else is requested. -/
theorem fitGroups_outcomes (d : Dataset) (spec : GroupSpec) :
    (fitGroups d spec = .error .overflow ↔
      ¬ spec.degree.toNat + 1 < 2 ^ 64 ∧ spec.column ∈ d.columns ∧
      ∃ g ∈ spec.groups, ∃ series,
        d.selectSeries (spec.predicatesOf g) spec.x spec.y = .ok series) ∧
    (fitGroups d spec ≠ .error .overflow →
      (∀ e, fitGroups d spec = .error (.refused e) ↔
        (spec.column ∉ d.columns ∧ e = .missingColumn d.source spec.column) ∨
        (spec.column ∈ d.columns ∧ ∃ before g after, spec.groups = before ++ g :: after ∧
          (∀ h ∈ before, ∃ series,
            d.selectSeries (spec.predicatesOf h) spec.x spec.y = .ok series) ∧
          d.selectSeries (spec.predicatesOf g) spec.x spec.y = .error e)) ∧
      ((∃ e, fitGroups d spec = .error (.refused e)) ↔
        spec.column ∉ d.columns ∨
        ∃ g ∈ spec.groups, ∃ e, d.selectSeries (spec.predicatesOf g) spec.x spec.y = .error e)) ∧
    ∀ groups out, fitGroups d { spec with groups } = .ok out → ∃ outcomes : List GroupOutcome,
      outcomes.filterMap GroupOutcome.fit? = out.fits ∧
      outcomes.filterMap GroupOutcome.skipped? = out.skipped ∧
      List.Forall₂ (fun g o => ∃ series,
        d.selectSeries (spec.predicatesOf g) spec.x spec.y = .ok series ∧
        ((∃ fit, fitSeries (spec.named g series) spec.space spec.degree = .ok fit ∧
          o = .fitted ⟨g, spec.named g series, fit⟩) ∨
        ∃ e, fitSeries (spec.named g series) spec.space spec.degree = .error (.refused e) ∧
          o = .skipped g e)) groups outcomes := by
  refine ⟨fitGroups_eq_overflow_iff, fun hoverflow => ?_, fun groups out hout => ?_⟩
  · rw [ne_eq, fitGroups_eq_overflow_iff] at hoverflow
    have hrefused : ∀ e, fitGroups d spec = .error (.refused e) ↔ spec.dataFault? d = some e :=
      fun e => fitGroups_eq_refused_iff.trans (and_iff_right hoverflow)
    exact ⟨fun e => (hrefused e).trans dataFault?_eq_some_iff,
      (exists_congr hrefused).trans exists_dataFault?_iff⟩
  · obtain ⟨-, outcomes, houtcomes, rfl⟩ := fitGroups_eq_ok_iff.mp hout
    refine ⟨outcomes, (fits_ofOutcomes _).symm, (skipped_ofOutcomes _).symm, ?_⟩
    refine (fitEach_eq_ok_iff.mp houtcomes).imp fun g o ho => ?_
    obtain ⟨s, hs, houtcome⟩ := fitGroup_eq_ok_iff.mp ho
    exact ⟨s, hs, outcome_eq_ok_iff.mp houtcome⟩

/-- A table of two groups, of two points and of one. -/
def unevenGroups : Dataset :=
  ⟨"t.csv", ["g", "x", "y"],
    [⟨2, [.text "a", .number 1, .number 2]⟩, ⟨3, [.text "b", .number 5, .number 1]⟩,
      ⟨4, [.text "a", .number 2, .number 4]⟩]⟩

theorem not_fitGroups_outcomes_greatest :
    let spec : GroupSpec :=
      ⟨"g", [.text "a", .text "b"], [], "x", "y", .linear, 18446744073709551615⟩
    spec.column ∈ unevenGroups.columns ∧
    (∀ g ∈ spec.groups, ∃ series,
      unevenGroups.selectSeries (spec.predicatesOf g) spec.x spec.y = .ok series) ∧
    ¬ ∃ out, fitGroups unevenGroups spec = .ok out := by
  intro spec
  have hcolumn : spec.column ∈ unevenGroups.columns := by decide
  have hselected : ∀ g ∈ spec.groups, ∃ series,
      unevenGroups.selectSeries (spec.predicatesOf g) spec.x spec.y = .ok series := by
    intro g hg
    rcases List.mem_pair.mp hg with rfl | rfl
    · exact ⟨_, rfl⟩
    · exact ⟨_, rfl⟩
  have hoverflow : fitGroups unevenGroups spec = .error .overflow :=
    fitGroups_eq_overflow_iff.mpr
      ⟨by decide, hcolumn, .text "a", List.mem_cons_self, hselected _ List.mem_cons_self⟩
  refine ⟨hcolumn, hselected, ?_⟩
  rintro ⟨out, hout⟩
  rw [hoverflow] at hout
  cases hout

end Trendline
