import Trendline.Figure.HistoryTree
import Trendline.Proofs.Dataset.Alike
import Trendline.Proofs.Groups.Outcomes

/-!
# Looking up a group

Groups are looked up by equality of values, which is not how their rows are
selected.  Without NaNs equal groups select the same rows, so it does not matter
which of them is found.

* `selectSeries_of_beq`: equal groups have the same series.
* `find?_of_fitGroups`: every requested group is found, with the outcome of its
  own series.
-/

namespace Trendline

/-! ## The series of a group -/

variable {d : Dataset} {spec : GroupSpec}

/-- **Equal groups have the same series**, also under its name. -/
theorem selectSeries_of_beq {g h : Value} (hg : g.isNaN = false) (hh : h.isNaN = false)
    (heq : (g == h) = true) :
    d.selectSeries (spec.predicatesOf g) spec.x spec.y =
      d.selectSeries (spec.predicatesOf h) spec.x spec.y :=
  Dataset.selectSeries_of_alike
    (Predicate.forall₂_alike (Predicate.alike_equals spec.column hg hh heq) spec.predicates [])
    spec.x spec.y

/-! ## Looking up -/

/-- The group that an outcome is about. -/
def GroupOutcome.group : GroupOutcome → Value
  | fitted g => g.group
  | skipped group _ => group

theorem group_of_outcome {g : Value} {s : Series Float} {o : GroupOutcome}
    (h : spec.outcome g s = .ok o) : o.group = g := by
  rcases outcome_eq_ok_iff.mp h with ⟨fit, -, rfl⟩ | ⟨e, -, rfl⟩ <;> rfl

theorem of_find?_ofOutcomes {outcomes : List GroupOutcome} {g : Value} {o : GroupOutcome}
    (h : (GroupFits.ofOutcomes outcomes).find? g = some o) :
    o ∈ outcomes ∧ (o.group == g) = true := by
  rw [GroupFits.find?] at h
  split at h
  · rename_i g' e hfind
    obtain rfl := Option.some.inj h
    have heq := List.find?_some hfind
    refine ⟨?_, heq⟩
    have hmem := List.mem_of_find?_eq_some hfind
    rw [skipped_ofOutcomes] at hmem
    obtain ⟨o, ho, hskipped⟩ := List.mem_filterMap.mp hmem
    cases o with
    | fitted fit => cases hskipped
    | skipped g' e =>
      cases hskipped
      exact ho
  · obtain ⟨fit, hfind, rfl⟩ := Option.map_eq_some_iff.mp h
    have heq := List.find?_some hfind
    refine ⟨?_, heq⟩
    have hmem := List.mem_of_find?_eq_some hfind
    rw [fits_ofOutcomes] at hmem
    obtain ⟨o, ho, hfit⟩ := List.mem_filterMap.mp hmem
    cases o with
    | fitted fit =>
      cases hfit
      exact ho
    | skipped g' e => cases hfit

theorem exists_find?_ofOutcomes {outcomes : List GroupOutcome} {g : Value} {o : GroupOutcome}
    (ho : o ∈ outcomes) (heq : (o.group == g) = true) :
    ∃ o', (GroupFits.ofOutcomes outcomes).find? g = some o' := by
  rw [GroupFits.find?]
  split
  · exact ⟨_, rfl⟩
  · rename_i hnone
    cases o with
    | skipped g' e =>
      have hmem : (g', e) ∈ (GroupFits.ofOutcomes outcomes).skipped := by
        rw [skipped_ofOutcomes]
        exact List.mem_filterMap.mpr ⟨_, ho, rfl⟩
      exact absurd heq (List.find?_eq_none.mp hnone _ hmem)
    | fitted fit =>
      have hmem : fit ∈ (GroupFits.ofOutcomes outcomes).fits := by
        rw [fits_ofOutcomes]
        exact List.mem_filterMap.mpr ⟨_, ho, rfl⟩
      cases hfind : (GroupFits.ofOutcomes outcomes).fits.find? (·.group == g) with
      | some fit' => exact ⟨_, rfl⟩
      | none => exact absurd heq (List.find?_eq_none.mp hfind _ hmem)

/-- **Every requested group is found**, with the outcome of its own series under the name of an
equal group. -/
theorem find?_of_fitGroups {out : GroupFits} (hout : fitGroups d spec = .ok out)
    (hnan : ∀ g ∈ spec.groups, g.isNaN = false) {g : Value} (hg : g ∈ spec.groups) :
    ∃ s name o, d.selectSeries (spec.predicatesOf g) spec.x spec.y = .ok s ∧
      spec.outcome name s = .ok o ∧ out.find? g = some o := by
  obtain ⟨-, outcomes, houtcomes, rfl⟩ := fitGroups_eq_ok_iff.mp hout
  have hall := fitEach_eq_ok_iff.mp houtcomes
  obtain ⟨own, hmem, hown⟩ := exists_mem_of_forall₂ hall hg
  obtain ⟨s, -, hs⟩ := fitGroup_eq_ok_iff.mp hown
  have hself : (own.group == g) = true := by
    rw [group_of_outcome hs]
    exact Value.beq_self (hnan g hg)
  -- another group may be found than the one asked for, but only an equal one
  obtain ⟨o, ho⟩ := exists_find?_ofOutcomes hmem hself
  obtain ⟨hfound, heq⟩ := of_find?_ofOutcomes ho
  obtain ⟨name, hname, hother⟩ := exists_mem_of_forall₂ hall.flip hfound
  obtain ⟨s', hs', houtcome⟩ := fitGroup_eq_ok_iff.mp hother
  rw [group_of_outcome houtcome] at heq
  rw [selectSeries_of_beq (hnan name hname) (hnan g hg) heq] at hs'
  exact ⟨s', name, o, hs', houtcome, ho⟩

end Trendline
