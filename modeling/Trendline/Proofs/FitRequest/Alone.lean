import Trendline.Proofs.FitRequest.Failures

/-!
# Groups by themselves

A group can also be asked for by itself: without grouping, and with one more predicate for its
rows.

* `dataFault?_eq_none_iff_alone`: the data of a grouped request are in order when those of all its
  groups are.
* `overflows_iff_alone`: it overflows when one of its groups does.
* `matches_of_fitGroup`: a group is reported as what it gives by itself.
* `run_groups`: a grouped request is as good as one request for each group.
-/

namespace Trendline

/-- Whether a group is reported as what it gives by itself.  A group without a fit fails there, with
a message that ends in the same words. -/
def GroupOutcome.Matches (g : Value) (result : Except (Stop Failure) FitOutcome) :
    GroupOutcome → Prop
  | fitted fit =>
    fit.group = g ∧ ∃ s, result = .ok (.single s fit.fit) ∧ s.points = fit.series.points
  | skipped group e =>
    group = g ∧ ∃ f before, result = .error (.refused f) ∧ f.exitCode = 3 ∧
      f.message = before ++ e.message

namespace FitRequest

/-- The request for one group by itself. -/
def alone (r : FitRequest) (column : String) (g : Value) : FitRequest :=
  { r with groupBy := none, groups := [], predicates := r.predicates ++ [.equals column g] }

variable {files : FileTree} {dataDir : String} {d : Dataset} {r : FitRequest} {column : String}
  {groups : List Value}

/-! ## Faults -/

/-- A group that can be selected has the column that it is a group of. -/
theorem column_mem_of_selectSeries {g : Value} {s : Series Float}
    (h : d.selectSeries (r.predicates ++ [.equals column g]) r.x r.y = .ok s) :
    column ∈ d.columns := by
  obtain ⟨⟨-, -, hnames⟩, -⟩ := Dataset.exists_selectSeries_iff.mp ⟨s, h⟩
  exact hnames (.equals column g) (List.mem_append_right _ List.mem_cons_self) column
    List.mem_cons_self

theorem dataFault?_specFor_eq_none_iff (hgroups : groups ≠ []) :
    (r.specFor column groups).dataFault? d = none ↔
      ∀ g ∈ groups, (r.alone column g).faultIn? d = none := by
  have halone : ∀ g, (r.alone column g).faultIn? d = none ↔
      ∃ s, d.selectSeries (r.predicates ++ [.equals column g]) r.x r.y = .ok s :=
    fun g => fault?_eq_none_iff
  simp only [halone]
  refine dataFault?_eq_none_iff.trans (and_iff_right_of_imp fun h => ?_)
  obtain ⟨g, hg⟩ := List.exists_mem_of_ne_nil groups hgroups
  obtain ⟨s, hs⟩ := h g hg
  exact column_mem_of_selectSeries hs

theorem dataFault?_eq_none_iff_alone (hcolumn : r.groupBy = some column)
    (hgroups : r.groups ≠ []) :
    r.dataFault? files dataDir = none ↔
      ∀ g ∈ r.groups, (r.alone column g).dataFault? files dataDir = none := by
  simp only [dataFault?, show ∀ g, (r.alone column g).file = r.file from fun _ => rfl]
  cases Dataset.ofFile files (locate files r.file dataDir) with
  | error e =>
    obtain ⟨g, hg⟩ := List.exists_mem_of_ne_nil r.groups hgroups
    constructor
    · intro h
      cases h
    · intro h
      cases h g hg
  | ok d =>
    dsimp only
    rw [faultIn?_of_groupsIn hcolumn (groupsIn_of_ne_nil hgroups)]
    exact dataFault?_specFor_eq_none_iff hgroups

/-! ## Overflows -/

theorem overflows_iff_alone (hcolumn : r.groupBy = some column) (hgroups : r.groups ≠ []) :
    r.Overflows files dataDir ↔ ∃ g ∈ r.groups, (r.alone column g).Overflows files dataDir := by
  have hin : ∀ d, r.OverflowsIn d ↔ ∃ g ∈ r.groups, (r.alone column g).OverflowsIn d := by
    intro d
    rw [overflowsIn_iff_of_groupBy hcolumn, groupsIn_of_ne_nil hgroups]
    constructor
    · rintro ⟨groups, heq, hdegree, -, g, hg, hs⟩
      rw [← Except.ok.inj heq] at hg
      exact ⟨g, hg, hdegree, hs⟩
    · rintro ⟨g, hg, hdegree, s, hs⟩
      exact ⟨r.groups, rfl, hdegree, column_mem_of_selectSeries hs, g, hg, s, hs⟩
  simp only [Overflows, hin, show ∀ g, (r.alone column g).file = r.file from fun _ => rfl]
  constructor
  · rintro ⟨d, hd, g, hg, h⟩
    exact ⟨g, hg, d, hd, h⟩
  · rintro ⟨g, hg, d, hd, h⟩
    exact ⟨d, hd, g, hg, h⟩

/-! ## Reports -/

theorem matches_of_fitGroup (hdegree : r.degree ≠ 0)
    (hd : Dataset.ofFile files (locate files r.file dataDir) = .ok d) {g : Value}
    {o : GroupOutcome} (ho : fitGroup d (r.specFor column groups) g = .ok o) :
    o.Matches g ((r.alone column g).run files dataDir).result := by
  obtain ⟨s, hs, houtcome⟩ := fitGroup_eq_ok_iff.mp ho
  have halone : (r.alone column g).degree ≠ 0 := hdegree
  rcases outcome_eq_ok_iff.mp houtcome with ⟨fit, hfit, rfl⟩ | ⟨e, hfit, rfl⟩
  · have hrun : ((r.alone column g).run files dataDir).result = .ok (.single s fit) :=
      (run_eq_ok_iff halone).mpr ⟨d, hd, runSingle_eq_ok_iff.mpr ⟨s, fit, hs, hfit, rfl⟩⟩
    exact ⟨rfl, s, hrun, rfl⟩
  · have hrun : ((r.alone column g).run files dataDir).result =
        .error (.refused (fitFailure s e)) :=
      (run_eq_refused_iff halone).mpr
        (.inr ⟨d, hd, runSingle_eq_refused_iff.mpr (.inr ⟨s, e, hs, hfit, rfl⟩)⟩)
    exact ⟨rfl, _, "Cannot fit '" ++ s.label ++ "': ", hrun, rfl, rfl⟩

/-- **A grouped request is as good as one request for each group.**  What it reports of its groups,
fitted ones and skipped ones in their order, is what they give by themselves.  It overflows when one
of them overflows.  Else it fails, always for its data, when one of them fails for its data. -/
theorem run_groups (hdegree : r.degree ≠ 0) (hcolumn : r.groupBy = some column)
    (hgroups : r.groups ≠ []) :
    (∀ out, (r.run files dataDir).result = .ok out → ∃ outcomes,
      List.Forall₂ (fun g (o : GroupOutcome) =>
        o.Matches g ((r.alone column g).run files dataDir).result) r.groups outcomes ∧
      out = .grouped column
        ⟨outcomes.filterMap GroupOutcome.fit?, outcomes.filterMap GroupOutcome.skipped?⟩) ∧
    ((r.run files dataDir).result = .error .overflow ↔
      ∃ g ∈ r.groups, ((r.alone column g).run files dataDir).result = .error .overflow) ∧
    (∀ f, (r.run files dataDir).result = .error (.refused f) → f.exitCode = 2) ∧
    ((∃ f, (r.run files dataDir).result = .error (.refused f)) ↔
      (r.run files dataDir).result ≠ .error .overflow ∧
      ∃ g ∈ r.groups, ∃ f, ((r.alone column g).run files dataDir).result = .error (.refused f) ∧
        f.exitCode = 2) := by
  have htwo : ∀ f, (r.run files dataDir).result = .error (.refused f) → f.exitCode = 2 :=
    fun f => exitCode_of_run_grouped hdegree hcolumn
  refine ⟨fun out hout => ?_, ?_, htwo, ?_⟩
  · obtain ⟨d, groups, outcomes, hd, hin, hall, rfl⟩ := outcomes_of_run hdegree hcolumn hout
    rw [groupsIn_of_ne_nil hgroups] at hin
    obtain rfl := Except.ok.inj hin
    refine ⟨outcomes, hall.imp fun g o => matches_of_fitGroup hdegree hd, ?_⟩
    rw [← fits_ofOutcomes, ← skipped_ofOutcomes]
  · simp only [run_eq_overflow_iff_overflows]
    exact overflows_iff_alone hcolumn hgroups
  · have hgrouped : (∃ f, (r.run files dataDir).result = .error (.refused f)) ↔
        ¬ r.Overflows files dataDir ∧ r.dataFault? files dataDir ≠ none := by
      rw [← exists_exitCode_eq_two_iff hdegree]
      exact exists_congr fun f => (and_iff_left_of_imp (htwo f)).symm
    have hsingle : ∀ g, (∃ f, ((r.alone column g).run files dataDir).result =
        .error (.refused f) ∧ f.exitCode = 2) ↔ ¬ (r.alone column g).Overflows files dataDir ∧
          (r.alone column g).dataFault? files dataDir ≠ none :=
      fun g => exists_exitCode_eq_two_iff hdegree
    have hrun : (r.run files dataDir).result ≠ .error .overflow ↔ ¬ r.Overflows files dataDir :=
      not_congr run_eq_overflow_iff_overflows
    rw [hgrouped, hrun]
    refine and_congr_right fun hoverflow => ?_
    have hnone : ∀ g ∈ r.groups, ¬ (r.alone column g).Overflows files dataDir :=
      fun g hg h => hoverflow ((overflows_iff_alone hcolumn hgroups).mpr ⟨g, hg, h⟩)
    rw [ne_eq, dataFault?_eq_none_iff_alone hcolumn hgroups]
    simp only [not_forall, exists_prop, hsingle]
    exact exists_congr fun g => and_congr_right fun hg => (and_iff_right (hnone g hg)).symm

/-- A table of two groups, of which one has a line and the other a single point. -/
def twoGroups : FileTree :=
  { files := [(["t.csv"], .bytes "g,x,y\na,1,2\nb,5,1\na,2,4\n".toUTF8.toList)] }

/-- A request for both of them. -/
def bothGroups : FitRequest :=
  { file := "t.csv", x := "x", y := "y", groupBy := some "g", groups := [.text "b", .text "a"] }

theorem run_groups_twoGroups :
    bothGroups.degree ≠ 0 ∧ bothGroups.groupBy = some "g" ∧ bothGroups.groups ≠ [] ∧
    ∃ out outcomes, (bothGroups.run twoGroups ".").result = .ok out ∧
      out.rows.map (·.label) = ["g=a"] ∧ out.skipped.map (·.label) = ["g=b"] ∧
      List.Forall₂ (fun g (o : GroupOutcome) =>
        o.Matches g ((bothGroups.alone "g" g).run twoGroups ".").result)
        bothGroups.groups outcomes ∧
      out = .grouped "g"
        ⟨outcomes.filterMap GroupOutcome.fit?, outcomes.filterMap GroupOutcome.skipped?⟩ := by
  have hdegree : bothGroups.degree ≠ 0 := by decide
  have hgroups : bothGroups.groups ≠ [] := nofun
  have hlabels : (bothGroups.run twoGroups ".").result.toOption.map
      (fun out => (out.rows.map (·.label), out.skipped.map (·.label))) =
        some (["g=a"], ["g=b"]) := by
    decide +kernel
  obtain ⟨out, hrun, hlabels⟩ := toOption_map_eq_some_iff.mp hlabels
  obtain ⟨hrows, hskipped⟩ := Prod.ext_iff.mp hlabels
  obtain ⟨houtcomes, -⟩ := run_groups hdegree rfl hgroups
  obtain ⟨outcomes, hmatches, heq⟩ := houtcomes out hrun
  exact ⟨hdegree, rfl, hgroups, out, outcomes, hrun, hrows, hskipped, hmatches, heq⟩

/-- A table of two groups, of which one has a text among its points. -/
def wordGroup : FileTree :=
  tableFile "g,x,y\na,1,2\nb,z,1\n"

/-- A request for curves of the largest degree. -/
def greatestGroups : FitRequest :=
  { greatestDegree with groupBy := some "g", groups := [.text "a", .text "b"] }

theorem not_run_groups_greatest :
    greatestGroups.degree ≠ 0 ∧ greatestGroups.groupBy = some "g" ∧ greatestGroups.groups ≠ [] ∧
    (∃ g ∈ greatestGroups.groups, ∃ f,
      ((greatestGroups.alone "g" g).run wordGroup "data").result = .error (.refused f) ∧
        f.exitCode = 2) ∧
    ¬ ∃ f, (greatestGroups.run wordGroup "data").result = .error (.refused f) := by
  have hoverflow : (greatestGroups.run wordGroup "data").result = .error .overflow :=
    fault?_eq_some_iff.mp (by decide +kernel)
  have hfails : ((greatestGroups.alone "g" (.text "b")).run wordGroup "data").result =
      .error (.refused ⟨2, "Invalid value 'z' for column `x` in 'data/t.csv' (line 3): " ++
        "expected a number"⟩) :=
    fault?_eq_some_iff.mp (by decide +kernel)
  refine ⟨by decide, rfl, nofun, ⟨.text "b", by simp [greatestGroups], _, hfails, rfl⟩, ?_⟩
  · rintro ⟨f, hf⟩
    rw [hoverflow] at hf
    cases hf

end FitRequest

end Trendline
