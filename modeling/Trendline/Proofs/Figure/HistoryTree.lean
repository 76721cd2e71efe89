import Trendline.Proofs.Figure.Building
import Trendline.Proofs.Groups.Lookup

/-!
# The figure of history trees

Each group of the figure has two outcomes, that of its full tree and that of its
pruned tree.

* `isPositive_historyTree`, `isPositive_figures`: whatever the tables hold, only
  positive values are shown on the logarithmic axes.
* `holds_addTrees`, `historyTree_accounts`: every group is accounted for by the
  outcomes of its own two series, in the order of the groups.
-/

namespace Trendline.Figure

/-! ## Positive figures -/

theorem IsPositive.addGroup {f : Figure Float} (h : f.IsPositive) (fits : GroupFits) (g : Value)
    (label : String) (marker : Marker) (color : Nat) (dashed : Bool) :
    (f.addGroup fits g label marker color dashed).IsPositive := by
  rw [Figure.addGroup]
  split
  · exact h.skip label _
  · exact h.addResult _ _ _
  · exact h

theorem IsPositive.addTrees (full pruned : GroupFits) : ∀ (groups : List Value) (color : Nat)
    {f f' : Figure Float}, f.IsPositive →
    (Figure.addTrees full pruned color groups f).result = .ok f' → f'.IsPositive := by
  intro groups
  induction groups with
  | nil =>
    intro color f f' hf h
    obtain rfl := Except.ok.inj h
    exact hf
  | cons g rest ih =>
    intro color f f' hf h
    simp only [Figure.addTrees, Noted.result_bind, Noted.result_noteAll] at h
    exact ih (color + 1) ((hf.addGroup _ _ _ _ _ _).addGroup _ _ _ _ _ _) h

/-- An empty figure on logarithmic axes. -/
theorem isPositive_logLog (kind : FigureKind) (title xLabel yLabel : String) :
    (logLog { kind, title, xLabel, yLabel } : Figure Float).IsPositive :=
  ⟨rfl, rfl, nofun, nofun, rfl⟩

/-! ## The parts of the figure -/

/-- The figure of history trees before any group is added. -/
def emptyTrees : Figure Float :=
  logLog
    { kind := .historyTree
      title := "History Tree Size"
      xLabel := "Log of Number of Records"
      yLabel := "Log of Size (in bytes)" }

/-- The tables and the grouped fits that a figure of history trees is made of. -/
theorem of_historyTree {files : FileTree} {s : FigureSettings} {f : Figure Float}
    (h : (historyTree files s).result = .ok f) :
    ∃ full pruned fullFits prunedFits,
      (s.table files "full_history_tree_size.csv").result = .ok full ∧
      (s.table files "pruned_history_tree_size.csv").result = .ok pruned ∧
      fitGroups full (treeSpec s.groups .linear) = .ok fullFits ∧
      fitGroups pruned (treeSpec s.groups .semiLogX) = .ok prunedFits ∧
      (addTrees fullFits prunedFits 0 s.groups emptyTrees).result = .ok f := by
  simp only [historyTree, Noted.result_bind] at h
  obtain ⟨full, hfull, h⟩ := bind_eq_ok_iff.mp h
  obtain ⟨pruned, hpruned, h⟩ := bind_eq_ok_iff.mp h
  obtain ⟨fullFits, hfullFits, h⟩ := bind_eq_ok_iff.mp h
  obtain ⟨prunedFits, hprunedFits, h⟩ := bind_eq_ok_iff.mp h
  exact ⟨full, pruned, fullFits, prunedFits, hfull, hpruned, Stop.settle_eq_ok_iff.mp hfullFits,
    Stop.settle_eq_ok_iff.mp hprunedFits, h⟩

theorem isPositive_historyTree {files : FileTree} {s : FigureSettings} {f : Figure Float}
    (h : (historyTree files s).result = .ok f) : f.IsPositive := by
  obtain ⟨_, _, fullFits, prunedFits, -, -, -, -, h⟩ := of_historyTree h
  exact IsPositive.addTrees fullFits prunedFits s.groups 0 (isPositive_logLog _ _ _ _) h

/-- **No logarithm is taken of what has none.**  A figure of history trees, and any figure that is
built on logarithmic axes, shows data with positive coordinates and curves with positive values
only, and no levels. -/
theorem isPositive_figures :
    (∀ (files : FileTree) (s : FigureSettings) (f : Figure Float),
      (historyTree files s).result = .ok f → f.IsPositive) ∧
    ∀ (kind : FigureKind) (title xLabel yLabel : String) (steps : List Step),
      (build (logLog { kind, title, xLabel, yLabel }) steps).IsPositive :=
  ⟨fun _ _ _ h => isPositive_historyTree h,
    fun kind title xLabel yLabel steps =>
      isPositive_build steps (isPositive_logLog kind title xLabel yLabel)⟩

/-! ## The outcomes of a group -/

/-- What becomes of the rows of a group, fitted and drawn in a style. -/
def IsTreeOutcome (f : Figure Float) (table : Dataset) (g : Value) (label : String)
    (style : SeriesStyle) (o : Outcome Float) : Prop :=
  ∃ s, table.selectSeries [.equals "NumberAttributes" g] "NumberRecords" "Size" = .ok s ∧
    o = f.outcome (s.withLabel label) (fitStraight (s.withLabel label) style.space) style

/-- The outcomes of a group and its place: the full tree is dashed, and both trees have the color of
the place. -/
structure AreTreeOutcomes (f : Figure Float) (full pruned : Dataset) (place : Value × Nat)
    (outcomes : Outcome Float × Outcome Float) : Prop where
  full : IsTreeOutcome f full place.1 (place.1.display ++ " Attributes, Full Tree")
    ⟨.linear, .circle, place.2, true, ""⟩ outcomes.1
  pruned : IsTreeOutcome f pruned place.1 (place.1.display ++ " Attributes, Merkle Path")
    ⟨.semiLogX, .triangle, place.2, false, ""⟩ outcomes.2

theorem addGroup_of_find? {fits : GroupFits} {groups : List Value} {space : Space}
    {g name : Value} {s : Series Float} {o : GroupOutcome}
    (houtcome : (treeSpec groups space).outcome name s = .ok o) (hfind : fits.find? g = some o)
    (f : Figure Float) (label : String) (marker : Marker) (color : Nat) (dashed : Bool) :
    f.addGroup fits g label marker color dashed =
      f.record (f.outcome (s.withLabel label) (fitStraight (s.withLabel label) space)
        ⟨space, marker, color, dashed, ""⟩) := by
  rcases outcome_eq_ok_iff.mp houtcome with ⟨fit, hfit, rfl⟩ | ⟨e, hfit, rfl⟩
  · have hstraight : fitStraight (s.withLabel label) space = .ok fit :=
      Stop.settle_eq_ok_iff.mpr hfit
    obtain ⟨-, -, -, hspace, -⟩ := of_fitSeriesWith_eq_ok hfit
    rw [addGroup, hfind, hstraight, ← addResult_eq, ← show fit.space = space from hspace]
    rfl
  · have hstraight : fitStraight (s.withLabel label) space = .error e :=
      Stop.settle_eq_error_iff.mpr hfit
    rw [addGroup, hfind, hstraight]
    rfl

/-- A group of a grouped fit is added as one outcome of its own rows. -/
theorem exists_addGroup {table : Dataset} {groups : List Value} {space : Space} {fits : GroupFits}
    (hfits : fitGroups table (treeSpec groups space) = .ok fits)
    (hnan : ∀ g ∈ groups, g.isNaN = false) {g : Value} (hg : g ∈ groups) (f base : Figure Float)
    (hx : f.xScale = base.xScale) (hy : f.yScale = base.yScale) (label : String) (marker : Marker)
    (color : Nat) (dashed : Bool) :
    ∃ o, IsTreeOutcome base table g label ⟨space, marker, color, dashed, ""⟩ o ∧
      f.addGroup fits g label marker color dashed = f.record o := by
  obtain ⟨s, name, o, hs, houtcome, hfind⟩ := find?_of_fitGroups hfits hnan hg
  refine ⟨_, ⟨s, hs, rfl⟩, ?_⟩
  rw [addGroup_of_find? houtcome hfind, outcome_congr hx hy]

theorem holds_addTrees {full pruned : Dataset} {all : List Value} {fullFits prunedFits : GroupFits}
    (hfull : fitGroups full (treeSpec all .linear) = .ok fullFits)
    (hpruned : fitGroups pruned (treeSpec all .semiLogX) = .ok prunedFits)
    (hnan : ∀ g ∈ all, g.isNaN = false) {base : Figure Float} :
    ∀ (groups : List Value) (color : Nat) {f f' : Figure Float} {outcomes : List (Outcome Float)},
      (∀ g ∈ groups, g ∈ all) → f.xScale = base.xScale → f.yScale = base.yScale →
      f.Holds outcomes → (addTrees fullFits prunedFits color groups f).result = .ok f' →
      ∃ pairs, List.Forall₂ (AreTreeOutcomes base full pruned) (groups.zipIdx color) pairs ∧
        f'.Holds (outcomes ++ pairs.flatMap fun pair => [pair.1, pair.2]) := by
  intro groups
  induction groups with
  | nil =>
    intro color f f' outcomes _ _ _ hf h
    obtain rfl := Except.ok.inj h
    refine ⟨[], .nil, ?_⟩
    rw [List.flatMap_nil, List.append_nil]
    exact hf
  | cons g rest ih =>
    intro color f f' outcomes hmem hx hy hf h
    obtain ⟨hg, hrest⟩ := List.forall_mem_cons.mp hmem
    simp only [addTrees, Noted.result_bind, Noted.result_noteAll] at h
    -- the second tree is added to the figure with the first one, on the same axes
    obtain ⟨o₁, ho₁, hfirst⟩ := exists_addGroup hfull hnan hg f base hx hy
      (g.display ++ " Attributes, Full Tree") .circle color true
    obtain ⟨o₂, ho₂, hsecond⟩ := exists_addGroup hpruned hnan hg (f.record o₁) base
      (by rw [xScale_record, hx]) (by rw [yScale_record, hy])
      (g.display ++ " Attributes, Merkle Path") .triangle color false
    obtain ⟨pairs, hpairs, hf'⟩ := ih (color + 1) hrest
      (by rw [xScale_record, xScale_record, hx]) (by rw [yScale_record, yScale_record, hy])
      ((hf.record o₁).record o₂) (by rw [← hsecond, ← hfirst]; exact h)
    refine ⟨(o₁, o₂) :: pairs, .cons ⟨ho₁, ho₂⟩ hpairs, ?_⟩
    rw [List.flatMap_cons]
    simpa using hf'

/-- **Every group is accounted for**, whatever groups are repeated or look alike.  The figure holds
two outcomes for each place of the list of groups, that of the full tree and then that of the pruned
tree, each from the rows of the group alone, and nothing else. -/
theorem historyTree_accounts {files : FileTree} {s : FigureSettings} {f : Figure Float}
    (hnan : ∀ g ∈ s.groups, g.isNaN = false) (h : (historyTree files s).result = .ok f) :
    ∃ full pruned pairs,
      (s.table files "full_history_tree_size.csv").result = .ok full ∧
      (s.table files "pruned_history_tree_size.csv").result = .ok pruned ∧
      List.Forall₂ (AreTreeOutcomes f full pruned) s.groups.zipIdx pairs ∧
      f.Holds (pairs.flatMap fun pair => [pair.1, pair.2]) ∧
      f.fits.length + f.skipped.length = 2 * s.groups.length := by
  have hpositive := isPositive_historyTree h
  obtain ⟨full, pruned, fullFits, prunedFits, hfull, hpruned, hfullFits, hprunedFits, h⟩ :=
    of_historyTree h
  obtain ⟨pairs, hpairs, hholds⟩ := holds_addTrees hfullFits hprunedFits hnan s.groups 0
    (fun _ hg => hg) hpositive.xScale.symm hpositive.yScale.symm
    (show emptyTrees.Holds [] from ⟨rfl, rfl, rfl, rfl⟩) h
  refine ⟨full, pruned, pairs, hfull, hpruned, hpairs, hholds, ?_⟩
  rw [hholds.length_eq, List.nil_append, List.length_flatMap]
  have hlength := hpairs.length_eq
  rw [List.length_zipIdx] at hlength
  simp [hlength, mul_comm]

/-- Tables in which a group has a line that the axes do not admit, and others have too few rows. -/
def smallTables : FileTree :=
  { files :=
      [(["full_history_tree_size.csv"],
        .bytes "NumberRecords,NumberAttributes,Size\n0,2,300\n4,2,600\n1,0,5\n".toUTF8.toList),
      (["pruned_history_tree_size.csv"],
        .bytes "NumberRecords,NumberAttributes,Size\n0,2,200\n1,x,5\n".toUTF8.toList)] }

/-- The number two and its text, both zeros, and a text. -/
def lookAlikes : FigureSettings :=
  { dataDir := "."
    groups :=
      [.number (Float.ofBits 0x4000000000000000), .text "2", .number (Float.ofBits 0),
        .number (Float.ofBits 0x8000000000000000), .text "x"] }

theorem historyTree_accounts_lookAlikes :
    (∀ g ∈ lookAlikes.groups, g.isNaN = false) ∧
    ∃ f, (historyTree smallTables lookAlikes).result = .ok f ∧
      f.skipped.map (·.label) =
        ["2 Attributes, Full Tree", "2 Attributes, Merkle Path", "2 Attributes, Full Tree",
          "2 Attributes, Merkle Path", "0 Attributes, Full Tree", "0 Attributes, Merkle Path",
          "0 Attributes, Full Tree", "0 Attributes, Merkle Path", "x Attributes, Full Tree",
          "x Attributes, Merkle Path"] ∧
      ∃ full pruned pairs,
        (lookAlikes.table smallTables "full_history_tree_size.csv").result = .ok full ∧
        (lookAlikes.table smallTables "pruned_history_tree_size.csv").result = .ok pruned ∧
        List.Forall₂ (AreTreeOutcomes f full pruned) lookAlikes.groups.zipIdx pairs ∧
        f.Holds (pairs.flatMap fun pair => [pair.1, pair.2]) ∧
        f.fits.length + f.skipped.length = 2 * lookAlikes.groups.length := by
  have hnan : ∀ g ∈ lookAlikes.groups, g.isNaN = false := by decide +kernel
  have hlabels : (historyTree smallTables lookAlikes).result.toOption.map
      (fun f => f.skipped.map (·.label)) = some
        ["2 Attributes, Full Tree", "2 Attributes, Merkle Path", "2 Attributes, Full Tree",
          "2 Attributes, Merkle Path", "0 Attributes, Full Tree", "0 Attributes, Merkle Path",
          "0 Attributes, Full Tree", "0 Attributes, Merkle Path", "x Attributes, Full Tree",
          "x Attributes, Merkle Path"] := by
    decide +kernel
  cases h : (historyTree smallTables lookAlikes).result with
  | error e =>
    rw [h] at hlabels
    cases hlabels
  | ok f =>
    rw [h] at hlabels
    exact ⟨hnan, f, rfl, Option.some.inj hlabels, historyTree_accounts hnan h⟩

end Trendline.Figure
