import Trendline.Figure.Settings

/-!
# The sizes of history trees

For every group two series on logarithmic axes: the full tree, which grows with
the number of records and is fitted by a straight line, and the pruned tree,
which grows with its logarithm.
-/

namespace Trendline

/-- How either tree is grouped and fitted. -/
def treeSpec (groups : List Value) (space : Space) : GroupSpec :=
  { column := "NumberAttributes", groups, predicates := [], x := "NumberRecords", y := "Size"
    space, degree := 1 }

/-- The grouped fits of either tree, which are lines. -/
def fitTrees (d : Dataset) (groups : List Value) (space : Space) : Noted DataError GroupFits :=
  let spec := treeSpec groups space
  ⟨groupNotes d spec, Stop.settle (fitGroups d spec) (fitGroups_ne_overflow rfl d)⟩

/-- What a grouped fit says about a group, if it says anything. -/
def GroupFits.find? (fits : GroupFits) (group : Value) : Option GroupOutcome :=
  match fits.skipped.find? (·.1 == group) with
  | some (g, e) => some (.skipped g e)
  | none => (fits.fits.find? (·.group == group)).map .fitted

/-- Adds a group of a grouped fit to the figure under a label. -/
def Figure.addGroup (f : Figure Float) (fits : GroupFits) (group : Value) (label : String)
    (marker : Marker) (color : Nat) (dashed : Bool) : Figure Float :=
  match fits.find? group with
  | some (.skipped _ e) => f.skip label e
  | some (.fitted g) =>
    f.addResult (g.series.withLabel label) (.ok g.fit) ⟨g.fit.space, marker, color, dashed, ""⟩
  | none => f

/-- The notes about adding a group. -/
def Figure.groupNotes (f : Figure Float) (fits : GroupFits) (group : Value) (label : String)
    (marker : Marker) (color : Nat) (dashed : Bool) : List Note :=
  match fits.find? group with
  | some (.skipped _ e) => [f.skipNote label e]
  | some (.fitted g) =>
    f.addNotes (g.series.withLabel label) (.ok g.fit) ⟨g.fit.space, marker, color, dashed, ""⟩
  | none => []

/-- Adds the two trees of each group; the color of a group is its place. -/
def Figure.addTrees (full pruned : GroupFits) :
    (color : Nat) → List Value → Figure Float → Noted DataError (Figure Float)
  | _, [], f => return f
  | color, group :: rest, f => do
    let fullLabel := group.display ++ " Attributes, Full Tree"
    let prunedLabel := group.display ++ " Attributes, Merkle Path"
    .noteAll (f.groupNotes full group fullLabel .circle color true)
    let f := f.addGroup full group fullLabel .circle color true
    .noteAll (f.groupNotes pruned group prunedLabel .triangle color false)
    let f := f.addGroup pruned group prunedLabel .triangle color false
    Figure.addTrees full pruned (color + 1) rest f

/-- The figure of both trees. -/
def historyTree (files : FileTree) (s : FigureSettings) : Noted DataError (Figure Float) := do
  let full ← s.table files "full_history_tree_size.csv"
  let pruned ← s.table files "pruned_history_tree_size.csv"
  let fullFits ← fitTrees full s.groups .linear
  let prunedFits ← fitTrees pruned s.groups .semiLogX
  let empty : Figure Float :=
    { kind := .historyTree
      title := "History Tree Size"
      xLabel := "Log of Number of Records"
      yLabel := "Log of Size (in bytes)" }
  Figure.addTrees fullFits prunedFits 0 s.groups empty.logLog

end Trendline
