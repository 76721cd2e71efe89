import Trendline.Dataset.Selection
import Trendline.Fit
import Trendline.Log.Note

/-!
# Grouped fits

One fit for each value of a grouping column.  The rows of a group are those
that satisfy the base predicates and have the value in the column; each group is
selected and fitted by itself.  A group without a fit is skipped.  A group that
cannot be selected ends the whole call, and of several the first one counts.

All groups are fitted before any of that is looked at, so that an overflow in one
of them comes before the data error of another.
-/

namespace Trendline

/-- What to group, and how to fit each group. -/
structure GroupSpec where
  column : String
  groups : List Value
  predicates : List Predicate
  x : String
  y : String
  space : Space
  degree : UInt64

/-- A group with its fit. -/
structure GroupFit where
  group : Value
  series : Series Float
  fit : Fit Float

/-- The groups with a fit and those without, each in the order of the request. -/
structure GroupFits where
  fits : List GroupFit
  skipped : List (Value × FitError Float)

/-- What became of one group that could be selected. -/
inductive GroupOutcome where
  | fitted (fit : GroupFit)
  | skipped (group : Value) (error : FitError Float)

/-- A column and one of its values, as it names a series. -/
def groupLabel (column : String) (group : Value) : String :=
  column ++ "=" ++ group.display

/-- Selects the rows of one group. -/
def selectGroup (d : Dataset) (spec : GroupSpec) (group : Value) :
    Except DataError (Series Float) := do
  let series ←
    d.selectSeries (spec.predicates ++ [.equals spec.column group]) spec.x spec.y
  return series.withLabel (groupLabel spec.column group)

/-- Selects and fits one group. -/
def fitGroup (d : Dataset) (spec : GroupSpec) (group : Value) :
    Except (Stop DataError) GroupOutcome := do
  let series ← (selectGroup d spec group).mapError .refused
  match fitSeries series spec.space spec.degree with
  | .ok fit => return .fitted ⟨group, series, fit⟩
  | .error (.refused e) => return .skipped group e
  | .error .overflow => .error .overflow

/-- Puts fitted and skipped groups apart. -/
def GroupFits.ofOutcomes : List GroupOutcome → GroupFits
  | [] => ⟨[], []⟩
  | .fitted g :: rest => { ofOutcomes rest with fits := g :: (ofOutcomes rest).fits }
  | .skipped group e :: rest =>
    { ofOutcomes rest with skipped := (group, e) :: (ofOutcomes rest).skipped }

/-- Selects and fits the groups. -/
def fitEach (d : Dataset) (spec : GroupSpec) (groups : List Value) :
    Except (Stop DataError) (List GroupOutcome) :=
  if groups.any fun group => Stop.isOverflow (fitGroup d spec group) then .error .overflow
  else groups.mapM (fitGroup d spec)

/-- Fits every group of the request. -/
def fitGroups (d : Dataset) (spec : GroupSpec) : Except (Stop DataError) GroupFits := do
  let _ ← (d.columnIndex spec.column).mapError .refused
  return .ofOutcomes (← fitEach d spec spec.groups)

section

variable {spec : GroupSpec} {needed : Nat}
  (h : Polynomial.coefficientCount? spec.degree = some needed)

include h

theorem fitGroup_ne_overflow (d : Dataset) (group : Value) :
    fitGroup d spec group ≠ .error .overflow := by
  refine Stop.bind_ne (Stop.mapError_refused_ne _) fun series => ?_
  have hfit := fitSeriesWith_ne_overflow h LeastSquares.solve? series spec.space
  split
  · exact nofun
  · exact nofun
  · exact absurd ‹_› hfit

/-- Counting the coefficients is the only step that can overflow. -/
theorem fitGroups_ne_overflow (d : Dataset) : fitGroups d spec ≠ .error .overflow := by
  refine Stop.bind_ne (Stop.mapError_refused_ne _) fun _ => Stop.bind_ne ?_ fun _ => nofun
  rw [fitEach, if_neg]
  · exact Stop.mapM_ne (fitGroup_ne_overflow h d) _
  · rw [List.any_eq_true]
    rintro ⟨group, -, hgroup⟩
    exact fitGroup_ne_overflow h d group (Stop.eq_of_isOverflow hgroup)

end

/-! ## Notes -/

/-- The note about a fit. -/
def fitNote (label : String) (fit : Fit Float) : Note :=
  let space := fit.space.name
  let degree := fit.degree.toNat
  let coefficients := String.intercalate ", " (fit.coefficients.map Decimal.Style.marked.write)
  let rSquared := Decimal.fixed 4 fit.quality.rSquared
  ⟨.debug, "size_curves::fit::fitter",
    s!"fitted '{label}' ({space}, degree {degree}): coefficients=[{coefficients}] r2={rSquared}"⟩

/-- The note about a series that may have a fit. -/
def fitNotes {ε : Type} (label : String) : Except ε (Fit Float) → List Note
  | .ok fit => [fitNote label fit]
  | .error _ => []

/-- The note about a group without a fit. -/
def skipNote (d : Dataset) (spec : GroupSpec) (group : Value) (e : FitError Float) : Note :=
  let label := groupLabel spec.column group
  let source := d.source
  let reason := e.message
  ⟨.warn, "size_curves::fit::groups", s!"skipping {label} in '{source}': {reason}"⟩

/-- The notes about fits; every group is fitted, also beside one that ends the call. -/
def GroupOutcome.fitNotes : Except (Stop DataError) GroupOutcome → List Note
  | .ok (.fitted g) => [fitNote g.series.label g.fit]
  | _ => []

/-- The notes about skipped groups, up to one that ends the call. -/
def skipNotes (d : Dataset) (spec : GroupSpec) :
    List (Except (Stop DataError) GroupOutcome) → List Note
  | .ok (.skipped group e) :: rest => skipNote d spec group e :: skipNotes d spec rest
  | .ok (.fitted _) :: rest => skipNotes d spec rest
  | _ => []

/-- The notes of a grouped fit. -/
def groupNotes (d : Dataset) (spec : GroupSpec) : List Note :=
  match d.columnIndex spec.column with
  | .error _ => []
  | .ok _ =>
    let outcomes := spec.groups.map (fitGroup d spec)
    outcomes.flatMap GroupOutcome.fitNotes ++ skipNotes d spec outcomes

/-- The grouped fit with its notes. -/
def fitGroupsNoted (d : Dataset) (spec : GroupSpec) : Noted (Stop DataError) GroupFits :=
  ⟨groupNotes d spec, fitGroups d spec⟩

end Trendline
