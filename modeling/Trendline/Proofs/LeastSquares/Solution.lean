import Mathlib.Data.List.Basic
import Trendline.LeastSquares.Decomposition

/-!
# What the solver gives

Whatever the decomposition is, a solution that is not finite is no solution.  By the
decomposition of this library a solution has one number for each unknown: the
directions keep their length under every rotation, and the elimination gives as many
numbers as it has rows.

* `of_solveBy_eq_some`: where a solution comes from, and that it is of numbers only.
* `length_of_solve?`: a solution has one coefficient for each unknown.
-/

namespace Trendline.LeastSquares

/-! ## Lengths -/

variable {n : Nat}

theorem length_combine {c s : Float} {a b : List Float} (ha : a.length = n) (hb : b.length = n) :
    (combine c s a b).length = n := by
  rw [combine, List.length_zipWith, ha, hb, Nat.min_self]

/-- Directions in a space of so many dimensions. -/
def AllOfLength (n : Nat) (ds : List Direction) : Prop :=
  ∀ d ∈ ds, d.source.length = n

theorem Direction.length_orthogonalize {d e : Direction} (hd : d.source.length = n)
    (he : e.source.length = n) :
    (d.orthogonalize e).1.source.length = n ∧ (d.orthogonalize e).2.source.length = n := by
  rw [Direction.orthogonalize]
  dsimp only
  split
  · exact ⟨hd, he⟩
  · exact ⟨length_combine hd he, length_combine hd he⟩

theorem Direction.allOfLength_orthogonalizeAll : ∀ {ds : List Direction} {d : Direction},
    d.source.length = n → AllOfLength n ds →
    (d.orthogonalizeAll ds).1.source.length = n ∧ AllOfLength n (d.orthogonalizeAll ds).2 := by
  intro ds
  induction ds with
  | nil =>
    intro d hd hds
    exact ⟨hd, hds⟩
  | cons e rest ih =>
    intro d hd hds
    obtain ⟨he, hrest⟩ := List.forall_mem_cons.mp hds
    obtain ⟨hd', he'⟩ := Direction.length_orthogonalize hd he
    obtain ⟨hlast, hall⟩ := ih hd' hrest
    exact ⟨hlast, List.forall_mem_cons.mpr ⟨he', hall⟩⟩

theorem allOfLength_sweep (ds : List Direction) (h : AllOfLength n ds) :
    AllOfLength n (sweep ds) := by
  induction ds using sweep.induct with
  | case1 =>
    rw [sweep]
    exact h
  | case2 d rest ih =>
    obtain ⟨hd, hrest⟩ := List.forall_mem_cons.mp h
    obtain ⟨hd', hrest'⟩ := Direction.allOfLength_orthogonalizeAll hd hrest
    rw [sweep]
    exact List.forall_mem_cons.mpr ⟨hd', ih hrest'⟩

theorem allOfLength_initialDirections (cols : List (List Float)) :
    AllOfLength cols.length (initialDirections cols) := by
  intro d hd
  obtain ⟨i, hi, rfl⟩ := List.mem_mapIdx.mp hd
  rw [List.length_map, List.length_range]

theorem allOfLength_singularDirections (cols : List (List Float)) :
    AllOfLength cols.length (singularDirections cols) := by
  rw [singularDirections]
  induction sweepCount with
  | zero => exact allOfLength_initialDirections cols
  | succ k ih => exact allOfLength_sweep _ ih

theorem length_share {tolerance scale : Float} {b : List Float} {d : Direction} :
    (d.share tolerance scale b).length = d.source.length := by
  rw [Direction.share]
  dsimp only
  split <;> rw [List.length_map]

theorem length_foldl_combine {c s : Float} : ∀ {shares : List (List Float)} {a : List Float},
    a.length = n → (∀ share ∈ shares, share.length = n) →
    (shares.foldl (combine c s) a).length = n := by
  intro shares
  induction shares with
  | nil =>
    intro a ha _
    exact ha
  | cons share rest ih =>
    intro a ha h
    obtain ⟨hshare, hrest⟩ := List.forall_mem_cons.mp h
    exact ih (length_combine ha hshare) hrest

/-- The elimination gives as many numbers as it has rows. -/
theorem length_of_eliminate? : ∀ (k : Nat) {rows : List (List Rat)} {xs : List Rat},
    rows.length = k → eliminate? rows = some xs → xs.length = k := by
  intro k
  induction k with
  | zero =>
    intro rows xs hk h
    obtain rfl := List.eq_nil_of_length_eq_zero hk
    rw [eliminate?] at h
    cases h
    rfl
  | succ k ih =>
    intro rows xs hk h
    cases rows with
    | nil => cases hk
    | cons first rest =>
      cases first with
      | nil =>
        rw [eliminate?] at h
        cases h
      | cons pivot row =>
        rw [eliminate?] at h
        split at h
        · cases h
        split at h
        · cases h
        · rename_i solution hsolution
          cases h
          rw [List.length_cons, ih ((List.length_map _).trans (Nat.succ.inj hk)) hsolution]

theorem length_of_solveNormal? {cols : List (List Float)} {b xs : List Float}
    (h : solveNormal? cols b = some xs) : xs.length = cols.length := by
  obtain ⟨solution, hsolution, rfl⟩ := Option.map_eq_some_iff.mp h
  rw [List.length_map]
  exact length_of_eliminate? _ (by rw [List.length_map, List.length_map]) hsolution

theorem length_addShares {cols : List (List Float)} {directions : List Direction}
    (h : AllOfLength cols.length directions) (b : List Float) (tolerance : Float) :
    (addShares cols directions b tolerance).length = cols.length := by
  refine length_foldl_combine (List.length_map _) fun share hshare => ?_
  obtain ⟨d, hd, rfl⟩ := List.mem_map.mp hshare
  exact length_share.trans (h d hd)

theorem length_leastNorm (cols : List (List Float)) (b : List Float) (tolerance : Float) :
    (leastNorm cols b tolerance).length = cols.length := by
  have hdirections := allOfLength_singularDirections (cols.map (·.map (· / scaleOf cols)))
  rw [List.length_map] at hdirections
  have hshares := length_addShares hdirections b tolerance
  rw [leastNorm]
  split
  · cases hnormal : (solveNormal? cols b).filter (·.all Float.isFinite) with
    | none => exact hshares
    | some solution => exact length_of_solveNormal? (Option.filter_eq_some_iff.mp hnormal).1
  · exact hshares

/-! ## A solution -/

/-- A solution is one that the decomposition gives at some tolerance, if it is finite. -/
theorem of_solveBy_eq_some {α : Type} [Scalar α] {svd : Decomposition α} {width : Nat}
    {rows : List (List α)} {b xs : List α} (h : solveBy svd width rows b = some xs) :
    (∃ tolerance, svd width rows b tolerance = some xs) ∧ ∀ x ∈ xs, Scalar.isFinite x = true := by
  obtain ⟨tolerance, -, hat⟩ := List.exists_of_findSome?_eq_some h
  obtain ⟨hsolution, hfinite⟩ := Option.filter_eq_some_iff.mp hat
  exact ⟨⟨tolerance, hsolution⟩, List.all_eq_true.mp hfinite⟩

/-- A solution has one coefficient for each unknown. -/
theorem length_of_solve? {width : Nat} {rows : List (List Float)} {b xs : List Float}
    (h : solve? width rows b = some xs) : xs.length = width := by
  obtain ⟨⟨tolerance, hsolution⟩, -⟩ := of_solveBy_eq_some h
  rw [decompose] at hsolution
  split at hsolution
  · rw [← Option.some.inj hsolution, length_leastNorm, columns, List.length_map, List.length_range]
  · cases hsolution

end Trendline.LeastSquares
