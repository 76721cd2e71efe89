import Mathlib.Algebra.Group.Nat.Defs
import Trendline.Fit
import Trendline.Proofs.Errors

/-!
# Series in their fit space

A series has a place in a fit space when every value that is to be logged is a
positive number.  Otherwise the fit ends with the first value that is none, and a
value of `x` comes before any of `y`.

* `FirstUnsuited`: the first value that is no positive number.
* `axisInSpace_eq_ok_iff`, `axisInSpace_eq_error_iff`: one coordinate in its space.
* `Admitted`: a series that has enough points, all with a place in the space.
* `fitSeriesWith_of_admitted`: its fit is that of the points in the space.
* `fitSeriesWith_eq_overflow_iff`: of the largest degree alone, no series has a fit or an error.
-/

namespace Trendline

variable {α : Type} [Scalar α]

/-- A coordinate where the fit takes place. -/
def inSpace (logs : Bool) (a : α) : α :=
  if logs then Scalar.ln a else a

/-- The coordinates of a series in a space that logs them or not. -/
def axisInSpace (logs : Bool) (axis : Axis) (values : List α) : Except (FitError α) (List α) :=
  if logs then lnAll axis values else .ok values

theorem toSpace_eq_bind (space : Space) (s : Series α) :
    s.toSpace space = (axisInSpace space.logsX .x s.xs).bind fun u =>
      (axisInSpace space.logsY .y s.ys).bind fun v => .ok (u, v) := by
  cases space <;> rfl

/-- Whether all values have a place in a space that logs them or not. -/
def Suited (logs : Bool) (values : List α) : Prop :=
  logs = true → ∀ v ∈ values, Scalar.isPositive v = true

instance (logs : Bool) (values : List α) : Decidable (Suited logs values) :=
  inferInstanceAs (Decidable (logs = true → ∀ v ∈ values, Scalar.isPositive v = true))

/-- A value is no positive number, and all values before it are. -/
structure FirstUnsuited (values : List α) (index : Nat) (value : α) : Prop where
  place : values[index]? = some value
  unsuited : Scalar.isPositive value = false
  before : ∀ j < index, ∀ w, values[j]? = some w → Scalar.isPositive w = true

/-! ## One coordinate -/

theorem lnFrom_eq_ok_iff {axis : Axis} : ∀ {values w : List α} {start : Nat},
    lnFrom axis start values = .ok w ↔
      (∀ v ∈ values, Scalar.isPositive v = true) ∧ w = values.map Scalar.ln := by
  intro values
  induction values with
  | nil =>
    intro w start
    exact ⟨fun h => ⟨nofun, (Except.ok.inj h).symm⟩, fun h => congrArg Except.ok h.2.symm⟩
  | cons v rest ih =>
    intro w start
    rw [lnFrom, List.forall_mem_cons]
    cases Scalar.isPositive v with
    | true =>
      rw [if_pos rfl, bind_eq_ok_iff]
      constructor
      · rintro ⟨logs, hlogs, h⟩
        obtain ⟨hrest, rfl⟩ := ih.mp hlogs
        exact ⟨⟨rfl, hrest⟩, (Except.ok.inj h).symm⟩
      · rintro ⟨⟨-, hrest⟩, rfl⟩
        exact ⟨_, ih.mpr ⟨hrest, rfl⟩, rfl⟩
    | false => simp

theorem firstUnsuited_cons_zero {v w : α} {rest : List α} :
    FirstUnsuited (v :: rest) 0 w ↔ v = w ∧ Scalar.isPositive v = false := by
  constructor
  · rintro ⟨hplace, hunsuited, -⟩
    obtain rfl := Option.some.inj hplace
    exact ⟨rfl, hunsuited⟩
  · rintro ⟨rfl, h⟩
    exact ⟨rfl, h, fun j hj => absurd hj (Nat.not_lt_zero j)⟩

theorem firstUnsuited_cons_succ {v w : α} {rest : List α} {i : Nat} :
    FirstUnsuited (v :: rest) (i + 1) w ↔
      Scalar.isPositive v = true ∧ FirstUnsuited rest i w := by
  constructor
  · rintro ⟨hplace, hunsuited, hbefore⟩
    exact ⟨hbefore 0 (Nat.succ_pos i) v rfl, hplace, hunsuited, fun j hj w' hw' =>
      hbefore (j + 1) (Nat.succ_lt_succ hj) w' hw'⟩
  · rintro ⟨hv, hplace, hunsuited, hbefore⟩
    refine ⟨hplace, hunsuited, fun j hj w' hw' => ?_⟩
    cases j with
    | zero => rwa [← Option.some.inj hw']
    | succ j => exact hbefore j (Nat.lt_of_succ_lt_succ hj) w' hw'

theorem lnFrom_eq_error_iff {axis : Axis} {e : FitError α} : ∀ {values : List α} {start : Nat},
    lnFrom axis start values = .error e ↔
      ∃ i v, FirstUnsuited values i v ∧ e = .nonPositive axis (start + i) v := by
  intro values
  induction values with
  | nil =>
    intro start
    exact ⟨nofun, fun ⟨i, v, h, _⟩ => nomatch h.place⟩
  | cons v rest ih =>
    intro start
    rw [lnFrom]
    cases hv : Scalar.isPositive v with
    | true =>
      rw [if_pos rfl, bind_eq_error_iff]
      constructor
      · rintro (h | ⟨_, _, h⟩)
        · obtain ⟨i, w, hfirst, rfl⟩ := ih.mp h
          exact ⟨i + 1, w, firstUnsuited_cons_succ.mpr ⟨hv, hfirst⟩, by
            rw [Nat.add_assoc, Nat.add_comm 1]⟩
        · cases h
      · rintro ⟨i, w, hfirst, rfl⟩
        cases i with
        | zero => exact absurd hv (by simp [(firstUnsuited_cons_zero.mp hfirst).2])
        | succ i =>
          exact .inl (ih.mpr ⟨i, w, (firstUnsuited_cons_succ.mp hfirst).2, by
            rw [Nat.add_assoc, Nat.add_comm 1]⟩)
    | false =>
      rw [if_neg Bool.false_ne_true]
      constructor
      · intro h
        exact ⟨0, v, firstUnsuited_cons_zero.mpr ⟨rfl, hv⟩, (Except.error.inj h).symm⟩
      · rintro ⟨i, w, hfirst, rfl⟩
        cases i with
        | zero =>
          obtain ⟨rfl, -⟩ := firstUnsuited_cons_zero.mp hfirst
          rfl
        | succ i => exact absurd (firstUnsuited_cons_succ.mp hfirst).1 (by simp [hv])

theorem axisInSpace_eq_ok_iff {logs : Bool} {axis : Axis} {values w : List α} :
    axisInSpace logs axis values = .ok w ↔
      Suited logs values ∧ w = values.map (inSpace logs) := by
  cases logs with
  | false =>
    have hmap : values.map (inSpace false) = values := List.map_id values
    rw [hmap]
    exact ⟨fun h => ⟨nofun, (Except.ok.inj h).symm⟩, fun h => congrArg Except.ok h.2.symm⟩
  | true =>
    show lnFrom axis 0 values = .ok w ↔ _
    rw [lnFrom_eq_ok_iff]
    exact and_congr_left fun _ => ⟨fun h _ => h, fun h => h rfl⟩

theorem axisInSpace_eq_error_iff {logs : Bool} {axis : Axis} {values : List α} {e : FitError α} :
    axisInSpace logs axis values = .error e ↔
      logs = true ∧ ∃ i v, FirstUnsuited values i v ∧ e = .nonPositive axis i v := by
  cases logs with
  | false => exact ⟨nofun, fun h => nomatch h.1⟩
  | true =>
    show lnFrom axis 0 values = .error e ↔ _
    rw [lnFrom_eq_error_iff]
    simp

/-! ## A series -/

/-- The coefficients are counted, one more than the degree, if that is a word. -/
theorem checked_coefficientCount? {ε : Type} {degree : UInt64} (h : degree.toNat + 1 < 2 ^ 64) :
    (Stop.checked (Polynomial.coefficientCount? degree) : Except (Stop ε) Nat) =
      .ok (degree.toNat + 1) := by
  rw [Polynomial.coefficientCount?]
  exact congrArg Stop.checked (if_pos h)

theorem checked_coefficientCount?_greatest {ε : Type} {degree : UInt64}
    (h : ¬ degree.toNat + 1 < 2 ^ 64) :
    (Stop.checked (Polynomial.coefficientCount? degree) : Except (Stop ε) Nat) =
      .error .overflow := by
  rw [Polynomial.coefficientCount?]
  exact congrArg Stop.checked (if_neg h)

/-- A degree that is not zero, enough points for it, and all of them in the space. -/
structure Admitted (s : Series α) (space : Space) (degree : UInt64) : Prop where
  ne_zero : degree ≠ 0
  size : degree.toNat < s.size
  suitedX : Suited space.logsX s.xs
  suitedY : Suited space.logsY s.ys

namespace Series

/-- The abscissae in the fit space. -/
def us (space : Space) (s : Series α) : List α :=
  s.xs.map (inSpace space.logsX)

/-- The ordinates in the fit space. -/
def vs (space : Space) (s : Series α) : List α :=
  s.ys.map (inSpace space.logsY)

variable (space : Space) (s : Series α)

theorem length_us : (s.us space).length = s.size := by
  rw [us, xs, List.length_map, List.length_map, size]

theorem length_vs : (s.vs space).length = s.size := by
  rw [vs, ys, List.length_map, List.length_map, size]

end Series

variable {s : Series α} {space : Space} {degree : UInt64} {solve : LeastSquares.Solver α}

theorem toSpace_of_suited (hx : Suited space.logsX s.xs) (hy : Suited space.logsY s.ys) :
    s.toSpace space = .ok (s.us space, s.vs space) := by
  rw [toSpace_eq_bind, axisInSpace_eq_ok_iff.mpr ⟨hx, rfl⟩, axisInSpace_eq_ok_iff.mpr ⟨hy, rfl⟩]
  rfl

/-- What a fit does once its points are in the space. -/
def fitInSpace (solve : LeastSquares.Solver α) (s : Series α) (space : Space) (degree : UInt64) :
    Except (Stop (FitError α)) (Fit α) :=
  ((LeastSquares.fitPolynomial solve (s.us space) (s.vs space) degree).mapError
    (Stop.map (FitError.inUnitsOf s))).map fun coefficients =>
      ⟨space, degree, coefficients, Quality.of (s.us space) (s.vs space) coefficients⟩

theorem fitSeriesWith_of_few (hdegree : degree.toNat + 1 < 2 ^ 64) (h0 : degree ≠ 0)
    (hsize : s.size ≤ degree.toNat) : fitSeriesWith solve s space degree =
      .error (.refused (.insufficientData (degree.toNat + 1) s.size)) := by
  rw [fitSeriesWith, if_neg h0, checked_coefficientCount? hdegree, ok_bind, if_pos (by omega)]

/-- From enough points on a fit depends on whether they have a place in the space. -/
theorem fitSeriesWith_of_size (hdegree : degree.toNat + 1 < 2 ^ 64) (h0 : degree ≠ 0)
    (hsize : degree.toNat < s.size) :
    fitSeriesWith solve s space degree = (s.toSpace space).mapError .refused >>= fun p =>
      (LeastSquares.fitPolynomial solve p.1 p.2 degree).mapError
        (Stop.map (FitError.inUnitsOf s)) >>=
          fun coefficients =>
            pure ⟨space, degree, coefficients, Quality.of p.1 p.2 coefficients⟩ := by
  rw [fitSeriesWith, if_neg h0, checked_coefficientCount? hdegree, ok_bind, if_neg (by omega)]

theorem fitSeriesWith_of_toSpace_eq_error {e : FitError α} (hdegree : degree.toNat + 1 < 2 ^ 64)
    (h0 : degree ≠ 0) (hsize : degree.toNat < s.size) (h : s.toSpace space = .error e) :
    fitSeriesWith solve s space degree = .error (.refused e) := by
  rw [fitSeriesWith_of_size hdegree h0 hsize, h]
  rfl

/-- **The fit of an admitted series** is that of its points in the space. -/
theorem fitSeriesWith_of_admitted (hdegree : degree.toNat + 1 < 2 ^ 64)
    (h : Admitted s space degree) :
    fitSeriesWith solve s space degree = fitInSpace solve s space degree := by
  rw [fitSeriesWith_of_size hdegree h.ne_zero h.size, toSpace_of_suited h.suitedX h.suitedY,
    fitInSpace]
  show (LeastSquares.fitPolynomial solve (s.us space) (s.vs space) degree).mapError
    (Stop.map (FitError.inUnitsOf s)) >>= _ = _
  cases (LeastSquares.fitPolynomial solve (s.us space) (s.vs space) degree).mapError
    (Stop.map (FitError.inUnitsOf s)) <;> rfl

theorem ne_of_greatest (h : ¬ degree.toNat + 1 < 2 ^ 64) : degree ≠ 0 ∧ degree ≠ 1 := by
  constructor
  · rintro rfl
    exact h (by decide)
  · rintro rfl
    exact h (by decide)

/-- **Only the largest degree overflows**, and it does so for every series. -/
theorem fitSeriesWith_eq_overflow_iff :
    fitSeriesWith solve s space degree = .error .overflow ↔ ¬ degree.toNat + 1 < 2 ^ 64 := by
  constructor
  · intro h hdegree
    exact fitSeriesWith_ne_overflow (if_pos hdegree) solve s space h
  · intro hgreatest
    rw [fitSeriesWith, if_neg (ne_of_greatest hgreatest).1,
      checked_coefficientCount?_greatest hgreatest]
    rfl

omit [Scalar α] in
theorem head?_xs (h : degree.toNat < s.size) : ∃ x, s.xs.head? = some x := by
  rcases s with ⟨label, _ | ⟨p, rest⟩⟩
  · exact absurd h (Nat.not_lt_zero _)
  · exact ⟨p.1, rfl⟩

omit [Scalar α] in
theorem inUnitsOf_degenerate {a x : α} (hx : s.xs.head? = some x) :
    (FitError.degenerate a).inUnitsOf s = .degenerate x := by
  rw [FitError.inUnitsOf, List.headD_eq_head?_getD, hx]
  rfl

theorem fitInSpace_of_error {e : FitError α}
    (h : LeastSquares.fitPolynomial solve (s.us space) (s.vs space) degree =
      .error (.refused e)) :
    fitInSpace solve s space degree = .error (.refused (e.inUnitsOf s)) := by
  rw [fitInSpace, h]
  rfl

theorem fitInSpace_of_ok {coefficients : List α}
    (h : LeastSquares.fitPolynomial solve (s.us space) (s.vs space) degree = .ok coefficients) :
    fitInSpace solve s space degree =
      .ok ⟨space, degree, coefficients, .of (s.us space) (s.vs space) coefficients⟩ := by
  rw [fitInSpace, h]
  rfl

theorem of_toSpace_eq_ok {u v : List α} (h : s.toSpace space = .ok (u, v)) :
    Suited space.logsX s.xs ∧ Suited space.logsY s.ys ∧ u = s.us space ∧ v = s.vs space := by
  rw [toSpace_eq_bind] at h
  obtain ⟨u', hu, h⟩ := bind_eq_ok_iff.mp h
  obtain ⟨v', hv, h⟩ := bind_eq_ok_iff.mp h
  obtain ⟨rfl, rfl⟩ := Prod.mk.inj (Except.ok.inj h)
  obtain ⟨hx, rfl⟩ := axisInSpace_eq_ok_iff.mp hu
  obtain ⟨hy, rfl⟩ := axisInSpace_eq_ok_iff.mp hv
  exact ⟨hx, hy, rfl, rfl⟩

/-- A fit has the coefficients of the points in the space. -/
theorem of_fitSeriesWith_eq_ok {fit : Fit α}
    (h : fitSeriesWith solve s space degree = .ok fit) :
    degree ≠ 0 ∧ degree.toNat < s.size ∧ degree.toNat + 1 < 2 ^ 64 ∧ fit.space = space ∧
      LeastSquares.fitPolynomial solve (s.us space) (s.vs space) degree = .ok fit.coefficients := by
  by_cases hdegree : degree.toNat + 1 < 2 ^ 64
  case neg =>
    rw [fitSeriesWith_eq_overflow_iff.mpr hdegree] at h
    cases h
  by_cases h0 : degree = 0
  · rw [fitSeriesWith, if_pos h0] at h
    cases h
  rcases Nat.lt_or_ge degree.toNat s.size with hsize | hsize
  case inr =>
    rw [fitSeriesWith_of_few hdegree h0 hsize] at h
    cases h
  rw [fitSeriesWith_of_size hdegree h0 hsize] at h
  obtain ⟨⟨u, v⟩, hspace, h⟩ := bind_eq_ok_iff.mp h
  obtain ⟨coefficients, hfit, h⟩ := bind_eq_ok_iff.mp h
  obtain ⟨-, -, rfl, rfl⟩ := of_toSpace_eq_ok (mapError_eq_ok_iff.mp hspace)
  obtain rfl := Except.ok.inj h
  exact ⟨h0, hsize, hdegree, rfl, mapError_eq_ok_iff.mp hfit⟩

end Trendline
