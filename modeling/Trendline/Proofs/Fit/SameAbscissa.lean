import Trendline.Proofs.LeastSquares.Distinct
import Trendline.Proofs.LeastSquares.OneAbscissa

/-!
# Points above one abscissa

No curve is determined by points above one abscissa.  A polynomial of degree two
or higher is refused, since the distinct abscissae are counted exactly.  A line is
refused because its abscissae have no spread, and that is measured against their
mean: it is refused as long as the mean is near to the abscissa, which it is not
in every long series.

* `fitSeriesWith_above`: points above one abscissa have no curve, if a line is not
  asked for through more than `10000` of them.
* `exists_fitSeriesWith_above`, `not_fitSeries_above`: of some abscissae longer
  series have a line.
-/

namespace Trendline

open Double LeastSquares

theorem countDistinct_replicate {x : Float} (hx : x.isNaN = false) {n : Nat} (hpos : 0 < n) :
    countDistinct (List.replicate n x) = 1 := by
  have hplaces := @Places.double (List.replicate n x) fun a ha => by
    rwa [List.eq_of_mem_replicate ha]
  rw [countDistinct_eq hplaces, List.map_replicate, List.toFinset_replicate_of_ne_zero hpos.ne',
    Finset.card_singleton]

/-- The points with one abscissa and some ordinates. -/
def Series.above (label : String) (c : Float) (ys : List Float) : Series Float :=
  ⟨label, ys.map fun y => (c, y)⟩

section

variable (label : String) (c : Float) (ys : List Float)

theorem Series.xs_above : (Series.above label c ys).xs = List.replicate ys.length c := by
  rw [xs, above, List.map_map]
  exact List.map_const

theorem Series.ys_above : (Series.above label c ys).ys = ys := by
  rw [Series.ys, above, List.map_map]
  exact List.map_id ys

theorem Series.size_above : (Series.above label c ys).size = ys.length :=
  List.length_map _

theorem Series.us_above (space : Space) : (Series.above label c ys).us space =
    List.replicate ys.length (inSpace space.logsX c) := by
  rw [us, xs_above, List.map_replicate]

theorem Series.length_vs_above (space : Space) :
    ((Series.above label c ys).vs space).length = ys.length :=
  (Series.length_vs space _).trans (size_above label c ys)

end

variable {solve : Solver Float} {label : String} {c : Float} {ys : List Float} {space : Space}
  {degree : UInt64}

/-- **Points above one abscissa have no curve** of a higher degree, and no line if they are not too
many. -/
theorem fitSeriesWith_above (hlen : ys.length < 2 ^ 64) (hdegree : 1 ≤ degree.toNat)
    (hlt : degree.toNat < ys.length) (hline : degree = 1 → ys.length ≤ 10000)
    (hc : c.isFinite = true) (hx : space.logsX = true → Scalar.isPositive c = true)
    (hln : space.logsX = true → (Scalar.ln c).isFinite = true)
    (hy : space.logsY = true → ∀ y ∈ ys, Scalar.isPositive y = true) :
    fitSeriesWith solve (.above label c ys) space degree = .error (.refused (.degenerate c)) := by
  have hxs := Series.xs_above label c ys
  have hpos : 0 < ys.length := by omega
  have hadmitted : Admitted (Series.above label c ys) space degree := by
    refine ⟨?_, ?_, fun h x hmem => ?_, ?_⟩
    · rintro rfl
      exact absurd hdegree (by decide)
    · rwa [Series.size_above]
    · rw [hxs] at hmem
      rw [List.eq_of_mem_replicate hmem]
      exact hx h
    · rwa [Suited, Series.ys_above]
  have hfinite : (inSpace space.logsX c).isFinite = true := by
    rw [inSpace]
    split
    · exact hln ‹_›
    · exact hc
  have hvs := Series.length_vs_above label c ys space
  have hfit : fitPolynomial solve ((Series.above label c ys).us space)
      ((Series.above label c ys).vs space) degree =
      .error (.refused (.degenerate (((Series.above label c ys).us space).headD 0))) := by
    rw [Series.us_above]
    by_cases h1 : degree = 1
    · subst h1
      have hn2 : 2 ≤ ys.length := hlt
      rw [fitPolynomial_one _ (by simpa using hn2),
        if_neg (not_hasSpread_replicate hfinite hn2 (hline rfl) hvs)]
    · rw [fitPolynomial_of_two_le _ (by omega) (two_le_toNat hadmitted.ne_zero h1) (by simpa using hlt),
        countDistinct_replicate (isNaN_of_isFinite hfinite) hpos, if_pos le_rfl]
  have hhead : (Series.above label c ys).xs.head? = some c := by
    rw [hxs, List.head?_replicate, if_neg hpos.ne']
  rw [fitSeriesWith_of_admitted (by omega) hadmitted, fitInSpace_of_error hfit,
    inUnitsOf_degenerate hhead]

/-- Three points above `2`, and none of them is on a line. -/
theorem fitSeriesWith_above_two :
    (2 : Float).isFinite = true ∧
    fitSeriesWith (fun _ _ _ => none) (.above "column" 2 [1, 5, 3]) .linear 1 =
      .error (.refused (.degenerate 2)) := by
  have hfinite : (2 : Float).isFinite = true := by decide +kernel
  exact ⟨hfinite, fitSeriesWith_above (by decide) (by decide) (by decide) (fun _ => by decide)
    hfinite nofun nofun nofun⟩

/-- **A line through many points above one abscissa**: their mean has drifted away from it. -/
theorem exists_fitSeriesWith_above (hlow : 39000 ≤ ys.length) (hhigh : ys.length ≤ 39352) :
    ∃ fit, fitSeriesWith solve (.above label drifting ys) .linear 1 = .ok fit := by
  have hadmitted : Admitted (Series.above label drifting ys) .linear 1 :=
    ⟨by decide, by rw [Series.size_above]; exact (by decide : 1 < 39000).trans_le hlow, nofun, nofun⟩
  have hspread : HasSpread ((Series.above label drifting ys).us .linear)
      ((Series.above label drifting ys).vs .linear) := by
    rw [Series.us_above]
    exact hasSpread_drifting hlow hhigh (Series.length_vs_above label drifting ys .linear)
  obtain ⟨fit, hfit, -⟩ := @exists_fitSeriesWith_one _ _ solve _ _ hadmitted hspread
  exact ⟨fit, hfit⟩

theorem not_fitSeries_above :
    ¬ ∀ (label : String) (c : Float) (ys : List Float) (degree : UInt64), c.isFinite = true →
      (∀ y ∈ ys, y.isFinite = true) → 1 ≤ degree.toNat → degree.toNat < ys.length →
      fitSeries (.above label c ys) .linear degree = .error (.refused (.degenerate c)) := by
  intro h
  have herror := h "column" drifting (List.replicate 39000 0) 1 value_drifting.1
    (fun y hy => by
      rw [List.eq_of_mem_replicate hy]
      decide +kernel)
    (by decide) (by rw [List.length_replicate]; decide)
  obtain ⟨fit, hok⟩ := @exists_fitSeriesWith_above solve? "column" (List.replicate 39000 0)
    (by rw [List.length_replicate]) (by rw [List.length_replicate]; decide)
  rw [fitSeries, hok] at herror
  cases herror

end Trendline
