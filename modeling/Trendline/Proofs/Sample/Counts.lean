import Mathlib.Data.List.Range
import Mathlib.Data.Nat.Size
import Mathlib.Data.UInt
import Trendline.Sample.Tables

/-!
# Counts of a sample

The counts of a sample are words, and it adds and doubles them.  They are powers of two, so that
only the largest of all, `2 ^ 63`, has a double that is no word.

A sample sweeps its counts from one on, doubling the last one.  A sweep is over at the first value
above its bound.  A bound in the upper half of the words is never passed: there the sweep is over
because the last value has no double.

* `double?_eq_some_iff`: a double is exact, or there is none.
* `Sweep`: a sweep that is over after finitely many values, and what ended it.
* `exists_sweep_iff`: from every value but zero there is exactly one.
* `Sweep.map_toNat`, `Sweep.stop_eq`: the values and the end of a sweep from a power of two on.
* `powersOfTwo_swept`: the sweep from one on is over for every bound, and its values are the powers
  of two up to there.
* `mem_powersOfTwo_iff`: which counts a sample runs over.
* `forall_mem_powersOfTwo_lt_iff`, `forall_mem_powersOfTwo_add_lt_iff`: when these have doubles and
  sums.
* `sum?_eq_some_iff`, `nodeCount?_eq_some_iff`: sums and numbers of nodes are true, or there are
  none.
-/

namespace Trendline.Sample

variable {max n : UInt64}

/-! ## Doubles -/

section

variable {v w : UInt64}

theorem double?_eq (v : UInt64) : double? v = if v.toNat < 2 ^ 63 then some (2 * v) else none :=
  rfl

/-- A double never wraps around. -/
theorem double?_eq_some_iff : double? v = some w ↔ w.toNat = 2 * v.toNat := by
  have htwice : (2 * v).toNat = 2 * v.toNat % 2 ^ 64 := UInt64.toNat_mul 2 v
  have hword := w.toNat_lt
  rw [double?_eq, Option.ite_none_right_eq_some, Option.some_inj, ← UInt64.toNat_inj]
  omega

theorem double?_eq_none_iff : double? v = none ↔ 2 ^ 63 ≤ v.toNat := by
  rw [double?_eq, ite_eq_right_iff, ← not_lt]
  exact imp_congr_right fun _ => iff_false_intro (Option.some_ne_none _)

theorem eq_zero_iff_of_double? (h : double? v = some w) : w = 0 ↔ v = 0 := by
  have hzero : (0 : UInt64).toNat = 0 := rfl
  rw [← UInt64.toNat_inj, ← UInt64.toNat_inj, double?_eq_some_iff.mp h]
  omega

theorem doublings_of_lt (h : max < v) : doublings max v = [] := by
  unfold doublings
  split
  · rfl
  · rfl

theorem doublings_of_double?_eq_some (hv : v ≠ 0) (hle : v ≤ max) (h : double? v = some w) :
    doublings max v = v :: doublings max w := by
  rw [doublings, dif_neg hv, if_neg (UInt64.not_lt.mpr hle)]
  split
  · rename_i hnext
    rw [Option.some.inj (hnext.symm.trans h)]
  · rename_i hnext
    cases hnext.symm.trans h

theorem doublings_of_double?_eq_none (hv : v ≠ 0) (hle : v ≤ max) (h : double? v = none) :
    doublings max v = [v] := by
  rw [doublings, dif_neg hv, if_neg (UInt64.not_lt.mpr hle)]
  split
  · rename_i hnext
    cases hnext.symm.trans h
  · rfl

end

/-! ## Sweeps -/

/-- What ends a sweep. -/
inductive SweepEnd where
  /-- The next value is above the bound. -/
  | aboveBound
  /-- The last value has no double. -/
  | noDouble

/-- A sweep from a value on, up to a bound, that is over: its values and what ended it. -/
inductive Sweep (max : UInt64) : UInt64 → List UInt64 → SweepEnd → Prop where
  | above {v : UInt64} (h : max < v) : Sweep max v [] .aboveBound
  | last {v : UInt64} (hle : v ≤ max) (h : double? v = none) : Sweep max v [v] .noDouble
  | next {v w : UInt64} {ns : List UInt64} {stop : SweepEnd} (hle : v ≤ max)
      (h : double? v = some w) (hrest : Sweep max w ns stop) : Sweep max v (v :: ns) stop

section

variable {v : UInt64} {ns : List UInt64} {stop : SweepEnd}

/-- A sweep from zero on, which is its own double, is never over. -/
theorem Sweep.ne_zero (h : Sweep max v ns stop) : v ≠ 0 := by
  induction h with
  | above h =>
    rintro rfl
    exact absurd UInt64.zero_le (UInt64.not_le.mpr h)
  | last hle h =>
    rintro rfl
    cases h
  | next hle h hrest ih => exact fun hv => ih ((eq_zero_iff_of_double? h).mpr hv)

theorem Sweep.eq_doublings (h : Sweep max v ns stop) : ns = doublings max v := by
  induction h with
  | above h => exact (doublings_of_lt h).symm
  | last hle h =>
    exact (doublings_of_double?_eq_none (Sweep.last hle h).ne_zero hle h).symm
  | next hle h hrest ih =>
    rw [doublings_of_double?_eq_some (Sweep.next hle h hrest).ne_zero hle h, ih]

theorem exists_sweep_doublings (hv : v ≠ 0) : ∃ stop, Sweep max v (doublings max v) stop := by
  induction v using doublings.induct max with
  | case1 => exact absurd rfl hv
  | case2 v _ h =>
    rw [doublings_of_lt h]
    exact ⟨_, .above h⟩
  | case3 v _ hle w h ih =>
    have hle : v ≤ max := UInt64.not_lt.mp hle
    obtain ⟨stop, hrest⟩ := ih fun hw => hv ((eq_zero_iff_of_double? h).mp hw)
    rw [doublings_of_double?_eq_some hv hle h]
    exact ⟨stop, .next hle h hrest⟩
  | case4 v _ hle h =>
    have hle : v ≤ max := UInt64.not_lt.mp hle
    rw [doublings_of_double?_eq_none hv hle h]
    exact ⟨_, .last hle h⟩

/-- **Doublings** come to an end from every value but zero, and in one way only. -/
theorem exists_sweep_iff : (∃ stop, Sweep max v ns stop) ↔ v ≠ 0 ∧ ns = doublings max v := by
  constructor
  · rintro ⟨stop, h⟩
    exact ⟨h.ne_zero, h.eq_doublings⟩
  · rintro ⟨hv, rfl⟩
    exact exists_sweep_doublings hv

end

/-! ## Powers of two -/

section

variable {k : Nat} (h : n.toNat = 2 ^ k)

include h

theorem exponent_lt : k < 64 :=
  (Nat.pow_lt_pow_iff_right (by decide : 1 < 2)).mp (h ▸ n.toNat_lt)

/-- In the upper half of the words only the least one is a power of two. -/
theorem toNat_le_of_eq_two_pow : n.toNat ≤ 2 ^ 63 :=
  h ▸ Nat.pow_le_pow_right (by decide : 0 < 2) (Nat.le_of_lt_succ (exponent_lt h))

theorem toNat_eq_of_double? {w : UInt64} (hnext : double? n = some w) : w.toNat = 2 ^ (k + 1) := by
  rw [double?_eq_some_iff.mp hnext, h, Nat.pow_succ']

end

section

variable {k : Nat} {v : UInt64} {ns : List UInt64} {stop : SweepEnd}

/-- What ends the sweep of the powers of two up to a bound. -/
def stopAt (max : UInt64) : SweepEnd :=
  if max.toNat < 2 ^ 63 then .aboveBound else .noDouble

/-- No power of two is above a bound in the upper half of the words, and every value up to a bound
in the lower half has a double. -/
theorem Sweep.stop_eq (h : Sweep max v ns stop) (hv : v.toNat = 2 ^ k) : stop = stopAt max := by
  induction h generalizing k with
  | above h =>
    rw [UInt64.lt_iff_toNat_lt] at h
    rw [stopAt, if_pos (h.trans_le (toNat_le_of_eq_two_pow hv))]
  | last hle h =>
    rw [UInt64.le_iff_toNat_le] at hle
    rw [stopAt, if_neg (not_lt.mpr ((double?_eq_none_iff.mp h).trans hle))]
  | next hle h hrest ih => exact ih (toNat_eq_of_double? hv h)

/-- A sweep goes through the exponents up to the number of binary digits of its bound. -/
theorem Sweep.map_toNat (h : Sweep max v ns stop) (hv : v.toNat = 2 ^ k) :
    ns.map UInt64.toNat = (List.range' k (max.toNat.size - k)).map (2 ^ ·) := by
  have hword : max.toNat.size ≤ 64 := Nat.size_le.mpr max.toNat_lt
  induction h generalizing k with
  | above h =>
    have hsize : max.toNat.size ≤ k := Nat.size_le.mpr (hv ▸ UInt64.lt_iff_toNat_lt.mp h)
    rw [Nat.sub_eq_zero_of_le hsize]
    rfl
  | last hle h =>
    have hsize : k < max.toNat.size := Nat.lt_size.mpr (hv ▸ UInt64.le_iff_toNat_le.mp hle)
    have hlast : 63 ≤ k :=
      (Nat.pow_le_pow_iff_right (by decide : 1 < 2)).mp (hv ▸ double?_eq_none_iff.mp h)
    obtain ⟨rfl, hcount⟩ : k = 63 ∧ max.toNat.size - k = 1 := by omega
    rw [hcount, List.map_singleton, hv]
    rfl
  | next hle h hrest ih =>
    have hsize : k < max.toNat.size := Nat.lt_size.mpr (hv ▸ UInt64.le_iff_toNat_le.mp hle)
    have hcount : max.toNat.size - k = max.toNat.size - (k + 1) + 1 := by omega
    rw [hcount, List.range'_succ, List.map_cons, List.map_cons, hv,
      ih (toNat_eq_of_double? hv h)]

end

/-- The sweep that a sample makes is over for every bound. -/
theorem exists_sweep_powersOfTwo (max : UInt64) : ∃ stop, Sweep max 1 (powersOfTwo max) stop :=
  exists_sweep_iff.mpr ⟨by decide, rfl⟩

theorem map_toNat_powersOfTwo (max : UInt64) :
    (powersOfTwo max).map UInt64.toNat = (List.range max.toNat.size).map (2 ^ ·) := by
  obtain ⟨stop, h⟩ := exists_sweep_powersOfTwo max
  have hone : (1 : UInt64).toNat = 2 ^ 0 := rfl
  rw [h.map_toNat hone, List.range_eq_range', Nat.sub_zero]

/-- **The sweep of a sample** is over for every bound.  Its values are the powers of two up to
there, from `2 ^ 0` on, each once and in increasing order, and none if the bound is zero.  None of
them has wrapped around: as a number too, each is twice the one before.  If the bound is below
`2 ^ 63`, the sweep ends because the next value is above it, and otherwise because `2 ^ 63` has no
double. -/
theorem powersOfTwo_swept (max : UInt64) :
    (∀ ns stop, Sweep max 1 ns stop ↔ ns = powersOfTwo max ∧ stop = stopAt max) ∧
    (∃ count ≤ 64, (powersOfTwo max).map UInt64.toNat = (List.range count).map (2 ^ ·) ∧
      ∀ k, k < count ↔ 2 ^ k ≤ max.toNat) ∧
    (powersOfTwo max).Pairwise (· < ·) ∧
    (powersOfTwo max).IsChain (fun v w => w.toNat = 2 * v.toNat) ∧
    (powersOfTwo max = [] ↔ max = 0) := by
  have hone : (1 : UInt64).toNat = 2 ^ 0 := rfl
  have hvalues := map_toNat_powersOfTwo max
  refine ⟨fun ns stop => ⟨fun h => ⟨h.eq_doublings, h.stop_eq hone⟩, ?_⟩,
    ⟨_, Nat.size_le.mpr max.toNat_lt, hvalues, fun k => Nat.lt_size⟩, ?_, ?_, ?_⟩
  · rintro ⟨rfl, rfl⟩
    obtain ⟨stop, h⟩ := exists_sweep_powersOfTwo max
    exact h.stop_eq hone ▸ h
  · have hsorted : ((powersOfTwo max).map UInt64.toNat).Pairwise (· < ·) := by
      rw [hvalues, List.pairwise_map]
      exact List.pairwise_lt_range.imp (Nat.pow_lt_pow_right (by decide))
    exact (List.pairwise_map.mp hsorted).imp UInt64.lt_iff_toNat_lt.mpr
  · rw [← List.isChain_map UInt64.toNat (R := fun m n => n = 2 * m), hvalues, List.isChain_map,
      List.isChain_range]
    exact fun k _ => Nat.pow_succ'
  · rw [← List.map_eq_nil_iff (f := UInt64.toNat), hvalues, List.map_eq_nil_iff, List.range_eq_nil,
      Nat.size_eq_zero, ← UInt64.toNat_inj]
    rfl

example : powersOfTwo 10 = [1, 2, 4, 8] := by cbv

/-- **The counts of a sample** are the powers of two up to their bound. -/
theorem mem_powersOfTwo_iff : n ∈ powersOfTwo max ↔ n ≤ max ∧ ∃ k, n.toNat = 2 ^ k := by
  have hmem : n ∈ powersOfTwo max ↔ n.toNat ∈ (powersOfTwo max).map UInt64.toNat :=
    (List.mem_map_of_injective fun _ _ => UInt64.toNat_inj.mp).symm
  rw [hmem, map_toNat_powersOfTwo, List.mem_map, UInt64.le_iff_toNat_le]
  constructor
  · rintro ⟨k, hk, hn⟩
    exact ⟨hn ▸ Nat.lt_size.mp (List.mem_range.mp hk), k, hn.symm⟩
  · rintro ⟨hle, k, hn⟩
    exact ⟨k, List.mem_range.mpr (Nat.lt_size.mpr (hn ▸ hle)), hn.symm⟩

theorem ne_zero_of_mem_powersOfTwo (h : n ∈ powersOfTwo max) : n ≠ 0 := by
  obtain ⟨-, k, hk⟩ := mem_powersOfTwo_iff.mp h
  rintro rfl
  exact (Nat.two_pow_pos k).ne hk

theorem one_mem_powersOfTwo (h : max ≠ 0) : 1 ∈ powersOfTwo max := by
  have hone : (1 : UInt64).toNat = 1 := rfl
  have hpositive : max.toNat ≠ 0 := fun h0 => h (UInt64.toNat_inj.mp h0)
  exact mem_powersOfTwo_iff.mpr ⟨UInt64.le_iff_toNat_le.mpr (by omega), 0, rfl⟩

/-- The largest power of two that is a word. -/
def greatestPower : UInt64 :=
  9223372036854775808

theorem greatestPower_mem (h : 2 ^ 63 ≤ max.toNat) : greatestPower ∈ powersOfTwo max :=
  mem_powersOfTwo_iff.mpr ⟨UInt64.le_iff_toNat_le.mpr h, 63, rfl⟩

/-- The counts of a sample have doubles if their bound has one. -/
theorem forall_mem_powersOfTwo_lt_iff :
    (∀ n ∈ powersOfTwo max, n.toNat < 2 ^ 63) ↔ max.toNat < 2 ^ 63 := by
  constructor
  · intro h
    by_contra hmax
    exact absurd (h _ (greatestPower_mem (Nat.not_lt.mp hmax))) (by decide)
  · intro h n hn
    exact (UInt64.le_iff_toNat_le.mp (mem_powersOfTwo_iff.mp hn).1).trans_lt h

/-- The counts of a sample can be added to each other if their bound has a double. -/
theorem forall_mem_powersOfTwo_add_lt_iff :
    (∀ m ∈ powersOfTwo max, ∀ n ∈ powersOfTwo max, m.toNat + n.toNat < 2 ^ 64) ↔
      max.toNat < 2 ^ 63 := by
  constructor
  · intro h
    by_contra hmax
    have hmem := greatestPower_mem (Nat.not_lt.mp hmax)
    exact absurd (h _ hmem _ hmem) (by decide)
  · intro h m hm n hn
    have hm := forall_mem_powersOfTwo_lt_iff.mpr h m hm
    have hn := forall_mem_powersOfTwo_lt_iff.mpr h n hn
    omega

/-! ## Sums and numbers of nodes -/

/-- A sum never wraps around. -/
theorem sum?_eq_some_iff {m w : UInt64} : sum? m n = some w ↔ w.toNat = m.toNat + n.toNat := by
  have hsum : (m + n).toNat = (m.toNat + n.toNat) % 2 ^ 64 := UInt64.toNat_add m n
  have hword := w.toNat_lt
  have hsize : UInt64.size = 2 ^ 64 := rfl
  rw [sum?, Option.ite_none_right_eq_some, Option.some_inj, ← UInt64.toNat_inj, hsize]
  omega

/-- **The number of nodes** of a full tree is true, and there is one if the records have a
double. -/
theorem nodeCount?_eq_some_iff {w : UInt64} :
    nodeCount? n = some w ↔ n.toNat < 2 ^ 63 ∧ w.toNat = 2 * n.toNat - 1 := by
  rw [nodeCount?]
  cases h : double? n with
  | none =>
    have hlarge : ¬n.toNat < 2 ^ 63 := Nat.not_lt.mpr (double?_eq_none_iff.mp h)
    exact iff_of_false nofun fun hn => hlarge hn.1
  | some twice =>
    have htwice := double?_eq_some_iff.mp h
    have hword := twice.toNat_lt
    have hnodes : (if twice = 0 then 0 else twice - 1).toNat = 2 * n.toNat - 1 := by
      rw [← htwice]
      split
      · rename_i hzero
        rw [hzero]
        rfl
      · rename_i hnonzero
        have hle : 1 ≤ twice := by
          rw [UInt64.le_iff_toNat_le]
          exact Nat.one_le_iff_ne_zero.mpr fun h => hnonzero (UInt64.toNat_inj.mp h)
        exact UInt64.toNat_sub_of_le _ _ hle
    show some (if twice = 0 then 0 else twice - 1) = some w ↔ _
    rw [Option.some_inj, ← UInt64.toNat_inj, hnodes]
    omega

theorem exists_nodeCount? (h : n.toNat < 2 ^ 63) : ∃ nodes, nodeCount? n = some nodes := by
  rw [nodeCount?, double?_eq, if_pos h]
  exact ⟨_, rfl⟩

end Trendline.Sample
