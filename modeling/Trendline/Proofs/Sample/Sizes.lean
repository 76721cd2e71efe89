import Trendline.Proofs.Double.Bounded
import Trendline.Sample.Sizes

/-!
# Sizes are numbers

Whatever counts a size is for, it stays far below the largest double: counts are
below `2 ^ 64`, and no size has more than two of them as factors.

* `IsLog2`: what is expected of a binary logarithm of counts.
* `bounded_ofWord`, `bounded_recordSize?`, `bounded_aggregationSize`,
  `bounded_fullTreeSize?`, `bounded_prunedTreeSizeWith?`: a bound for each size.
-/

namespace Trendline.Sample

open Double

/-- What is expected of a binary logarithm of counts, which are at most `2 ^ 64` as doubles. -/
def IsLog2 (log2 : Float → Float) : Prop :=
  ∀ n : UInt64, n ≠ 0 → 0 ≤ log2 (ofWord n) ∧ log2 (ofWord n) ≤ 64

theorem bounded_ofNat {n : Nat} (h : n ≤ 2 ^ 64) : Bounded 64 (Scalar.ofNat n : Float) :=
  bounded_ofRatio false (by decide) h

theorem bounded_ofWord (n : UInt64) : Bounded 64 (ofWord n) :=
  bounded_ofNat n.toNat_lt.le

theorem bounded_recordSize? {numerical categorical : UInt64} {size : Float}
    (h : recordSize? numerical categorical = some size) : Bounded 69 size := by
  have hbase : Bounded 68 48 := bounded_of_bits (by decide) (by decide +kernel)
  have hpart : Bounded 4 9 := bounded_of_bits (by decide) (by decide +kernel)
  obtain ⟨attributes, -, hsize⟩ := Option.bind_eq_some_iff.mp h
  rw [← Option.some.inj hsize]
  exact hbase.add (hpart.mul (bounded_ofWord attributes) (by decide)) (by decide)

theorem bounded_aggregationSize (numerical categorical : UInt64) :
    Bounded 69 (aggregationSize numerical categorical) := by
  have hbase : Bounded 67 64 := bounded_of_bits (by decide) (by decide +kernel)
  have hnumerical : Bounded 3 8 := bounded_of_bits (by decide) (by decide +kernel)
  have hcategorical : Bounded 2 4 := bounded_of_bits (by decide) (by decide +kernel)
  have hfirst := hbase.add (hnumerical.mul (bounded_ofWord numerical) (by decide)) (by decide)
  have hsecond := hcategorical.mul (bounded_ofWord categorical) (by decide)
  exact hfirst.add (hsecond.mono (by decide)) (by decide)

theorem bounded_fullTreeSize? {records attributes : UInt64} {size : Float}
    (h : fullTreeSize? records attributes = some size) : Bounded 134 size := by
  obtain ⟨nodes, -, h⟩ := Option.bind_eq_some_iff.mp h
  obtain ⟨record, hrecord, hsize⟩ := Option.bind_eq_some_iff.mp h
  have hrecords := (bounded_ofWord records).mul (bounded_recordSize? hrecord) (by decide)
  have hnodes := (bounded_ofWord nodes).mul (bounded_aggregationSize attributes attributes)
    (by decide)
  rw [← Option.some.inj hsize]
  exact hrecords.add hnodes (by decide)

section

variable {log2 : Float → Float} (hlog : IsLog2 log2) {records : UInt64} (hrecords : records ≠ 0)

include hlog hrecords

theorem bounded_depthWith : Bounded 7 (depthWith log2 records) := by
  have h64 : Bounded 6 64 := bounded_of_bits (by decide) (by decide +kernel)
  obtain ⟨hlow, hhigh⟩ := hlog records hrecords
  exact (bounded_of_le h64 hlow hhigh).ceil (by decide)

theorem bounded_prunedTreeSizeWith? {attributes : UInt64} {size : Float}
    (h : prunedTreeSizeWith? log2 records attributes = some size) : Bounded 78 size := by
  obtain ⟨record, hrecord, hsize⟩ := Option.bind_eq_some_iff.mp h
  have hlevels := (bounded_depthWith hlog hrecords).add (bounded_one _) (by decide)
  have hpath := hlevels.mul (bounded_aggregationSize attributes attributes) (by decide)
  rw [← Option.some.inj hsize]
  exact ((bounded_recordSize? hrecord).mono (by decide)).add hpath (by decide)

end

end Trendline.Sample
