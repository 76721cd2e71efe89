import Trendline.Scalar

/-!
# The model of sizes

How many bytes a record, an aggregation and a tree of records take, before
noise:

* a record: a base, and a part for each attribute;
* an aggregation: a base, a part for each numerical and one for each
  categorical attribute;
* a full tree of `n` records: the records, and an aggregation for each of its
  `2 n - 1` nodes;
* a pruned tree: one record, and an aggregation for each level.

Counts are 64-bit words, and there is no size where a sum or a double of them is
none.  The number of levels is a binary logarithm, which a platform brings along
and rounds in its own way; it is a parameter.
-/

namespace Trendline.Sample

/-- The number of a count. -/
def ofWord (n : UInt64) : Float :=
  Scalar.ofNat n.toNat

/-- The sum of two words, unless that is no word. -/
def sum? (m n : UInt64) : Option UInt64 :=
  if m.toNat + n.toNat < UInt64.size then some (m + n) else none

/-- Twice a word, unless that is no word. -/
def double? (v : UInt64) : Option UInt64 :=
  if v.toNat < 9223372036854775808 then some (2 * v) else none

/-- The size of a record, if its attributes are counted by a word. -/
def recordSize? (numerical categorical : UInt64) : Option Float := do
  let attributes ← sum? numerical categorical
  return 48 + 9 * ofWord attributes

/-- The size of an aggregation. -/
def aggregationSize (numerical categorical : UInt64) : Float :=
  64 + 8 * ofWord numerical + 4 * ofWord categorical

/-- The number of nodes of a full tree, if they are counted by a word. -/
def nodeCount? (records : UInt64) : Option UInt64 := do
  let twice ← double? records
  return if twice = 0 then 0 else twice - 1

/-- The size of a full tree. -/
def fullTreeSize? (records attributes : UInt64) : Option Float := do
  let nodes ← nodeCount? records
  let record ← recordSize? attributes attributes
  return ofWord records * record + ofWord nodes * aggregationSize attributes attributes

/-- The least number of levels that a tree of so many records has above its leaves. -/
def depthWith (log2 : Float → Float) (records : UInt64) : Float :=
  Double.ceil (log2 (ofWord records))

/-- The size of a pruned tree, by a binary logarithm. -/
def prunedTreeSizeWith? (log2 : Float → Float) (records attributes : UInt64) : Option Float := do
  let levels := depthWith log2 records + 1
  let record ← recordSize? attributes attributes
  return record + levels * aggregationSize attributes attributes

/-- The size of a pruned tree. -/
def prunedTreeSize? (records attributes : UInt64) : Option Float :=
  prunedTreeSizeWith? Float.log2 records attributes

end Trendline.Sample
