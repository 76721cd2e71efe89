import Trendline.Csv.Table
import Trendline.Log.Note
import Trendline.Sample.Normal
import Trendline.Sample.Sizes
import Trendline.Value

/-!
# Synthetic tables

The six tables that the figures read, filled from the model of sizes.  Counts
run over the powers of two up to their bound, and every size is drawn with a
relative noise.

The tables are a function of the settings, of a `Sampler`, which says how the
next deviate is drawn, and of a binary logarithm.  `generate` is the case of the
stream of a seed and of the logarithm of the platform.  An overflow in any size
stops them all.
-/

namespace Trendline.Sample

/-- What the tables are made from. -/
structure Settings where
  seed : UInt64 := 42
  /-- The largest count of records in the tree tables. -/
  maxRecords : UInt64 := 32768
  /-- The largest count of attributes. -/
  maxAttributes : UInt64 := 512
  /-- The count of records behind every query. -/
  queryRecords : UInt64 := 100000
  /-- The relative noise of every size. -/
  noise : Float := 0.01

/-- Where random numbers come from. -/
structure Sampler (σ : Type) where
  /-- A deviate of the standard normal distribution. -/
  normal : σ → Float × σ
  /-- A uniform draw from `[0, 1)`. -/
  uniform : σ → Float × σ

/-- Random numbers from the stream of a seed. -/
def Sampler.stream : Sampler Stream :=
  ⟨Stream.normal, Stream.uniform⟩

/-- What doubling a positive word adds to it. -/
theorem lt_of_double? {v w : UInt64} (h : double? v = some w) (hv : v ≠ 0) :
    v.toNat < w.toNat := by
  unfold double? at h
  split at h
  · rename_i hlt
    have hw : 2 * v = w := by simpa using h
    have hpos : v.toNat ≠ 0 := fun h0 => hv (UInt64.toNat_inj.1 (by simpa using h0))
    rw [← hw, UInt64.toNat_mul]
    have h2 : (2 : UInt64).toNat = 2 := rfl
    rw [h2, Nat.mod_eq_of_lt (by omega)]
    omega
  · simp at h

/-- The values from `v` on, each twice the one before, up to a bound. -/
def doublings (max v : UInt64) : List UInt64 :=
  if _positive : v = 0 then []
  else if max < v then []
  else
    match _next : double? v with
    | some w => v :: doublings max w
    | none => [v]
termination_by 18446744073709551616 - v.toNat
decreasing_by
  have := lt_of_double? _next _positive
  have := w.toNat_lt
  omega

/-- The powers of two up to a bound. -/
def powersOfTwo (max : UInt64) : List UInt64 :=
  doublings max 1

/-- A count as a cell. -/
def countText (n : UInt64) : String :=
  toString n.toNat

/-- The text of a size: the nearest number of bytes, at least one. -/
def sizeText (size : Float) : String :=
  Decimal.Style.plain.write (Scalar.greatest (Double.round size) 1)

/-- A computation that draws random numbers, without a result where a count is no word. -/
abbrev Draw (σ : Type) : Type → Type :=
  StateT σ Option

variable {σ : Type}

/-- A size with noise. -/
def noisy (sampler : Sampler σ) (noise size : Float) : Draw σ String := do
  let z ← modifyGet sampler.normal
  return sizeText (size * (1 + noise * z))

/-- All pairs of two lists, the second member changing first. -/
def pairs {a b : Type} (xs : List a) (ys : List b) : List (a × b) :=
  xs.flatMap fun x => ys.map fun y => (x, y)

/-- The rows of both record tables for two counts of attributes. -/
def recordRows (sampler : Sampler σ) (noise : Float) (numerical categorical : UInt64) :
    Draw σ (List String × List String) := do
  let counts := [countText numerical, countText categorical]
  let single ← noisy sampler noise (aggregationSize numerical categorical)
  let size ← recordSize? numerical categorical
  let record ← noisy sampler noise size
  let aggregation ← noisy sampler noise (aggregationSize numerical categorical)
  return (counts ++ [single], counts ++ [record, aggregation])

/-- The rows of both tree tables for a count of records and one of attributes. -/
def treeRows (log2 : Float → Float) (sampler : Sampler σ) (noise : Float)
    (records attributes : UInt64) : Draw σ (List String × List String) := do
  let counts := [countText records, countText attributes]
  let fullSize ← fullTreeSize? records attributes
  let full ← noisy sampler noise fullSize
  let prunedSize ← prunedTreeSizeWith? log2 records attributes
  let pruned ← noisy sampler noise prunedSize
  return (counts ++ [full], counts ++ [pruned])

/-- The selectivities of the query tables. -/
def selectivities : List Float :=
  [0.8, 0.5, 0.2, 0.1]

/-- The sorting windows of the query tables, as parts of the count of records. -/
def windowParts : List Float :=
  [0, 0.1, 0.25, 0.75, 1]

/-- The filters of the query tables: which of three attributes are set. -/
def queryFilters : List (List Bool) :=
  [[true, false, false], [true, true, false], [false, true, true], [true, true, true]]

/-- A filter as a cell. -/
def filterText (filter : List Bool) : String :=
  "[" ++ String.intercalate ", " (filter.map fun b => if b then "true" else "false") ++ "]"

/-- A nearest integral number as a cell. -/
def roundText (x : Float) : String :=
  Decimal.Style.plain.write (Double.round x)

/-- The number brought into a range. -/
def clamp (low high x : Float) : Float :=
  if x < low then low else if high < x then high else x

/-- The row of a query, given the size of a record and that of the tree of all records. -/
def queryRow (log2 : Float → Float) (sampler : Sampler σ) (settings : Settings)
    (perRecord proofOfAll p part : Float) (filter : List Bool) : Draw σ (List String) := do
  let n := ofWord settings.queryRecords
  let levels := Scalar.greatest (depthWith log2 settings.queryRecords) 1
  let selectivity := (filter.filter id).foldl (fun product _ => product * p) 1
  let u ← modifyGet sampler.uniform
  let jitter := 1 + settings.noise * (u - 0.5)
  let matching := Double.truncateToWord (clamp 0 n (Double.round (selectivity * n * jitter)))
  let count : Float := Scalar.ofNat matching
  let shared := 1 - 0.8 * part
  let pathBytes := levels * (32 + aggregationSize 1 3) * shared
  let proof := count * (perRecord + pathBytes) + 32
  return [filterText filter, Decimal.Style.plain.write p,
    toString (Double.truncateToWord (n * part)), toString matching, roundText proof,
    roundText (count * perRecord), countText settings.queryRecords, roundText (perRecord * n),
    roundText proofOfAll, "1", "3"]

/-- The rows of a query table. -/
def queryRows (log2 : Float → Float) (sampler : Sampler σ) (settings : Settings)
    (parts : List Float) : Draw σ (List (List String)) := do
  let perRecord ← recordSize? 1 3
  let proofOfAll ← fullTreeSize? settings.queryRecords 3
  (pairs selectivities (pairs parts queryFilters)).mapM fun (p, part, filter) =>
    queryRow log2 sampler settings perRecord proofOfAll p part filter

/-- The columns of the query tables. -/
def queryHeaders : List String :=
  ["Query", "p", "w", "NumberOfRecordsMatching", "ProofSize", "SizeOfRecordsMatching",
    "NumberOfRecordsAll", "SizeOfRecordsAll", "SizeOfProofAll", "NumberNumericalAttributes",
    "NumberCategoricalAttributes"]

/-- The six tables. -/
def tables (log2 : Float → Float) (sampler : Sampler σ) (settings : Settings) :
    Draw σ (List Csv.Table) := do
  let attributes := powersOfTwo settings.maxAttributes
  let records := powersOfTwo settings.maxRecords
  let recordRows ← (pairs attributes attributes).mapM fun (n, c) =>
    recordRows sampler settings.noise n c
  let treeRows ← (pairs records attributes).mapM fun (n, a) =>
    treeRows log2 sampler settings.noise n a
  let sorted ← queryRows log2 sampler settings windowParts
  let unsorted ← queryRows log2 sampler settings [0]
  return [
    ⟨"record_aggregation_size.csv", ["NumberNumerical", "NumberCategorical", "Size"],
      recordRows.map (·.1)⟩,
    ⟨"record_and_record_aggregation_size.csv",
      ["NumberNumerical", "NumberCategorical", "RecordSize", "RecordAggregationSize"],
      recordRows.map (·.2)⟩,
    ⟨"full_history_tree_size.csv", ["NumberRecords", "NumberAttributes", "Size"],
      treeRows.map (·.1)⟩,
    ⟨"pruned_history_tree_size.csv", ["NumberRecords", "NumberAttributes", "Size"],
      treeRows.map (·.2)⟩,
    ⟨"query_proof_size.csv", queryHeaders, sorted⟩,
    ⟨"query_proof_unsorted_size.csv", queryHeaders, unsorted⟩]

/-- Why no tables can be made from the settings. -/
def Settings.fault? (s : Settings) : Option Failure :=
  if s.maxRecords = 0 ∨ s.maxAttributes = 0 ∨ s.queryRecords = 0 then
    some ⟨2, "Sample sizes must be > 0."⟩
  else if s.noise.isFinite ∧ 0 ≤ s.noise ∧ s.noise < 0.5 then none
  else some ⟨2, "Invalid noise level (expected 0 <= noise < 0.5)."⟩

/-- The six tables with random numbers from a sampler. -/
def generateWith (log2 : Float → Float) (sampler : Sampler σ) (state : σ) (s : Settings) :
    Except (Stop Failure) (List Csv.Table) :=
  match s.fault? with
  | some f => .error (.refused f)
  | none => Stop.checked ((tables log2 sampler s state).map Prod.fst)

/-- The six tables with random numbers from the seed. -/
def generate (s : Settings) : Except (Stop Failure) (List Csv.Table) :=
  generateWith Float.log2 Sampler.stream (Stream.ofSeed s.seed) s

/-- The note about the tables. -/
def generatedNote (ts : List Csv.Table) : Note :=
  let count := fun i => ((ts[i]?).map (·.rows.length)).getD 0
  let records := count 0
  let trees := count 2
  let queries := count 4 + count 5
  ⟨.debug, "size_curves::data::sample",
    s!"generated {records} record, {trees} tree and {queries} query rows"⟩

end Trendline.Sample
