import Trendline.Pattern.Basic

/-!
# The size of patterns

A pattern is refused if the automaton for it would be too large.  The automaton
reads bytes, forward and also backward, and takes a number of bytes of memory
for each state and for each way out of one.  Repetitions are written out, so
they multiply the size.  No automaton is built here; `size` tells how large it
would be.
-/

namespace Trendline

/-! ## Characters as bytes -/

/-- A range of bytes. -/
abbrev ByteRange :=
  Nat × Nat

/-- The weight of a digit in base sixty-four, each of which is in a byte. -/
def digitWeight (k : Nat) : Nat :=
  Nat.pow 64 k

/--
Sequences of ranges of bytes for the numbers from `low` to `high`, which have `k` digits in base
sixty-four after the first one; `mark` is added to the first digit.
-/
def byteSequences (mark : Nat) : (k low high : Nat) → List (List ByteRange)
  | 0, low, high => [[(mark + low, mark + high)]]
  | k + 1, low, high =>
    let w := digitWeight (k + 1)
    let (a, b) := (low / w, high / w)
    if a = b then (byteSequences 0x80 k (low % w) (high % w)).map ((mark + a, mark + a) :: ·)
    else
      let begins := if low % w = 0 then [] else
        (byteSequences 0x80 k (low % w) (w - 1)).map ((mark + a, mark + a) :: ·)
      let ends := if high % w = w - 1 then [] else
        (byteSequences 0x80 k 0 (high % w)).map ((mark + b, mark + b) :: ·)
      let first := if low % w = 0 then a else a + 1
      let last := if high % w = w - 1 then b else b - 1
      let whole := if last < first then [] else
        [(mark + first, mark + last) :: List.replicate (k + 1) (0x80, 0xbf)]
      begins ++ whole ++ ends

/-- The codes that are written with one number of bytes, the first byte's mark, and that number. -/
def byteForms : List (Nat × Nat × Nat × Nat) :=
  [(0, 0x7f, 0, 0), (0x80, 0x7ff, 0xc0, 1), (0x800, 0xd7ff, 0xe0, 2), (0xe000, 0xffff, 0xe0, 2),
    (0x10000, 0x10ffff, 0xf0, 3)]

namespace CharSet

/-- The sequences of ranges of bytes that write the characters of the set. -/
def byteSequences (s : CharSet) : List (List ByteRange) :=
  s.runs.flatMap fun (low, high) =>
    byteForms.flatMap fun (first, last, mark, k) =>
      let (low, high) := (max low first, min high last)
      if high < low then [] else Trendline.byteSequences mark k low high

/-- The sequences that follow each range of bytes at the front. -/
def followers (sequences : List (List ByteRange)) : List (ByteRange × List (List ByteRange)) :=
  (sequences.filterMap (·.head?)).eraseDups.map fun r =>
    (r, sequences.filterMap fun
      | first :: rest => if first = r then some rest else none
      | [] => none)

/-- The sets of sequences that are left after no more than `k` bytes, except for the empty one. -/
def remainders : (k : Nat) → List (List ByteRange) → List (List (List ByteRange))
  | 0, _ => []
  | k + 1, sequences =>
    if sequences.all List.isEmpty then []
    else sequences :: (followers sequences).flatMap fun (_, rest) => remainders k rest

end CharSet

/-! ## Sizes -/

/-- Which way the automaton reads. -/
inductive ReadingWay where
  | forward
  | backward
  deriving DecidableEq, Repr

/-- The bytes that a state takes. -/
def stateSize : Nat :=
  32

/-- The bytes that a state takes from which ranges of bytes lead on. -/
def rangesSize (count : Nat) : Nat :=
  stateSize + 8 * count

/-- The bytes that a state takes from which several states are reached without a byte. -/
def forkSize (count : Nat) : Nat :=
  stateSize + 4 * count

/-- The size for a set of characters. -/
def CharSet.size (way : ReadingWay) (s : CharSet) : Nat :=
  let sequences := s.byteSequences
  match s.runs with
  | [] => stateSize
  | [(low, high)] =>
    if low = high then stateSize * sequences.flatten.length
    else sized way sequences
  | _ => sized way sequences
where
  /-- The size for sequences of bytes, of which equal parts are shared. -/
  sized (way : ReadingWay) (sequences : List (List ByteRange)) : Nat :=
    if sequences.all (·.length == 1) && sequences.all (·.all (·.2 < 0x80)) then
      stateSize + rangesSize sequences.length
    else
      match way with
      | .forward =>
        let nodes := (remainders 4 sequences).eraseDups
        nodes.foldl (fun n node => n + rangesSize (followers node).length) stateSize
      | .backward =>
        let starts := sequences.flatMap fun r => (List.range r.length).map fun i => r.take (i + 1)
        let shared := starts.eraseDups
        stateSize + forkSize sequences.length + stateSize * shared.length

namespace Pattern

/-- The size for a number of copies of a part. -/
def copies (n part : Nat) : Nat :=
  if n = 0 then stateSize else n * part

/-- The size for a repetition of a part. -/
def repetitionSize (isNullable : Bool) (part least : Nat) : (most : Option Nat) → Nat
  | some most =>
    if least = 0 ∧ most = 1 then forkSize 2 + stateSize + part
    else if least = most then copies least part
    else copies least part + stateSize + (most - least) * (forkSize 2 + part)
  | none =>
    if 0 < least then copies least part + forkSize 2
    else if isNullable then 2 * forkSize 2 + stateSize + part
    else forkSize 2 + part

/-- The size for a pattern; a branch of a choice is one more way out of the choice. -/
def size (way : ReadingWay) (isBranch : Bool) : Pattern → Nat
  | alt p q =>
    (if isBranch then 0 else 2 * stateSize) + p.size way true + q.size way true
  | empty | anchor _ => branch isBranch + stateSize
  | one s => branch isBranch + s.size way
  | seq p q => branch isBranch + p.size way false + q.size way false
  | rep p least most =>
    branch isBranch + repetitionSize p.isNullable (p.size way false) least most
  | group p =>
    branch isBranch + p.size way false + (if way = .forward then 2 * stateSize else 0)
where
  /-- What a way out of a choice takes. -/
  branch (isBranch : Bool) : Nat :=
    if isBranch then 4 else 0

/-- What an automaton takes besides the pattern: a start that passes over bytes, and an end. -/
def frameSize : ReadingWay → Nat
  | .forward => forkSize 2 + stateSize + rangesSize 1 + 3 * stateSize
  | .backward => forkSize 2 + stateSize + rangesSize 1 + stateSize

/-- The greatest size of an automaton, in bytes. -/
def sizeLimit : Nat :=
  10485760

/-- Whether an automaton for the pattern would be too large. -/
def isTooLarge (way : ReadingWay) (p : Pattern) : Bool :=
  sizeLimit < p.size way false + frameSize way

end Pattern

end Trendline
