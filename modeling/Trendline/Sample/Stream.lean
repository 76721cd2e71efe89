import Trendline.Double

/-!
# A stream of random words

The stream cipher ChaCha with twelve rounds, keyed by a seed of 64 bits.  A
block of sixteen words is a function of the key and of the number of the block,
so the stream is a function of the seed and a place in it.  Two consecutive
words make one draw of 64 bits, the low one first.
-/

namespace Trendline.Sample

/-- A word turned to the left. -/
def rotateLeft (x : UInt32) (n : UInt32) : UInt32 :=
  (x <<< n) ||| (x >>> (32 - n))

/-- A word turned to the right. -/
def rotateRight (x : UInt32) (n : UInt32) : UInt32 :=
  if n % 32 = 0 then x else (x >>> (n % 32)) ||| (x <<< (32 - n % 32))

/-- Sixteen words. -/
abbrev Block : Type :=
  Array UInt32

/-- The word at a place of a block. -/
def wordAt (b : Block) (i : Nat) : UInt32 :=
  b.getD i 0

/-- Mixes four words of a block. -/
def quarterRound (i j k l : Nat) (block : Block) : Block :=
  let a := wordAt block i
  let b := wordAt block j
  let c := wordAt block k
  let d := wordAt block l
  let a := a + b
  let d := rotateLeft (d ^^^ a) 16
  let c := c + d
  let b := rotateLeft (b ^^^ c) 12
  let a := a + b
  let d := rotateLeft (d ^^^ a) 8
  let c := c + d
  let b := rotateLeft (b ^^^ c) 7
  (((block.setIfInBounds i a).setIfInBounds j b).setIfInBounds k c).setIfInBounds l d

/-- Mixes the columns of a block and then its diagonals. -/
def doubleRound (block : Block) : Block :=
  let columns := quarterRound 3 7 11 15 (quarterRound 2 6 10 14 (quarterRound 1 5 9 13
    (quarterRound 0 4 8 12 block)))
  quarterRound 3 4 9 14 (quarterRound 2 7 8 13 (quarterRound 1 6 11 12
    (quarterRound 0 5 10 15 columns)))

/-- How many double rounds a block is mixed by. -/
def doubleRounds : Nat :=
  6

/-- The words that every block begins with before it is mixed. -/
def constants : List UInt32 :=
  [0x61707865, 0x3320646e, 0x79622d32, 0x6b206574]

/-- The block of a key at a place in the stream. -/
def blockAt (key : List UInt32) (index : UInt64) : Block :=
  let counter := [index.toUInt32, (index >>> 32).toUInt32, 0, 0]
  let start : Block := (constants ++ key ++ counter).toArray
  let mixed := Nat.repeat doubleRound doubleRounds start
  Array.zipWith (· + ·) start mixed

/-- So many words of a key, from a state that a seed is put into. -/
def keyFrom : (count : Nat) → (state : UInt64) → List UInt32
  | 0, _ => []
  | count + 1, state =>
    let state := state * 6364136223846793005 + 11634580027462260723
    let word := (((state >>> 18) ^^^ state) >>> 27).toUInt32
    rotateRight word (state >>> 59).toUInt32 :: keyFrom count state

/-- The key of a seed. -/
def keyOf (seed : UInt64) : List UInt32 :=
  keyFrom 8 seed

/-- A place in the stream of a key: the draws that are left of a block, and the next block. -/
structure Stream where
  key : List UInt32
  pending : List UInt64
  nextBlock : UInt64

namespace Stream

/-- The beginning of the stream of a seed. -/
def ofSeed (seed : UInt64) : Stream :=
  ⟨keyOf seed, [], 0⟩

/-- Pairs of words as draws. -/
def pairWords : List UInt32 → List UInt64
  | low :: high :: rest => (low.toUInt64 ||| (high.toUInt64 <<< 32)) :: pairWords rest
  | _ => []

/-- The next draw. -/
def next (s : Stream) : UInt64 × Stream :=
  match s.pending with
  | draw :: pending => (draw, { s with pending })
  | [] =>
    match pairWords (blockAt s.key s.nextBlock).toList with
    | draw :: pending => (draw, { s with pending, nextBlock := s.nextBlock + 1 })
    | [] => (0, s)

/-- A uniform draw from the doubles in `[0, 1)` with 53 places. -/
def uniform (s : Stream) : Float × Stream :=
  let (draw, s) := s.next
  (Double.ofRatio false (draw >>> 11).toNat (Nat.pow 2 53), s)

/-- A uniform draw from the doubles strictly between zero and one. -/
def openUniform (s : Stream) : Float × Stream :=
  let (draw, s) := s.next
  let mantissa := Float.ofBits ((0x3ff0000000000000 : UInt64) ||| (draw >>> 12))
  (mantissa - (1 - Double.ofRatio false 1 (Nat.pow 2 53)), s)

end Stream

end Trendline.Sample
