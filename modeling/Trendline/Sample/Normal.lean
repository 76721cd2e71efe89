import Trendline.Sample.Stream

/-!
# Normal deviates

Deviates of the standard normal distribution by the ziggurat method.  The
density is covered by 256 layers of the same area.  A draw picks a layer and a
place in it.  Most places lie under the density for certain; the others are
compared with it, and the lowest layer has a tail of its own.

A draw that is rejected is repeated.  Each is accepted with a probability above
nine tenths, so the bound on their number is never met in practice.
-/

namespace Trendline.Sample

/-- Where the tail begins. -/
def tailStart : Float :=
  3.654152885361008796

/-- The area of a layer. -/
def layerArea : Float :=
  0.00492867323399

/-- The density of the distribution, up to its factor. -/
def density (x : Float) : Float :=
  (-x * x / 2).exp

/-- The right ends of layers, each from the one below. -/
def layerEnds : (count : Nat) → (below : Float) → List Float
  | 0, _ => []
  | count + 1, below =>
    let x := (-2 * (layerArea / below + density below).log).sqrt
    x :: layerEnds count x

/-- The right ends of all layers, from the lowest to the top. -/
def ends : Array Float :=
  (layerArea / density tailStart :: tailStart :: layerEnds 254 tailStart ++ [0]).toArray

/-- The density at the ends of the layers. -/
def heights : Array Float :=
  ends.map density

/-- A draw from the tail, as its distance from zero. -/
def drawTail : (attempts : Nat) → Stream → Float × Stream
  | 0, s => (tailStart, s)
  | attempts + 1, s =>
    let (p, s) := s.openUniform
    let (q, s) := s.openUniform
    let a := p.log / tailStart
    let c := q.log
    if -2 * c < a * a then drawTail attempts s else (tailStart - a, s)

/-- A draw of the distribution with at most so many attempts. -/
def drawNormal : (attempts : Nat) → Stream → Float × Stream
  | 0, s => (0, s)
  | attempts + 1, s =>
    let (draw, s) := s.next
    let i := (draw &&& 0xff).toNat
    let u := Float.ofBits ((0x4000000000000000 : UInt64) ||| (draw >>> 12)) - 3
    let x := u * ends.getD i 0
    if x.abs < ends.getD (i + 1) 0 then (x, s)
    else if i = 0 then
      let (distance, s) := drawTail 1000 s
      (if u < 0 then -distance else distance, s)
    else
      let (v, s) := s.uniform
      let low := heights.getD (i + 1) 0
      if low + (heights.getD i 0 - low) * v < density x then (x, s) else drawNormal attempts s

/-- A deviate of the standard normal distribution. -/
def Stream.normal (s : Stream) : Float × Stream :=
  drawNormal 1000 s

end Trendline.Sample
