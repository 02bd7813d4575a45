import Autopilot.Noise.Stream
import Autopilot.Noise.Ziggurat

/-!
# Normally distributed noise

`standardNormal` draws from the normal distribution of mean zero and deviation one by rejection: a
point is thrown into one of the layers of the ziggurat, and it is taken if it lies below the curve.
Almost every point is; the number of attempts is bounded by `attempts` all the same.

`NoiseSource` is a stream with a deviation.  `NoiseSource.draw` gives its next value.
-/

namespace Autopilot

/-- The number of points that are thrown before a draw ends with zero. -/
def attempts : Nat :=
  4096

/-- The right edge of the rectangular part of the lowest layer. -/
def tailEdge : Float :=
  3.654152885361008796

/-- A double in `0 ≤ x < 1` with 53 random bits. -/
def halfOpen (word : UInt64) : Float :=
  (word >>> 11).toFloat * Float.ofBits 0x3CA0000000000000

/-- A double in `0 < x < 1` with 52 random bits. -/
def openUnit (word : UInt64) : Float :=
  Float.ofBits ((word >>> 12) ||| ((1023 : UInt64) <<< 52)) - Float.ofBits 0x3FEFFFFFFFFFFFFF

/-- A double in `-1 ≤ x < 1`. -/
def symmetric (word : UInt64) : Float :=
  Float.ofBits ((word >>> 12) ||| ((1024 : UInt64) <<< 52)) - 3.0

/-- Draws from the part of the distribution beyond the lowest layer, on the side of `u`. -/
def normalTail (u : Float) : Nat → Stream → Float × Stream
  | 0, s => (0.0, s)
  | fuel + 1, s =>
    let (first, s) := s.next
    let (second, s) := s.next
    let x := (openUnit first).log / tailEdge
    let y := (openUnit second).log
    if -2.0 * y < x * x then
      normalTail u fuel s
    else
      (if u < 0.0 then x - tailEdge else tailEdge - x, s)

/-- Draws from the normal distribution of mean zero and deviation one. -/
def standardNormal : Nat → Stream → Float × Stream
  | 0, s => (0.0, s)
  | fuel + 1, s =>
    let (bits, s) := s.next
    let layer := (bits &&& 255).toNat
    let u := symmetric bits
    let x := u * Ziggurat.edge layer
    if x.abs < Ziggurat.edge (layer + 1) then
      (x, s)
    else if layer = 0 then
      normalTail u attempts s
    else
      let (word, s) := s.next
      let low := Ziggurat.height (layer + 1)
      let high := Ziggurat.height layer
      if low + (high - low) * halfOpen word < (-x * x / 2.0).exp then
        (x, s)
      else
        standardNormal fuel s

/-- A source of noise. -/
structure NoiseSource where
  deviation : Float
  stream : Stream
deriving DecidableEq, Repr

/-- The next value of a source.  Without deviation it is zero, and no word is drawn for it. -/
def NoiseSource.draw (n : NoiseSource) : Float × NoiseSource :=
  if n.deviation == 0.0 then
    (0.0, n)
  else
    let (z, stream) := standardNormal attempts n.stream
    (0.0 + n.deviation * z, { n with stream })

end Autopilot
