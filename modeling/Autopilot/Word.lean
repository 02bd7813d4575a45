/-!
# Words

The hold loop computes in 32-bit and 16-bit signed words.  A result that leaves its word is handled
in one of two ways, and each way has its function: `Int32.ofIntClamp` takes the nearest word, while
`exact` stops the computation with `Fault.overflow`.  Arithmetic in between is done on `Int`.

`limit` and `deadband` are the two shaping functions of the loop: the first bounds a value on both
sides, the second removes a band around zero and closes the gap it leaves.

Lists are held in a memory of 64-bit addresses.  `reserve` says whether one can be held at all.
-/

namespace Autopilot

/-- The ways in which a computation can end without an answer. -/
inductive Fault where
  /-- A result does not fit the word that has to hold it. -/
  | overflow
  /-- A value is to be kept between a lower and an upper end that are the wrong way round. -/
  | emptyRange
  /-- A column of a trace ends before the sample that is asked for. -/
  | missingSample
  /-- A list is longer than memory can be. -/
  | noRoom
deriving DecidableEq, Repr

/-- The word with value `n`; a fault when there is none. -/
def exact (n : Int) : Except Fault Int32 :=
  if h : Int32.minValue.toInt ≤ n ∧ n ≤ Int32.maxValue.toInt then
    .ok (Int32.ofIntLE n h.1 h.2)
  else
    .error .overflow

/-- The word of `low .. high` nearest to `value`; a fault when there is none. -/
def between (low high value : Int32) : Except Fault Int32 :=
  if high < low then .error .emptyRange
  else if value < low then .ok low
  else if high < value then .ok high
  else .ok value

/-- The word of `-bound .. bound` nearest to `value`. -/
def limit (value bound : Int32) : Except Fault Int32 := do
  between (← exact (-bound.toInt)) bound value

/-- Zero for a value closer to zero than `width`, and any other value moved `width` towards zero, so
that the result has no step at the edge of the band. -/
def deadband (value width : Int32) : Except Fault Int32 := do
  let size ← exact value.toInt.natAbs
  if size < width then
    return 0
  else if 0 < value then
    exact (value.toInt - width.toInt)
  else if value < 0 then
    exact (value.toInt + width.toInt)
  else
    return value

/-- Makes room for a number of entries of some bytes each.  The number has to be a 64-bit word, and
all bytes together must not exceed the half of the addresses. -/
def reserve (entries bytes : Nat) : Except Fault Unit :=
  if UInt64.size ≤ entries then .error .overflow
  else if Int64.maxValue.toInt < (entries * bytes : Nat) then .error .noRoom
  else .ok ()

end Autopilot
