import Autopilot.Decimal.Numeral

/-!
# The shortest digits of a float

Among the decimal numbers that read back as a given float there is one with the fewest digits that
lies nearest to it.  `shortest` finds it with exact integer arithmetic: on ever finer decimal grids
it looks at the two neighbours of the float, and the first grid with a neighbour among the reals
that round to the float gives the answer.  Of two neighbours that are equally near, a `TieRule`
takes one.

`Layout` says how the digits are chosen and written, and `Layout.double?` and `Layout.single?` write
a float.
-/

namespace Autopilot

/-- Which of two neighbouring integers stands for a number half-way between them. -/
inductive TieRule where
  /-- The even one. -/
  | even
  /-- The larger one. -/
  | up
deriving DecidableEq, Repr

/-- The choice between `below` and `below + 1`. -/
def TieRule.choose (ties : TieRule) (below : Nat) : Nat :=
  match ties with
  | .even => below + below % 2
  | .up => below + 1

/-- The number `digits · 10^exponent`. -/
structure Decimal where
  digits : Nat
  exponent : Int
deriving DecidableEq, Repr

/-- The reals that round to a float, and the float itself, all four times as large and over a common
power of two: `low`, `value` and `high` stand for multiples of `2^exponent`. -/
structure RoundingInterval where
  low : Nat
  value : Nat
  high : Nat
  exponent : Int
  /-- Whether the two ends round to the float as well. -/
  closed : Bool
deriving DecidableEq, Repr

namespace RoundingInterval

/-- The interval of the float `mantissa · 2^exponent` in a format of `precision` bits whose least
exponent is `least`.  Below a power of two the floats are twice as dense. -/
def ofFloat (precision : Nat) (least : Int) (mantissa : Nat) (exponent : Int) :
    RoundingInterval where
  low :=
    if mantissa = Nat.pow 2 (precision - 1) ∧ least < exponent then 4 * mantissa - 1
    else 4 * mantissa - 2
  value := 4 * mantissa
  high := 4 * mantissa + 2
  exponent := exponent - 2
  closed := mantissa % 2 = 0

/-- The factor that turns multiples of `2^exponent` into multiples of the grid `10^grid`, as a
quotient. -/
def gridFactor (i : RoundingInterval) (grid : Int) : Nat × Nat :=
  (Nat.pow 2 i.exponent.toNat * Nat.pow 10 (-grid).toNat,
    Nat.pow 2 (-i.exponent).toNat * Nat.pow 10 grid.toNat)

/-- The point of the grid `10^grid` that stands for the float, if one of the neighbours of the float
lies in the interval.  Of two the nearer is taken. -/
def onGrid (i : RoundingInterval) (ties : TieRule) (grid : Int) : Option Nat :=
  let (up, down) := i.gridFactor grid
  let inside (point : Nat) : Bool :=
    if i.closed then i.low * up ≤ point * down && point * down ≤ i.high * up
    else i.low * up < point * down && point * down < i.high * up
  let below := i.value * up / down
  let above := below + 1
  match 0 < below && inside below, inside above with
  | true, true =>
    match compare (2 * (i.value * up)) ((below + above) * down) with
    | .lt => some below
    | .gt => some above
    | .eq => some (ties.choose below)
  | true, false => some below
  | false, true => some above
  | false, false => none

/-- Looks on `count` grids, from `10^grid` on to ever finer ones. -/
def search (i : RoundingInterval) (ties : TieRule) : Nat → Int → Option Decimal
  | 0, _ => none
  | count + 1, grid =>
    match i.onGrid ties grid with
    | some point => some ⟨point, grid⟩
    | none => i.search ties count (grid - 1)

end RoundingInterval

/-- The number of digits before the point of `mantissa · 2^exponent`; for a number below one, minus
the number of zeros between the point and the first other digit. -/
def magnitude (mantissa : Nat) (exponent : Int) : Int :=
  let whole := mantissa * Nat.pow 2 exponent.toNat / Nat.pow 2 (-exponent).toNat
  if 0 < whole then
    (Nat.toDigits 10 whole).length
  else
    1 - (Nat.toDigits 10 (Nat.pow 2 (-exponent).toNat / mantissa)).length

/-- Moves the trailing zeros of the digits into the exponent. -/
def Decimal.trim (d : Decimal) : Nat → Decimal
  | 0 => d
  | fuel + 1 =>
    if d.digits % 10 = 0 ∧ d.digits ≠ 0 then
      Decimal.trim ⟨d.digits / 10, d.exponent + 1⟩ fuel
    else
      d

/-- The most digits that a float needs in either format. -/
def mostDigits : Nat :=
  17

/-- The decimal number with the fewest digits that rounds to `mantissa · 2^exponent`, the nearest of
them. -/
def shortest (ties : TieRule) (precision : Nat) (least : Int) (mantissa : Nat) (exponent : Int) :
    Decimal :=
  let found := (RoundingInterval.ofFloat precision least mantissa exponent).search ties mostDigits
    (magnitude mantissa exponent - 1)
  (found.getD ⟨0, 0⟩).trim (mostDigits + 1)

/-! ### Layout -/

/-- How the digits of a number are chosen and written. -/
structure Layout where
  /-- Which of two shortest numbers is taken that are equally near. -/
  ties : TieRule
  /-- A number whose first digit stands below this power of ten has an exponent. -/
  positionalFrom : Option Int
  /-- A number whose first digit stands at this power of ten or above has an exponent. -/
  positionalBelow : Option Int
  /-- Whether a whole number without an exponent is written with a zero after the point. -/
  pointZero : Bool
deriving DecidableEq, Repr

namespace Layout

/-- Whether a number whose first digit stands at `10^power` is written without an exponent. -/
def isPositional (l : Layout) (power : Int) : Bool :=
  (match l.positionalFrom with
    | some bound => bound ≤ power
    | none => true) &&
  (match l.positionalBelow with
    | some bound => power < bound
    | none => true)

/-- Zeros as digits. -/
def zeros (count : Nat) : List Char :=
  .replicate count '0'

/-- Writes `digits · 10^exponent`. -/
def numeral (l : Layout) (negative : Bool) (d : Decimal) : Numeral :=
  let digits := Nat.toDigits 10 d.digits
  let power := digits.length - 1 + d.exponent
  if l.isPositional power then
    if 0 ≤ d.exponent then
      { negative, whole := digits ++ zeros d.exponent.toNat,
        fraction := if l.pointZero then some ['0'] else none }
    else
      let point := digits.length + d.exponent
      if 0 < point then
        { negative, whole := digits.take point.toNat, fraction := digits.drop point.toNat }
      else
        { negative, whole := ['0'], fraction := zeros (-point).toNat ++ digits }
  else
    { negative, whole := digits.take 1,
      fraction := if digits.length = 1 then none else some (digits.drop 1),
      exponent := power }

/-- Zero, which has a sign but no digits. -/
def zero (l : Layout) (negative : Bool) : Numeral where
  negative
  whole := ['0']
  fraction := if l.pointZero then some ['0'] else none

/-- Writes a float of a format by its shortest digits; nothing if it is not finite. -/
def write (l : Layout) (precision : Nat) (least : Int) : Float.Model.UnpackedFloat → Option Numeral
  | .notANumber => none
  | .infinity _ => none
  | .zero sign => some (l.zero (sign == .negative))
  | .finite sign mantissa exponent _ =>
    some (l.numeral (sign == .negative) (shortest l.ties precision least mantissa exponent))

/-- Writes a double by its shortest digits; nothing if it is not finite. -/
def double? (l : Layout) (x : Float) : Option Numeral :=
  l.write 53 (-1074) x.toModel.unpack

/-- Writes a single-precision float by its shortest digits; nothing if it is not finite. -/
def single? (l : Layout) (x : Float32) : Option Numeral :=
  l.write 24 (-149) x.toModel.unpack

/-- Numbers in a sentence never have an exponent, and a whole number has no point. -/
def sentence : Layout where
  ties := .up
  positionalFrom := none
  positionalBelow := none
  pointZero := false

/-- Text for a float that is not finite. -/
def notFinite (isNaN negative : Bool) : String :=
  if isNaN then "NaN" else if negative then "-inf" else "inf"

/-- A double in a sentence. -/
def sentenceDouble (x : Float) : String :=
  match sentence.double? x with
  | some n => n.text
  | none => notFinite x.isNaN (x < 0)

/-- A single-precision float in a sentence. -/
def sentenceSingle (x : Float32) : String :=
  match sentence.single? x with
  | some n => n.text
  | none => notFinite x.isNaN (x < 0)

end Layout

end Autopilot
