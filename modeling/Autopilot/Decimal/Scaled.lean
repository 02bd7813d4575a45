import Autopilot.Decimal.Shortest
import Autopilot.Scalar

/-!
# Reading numbers by scaling

`Numeral.scaled?` reads a numeral as a double in two steps.  `Numeral.leading` keeps the digits that
fit a 64-bit word and puts all others into a power of ten; `Decimal.scaled?` rounds the word to a
double and multiplies it by the power or divides it by it.  The result can be a few units in the
last place away from the nearest double, which is `Numeral.toFloat`.
-/

namespace Autopilot

/-- The number whose digits are those of `before` and as many more as keep it below `bound`, and the
digits that are left. -/
def appendDigits (bound before : Nat) : List Char → Nat × List Char
  | [] => (before, [])
  | digit :: rest =>
    let value := 10 * before + (digit.toNat - '0'.toNat)
    if value < bound then appendDigits bound value rest else (before, digit :: rest)

/-- The decimal number that is left of a numeral when only digits are kept that fit a 64-bit word,
from the front of each side of the point.  Every digit dropped before the point makes the number ten
times as large, every digit kept after it ten times as small. -/
def Numeral.leading (n : Numeral) : Decimal :=
  let fraction := n.fraction.getD []
  let (whole, wholeLeft) := appendDigits UInt64.size 0 n.whole
  let (digits, fractionLeft) := appendDigits UInt64.size whole fraction
  let kept := fraction.length - fractionLeft.length
  { digits, exponent := n.exponent.getD 0 + wholeLeft.length - kept }

/-- The greatest power of ten that is a finite double. -/
def greatestPower : Int :=
  308

/-- The double nearest to a power of ten. -/
def powerOfTen (power : Int) : Float :=
  .ofModel (.ofScientific 1 power)

/-- The product or quotient of a number and a power of ten in double arithmetic, with a second
quotient where one power is not enough, and zero where two are not; nothing if it is too large. -/
def Decimal.scaled? (d : Decimal) : Option Float :=
  let size := doubleOfInt d.digits
  if greatestPower < d.exponent then
    if d.digits = 0 then some size else none
  else if 0 ≤ d.exponent then
    let product := size * powerOfTen d.exponent
    if product.isFinite then some product else none
  else if -greatestPower ≤ d.exponent then
    some (size / powerOfTen (-d.exponent))
  else if -2 * greatestPower ≤ d.exponent then
    some (size / powerOfTen greatestPower / powerOfTen (-d.exponent - greatestPower))
  else
    some 0.0

/-- A numeral as a double, by scaling; nothing if it is too large. -/
def Numeral.scaled? (n : Numeral) : Option Float :=
  n.leading.scaled?.map fun size => if n.negative then -size else size

end Autopilot
