import Autopilot.Decimal.Shortest

/-!
# A fixed number of decimal places

`fixed places x` rounds the exact value of a double to a number of decimal places, a half to the
even neighbour, and writes it.  The sign stays even when nothing but zeros is left.
-/

namespace Autopilot

/-- The integer nearest to `num / den`, the even one if two are equally near. -/
def roundDiv (num den : Nat) : Nat :=
  let whole := num / den
  match compare (2 * (num % den)) den with
  | .lt => whole
  | .gt => whole + 1
  | .eq => TieRule.even.choose whole

/-- Writes `units` of the last of `places` decimal places. -/
def fixedNumeral (places : Nat) (negative : Bool) (units : Nat) : Numeral :=
  let digits := Nat.toDigits 10 units
  let padded := Layout.zeros (places + 1 - digits.length) ++ digits
  let whole := padded.length - places
  { negative, whole := padded.take whole,
    fraction := if places = 0 then none else some (padded.drop whole) }

/-- A double with a fixed number of decimal places. -/
def fixed (places : Nat) (x : Float) : String :=
  match x.toModel.unpack with
  | .notANumber => Layout.notFinite true false
  | .infinity sign => Layout.notFinite false (sign == .negative)
  | .zero sign => (fixedNumeral places (sign == .negative) 0).text
  | .finite sign mantissa exponent _ =>
    let units :=
      roundDiv (mantissa * Nat.pow 10 places * Nat.pow 2 exponent.toNat)
        (Nat.pow 2 (-exponent).toNat)
    (fixedNumeral places (sign == .negative) units).text

end Autopilot
