/-!
# Decimal numerals

A `Numeral` is a number as it stands in a text: a sign, the digits before and after the point, and
an exponent.  `Numeral.text` writes it.  `Numeral.toFloat` reads it as the nearest double, and
`Numeral.toInt?` and `Numeral.word?` read it as an integer if it is written as one.
-/

namespace Autopilot

/-- The number that a list of decimal digits names. -/
def digitsValue (digits : List Char) : Nat :=
  digits.foldl (fun value digit => 10 * value + (digit.toNat - '0'.toNat)) 0

/-- A decimal number as it is written. -/
structure Numeral where
  negative : Bool := false
  /-- The digits before the point. -/
  whole : List Char
  /-- The digits after the point, if there is one. -/
  fraction : Option (List Char) := none
  /-- The power of ten, if one is written. -/
  exponent : Option Int := none
deriving DecidableEq, Repr

namespace Numeral

/-- The numeral of an integer. -/
def ofInt (n : Int) : Numeral where
  negative := n < 0
  whole := Nat.toDigits 10 n.natAbs

/-- The exponent mark and its sign and digits. -/
def exponentText : Option Int → List Char
  | none => []
  | some n => 'e' :: (if n < 0 then '-' else '+') :: Nat.toDigits 10 n.natAbs

/-- The characters of a numeral. -/
def chars (n : Numeral) : List Char :=
  (if n.negative then ['-'] else []) ++ n.whole ++
    (match n.fraction with
      | some digits => '.' :: digits
      | none => []) ++
    exponentText n.exponent

/-- The text of a numeral. -/
def text (n : Numeral) : String :=
  String.ofList n.chars

/-- All digits of a numeral as one number. -/
def significand (n : Numeral) : Nat :=
  digitsValue (n.whole ++ n.fraction.getD [])

/-- The power of ten that belongs to `significand`. -/
def scale (n : Numeral) : Int :=
  n.exponent.getD 0 - (n.fraction.getD []).length

/-- The double nearest to the number. -/
def toFloat (n : Numeral) : Float :=
  let size : Float := .ofModel (.ofScientific n.significand n.scale)
  if n.negative then -size else size

/-- The integer that a numeral names: it has neither point nor exponent, and a zero has no sign. -/
def toInt? (n : Numeral) : Option Int :=
  match n.fraction, n.exponent with
  | none, none =>
    let size := digitsValue n.whole
    if n.negative then
      if size = 0 then none else some (-size)
    else
      some size
  | _, _ => none

/-- The integer that a numeral names, if it fits a 64-bit word, with a sign or without one. -/
def word? (n : Numeral) : Option Int :=
  n.toInt?.filter fun value => Int64.minValue.toInt ≤ value ∧ value < UInt64.size

end Numeral

end Autopilot
