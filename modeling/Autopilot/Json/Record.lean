import Autopilot.Decimal.Scaled
import Autopilot.Json.Value

/-!
# Records in JSON

A record is written as an object with a member for every field, or as an array of its fields in
their order.  `Json.allFields?` takes a record apart that has to be complete, `Json.someFields?`
one in which fields may be missing.  Members under other keys are passed over, but no key of a
field may occur twice, and every key has to be a string.

The readers of single fields follow: `Json.natBelow?`, `Json.int16?`, `Json.single?`, `Json.bool?`
and `Json.variant?`.
-/

namespace Autopilot.Json

/-! ### Fields -/

/-- The values of the members with this key. -/
def valuesAt (members : List (Text × Json)) (key : String) : List Json :=
  (members.filter fun member => member.1 == some key).map Prod.snd

/-- The value of a field that may be missing but does not occur twice. -/
def field? (members : List (Text × Json)) (key : String) : Option (Option Json) :=
  match valuesAt members key with
  | [] => some none
  | [value] => some (some value)
  | _ => none

/-- The values of the fields with these keys, each of them if it is there. -/
def someFields? (keys : List String) : Json → Option (List (Option Json))
  | .object members =>
    if members.all fun member => member.1.isSome then keys.mapM (field? members) else none
  | .array items =>
    if items.length ≤ keys.length then
      some (items.map some ++ List.replicate (keys.length - items.length) none)
    else
      none
  | _ => none

/-- The values of the fields with these keys, if none is missing. -/
def allFields? (keys : List String) (j : Json) : Option (List Json) := do
  (← someFields? keys j).mapM id

/-! ### Single fields -/

/-- An integer from zero up to a bound. -/
def natBelow? (bound : Nat) : Json → Option Nat
  | .number n => do
    let value ← n.toInt?
    if 0 ≤ value ∧ value < bound then some value.toNat else none
  | _ => none

/-- An 8-bit number. -/
def uint8? (j : Json) : Option UInt8 :=
  (natBelow? 256 j).map Nat.toUInt8

/-- A 16-bit number. -/
def uint16? (j : Json) : Option UInt16 :=
  (natBelow? 65536 j).map Nat.toUInt16

/-- A 16-bit word with sign. -/
def int16? : Json → Option Int16
  | .number n => do
    let value ← n.toInt?
    if -32768 ≤ value ∧ value ≤ 32767 then some (Int16.ofInt value) else none
  | _ => none

/-- A number as a single-precision float.  An integer that fits a 64-bit word is rounded to it; any
other number is read as a double first, which has to be finite. -/
def single? : Json → Option Float32
  | .number n =>
    match n.word? with
    | some value => some (singleOfInt value)
    | none => n.scaled?.map narrow
  | _ => none

/-- A truth value. -/
def bool? : Json → Option Bool
  | .bool b => some b
  | _ => none

/-- The name of a variant without contents: a string, or an object with that key alone and null
under it. -/
def variant? : Json → Option String
  | .string name => name
  | .object [(name, .null)] => name
  | _ => none

/-! ### Numbers of a file -/

/-- Single-precision floats in a file: an exponent below `10^-6` and from `10^13` on. -/
def singleLayout : Layout where
  ties := .even
  positionalFrom := some (-6)
  positionalBelow := some 13
  pointZero := true

/-- Doubles in a file: an exponent below `10^-5` and from `10^16` on. -/
def doubleLayout : Layout where
  ties := .even
  positionalFrom := some (-5)
  positionalBelow := some 16
  pointZero := true

/-- The value of a single-precision float, null if it is not finite. -/
def single (x : Float32) : Json :=
  .numeral? (singleLayout.single? x)

/-- The value of a double, null if it is not finite. -/
def double (x : Float) : Json :=
  .numeral? (doubleLayout.double? x)

end Autopilot.Json
