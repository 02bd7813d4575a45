import Autopilot.Decimal.Numeral

/-!
# Reading numbers from words

`readDouble` reads a word as the nearest double: digits with at most one point, an exponent, a
sign, or the names of infinity and of no number.  `readNat` reads a word as a number below a
bound.  Nothing may stand around the number.  `NumberError` says what is wrong with a word.
-/

namespace Autopilot

/-- The reasons why a word is not a number. -/
inductive NumberError where
  | emptyFloat
  | invalidFloat
  | emptyInteger
  | invalidDigit
  | tooLarge
deriving DecidableEq, Repr

/-- The text of an error. -/
def NumberError.message : NumberError → String
  | .emptyFloat => "cannot parse float from empty string"
  | .invalidFloat => "invalid float literal"
  | .emptyInteger => "cannot parse integer from empty string"
  | .invalidDigit => "invalid digit found in string"
  | .tooLarge => "number too large to fit in target type"

/-- Takes a sign from the front of a word. -/
def takeSign : List Char → Bool × List Char
  | '-' :: rest => (true, rest)
  | '+' :: rest => (false, rest)
  | cs => (false, cs)

/-- The value that is large enough for an exponent: all numbers with this exponent that have fewer
digits are infinite, or zero if it is negative. -/
def largeExponent : Nat :=
  65536

/-- The size of an exponent.  Digits that follow on a large one are passed over. -/
def exponentSize (digits : List Char) : Nat :=
  digits.foldl
    (fun size digit =>
      if size < largeExponent then 10 * size + (digit.toNat - '0'.toNat) else size)
    0

/-- The exponent at the end of a numeral: a mark, a sign and digits, or nothing at all. -/
def wholeExponent : List Char → Option (Option Int)
  | [] => some none
  | mark :: rest =>
    if mark = 'e' ∨ mark = 'E' then
      let (negative, digits) := takeSign rest
      if !digits.isEmpty && digits.all Char.isDigit then
        let size : Int := exponentSize digits
        some (some (if negative then -size else size))
      else
        none
    else
      none

/-- A numeral without a sign, with digits on at least one side of its point. -/
def unsignedNumeral? (cs : List Char) : Option Numeral := do
  let whole := cs.takeWhile Char.isDigit
  let rest := cs.dropWhile Char.isDigit
  let (fraction, rest) := match rest with
    | '.' :: rest => (some (rest.takeWhile Char.isDigit), rest.dropWhile Char.isDigit)
    | rest => (none, rest)
  if whole.isEmpty && (fraction.getD []).isEmpty then
    none
  else
    return { whole, fraction, exponent := ← wholeExponent rest }

/-- Reads a word as a double. -/
def readDouble (word : String) : Except NumberError Float :=
  let cs := word.toList
  let (negative, rest) := takeSign cs
  let named (x : Float) : Float := if negative then -x else x
  if cs.isEmpty then
    .error .emptyFloat
  else
    match String.ofList (rest.map Char.toLower) with
    | "inf" => .ok (named (1.0 / 0.0))
    | "infinity" => .ok (named (1.0 / 0.0))
    | "nan" => .ok (named (0.0 / 0.0))
    | _ =>
      match unsignedNumeral? rest with
      | some n => .ok { n with negative }.toFloat
      | none => .error .invalidFloat

/-- Reads the digits of a number below a bound, after those that give `before`. -/
def readDigitsBelow (bound : Nat) : Nat → List Char → Except NumberError Nat
  | before, [] => .ok before
  | before, c :: rest =>
    if !c.isDigit then
      .error .invalidDigit
    else
      let value := 10 * before + (c.toNat - '0'.toNat)
      if value < bound then readDigitsBelow bound value rest else .error .tooLarge

/-- Reads a word as a number below a bound. -/
def readNat (bound : Nat) (word : String) : Except NumberError Nat :=
  match word.toList with
  | [] => .error .emptyInteger
  | ['+'] => .error .invalidDigit
  | '+' :: rest => readDigitsBelow bound 0 rest
  | cs => readDigitsBelow bound 0 cs

end Autopilot
