import Autopilot.Decimal.Reading
import Autopilot.Decimal.Shortest
import Autopilot.Script

/-!
# Values of flags

The readers of the values that flags can have: numbers, paths, names out of a choice, the two
disturbances of a flight, and the range of a sweep.  A value that cannot be read gives a
`FlagError`.
-/

namespace Autopilot.Cli

/-- What is wrong with a command line, or what it asks for instead of a simulation. -/
inductive FlagError where
  /-- There is no such flag, or a word that belongs to none. -/
  | unknown
  /-- A value is missing, or is not one of the possible values. -/
  | badValue
  /-- A value cannot be read. -/
  | unreadable (cause : String)
  /-- A flag is given twice. -/
  | repeated
  /-- A flag that takes no value has one. -/
  | excessValue
  | help
  | version
deriving DecidableEq, Repr

namespace Value

/-- White space around a value. -/
def isSpace (c : Char) : Bool :=
  (0x9 ≤ c.toNat && c.toNat ≤ 0xD) || c.toNat == 0x20 || c.toNat == 0x85 || c.toNat == 0xA0 ||
    c.toNat == 0x1680 || (0x2000 ≤ c.toNat && c.toNat ≤ 0x200A) || c.toNat == 0x2028 ||
    c.toNat == 0x2029 || c.toNat == 0x202F || c.toNat == 0x205F || c.toNat == 0x3000

/-- A value without the white space around it. -/
def trim (s : String) : String :=
  String.ofList ((s.toList.dropWhile isSpace).reverse.dropWhile isSpace).reverse

/-- A value between grave accents. -/
def quoted (s : String) : String :=
  "`" ++ s ++ "`"

/-- A part of a value that is read with an error naming the part. -/
def part {α : Type} (name : String) (read : Except NumberError α) : Except FlagError α :=
  read.mapError fun e => .unreadable (quoted name ++ ": " ++ e.message)

/-- A double. -/
def double (value : String) : Except FlagError Float :=
  (readDouble value).mapError fun e => .unreadable e.message

/-- A number below a bound. -/
def natural (bound : Nat) (value : String) : Except FlagError Nat :=
  (readNat bound value).mapError fun e => .unreadable e.message

/-- A path, which is not empty. -/
def path (value : String) : Except FlagError String :=
  if value.isEmpty then .error .badValue else .ok value

/-- One of several values. -/
def choice {α : Type} (values : List (String × α)) (value : String) : Except FlagError α :=
  match values.lookup value with
  | some a => .ok a
  | none => .error .badValue

/-- Three doubles with commas between them. -/
def triple (value : String) : Except FlagError (Float × Float × Float) :=
  match (value.splitOn ",").map trim with
  | [a, b, c] => do
    let a ← part a (readDouble a)
    let b ← part b (readDouble b)
    let c ← part c (readDouble c)
    return (a, b, c)
  | _ => .error (.unreadable ("expected three comma-separated values, got " ++ quoted value))

/-- A movement of the stick: start, end and offset in whole microseconds. -/
def stickMove (value : String) : Except FlagError StickMove := do
  let (start, stop, offset) ← triple value
  let whole := truncate32Wide offset
  if offset.abs ≤ 32767.0 ∧ doubleOfInt whole.toInt == offset then
    return { window := { start, stop }, offset := .ofIntClamp whole.toInt }
  else
    throw (.unreadable
      ("stick offset must be whole microseconds, got " ++ Layout.sentenceDouble offset))

/-- A bank: start, end and roll in degrees. -/
def bank (value : String) : Except FlagError Bank := do
  let (start, stop, roll) ← triple value
  return { window := { start, stop }, roll }

/-- A gain. -/
def gain (value : String) : Except FlagError UInt8 := do
  return (← part value (readNat 256 (trim value))).toUInt8

/-- The part of a word before the first comma, and the part after it. -/
def splitComma (value : String) : Option (String × String) :=
  match value.splitOn "," with
  | first :: second :: rest => some (first, ",".intercalate (second :: rest))
  | _ => none

/-- The first and the last gain of a sweep. -/
def gains (value : String) : Except FlagError (UInt8 × UInt8) :=
  match splitComma value with
  | some (first, last) => do
    let first ← gain first
    let last ← gain last
    return (first, last)
  | none => .error (.unreadable ("expected FIRST,LAST, got " ++ quoted value))

end Value

end Autopilot.Cli
