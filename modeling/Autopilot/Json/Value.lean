import Autopilot.Decimal.Numeral

/-!
# JSON values

A `Json` value keeps its numbers as they are written and the members of an object in their order,
repetitions included.  A text can contain an escape for half of a surrogate pair, and then it stands
for no string: `Json.Text` is `none` for it.

`Json.sorted` puts the members of all objects into the order of their keys.
-/

namespace Autopilot

/-- A text between quotes, `none` if it escapes half of a surrogate pair. -/
abbrev Json.Text : Type :=
  Option String

/-- A JSON value. -/
inductive Json where
  | null
  | bool (b : Bool)
  | number (n : Numeral)
  | string (s : Json.Text)
  | array (items : List Json)
  | object (members : List (Json.Text × Json))
deriving Repr, Inhabited

namespace Json

/-- The value of an integer. -/
def int (n : Int) : Json :=
  .number (.ofInt n)

/-- The value of a number that may be missing. -/
def numeral? : Option Numeral → Json
  | some n => .number n
  | none => .null

/-- The value of a string. -/
def text (s : String) : Json :=
  .string (some s)

/-- An object with these keys and values. -/
def fields (members : List (String × Json)) : Json :=
  .object (members.map fun (key, value) => (some key, value))

/-- The first member with this key. -/
def get? (key : String) : Json → Option Json
  | .object members => members.lookup (some key)
  | _ => none

/-- Whether the first key does not come after the second. -/
def keyLE : Text → Text → Bool
  | some a, some b => a ≤ b
  | none, _ => true
  | some _, none => false

mutual

/-- The value with the members of all objects in the order of their keys. -/
def sorted : Json → Json
  | .array items => .array (sortedItems items)
  | .object members =>
    .object ((sortedMembers members).mergeSort fun a b => keyLE a.1 b.1)
  | .null => .null
  | .bool b => .bool b
  | .number n => .number n
  | .string s => .string s

/-- `sorted` for every item. -/
def sortedItems : List Json → List Json
  | [] => []
  | item :: rest => sorted item :: sortedItems rest

/-- `sorted` for every member. -/
def sortedMembers : List (Text × Json) → List (Text × Json)
  | [] => []
  | (key, value) :: rest => (key, sorted value) :: sortedMembers rest

end

end Json

end Autopilot
