import Autopilot.Json.Value

/-!
# Writing JSON

`Json.compact` writes a value without any white space, `Json.pretty` with a line for every item and
two spaces for every level.
-/

namespace Autopilot.Json

/-- A hexadecimal digit. -/
def hexDigit (n : Nat) : Char :=
  if n < 10 then Char.ofNat ('0'.toNat + n) else Char.ofNat ('a'.toNat + n - 10)

/-- A character inside a string. -/
def escape (c : Char) : List Char :=
  match c with
  | '"' => ['\\', '"']
  | '\\' => ['\\', '\\']
  | '\x08' => ['\\', 'b']
  | '\x0c' => ['\\', 'f']
  | '\n' => ['\\', 'n']
  | '\r' => ['\\', 'r']
  | '\t' => ['\\', 't']
  | _ =>
    if c < ' ' then ['\\', 'u', '0', '0', hexDigit (c.toNat / 16), hexDigit (c.toNat % 16)] else [c]

/-- A string with its quotes.  A text that is no string is written as an empty one. -/
def quote (s : Text) : List Char :=
  '"' :: (s.getD "").toList.flatMap escape ++ ['"']

mutual

/-- The characters of a value without white space. -/
def compactChars : Json → List Char
  | .null => "null".toList
  | .bool b => if b then "true".toList else "false".toList
  | .number n => n.chars
  | .string s => quote s
  | .array items => '[' :: compactItems items ++ [']']
  | .object members => '\x7b' :: compactMembers members ++ ['\x7d']

/-- The items of an array with commas between them. -/
def compactItems : List Json → List Char
  | [] => []
  | [item] => compactChars item
  | item :: rest => compactChars item ++ ',' :: compactItems rest

/-- The members of an object with commas between them. -/
def compactMembers : List (Text × Json) → List Char
  | [] => []
  | [(key, value)] => quote key ++ ':' :: compactChars value
  | (key, value) :: rest => quote key ++ ':' :: compactChars value ++ ',' :: compactMembers rest

end

/-- A new line with the indentation of a level. -/
def newLine (level : Nat) : List Char :=
  '\n' :: List.replicate (2 * level) ' '

mutual

/-- The characters of a value that stands at a level of indentation. -/
def prettyChars (level : Nat) : Json → List Char
  | .array (item :: rest) =>
    '[' :: newLine (level + 1) ++ prettyItems (level + 1) (item :: rest) ++ newLine level ++ [']']
  | .object (member :: rest) =>
    '\x7b' :: newLine (level + 1) ++ prettyMembers (level + 1) (member :: rest) ++ newLine level ++
      ['\x7d']
  | .array [] => ['[', ']']
  | .object [] => ['\x7b', '\x7d']
  | .null => "null".toList
  | .bool b => if b then "true".toList else "false".toList
  | .number n => n.chars
  | .string s => quote s

/-- The items of an array, one to a line. -/
def prettyItems (level : Nat) : List Json → List Char
  | [] => []
  | [item] => prettyChars level item
  | item :: rest => prettyChars level item ++ ',' :: newLine level ++ prettyItems level rest

/-- The members of an object, one to a line. -/
def prettyMembers (level : Nat) : List (Text × Json) → List Char
  | [] => []
  | [(key, value)] => quote key ++ ':' :: ' ' :: prettyChars level value
  | (key, value) :: rest =>
    quote key ++ ':' :: ' ' :: prettyChars level value ++ ',' :: newLine level ++
      prettyMembers level rest

end

/-- The text of a value without white space. -/
def compact (j : Json) : String :=
  String.ofList j.compactChars

/-- The text of a value over several lines. -/
def pretty (j : Json) : String :=
  String.ofList (j.prettyChars 0)

end Autopilot.Json
