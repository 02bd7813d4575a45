import Autopilot.Json.Reader

/-!
# Positions in a text

A `Cursor` is what is left of a text, with the `Position` at which it begins.  Columns count bytes.
-/

namespace Autopilot.Json

/-- A position in a text. -/
structure Position where
  /-- The number of the line, from one on. -/
  line : Nat := 1
  /-- The number of bytes before the position on its line. -/
  column : Nat := 0
deriving DecidableEq, Repr

/-- The position a number of bytes further in a text, or the end of the text.  It may lie inside a
character. -/
def Position.ahead (p : Position) : Nat → List Char → Position
  | 0, _ => p
  | _, [] => p
  | bytes + 1, c :: rest =>
    if c = '\n' then
      Position.ahead { line := p.line + 1 } bytes rest
    else if bytes + 1 ≤ c.utf8Size then
      { p with column := p.column + (bytes + 1) }
    else
      Position.ahead { p with column := p.column + c.utf8Size } (bytes + 1 - c.utf8Size) rest

/-- A text from some position on. -/
structure Cursor where
  position : Position := {}
  rest : List Char
deriving DecidableEq, Repr

namespace Cursor

/-- The position a number of bytes further, or the end of the text. -/
def ahead (c : Cursor) (bytes : Nat) : Position :=
  c.position.ahead bytes c.rest

/-- The text after its first character. -/
def tail (c : Cursor) : Cursor :=
  match c.rest with
  | [] => c
  | first :: rest => { position := c.position.ahead first.utf8Size [first], rest }

/-- The text after a number of characters. -/
def drop (c : Cursor) (count : Nat) : Cursor :=
  count.repeat tail c

/-- The text from its first character on for which a condition does not hold. -/
def dropWhile (c : Cursor) (condition : Char → Bool) : Cursor :=
  c.drop (c.rest.takeWhile condition).length

/-- The text without white space at its front. -/
def skipBlank (c : Cursor) : Cursor :=
  c.dropWhile isBlank

/-- The first character of the text. -/
def first? (c : Cursor) : Option Char :=
  c.rest.head?

end Cursor

end Autopilot.Json
