/-!
# Log lines

A log message is printed as it is, apart from the characters that a terminal would obey.
`Log.lines` gives the lines of a message.
-/

namespace Autopilot.Cli.Log

/-- A character of a message.  Escape, bell, backspace, form feed and delete are spelled out with
their codes, and so are the control characters after them. -/
def plainChar (c : Char) : List Char :=
  match c with
  | '\x07' => "\\x07".toList
  | '\x08' => "\\x08".toList
  | '\x0c' => "\\x0c".toList
  | '\x1b' => "\\x1b".toList
  | '\x7f' => "\\x7f".toList
  | _ =>
    if 0x80 ≤ c.toNat ∧ c.toNat ≤ 0x9f then
      ['\\', 'u', '\x7b'] ++ Nat.toDigits 16 c.toNat ++ ['\x7d']
    else
      [c]

/-- Text split where a line ends, with a line feed or with a carriage return and a line feed. -/
def splitLines : List Char → List (List Char)
  | [] => [[]]
  | '\r' :: '\n' :: rest => [] :: splitLines rest
  | '\n' :: rest => [] :: splitLines rest
  | c :: rest =>
    match splitLines rest with
    | [] => [[c]]
    | line :: more => (c :: line) :: more

/-- The lines of a message. -/
def lines (message : String) : List String :=
  (splitLines (message.toList.flatMap plainChar)).map String.ofList

end Autopilot.Cli.Log
