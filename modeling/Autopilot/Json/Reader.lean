import Autopilot.Json.Value

/-!
# Reading JSON

`Json.parse?` reads a text that holds one JSON value and nothing else but white space.  The grammar
is the strict one: no comments, no trailing commas, no leading zeros, no control characters inside
a string.  Numbers of any size are accepted, and so are escapes for half of a surrogate pair.

The reader works on lists of characters, and each part of it returns the characters that are left.
-/

namespace Autopilot.Json

/-- White space between tokens. -/
def isBlank (c : Char) : Bool :=
  c == ' ' || c == '\t' || c == '\n' || c == '\r'

/-- Passes over white space. -/
def skipBlank (cs : List Char) : List Char :=
  cs.dropWhile isBlank

/-! ### Numbers -/

/-- The digits before the point: a zero alone, or digits that do not begin with zero. -/
def readWhole : List Char → Option (List Char × List Char)
  | '0' :: rest => some (['0'], rest)
  | cs =>
    match cs.takeWhile Char.isDigit with
    | [] => none
    | digits => some (digits, cs.dropWhile Char.isDigit)

/-- At least one digit. -/
def readDigits (cs : List Char) : Option (List Char × List Char) :=
  match cs.takeWhile Char.isDigit with
  | [] => none
  | digits => some (digits, cs.dropWhile Char.isDigit)

/-- The digits after a point, if there is one. -/
def readFraction : List Char → Option (Option (List Char) × List Char)
  | '.' :: rest => do
    let (digits, rest) ← readDigits rest
    return (some digits, rest)
  | cs => some (none, cs)

/-- The sign of an exponent. -/
def readSign : List Char → Bool × List Char
  | '-' :: rest => (true, rest)
  | '+' :: rest => (false, rest)
  | cs => (false, cs)

/-- The power of ten after an exponent mark, if there is one. -/
def readExponent : List Char → Option (Option Int × List Char)
  | [] => some (none, [])
  | c :: rest =>
    if c == 'e' || c == 'E' then do
      let (negative, rest) := readSign rest
      let (digits, rest) ← readDigits rest
      let size : Int := digitsValue digits
      return (some (if negative then -size else size), rest)
    else
      some (none, c :: rest)

/-- A number. -/
def readNumeral (cs : List Char) : Option (Numeral × List Char) := do
  let (negative, cs) := match cs with
    | '-' :: rest => (true, rest)
    | _ => (false, cs)
  let (whole, cs) ← readWhole cs
  let (fraction, cs) ← readFraction cs
  let (exponent, cs) ← readExponent cs
  return ({ negative, whole, fraction, exponent }, cs)

/-! ### Strings -/

/-- The value of a hexadecimal digit. -/
def hexDigit? (c : Char) : Option Nat :=
  if c.isDigit then some (c.toNat - '0'.toNat)
  else if 'a' ≤ c ∧ c ≤ 'f' then some (c.toNat - 'a'.toNat + 10)
  else if 'A' ≤ c ∧ c ≤ 'F' then some (c.toNat - 'A'.toNat + 10)
  else none

/-- The value of four hexadecimal digits. -/
def hexQuad? (a b c d : Char) : Option Nat := do
  return ((← hexDigit? a) * 16 + (← hexDigit? b)) * 256 + ((← hexDigit? c) * 16 + (← hexDigit? d))

/-- The character after a backslash, for the escapes of one character. -/
def escaped? : Char → Option Char
  | '"' => some '"'
  | '\\' => some '\\'
  | '/' => some '/'
  | 'b' => some '\x08'
  | 'f' => some '\x0c'
  | 'n' => some '\n'
  | 'r' => some '\r'
  | 't' => some '\t'
  | _ => none

/-- The codes of a string up to its closing quote, with the halves of surrogate pairs apart. -/
def readCodes : List Char → Option (List Nat × List Char)
  | [] => none
  | '"' :: rest => some ([], rest)
  | '\\' :: 'u' :: a :: b :: c :: d :: rest => do
    let code ← hexQuad? a b c d
    let (codes, rest) ← readCodes rest
    return (code :: codes, rest)
  | '\\' :: c :: rest => do
    let code ← escaped? c
    let (codes, rest) ← readCodes rest
    return (code.toNat :: codes, rest)
  | c :: rest =>
    if c < ' ' then
      none
    else do
      let (codes, rest) ← readCodes rest
      return (c.toNat :: codes, rest)

/-- Whether a code is the first half of a surrogate pair. -/
def isHighHalf (code : Nat) : Bool :=
  0xD800 ≤ code && code < 0xDC00

/-- Whether a code is the second half of a surrogate pair. -/
def isLowHalf (code : Nat) : Bool :=
  0xDC00 ≤ code && code < 0xE000

/-- The characters that a list of codes names; nothing if half of a pair stands alone. -/
def joinCodes : List Nat → Option (List Char)
  | [] => some []
  | [code] => if isHighHalf code || isLowHalf code then none else some [Char.ofNat code]
  | code :: next :: rest =>
    if isHighHalf code then
      if isLowHalf next then do
        let chars ← joinCodes rest
        return Char.ofNat (0x10000 + (code - 0xD800) * 0x400 + (next - 0xDC00)) :: chars
      else
        none
    else if isLowHalf code then
      none
    else do
      let chars ← joinCodes (next :: rest)
      return Char.ofNat code :: chars

/-- A string after its opening quote. -/
def readText (cs : List Char) : Option (Text × List Char) := do
  let (codes, rest) ← readCodes cs
  return ((joinCodes codes).map String.ofList, rest)

/-! ### Values -/

mutual

/-- A value, at the cost of one unit of fuel for every value and every item. -/
def readValue : Nat → List Char → Option (Json × List Char)
  | 0, _ => none
  | fuel + 1, cs =>
    match skipBlank cs with
    | 'n' :: 'u' :: 'l' :: 'l' :: rest => some (.null, rest)
    | 't' :: 'r' :: 'u' :: 'e' :: rest => some (.bool true, rest)
    | 'f' :: 'a' :: 'l' :: 's' :: 'e' :: rest => some (.bool false, rest)
    | '"' :: rest => do
      let (text, rest) ← readText rest
      return (.string text, rest)
    | '[' :: rest =>
      match skipBlank rest with
      | ']' :: rest => some (.array [], rest)
      | rest => readItems fuel rest []
    | '\x7b' :: rest =>
      match skipBlank rest with
      | '\x7d' :: rest => some (.object [], rest)
      | rest => readMembers fuel rest []
    | rest => do
      let (n, rest) ← readNumeral rest
      return (.number n, rest)

/-- The items of an array up to its end, after those in `before`, which are in reverse. -/
def readItems : Nat → List Char → List Json → Option (Json × List Char)
  | 0, _, _ => none
  | fuel + 1, cs, before =>
    match readValue fuel cs with
    | none => none
    | some (item, rest) =>
      match skipBlank rest with
      | ',' :: rest => readItems fuel rest (item :: before)
      | ']' :: rest => some (.array (item :: before).reverse, rest)
      | _ => none

/-- The members of an object up to its end, after those in `before`, which are in reverse. -/
def readMembers : Nat → List Char → List (Text × Json) → Option (Json × List Char)
  | 0, _, _ => none
  | fuel + 1, cs, before =>
    match skipBlank cs with
    | '"' :: rest =>
      match readText rest with
      | none => none
      | some (key, rest) =>
        match skipBlank rest with
        | ':' :: rest =>
          match readValue fuel rest with
          | none => none
          | some (value, rest) =>
            match skipBlank rest with
            | ',' :: rest => readMembers fuel rest ((key, value) :: before)
            | '\x7d' :: rest => some (.object ((key, value) :: before).reverse, rest)
            | _ => none
        | _ => none
    | _ => none

end

/-- The value that a text holds. -/
def parse? (s : String) : Option Json :=
  let cs := s.toList
  match readValue (2 * cs.length + 2) cs with
  | some (value, rest) => if (skipBlank rest).isEmpty then some value else none
  | none => none

end Autopilot.Json
