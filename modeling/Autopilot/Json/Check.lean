import Autopilot.Json.Complaint

/-!
# Checks of JSON values

A `Check` passes over one value of a text that has the form it wants, or complains.  There are
checks for values of any form (`Check.anything`), for integers, floats and truth values, for names
out of a choice, and for records, which are built from the checks of their fields.
`Check.complaint?` is the first complaint about a whole text.

A complaint is made as soon as the text read so far cannot go on in the wanted form.  A check
therefore tells more than a reader of values: of two faults it names the one that comes first.
-/

namespace Autopilot.Json

/-- A check of the value at the front of a text.  It gives the text after the value. -/
abbrev Check : Type :=
  Cursor → Except Complaint Cursor

namespace Cursor

/-- Complains about the first character of the text, or about its end. -/
def complain {α : Type} (c : Cursor) (cause : Cause) : Except Complaint α :=
  .error { cause, position := c.ahead 1 }

/-- Complains about what stands before the text. -/
def reject {α : Type} (c : Cursor) (cause : Cause) : Except Complaint α :=
  .error { cause, position := c.position }

/-- Passes over a character that has to come first, after white space. -/
def expect (c : Cursor) (char : Char) (otherwise atEnd : Cause) : Except Complaint Cursor :=
  let c := c.skipBlank
  match c.first? with
  | none => c.complain atEnd
  | some first => if first = char then .ok c.tail else c.complain otherwise

end Cursor

namespace Check

/-! ### Words and numbers -/

/-- Passes over the letters of a word. -/
def letters : List Char → Check
  | [], c => .ok c
  | letter :: rest, c =>
    match c.first? with
    | none => c.complain .valueEnds
    | some first => if first = letter then letters rest c.tail else c.complain .wordExpected

/-- Passes over a word whose first letter has been seen. -/
def word (text : String) : Check :=
  fun c => letters (text.toList.drop 1) c.tail

/-- Takes the digits at the front of a text. -/
def digits (c : Cursor) : List Char × Cursor :=
  (c.rest.takeWhile Char.isDigit, c.dropWhile Char.isDigit)

/-- Takes at least one digit from the front of a text. -/
def someDigits (atEnd : Cause) (c : Cursor) : Except Complaint (List Char × Cursor) :=
  match c.first? with
  | none => c.complain atEnd
  | some first => if first.isDigit then .ok (digits c) else c.complain .badNumber

/-- Takes the digits before a point. -/
def wholeDigits (atEnd : Cause) (c : Cursor) : Except Complaint (List Char × Cursor) := do
  if c.first? = some '0' then
    let rest := c.tail
    if (rest.first?.map Char.isDigit).getD false then rest.complain .badNumber
    else return (['0'], rest)
  else
    someDigits atEnd c

/-- Takes a point and the digits after it. -/
def fractionDigits (atEnd : Cause) (c : Cursor) :
    Except Complaint (Option (List Char) × Cursor) := do
  if c.first? = some '.' then
    let (fraction, c) ← someDigits atEnd c.tail
    return (some fraction, c)
  else
    return (none, c)

/-- The greatest size of an exponent that can be added up. -/
def mostExponent : Nat :=
  2147483647

/-- The number of digits after which the size of an exponent leaves its bound, if it does. -/
def digitsTooMany (before : Nat) : List Char → Option Nat
  | [] => none
  | digit :: rest =>
    let size := 10 * before + (digit.toNat - '0'.toNat)
    if mostExponent < size then some 1 else (digitsTooMany size rest).map (· + 1)

/-- Takes an exponent.  If it belongs to a number other than zero it must not be too large. -/
def exponentDigits (atEnd : Cause) (isZero : Bool) (c : Cursor) :
    Except Complaint (Option Int × Cursor) := do
  if c.first? = some 'e' ∨ c.first? = some 'E' then
    let (negative, sign) := match c.tail.first? with
      | some '-' => (true, 1)
      | some '+' => (false, 1)
      | _ => (false, 0)
    let start := c.tail.drop sign
    let (size, c) ← someDigits atEnd start
    match digitsTooMany 0 size with
    | some count => if !negative && !isZero then (start.drop count).reject .largeNumber
    | none => pure ()
    let size : Int := digitsValue size
    return (some (if negative then -size else size), c)
  else
    return (none, c)

/-- Takes a number whose first character has been seen. -/
def numeral (atEnd : Cause) (bounded : Bool) (c : Cursor) :
    Except Complaint (Numeral × Cursor) := do
  let negative := c.first? = some '-'
  let c := if negative then c.tail else c
  let (whole, c) ← wholeDigits atEnd c
  let (fraction, c) ← fractionDigits atEnd c
  let n : Numeral := { negative, whole, fraction }
  let (exponent, c) ← exponentDigits atEnd (!bounded || n.leading.digits = 0) c
  return ({ n with exponent }, c)

/-- A number: an integer that fits a 64-bit word, or a double. -/
inductive Quantity where
  | integer (n : Int)
  | double (x : Float)
deriving DecidableEq, Repr

/-- Takes a number whose first character has been seen, with its value. -/
def quantity (c : Cursor) : Except Complaint (Quantity × Cursor) := do
  let (n, c) ← numeral .valueEnds true c
  match n.word? with
  | some value => return (.integer value, c)
  | none =>
    match n.scaled? with
    | some x => return (.double x, c)
    | none => c.reject .largeNumber

/-! ### Strings -/

/-- The number of bytes of some characters. -/
def byteCount (chars : List Char) : Nat :=
  chars.foldl (fun bytes char => bytes + char.utf8Size) 0

/-- Takes the code of four hexadecimal digits.  Four bytes are taken for them whatever they are. -/
def hexCode (c : Cursor) : Except Complaint (Nat × Cursor) :=
  if byteCount (c.rest.take 4) < 4 then
    .error { cause := .stringEnds, position := c.ahead 4 }
  else
    let code? := match c.rest with
      | a :: b :: d :: e :: _ => hexQuad? a b d e
      | _ => none
    match code? with
    | some code => .ok (code, c.drop 4)
    | none => .error { cause := .badEscape, position := c.ahead 4 }

/-- Takes the second half of a surrogate pair, and gives the character of the pair. -/
def secondHalf (high : Nat) (c : Cursor) : Except Complaint (Char × Cursor) := do
  let expectChar (char : Char) (c : Cursor) : Except Complaint Cursor :=
    match c.first? with
    | none => c.complain .stringEnds
    | some first => if first = char then .ok c.tail else c.complain .pairEnds
  let (low, c) ← hexCode (← expectChar 'u' (← expectChar '\\' c))
  if isLowHalf low then
    return (Char.ofNat (0x10000 + (high - 0xD800) * 0x400 + (low - 0xDC00)), c)
  else
    c.reject .halfPair

/-- Takes the character after a backslash. -/
def escapedChar (c : Cursor) : Except Complaint (Char × Cursor) := do
  match c.first? with
  | none => c.complain .stringEnds
  | some 'u' =>
    let (code, c) ← hexCode c.tail
    if isLowHalf code then c.reject .halfPair
    else if isHighHalf code then secondHalf code c
    else return (Char.ofNat code, c)
  | some first =>
    match escaped? first with
    | some char => return (char, c.tail)
    | none => c.complain .badEscape

/-- Takes the characters of a string after its opening quote, after those in `before`, which are in
reverse. -/
def stringFrom : Nat → List Char → Cursor → Except Complaint (String × Cursor)
  | 0, _, c => c.complain .stringEnds
  | fuel + 1, before, c =>
    match c.first? with
    | none => c.complain .stringEnds
    | some '"' => .ok (String.ofList before.reverse, c.tail)
    | some '\\' =>
      match escapedChar c.tail with
      | .error e => .error e
      | .ok (char, c) => stringFrom fuel (char :: before) c
    | some char =>
      if char < ' ' then c.complain .controlCharacter
      else stringFrom fuel (char :: before) c.tail

/-- Takes a string whose opening quote has been seen. -/
def string (c : Cursor) : Except Complaint (String × Cursor) :=
  stringFrom c.rest.length [] c.tail

/-- Passes over the character after a backslash, which may be half of a surrogate pair. -/
def anyEscape : Check := fun c => do
  match c.first? with
  | none => c.complain .stringEnds
  | some 'u' => return (← hexCode c.tail).2
  | some first => if (escaped? first).isSome then return c.tail else c.complain .badEscape

/-- Passes over the characters of a string after its opening quote, whatever they escape. -/
def anyStringFrom : Nat → Check
  | 0, c => c.complain .stringEnds
  | fuel + 1, c =>
    match c.first? with
    | none => c.complain .stringEnds
    | some '"' => .ok c.tail
    | some '\\' =>
      match anyEscape c.tail with
      | .error e => .error e
      | .ok c => anyStringFrom fuel c
    | some char =>
      if char < ' ' then c.reject .controlCharacter else anyStringFrom fuel c.tail

/-- Passes over a string whose opening quote has been seen, whatever it escapes. -/
def anyString : Check :=
  fun c => anyStringFrom c.rest.length c.tail

/-! ### Values of any form -/

mutual

/-- Passes over a value of any form, at the cost of one unit of fuel for every value, item and
member. -/
def anyValue : Nat → Check
  | 0, c => c.complain .valueEnds
  | fuel + 1, c =>
    let c := c.skipBlank
    match c.first? with
    | none => c.complain .valueEnds
    | some 'n' => word "null" c
    | some 't' => word "true" c
    | some 'f' => word "false" c
    | some '"' => anyString c
    | some '[' =>
      let c := c.tail.skipBlank
      match c.first? with
      | none => c.complain .arrayEnds
      | some ']' => .ok c.tail
      | some _ => anyItems fuel c
    | some '\x7b' =>
      let c := c.tail.skipBlank
      match c.first? with
      | none => c.complain .objectEnds
      | some '\x7d' => .ok c.tail
      | some _ => anyMembers fuel c
    | some first =>
      if first = '-' ∨ first.isDigit then
        match numeral .badNumber false c with
        | .error e => .error e
        | .ok (_, c) => .ok c
      else
        c.complain .valueExpected

/-- Passes over the items of an array and its end. -/
def anyItems : Nat → Check
  | 0, c => c.complain .arrayEnds
  | fuel + 1, c =>
    match anyValue fuel c with
    | .error e => .error e
    | .ok c =>
      let c := c.skipBlank
      match c.first? with
      | none => c.complain .arrayEnds
      | some ',' => anyItems fuel c.tail
      | some ']' => .ok c.tail
      | some _ => c.complain .itemExpected

/-- Passes over the members of an object and its end. -/
def anyMembers : Nat → Check
  | 0, c => c.complain .objectEnds
  | fuel + 1, c =>
    let c := c.skipBlank
    match c.first? with
    | none => c.complain .objectEnds
    | some '"' =>
      match anyString c with
      | .error e => .error e
      | .ok c =>
        match c.expect ':' .colonExpected .objectEnds with
        | .error e => .error e
        | .ok c =>
          match anyValue fuel c with
          | .error e => .error e
          | .ok c =>
            let c := c.skipBlank
            match c.first? with
            | none => c.complain .objectEnds
            | some ',' => anyMembers fuel c.tail
            | some '\x7d' => .ok c.tail
            | some _ => c.complain .memberExpected
    | some _ => c.complain .keyExpected

end

/-- Passes over a value of any form. -/
def anything : Check :=
  fun c => anyValue (2 * c.rest.length + 2) c

/-! ### Single values -/

/-- Complains about a value of another form than the wanted one. -/
def wrongType {α : Type} (wanted : String) (c : Cursor) : Except Complaint α := do
  match c.first? with
  | some 'n' => (← word "null" c).reject (.wrongType .null wanted)
  | some 't' => (← word "true" c).reject (.wrongType (.bool true) wanted)
  | some 'f' => (← word "false" c).reject (.wrongType (.bool false) wanted)
  | some '"' =>
    let (text, c) ← string c
    c.reject (.wrongType (.string text) wanted)
  | some '[' => c.reject (.wrongType .sequence wanted)
  | some '\x7b' => c.reject (.wrongType .map wanted)
  | some first =>
    if first = '-' ∨ first.isDigit then
      let (found, c) ← quantity c
      match found with
      | .integer n => c.reject (.wrongType (.integer n) wanted)
      | .double x => c.reject (.wrongType (.double x) wanted)
    else
      c.complain .valueExpected
  | none => c.complain .valueExpected

/-- Whether a text begins with a number. -/
def startsNumber (c : Cursor) : Bool :=
  c.first?.any fun first => first == '-' || first.isDigit

/-- A value with a certain beginning. -/
def value (wanted : String) (starts : Cursor → Bool) (check : Check) : Check := fun c =>
  let c := c.skipBlank
  if c.rest.isEmpty then c.complain .valueEnds
  else if starts c then check c
  else wrongType wanted c

/-- An integer from `low` up to `high`. -/
def integer (wanted : String) (low high : Int) : Check :=
  value wanted startsNumber fun c => do
    let (found, c) ← quantity c
    match found with
    | .integer n => if low ≤ n ∧ n ≤ high then return c else c.reject (.wrongValue n wanted)
    | .double x => c.reject (.wrongType (.double x) wanted)

/-- Any number. -/
def float (wanted : String) : Check :=
  value wanted startsNumber fun c => do return (← quantity c).2

/-- A truth value. -/
def boolean : Check :=
  value "a boolean" (fun c => c.first? = some 't' ∨ c.first? = some 'f') fun c =>
    if c.first? = some 't' then word "true" c else word "false" c

/-- Null. -/
def null : Check :=
  value "unit" (fun c => c.first? = some 'n') (word "null")

/-- One of some names. -/
def name (names : List String) : Check :=
  value "variant identifier" (fun c => c.first? = some '"') fun c => do
    let (text, c) ← string c
    if text ∈ names then return c else c.reject (.unknown text names)

/-- One of some names as the name of a variant without contents: a string, or an object with that
key alone and null under it. -/
def variant (names : List String) : Check := fun c => do
  let c := c.skipBlank
  match c.first? with
  | none => c.complain .valueEnds
  | some '"' => name names c
  | some '\x7b' =>
    let c ← (← name names c.tail).expect ':' .colonExpected .objectEnds
    let c := (← null c).skipBlank
    match c.first? with
    | none => c.reject .objectEnds
    | some '\x7d' => return c.tail
    | some _ => c.reject .valueExpected
  | some _ => c.complain .valueExpected

/-! ### Records -/

/-- The form of a record. -/
structure RecordForm where
  /-- What the record is in messages. -/
  wanted : String
  /-- The keys of the fields and the checks of their values. -/
  fields : List (String × Check)
  /-- Whether no field may be missing. -/
  complete : Bool

namespace RecordForm

/-- What the record is in a message about its length. -/
def wantedLength (r : RecordForm) : String :=
  r.wanted ++ " with " ++
    if r.fields.length = 1 then "1 element"
    else (Numeral.ofInt r.fields.length).text ++ " elements"

/-- Passes over the end of a record that is an array. -/
def arrayEnd : Check := fun c =>
  let c := c.skipBlank
  match c.first? with
  | none => c.complain .arrayEnds
  | some ']' => .ok c.tail
  | some ',' =>
    let c := c.tail.skipBlank
    if c.first? = some ']' then c.complain .trailingComma else c.complain .trailingText
  | some _ => c.complain .trailingText

/-- Passes over what stands before the item with this number; nothing if the array ends. -/
def nextItem (index : Nat) (c : Cursor) : Except Complaint (Option Cursor) := do
  let c := c.skipBlank
  match c.first? with
  | none => c.complain .arrayEnds
  | some ']' => return none
  | some first =>
    if index = 0 then
      return some c
    else if first = ',' then
      let c := c.tail.skipBlank
      match c.first? with
      | none => c.complain .valueEnds
      | some ']' => c.complain .trailingComma
      | some _ => return some c
    else
      c.complain .itemExpected

/-- Passes over the items of a record that is an array, and its end. -/
def items (r : RecordForm) : List (String × Check) → Nat → Check
  | [], _, c => arrayEnd c
  | (_, check) :: rest, index, c => do
    match ← nextItem index c with
    | some c => items r rest (index + 1) (← check c)
    | none =>
      let c ← arrayEnd c
      if r.complete then c.reject (.tooShort index r.wantedLength) else return c

/-- The text after the end of the object, if it comes next. -/
def pastEnd (c : Cursor) : Cursor :=
  let c := c.skipBlank
  if c.first? = some '\x7d' then c.tail else c

/-- Passes over the end of an object in which some keys have been seen. -/
def objectEnd (r : RecordForm) (seen : List String) : Check := fun c =>
  match r.fields.find? fun (key, _) => key ∉ seen with
  | some (key, _) => if r.complete then (pastEnd c).reject (.missing key) else .ok (pastEnd c)
  | none => .ok (pastEnd c)

/-- Passes over what stands before the next key of an object; nothing if the object ends. -/
def nextKey (isFirst : Bool) (c : Cursor) : Except Complaint (Option Cursor) := do
  let c := c.skipBlank
  match c.first? with
  | none => c.complain .objectEnds
  | some '\x7d' => return none
  | some first =>
    if isFirst then
      if first = '"' then return some c else c.complain .keyExpected
    else if first = ',' then
      let c := c.tail.skipBlank
      match c.first? with
      | none => c.complain .valueEnds
      | some '"' => return some c
      | some '\x7d' => c.complain .trailingComma
      | some _ => c.complain .keyExpected
    else
      c.complain .memberExpected

/-- Passes over the member with a key that has been read, and gives the keys that have been seen
with it. -/
def member (r : RecordForm) (seen : List String) (key : String) (c : Cursor) :
    Except Complaint (List String × Cursor) := do
  let check := r.fields.lookup key
  if check.isSome && seen.contains key then
    (pastEnd c).reject (.repeated key)
  else
    let c ← c.expect ':' .colonExpected .objectEnds
    return (key :: seen, ← check.getD anything c)

/-- Passes over the members of a record that is an object, and its end, at the cost of one unit of
fuel for every member. -/
def members (r : RecordForm) : Nat → Bool → List String → Check
  | 0, _, _, c => c.complain .objectEnds
  | fuel + 1, isFirst, seen, c => do
    match ← nextKey isFirst c with
    | none => objectEnd r seen c
    | some c =>
      let (key, c) ← string c
      let (seen, c) ← member r seen key c
      members r fuel false seen c

end RecordForm

/-- A record: an object with a member for every field, or an array of its fields in their order. -/
def record (r : RecordForm) : Check :=
  value r.wanted (fun c => c.first? = some '[' ∨ c.first? = some '\x7b') fun c =>
    if c.first? = some '[' then r.items r.fields 0 c.tail
    else r.members (c.rest.length + 1) true [] c.tail

/-! ### Whole texts -/

/-- The first complaint about a text that is to hold one value and nothing else. -/
def complaint? (check : Check) (text : String) : Option Complaint :=
  let whole : Except Complaint Unit := do
    let c := (← check { rest := text.toList }).skipBlank
    if c.rest.isEmpty then return () else c.complain .trailingText
  match whole with
  | .ok () => none
  | .error complaint => some complaint

end Check

end Autopilot.Json
