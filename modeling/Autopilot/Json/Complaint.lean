import Autopilot.Json.Cursor
import Autopilot.Json.Record
import Autopilot.Text.Quoted

/-!
# Complaints about JSON

A `Complaint` says why and where a text is not the JSON value that is wanted: either its grammar is
wrong, or a value has another form.
-/

namespace Autopilot.Json

/-- A value of another form than the wanted one. -/
inductive Found where
  | null
  | bool (b : Bool)
  | integer (n : Int)
  | double (x : Float)
  | string (s : String)
  | sequence
  | map
deriving DecidableEq, Repr

/-- A value that has been found, in a message. -/
def Found.label : Found → String
  | .null => "null"
  | .bool b => if b then "boolean `true`" else "boolean `false`"
  | .integer n => "integer `" ++ (Numeral.ofInt n).text ++ "`"
  | .double x =>
    match doubleLayout.double? x with
    | some n => "floating point `" ++ n.text ++ "`"
    | none => "floating point `" ++ Layout.notFinite x.isNaN (x < 0) ++ "`"
  | .string s => "string " ++ Text.quoted s
  | .sequence => "sequence"
  | .map => "map"

/-- The reasons for a complaint. -/
inductive Cause where
  /-- The text ends inside an array. -/
  | arrayEnds
  /-- The text ends inside an object. -/
  | objectEnds
  /-- The text ends inside a string. -/
  | stringEnds
  /-- The text ends where a value is to follow, or inside a value. -/
  | valueEnds
  | colonExpected
  | itemExpected
  | memberExpected
  /-- A word begins like a value but is none. -/
  | wordExpected
  | valueExpected
  | badNumber
  /-- A number is too large for a double. -/
  | largeNumber
  | badEscape
  /-- Half of a surrogate pair stands alone. -/
  | halfPair
  /-- The second half of a surrogate pair is missing. -/
  | pairEnds
  | controlCharacter
  | keyExpected
  | trailingComma
  /-- Something follows where nothing is to follow. -/
  | trailingText
  | wrongType (found : Found) (wanted : String)
  /-- An integer lies outside its bounds. -/
  | wrongValue (found : Int) (wanted : String)
  | missing (key : String)
  | repeated (key : String)
  /-- A record ends before its last field. -/
  | tooShort (length : Nat) (wanted : String)
  /-- A name is not one of the possible names. -/
  | unknown (name : String) (names : List String)
deriving DecidableEq, Repr

/-- Names between grave accents, as a choice. -/
def choiceText (names : List String) : String :=
  match names.map fun name => "`" ++ name ++ "`" with
  | [first, second] => first ++ " or " ++ second
  | [name] => name
  | names => "one of " ++ ", ".intercalate names

/-- The text of a reason. -/
def Cause.message : Cause → String
  | .arrayEnds => "EOF while parsing a list"
  | .objectEnds => "EOF while parsing an object"
  | .stringEnds => "EOF while parsing a string"
  | .valueEnds => "EOF while parsing a value"
  | .colonExpected => "expected `:`"
  | .itemExpected => "expected `,` or `]`"
  | .memberExpected => "expected `,` or `\x7d`"
  | .wordExpected => "expected ident"
  | .valueExpected => "expected value"
  | .badNumber => "invalid number"
  | .largeNumber => "number out of range"
  | .badEscape => "invalid escape"
  | .halfPair => "lone leading surrogate in hex escape"
  | .pairEnds => "unexpected end of hex escape"
  | .controlCharacter => "control character (\\u0000-\\u001F) found while parsing a string"
  | .keyExpected => "key must be a string"
  | .trailingComma => "trailing comma"
  | .trailingText => "trailing characters"
  | .wrongType found wanted => "invalid type: " ++ found.label ++ ", expected " ++ wanted
  | .wrongValue found wanted =>
    "invalid value: " ++ (Found.integer found).label ++ ", expected " ++ wanted
  | .missing key => "missing field `" ++ key ++ "`"
  | .repeated key => "duplicate field `" ++ key ++ "`"
  | .tooShort length wanted =>
    "invalid length " ++ (Numeral.ofInt length).text ++ ", expected " ++ wanted
  | .unknown name names => "unknown variant `" ++ name ++ "`, expected " ++ choiceText names

/-- What is wrong with a text, and where. -/
structure Complaint where
  cause : Cause
  position : Position
deriving DecidableEq, Repr

/-- The text of a complaint. -/
def Complaint.message (c : Complaint) : String :=
  c.cause.message ++ " at line " ++ (Numeral.ofInt c.position.line).text ++ " column " ++
    (Numeral.ofInt c.position.column).text

end Autopilot.Json
