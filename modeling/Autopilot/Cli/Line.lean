import Autopilot.Cli.Flags

/-!
# Command lines

`Flags.parse` reads flags from the arguments of a command line, from left to right.  A flag that
takes a value gets the rest of its own argument, or else the next argument unless that begins with a
dash; the value is looked at when the next flag begins or the line ends.  A `FlagError` is the first
thing that is wrong with the line, or the wish for help.
-/

namespace Autopilot.Cli

/-! ### Arguments -/

/-- An argument of a command line. -/
inductive Argument where
  /-- Two dashes: no flag comes after them. -/
  | dashes
  /-- A long flag, with the value after an equals sign. -/
  | long (name : String) (value : Option String)
  /-- One or more short flags, the last of which may have its value behind it. -/
  | short (letters : List Char)
  /-- Anything else. -/
  | plain (text : String)
deriving DecidableEq, Repr

/-- What an argument is. -/
def Argument.of (text : String) : Argument :=
  match text.toList with
  | '-' :: '-' :: [] => .dashes
  | '-' :: '-' :: rest =>
    match rest.dropWhile (· != '=') with
    | _ :: value => .long (String.ofList (rest.takeWhile (· != '='))) (some (String.ofList value))
    | [] => .long (String.ofList rest) none
  | '-' :: [] => .plain text
  | '-' :: letters => .short letters
  | _ => .plain text

/-! ### Reading a command line -/

/-- How far a command line has been read. -/
structure Progress where
  flags : Flags := {}
  /-- The flags that have been given. -/
  given : List Flag := []
  /-- A flag whose value has not been looked at, and the value if it is there. -/
  pending : Option (Flag × Option String) := none
deriving DecidableEq, Repr

namespace Progress

/-- Counts a flag as given, unless it has been given before. -/
def give (p : Progress) (flag : Flag) : Except FlagError Progress :=
  if flag ∈ p.given then .error .repeated else .ok { p with given := flag :: p.given }

/-- Takes a flag with its value. -/
def option (p : Progress) (flag : Flag) (value : String) : Except FlagError Progress := do
  let p ← p.give flag
  return { p with flags := ← p.flags.withValue flag value }

/-- Looks at the value that is pending. -/
def settle (p : Progress) : Except FlagError Progress := do
  match p.pending with
  | none => return p
  | some (_, none) => throw .badValue
  | some (flag, some value) => option { p with pending := none } flag value

/-- Takes a flag without a value. -/
def switch (p : Progress) (flag : Flag) : Except FlagError Progress := do
  let p ← (← p.settle).give flag
  return { p with flags := ← p.flags.withSwitch flag }

/-- Takes a flag whose value is in the same argument, or else in the next one. -/
def attached (p : Progress) (flag : Flag) (value : Option String) : Except FlagError Progress := do
  let p ← p.settle
  match value with
  | some value => p.option flag value
  | none => return { p with pending := some (flag, none) }

/-- Takes a long flag. -/
def long (p : Progress) (name : String) (value : Option String) : Except FlagError Progress :=
  match Flag.ofName? name with
  | none => .error .unknown
  | some flag =>
    if flag.takesValue then p.attached flag value
    else if value.isSome then .error .excessValue
    else p.switch flag

/-- The value behind a short flag. -/
def behind : List Char → Option String
  | [] => none
  | '=' :: value => some (String.ofList value)
  | value => some (String.ofList value)

/-- Takes short flags. -/
def short (p : Progress) : List Char → Except FlagError Progress
  | [] => .ok p
  | letter :: rest =>
    match Flag.ofLetter? letter with
    | none => .error .unknown
    | some flag =>
      if flag.takesValue then
        p.attached flag (behind rest)
      else do
        short (← p.switch flag) rest

/-- Takes an argument that is not a flag, which has to be a value. -/
def plain (p : Progress) (text : String) : Except FlagError Progress :=
  match p.pending with
  | some (flag, none) => .ok { p with pending := some (flag, some text) }
  | _ => .error .unknown

/-- Takes the arguments of a command line. -/
def line (p : Progress) : List String → Except FlagError Progress
  | [] => p.settle
  | text :: rest => do
    match Argument.of text with
    | .dashes => if rest.isEmpty then p.settle else throw .unknown
    | .long name value => line (← p.long name value) rest
    | .short letters => line (← p.short letters) rest
    | .plain text => line (← p.plain text) rest

end Progress

/-- Reads the flags of a command line. -/
def Flags.parse (arguments : List String) : Except FlagError Flags := do
  return (← Progress.line {} arguments).flags

end Autopilot.Cli
