import Autopilot.Cli.Program

/-!
# The command line

`main` runs the program on the files of the machine.
-/

namespace Autopilot.Cli

/-- The reason why the machine cannot use a path. -/
def FileError.ofMachine : IO.Error → FileError
  | .noFileOrDirectory .. => .missing
  | .alreadyExists .. => .occupied
  | e => .other (toString e)

/-- Does something with a file. -/
def attempt {α : Type} (action : IO α) : IO (Except FileError α) := do
  try
    return .ok (← action)
  catch e =>
    return .error (FileError.ofMachine e)

/-- Reads the settings file that the flags name. -/
def readSettings (flags : Flags) : IO (Except FileError String) :=
  match flags.config with
  | some path => attempt (IO.FS.readFile path)
  | none => return .ok ""

/-- Writes the result of a simulation. -/
def writeResult (flags : Flags) (product : Product) : IO (Except Failure Unit) := do
  match ← attempt (IO.FS.createDirAll flags.outputDir) with
  | .error e => return .error (.makingFolder flags.outputDir e)
  | .ok () =>
    let path := flags.resultPath product
    return (← attempt (IO.FS.writeFile path product.text)).mapError (.writing path)

/-- A whole session. -/
def runSession (flags : Flags) : IO Outcome := do
  let text ← readSettings flags
  let simulation := flags.simulate fun _ => text
  match simulation.product with
  | .error ending => return { lines := simulation.lines, ending }
  | .ok product =>
    match ← writeResult flags product with
    | .error failure => return { lines := simulation.lines, ending := .failed failure }
    | .ok () =>
      return { lines := simulation.lines ++ flags.closing product, ending := .finished }

/-- What the program leaves behind after a command line. -/
def runProgram (line : List String) : IO Exit := do
  match Task.parse line with
  | .simulate line =>
    match Flags.parse line with
    | .error e => return .ofFlagError e
    | .ok flags => return .ofOutcome (← runSession flags)
  | .showSettings => return .settings
  | .help topic => return .help topic
  | .version => return .version "althold"
  | .misuse => return .misuse

end Autopilot.Cli

/-- Runs the program. -/
def main (line : List String) : IO UInt32 := do
  let exit ← Autopilot.Cli.runProgram line
  for text in exit.lines do
    IO.println text
  return exit.code.toUInt32
