import Autopilot.Cli.Help
import Autopilot.Cli.Line
import Autopilot.Cli.Log
import Autopilot.Cli.Session
import Autopilot.Settings.File

/-!
# The program

`Task.parse` finds out from the words of the command line what the program is to do: fly a
simulation, whose flags follow, or show the settings it uses by default.  An `Exit` is what it
leaves behind: the printed lines and the exit code.
-/

namespace Autopilot.Cli

/-- What the program is to do. -/
inductive Task where
  /-- To fly a simulation with these words as its flags. -/
  | simulate (line : List String)
  /-- To show the default settings. -/
  | showSettings
  | help (topic : Help.Topic)
  | version
  /-- The command line cannot be understood. -/
  | misuse
deriving DecidableEq, Repr

namespace Task

/-- The task after the word that asks for a simulation.  Two dashes in front are left out. -/
def ofRun : List String → Task
  | "--" :: line => .simulate line
  | "--help" :: _ => .help .run
  | "-h" :: _ => .help .run
  | line => .simulate line

/-- The task after the word that asks for the settings. -/
def ofConfig : List String → Task
  | [] => .showSettings
  | ["--"] => .showSettings
  | "--help" :: _ => .help .settings
  | word :: _ => if word.startsWith "-h" then .help .settings else .misuse

/-- The task after the word that asks for help. -/
def ofHelp : List String → Task
  | [] => .help .program
  | [name] =>
    match Help.Topic.ofName? name with
    | some topic => .help topic
    | none => .misuse
  | _ => .misuse

/-- What a command line asks for. -/
def parse : List String → Task
  | [] => .misuse
  | "run" :: line => ofRun line
  | "config" :: line => ofConfig line
  | "help" :: line => ofHelp line
  | "--help" :: _ => .help .program
  | "--version" :: _ => .version
  | word :: _ =>
    if word.startsWith "-h" then .help .program
    else if word.startsWith "-V" then .version
    else .misuse

end Task

/-- What the program leaves behind. -/
structure Exit where
  lines : List String
  code : Nat
deriving DecidableEq, Repr

namespace Exit

/-- After a command line that cannot be understood. -/
def misuse : Exit where
  lines := []
  code := 2

/-- After help has been given. -/
def help (topic : Help.Topic) : Exit where
  lines := Help.lines topic
  code := 0

/-- After a program has named its version. -/
def version (program : String) : Exit where
  lines := [program ++ " 0.1.0"]
  code := 0

/-- After the default settings have been shown. -/
def settings : Exit where
  lines := (Settings.toJson {}).pretty.splitOn "\n"
  code := 0

/-- After flags that do not lead to a simulation. -/
def ofFlagError : FlagError → Exit
  | .help => help .flags
  | .version => version "althold-cli"
  | _ => misuse

/-- After a session. -/
def ofOutcome (outcome : Outcome) : Exit :=
  match outcome.ending with
  | .finished => { lines := outcome.lines, code := 0 }
  | .failed failure =>
    { lines := outcome.lines ++ Log.lines ("ERROR althold: " ++ failure.report), code := 1 }
  | .stopped _ => { lines := outcome.lines, code := 101 }

end Exit

/-- Runs the program on a tree of files. -/
def run (line : List String) (tree : FileTree) : Exit × FileTree :=
  match Task.parse line with
  | .simulate line =>
    match Flags.parse line with
    | .error e => (.ofFlagError e, tree)
    | .ok flags =>
      let (outcome, tree) := flags.run tree
      (.ofOutcome outcome, tree)
  | .showSettings => (.settings, tree)
  | .help topic => (.help topic, tree)
  | .version => (.version "althold", tree)
  | .misuse => (.misuse, tree)

end Autopilot.Cli
