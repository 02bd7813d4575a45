import Autopilot.Bounds
import Autopilot.Cli.FileTree
import Autopilot.Cli.Flags
import Autopilot.Report
import Autopilot.Settings.Form

/-!
# The script that flags ask for

`Flags.script` checks the values of the flags, finds the settings, and builds the script that is to
be flown.  When that, or anything after it, does not succeed, a `Failure` says why.
-/

namespace Autopilot.Cli

/-! ### Failures -/

/-- The reasons why a session ends early. -/
inductive Failure where
  /-- A flag has a value outside its bounds. -/
  | outside (bounds : Bounds) (value : Float)
  | reading (path : String) (error : FileError)
  /-- A settings file cannot be read, with the first complaint about its text. -/
  | parsing (path : String) (complaint : Option Json.Complaint)
  | settings (error : SettingsError)
  | noSweepSteps
  | flight (error : ScriptError)
  | sweepFlight (gain : UInt8) (error : ScriptError)
  | makingFolder (path : String) (error : FileError)
  | writing (path : String) (error : FileError)
deriving Repr

/-- The text of a failure. -/
def Failure.message : Failure → String
  | .outside bounds value =>
    bounds.label ++ " must be within [" ++ Layout.sentenceDouble bounds.low ++ ", " ++
      Layout.sentenceDouble bounds.high ++ "], got " ++ Layout.sentenceDouble value
  | .reading path error => "reading " ++ path ++ ": " ++ error.message
  | .parsing path _ => "parsing " ++ path
  | .settings error => "invalid controller configuration: " ++ error.message
  | .noSweepSteps => "--sweep-steps must be at least 1"
  | .flight error => "simulation failed: " ++ error.message
  | .sweepFlight gain error =>
    "simulation failed for vel P " ++ intCell gain.toNat ++ ": " ++ error.message
  | .makingFolder path error => "creating " ++ path ++ ": " ++ error.message
  | .writing path error => "creating " ++ path ++ ": " ++ error.message

/-- The text of a failure with the complaint about a settings file. -/
def Failure.report : Failure → String
  | .parsing path (some complaint) => "parsing " ++ path ++ ": " ++ complaint.message
  | failure => failure.message

/-! ### The script of a session -/

namespace Flags

/-- Refuses a value outside its bounds. -/
def checkValue (bounds : Bounds) (value : Float) : Except Failure Unit :=
  if bounds.contains value then .ok () else .error (.outside bounds value)

/-- Refuses flags with a value outside its bounds. -/
def check (flags : Flags) : Except Failure Unit := do
  checkValue Bounds.duration flags.duration
  checkValue Bounds.holdAt flags.holdAt
  checkValue Bounds.mass flags.mass
  checkValue Bounds.maxThrust flags.maxThrust
  checkValue Bounds.drag flags.drag
  checkValue Bounds.gravity flags.gravity
  checkValue Bounds.noiseScale flags.noiseScale
  if let some m := flags.stickMove then
    checkValue Bounds.stickOffset (doubleOfInt m.offset.toInt)
  if let some b := flags.bank then
    checkValue Bounds.bank b.roll

/-- The settings from the settings file, which is found with `read`. -/
def load (flags : Flags) (read : String → Except FileError String) : Except Failure Settings :=
  match flags.config with
  | none => .ok {}
  | some path =>
    match read path with
    | .error e => .error (.reading path e)
    | .ok text =>
      match Settings.parse? text with
      | some settings => .ok settings
      | none => .error (.parsing path (Settings.complaint? text))

/-- The settings with what the flags change in them. -/
def adjust (flags : Flags) (settings : Settings) : Settings :=
  { settings with
    airframe := flags.airframe.getD settings.airframe
    stick.direct := settings.stick.direct && !flags.slowChange }

/-- The script for these settings. -/
def scriptWith (flags : Flags) (settings : Settings) : Script :=
  { Script.standard settings.airframe with
    duration := flags.duration
    holdAt := flags.holdAt
    source := flags.source
    stickMove := flags.stickMove
    bank := flags.bank
    settings
    craft := { Craft.standard with
      mass := flags.mass
      maxThrust := flags.maxThrust
      drag := flags.drag
      gravity := flags.gravity }
    fitment := {
      noiseScale := flags.noiseScale
      hasRanger := flags.ranger
      hasAccel := !flags.noAccel
      seed := flags.seed } }

/-- The script that the flags ask for. -/
def script (flags : Flags) (read : String → Except FileError String) : Except Failure Script := do
  flags.check
  let settings := flags.adjust (← flags.load read)
  settings.check.mapError .settings
  return flags.scriptWith settings

end Flags

end Autopilot.Cli
