import Autopilot.Cli.Value

/-!
# Flags

`Flags` is what the flags of a simulation say, with the defaults of those that are not given.
`Flags.withValue` and `Flags.withSwitch` take in one more `Flag`.
-/

namespace Autopilot.Cli

/-- The kinds of file that a simulation writes. -/
inductive Format where
  | csv
  | json
deriving DecidableEq, Repr

/-- The flags of a simulation. -/
structure Flags where
  outputDir : String := "output"
  format : Format := .csv
  /-- The path of a settings file. -/
  config : Option String := none
  duration : Float := 30.0
  holdAt : Float := 5.0
  source : Source := .baro
  airframe : Option Airframe := none
  stickMove : Option StickMove := none
  bank : Option Bank := none
  /-- Whether a displaced stick asks for a climb rate. -/
  slowChange : Bool := false
  mass : Float := 1.0
  maxThrust : Float := 19.6133
  drag : Float := 0.3
  gravity : Float := 9.80665
  seed : UInt64 := 42
  noiseScale : Float := 1.0
  /-- Whether a ranger is fitted. -/
  ranger : Bool := false
  /-- Whether the accelerometer is left out. -/
  noAccel : Bool := false
  /-- The first and the last gain of a sweep. -/
  sweep : Option (UInt8 × UInt8) := none
  sweepSteps : Nat := 5
deriving DecidableEq, Repr

/-- The name of a flag. -/
inductive Flag where
  | outputDir
  | format
  | config
  | duration
  | holdAt
  | source
  | airframe
  | stickMove
  | bank
  | slowChange
  | mass
  | maxThrust
  | drag
  | gravity
  | seed
  | noiseScale
  | ranger
  | noAccel
  | sweep
  | sweepSteps
  | help
  | version
deriving DecidableEq, Repr

namespace Flag

/-- The flag with a long name. -/
def ofName? : String → Option Flag
  | "output-dir" => some .outputDir
  | "format" => some .format
  | "config" => some .config
  | "duration" => some .duration
  | "hold-at" => some .holdAt
  | "source" => some .source
  | "airframe" => some .airframe
  | "stick-excursion" => some .stickMove
  | "tilt-excursion" => some .bank
  | "slow-change" => some .slowChange
  | "mass" => some .mass
  | "max-thrust" => some .maxThrust
  | "drag-coeff" => some .drag
  | "gravity" => some .gravity
  | "seed" => some .seed
  | "noise-scale" => some .noiseScale
  | "ranger" => some .ranger
  | "no-accel" => some .noAccel
  | "sweep-vel-p" => some .sweep
  | "sweep-steps" => some .sweepSteps
  | "help" => some .help
  | "version" => some .version
  | _ => none

/-- The flag with a short name. -/
def ofLetter? : Char → Option Flag
  | 'o' => some .outputDir
  | 'f' => some .format
  | 'c' => some .config
  | 'h' => some .help
  | 'V' => some .version
  | _ => none

/-- Whether a flag takes a value. -/
def takesValue : Flag → Bool
  | .slowChange | .ranger | .noAccel | .help | .version => false
  | _ => true

end Flag

/-- The names of the formats. -/
def formats : List (String × Format) :=
  [("csv", .csv), ("json", .json)]

/-- The names of the sources. -/
def sources : List (String × Source) :=
  [("baro", .baro), ("ranger", .ranger)]

/-- The names of the airframes. -/
def airframes : List (String × Airframe) :=
  [("multirotor", .multirotor), ("fixed-wing", .fixedWing)]

/-- The flags with the value of one of them. -/
def Flags.withValue (flags : Flags) (flag : Flag) (value : String) : Except FlagError Flags := do
  match flag with
  | .outputDir => return { flags with outputDir := ← Value.path value }
  | .format => return { flags with format := ← Value.choice formats value }
  | .config => return { flags with config := ← Value.path value }
  | .duration => return { flags with duration := ← Value.double value }
  | .holdAt => return { flags with holdAt := ← Value.double value }
  | .source => return { flags with source := ← Value.choice sources value }
  | .airframe => return { flags with airframe := ← Value.choice airframes value }
  | .stickMove => return { flags with stickMove := ← Value.stickMove value }
  | .bank => return { flags with bank := ← Value.bank value }
  | .mass => return { flags with mass := ← Value.double value }
  | .maxThrust => return { flags with maxThrust := ← Value.double value }
  | .drag => return { flags with drag := ← Value.double value }
  | .gravity => return { flags with gravity := ← Value.double value }
  | .seed => return { flags with seed := (← Value.natural UInt64.size value).toUInt64 }
  | .noiseScale => return { flags with noiseScale := ← Value.double value }
  | .sweep => return { flags with sweep := ← Value.gains value }
  | .sweepSteps => return { flags with sweepSteps := ← Value.natural UInt64.size value }
  | .slowChange | .ranger | .noAccel | .help | .version => throw .excessValue

/-- The flags with a switch turned on. -/
def Flags.withSwitch (flags : Flags) : Flag → Except FlagError Flags
  | .slowChange => .ok { flags with slowChange := true }
  | .ranger => .ok { flags with ranger := true }
  | .noAccel => .ok { flags with noAccel := true }
  | .help => .error .help
  | .version => .error .version
  | _ => .error .badValue

end Autopilot.Cli
