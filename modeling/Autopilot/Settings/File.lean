import Autopilot.Json.Reader
import Autopilot.Json.Record
import Autopilot.Json.Writer
import Autopilot.Settings

/-!
# Settings files

A settings file is a JSON record with a section for each group of settings.  A section that is
present has to be complete; one that is missing keeps its defaults.  `Settings.parse?` reads a file
and `Settings.toJson` gives the value that is written to one.  The filter weights are the only
numbers that are not integers, and the way to read them is a parameter of `Settings.parseWith?`.
-/

namespace Autopilot

/-! ### Reading -/

/-- Reads the three gains of an axis. -/
def Gains.ofJson? (j : Json) : Option Gains := do
  match ← j.allFields? ["p", "i", "d"] with
  | [p, i, d] => return ⟨← p.uint8?, ← i.uint8?, ← d.uint8?⟩
  | _ => none

/-- Reads the gains of both axes. -/
def AxisGains.ofJson? (j : Json) : Option AxisGains := do
  match ← j.allFields? ["alt", "vel"] with
  | [altitude, climb] => return ⟨← Gains.ofJson? altitude, ← Gains.ofJson? climb⟩
  | _ => none

/-- Reads the treatment of the throttle stick. -/
def StickPolicy.ofJson? (j : Json) : Option StickPolicy := do
  match ← j.allFields? ["alt_hold_deadband", "alt_hold_fast_change"] with
  | [deadband, direct] => return ⟨← deadband.uint8?, ← direct.bool?⟩
  | _ => none

/-- Reads the weights of the complementary filter, with a way to read a weight. -/
def FilterWeights.ofJsonWith? (weight? : Json → Option Float32) (j : Json) :
    Option FilterWeights := do
  match ← j.allFields? [FilterWeight.altitude.key, FilterWeight.velocity.key] with
  | [altitude, velocity] => return ⟨← weight? altitude, ← weight? velocity⟩
  | _ => none

/-- Reads whether the elevator of a fixed wing is reversed. -/
def pitchReversed? (j : Json) : Option Bool := do
  match ← j.allFields? ["fixedwing_althold_reversed"] with
  | [reversed] => reversed.bool?
  | _ => none

/-- Reads a range of servo pulses. -/
def PulseRange.ofJson? (j : Json) : Option PulseRange := do
  match ← j.allFields? ["min", "max"] with
  | [low, high] => return ⟨← low.int16?, ← high.int16?⟩
  | _ => none

/-- The name of an airframe in a settings file. -/
def Airframe.key : Airframe → String
  | .multirotor => "multirotor"
  | .fixedWing => "fixed_wing"

/-- Reads an airframe. -/
def Airframe.ofJson? (j : Json) : Option Airframe := do
  let name ← j.variant?
  [Airframe.multirotor, .fixedWing].find? fun airframe => airframe.key == name

/-- The value of a section, or its default if the section is missing. -/
def sectionOr {α : Type} (read : Json → Option α) (default : α) : Option Json → Option α
  | some j => read j
  | none => some default

/-- The keys of a settings file. -/
def Settings.keys : List String :=
  ["gains", "rc", "baro", "acc_1g", "airframe", "airplane", "pwm_range"]

/-- Reads settings, with a way to read a filter weight. -/
def Settings.ofJsonWith? (weight? : Json → Option Float32) (j : Json) : Option Settings := do
  let base : Settings := {}
  match ← j.someFields? Settings.keys with
  | [gains, stick, weights, counts, airframe, reversed, pulses] =>
    return {
      gains := ← sectionOr AxisGains.ofJson? base.gains gains
      stick := ← sectionOr StickPolicy.ofJson? base.stick stick
      weights := ← sectionOr (FilterWeights.ofJsonWith? weight?) base.weights weights
      countsPerGravity := ← sectionOr Json.uint16? base.countsPerGravity counts
      airframe := ← sectionOr Airframe.ofJson? base.airframe airframe
      pitchReversed := ← sectionOr pitchReversed? base.pitchReversed reversed
      pulses := ← sectionOr PulseRange.ofJson? base.pulses pulses }
  | _ => none

/-- Reads settings. -/
def Settings.ofJson? : Json → Option Settings :=
  Settings.ofJsonWith? Json.single?

/-- Reads the text of a settings file, with a way to read a filter weight. -/
def Settings.parseWith? (weight? : Json → Option Float32) (text : String) : Option Settings := do
  Settings.ofJsonWith? weight? (← Json.parse? text)

/-- Reads the text of a settings file. -/
def Settings.parse? : String → Option Settings :=
  Settings.parseWith? Json.single?

/-! ### Writing -/

/-- The value of the gains of an axis. -/
def Gains.toJson (g : Gains) : Json :=
  .fields [
    ("p", .int g.proportional.toNat), ("i", .int g.integral.toNat), ("d", .int g.derivative.toNat)]

/-- The value of settings, with a way to write the filter weights. -/
def Settings.toJsonWith (weight : Float32 → Json) (s : Settings) : Json :=
  .fields [
    ("gains", .fields [("alt", s.gains.altitude.toJson), ("vel", s.gains.climb.toJson)]),
    ("rc", .fields [
      ("alt_hold_deadband", .int s.stick.deadband.toNat),
      ("alt_hold_fast_change", .bool s.stick.direct)]),
    ("baro", .fields [
      (FilterWeight.altitude.key, weight s.weights.altitude),
      (FilterWeight.velocity.key, weight s.weights.velocity)]),
    ("acc_1g", .int s.countsPerGravity.toNat),
    ("airframe", .text s.airframe.key),
    ("airplane", .fields [("fixedwing_althold_reversed", .bool s.pitchReversed)]),
    ("pwm_range", .fields [("min", .int s.pulses.low.toInt), ("max", .int s.pulses.high.toInt)])]

/-- The value of settings in a settings file. -/
def Settings.toJson : Settings → Json :=
  Settings.toJsonWith Json.single

end Autopilot
