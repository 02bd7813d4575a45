import Autopilot.Decimal.Shortest
import Autopilot.Scalar

/-!
# Settings of the hold loop

`Settings` holds what a flight is tuned with: the gains of the two control axes, the treatment of
the throttle stick, the weights of the complementary filter, the scale of the accelerometer, the
airframe and the range of servo pulses.

`Settings.check` finds the first value that the loop cannot work with, as a `SettingsError`;
`velocityPerCount` is the scale between raw acceleration and vertical speed.
-/

namespace Autopilot

/-! ### Values -/

/-- Proportional, integral and derivative gain, in the 8-bit scale of the controller. -/
structure Gains where
  proportional : UInt8
  integral : UInt8
  derivative : UInt8
deriving DecidableEq, Repr

/-- The gains of the two axes. -/
structure AxisGains where
  /-- The altitude axis, of which only the proportional gain takes part. -/
  altitude : Gains := ⟨50, 0, 0⟩
  /-- The vertical speed axis. -/
  climb : Gains := ⟨55, 55, 75⟩
deriving DecidableEq, Repr

/-- What carries the controller. -/
inductive Airframe where
  | multirotor
  | fixedWing
deriving DecidableEq, Repr

/-- What the throttle stick does while altitude is held. -/
structure StickPolicy where
  /-- The distance from the baseline, in microseconds, up to which the stick counts as centred. -/
  deadband : UInt8 := 40
  /-- Whether a displaced stick drives the throttle itself.  Otherwise it asks for a climb rate. -/
  direct : Bool := true
deriving DecidableEq, Repr

/-- The weights of the accelerometer in the complementary filter. -/
structure FilterWeights where
  altitude : Float32 := 0.965
  velocity : Float32 := 0.985
deriving DecidableEq, Repr

/-- A range of servo pulses, in microseconds. -/
structure PulseRange where
  low : Int16 := 1000
  high : Int16 := 2000
deriving DecidableEq, Repr

/-- Everything that the hold loop is tuned with. -/
structure Settings where
  gains : AxisGains := {}
  stick : StickPolicy := {}
  weights : FilterWeights := {}
  /-- Raw accelerometer counts for one standard gravity. -/
  countsPerGravity : UInt16 := 512
  airframe : Airframe := .multirotor
  /-- Whether the elevator of a fixed wing works the other way round. -/
  pitchReversed : Bool := false
  pulses : PulseRange := {}
deriving DecidableEq, Repr

/-- The name of an airframe in reports. -/
def Airframe.label : Airframe → String
  | .multirotor => "Multirotor"
  | .fixedWing => "Fixed-wing"

/-! ### Checking -/

/-- The two weights of the complementary filter. -/
inductive FilterWeight where
  | altitude
  | velocity
deriving DecidableEq, Repr

/-- The key of a filter weight in a settings file. -/
def FilterWeight.key : FilterWeight → String
  | .altitude => "cf_alt"
  | .velocity => "cf_vel"

/-- The reasons why settings are refused. -/
inductive SettingsError where
  /-- A filter weight is not a number between zero and one. -/
  | weightOutOfRange (weight : FilterWeight) (value : Float32)
  /-- The accelerometer has no scale. -/
  | noAccelerometerScale
  /-- No pulse lies strictly between the ends of the range. -/
  | emptyPulseRange (low high : Int16)
deriving DecidableEq, Repr

/-- The text of an error. -/
def SettingsError.message : SettingsError → String
  | .weightOutOfRange weight value =>
    "complementary filter coefficient `" ++ weight.key ++ "` must be within [0, 1], got " ++
      Layout.sentenceSingle value
  | .noAccelerometerScale => "accelerometer scale acc_1g must be non-zero"
  | .emptyPulseRange low high =>
    "PWM range is empty (" ++ (Numeral.ofInt low.toInt).text ++ ".." ++
      (Numeral.ofInt high.toInt).text ++ ")"

/-- Whether `x` can be a filter weight: a number from zero to one. -/
def isWeight (x : Float32) : Bool :=
  x.isFinite && 0.0 ≤ x && x ≤ 1.0

/-- Accepts settings that the loop can work with, and otherwise names the first fault in them. -/
def Settings.check (s : Settings) : Except SettingsError Unit :=
  if !isWeight s.weights.altitude then
    .error (.weightOutOfRange .altitude s.weights.altitude)
  else if !isWeight s.weights.velocity then
    .error (.weightOutOfRange .velocity s.weights.velocity)
  else if s.countsPerGravity = 0 then
    .error .noAccelerometerScale
  else if s.pulses.high ≤ s.pulses.low then
    .error (.emptyPulseRange s.pulses.low s.pulses.high)
  else
    .ok ()

/-! ### The accelerometer scale -/

/-- The gain of vertical speed, in centimetres per second, for each raw count of acceleration that
lasts for one microsecond. -/
def velocityPerCount {R : Type} [Scalar R] (countsPerGravity : UInt16) : R :=
  Scalar.gravity / Scalar.ofInt countsPerGravity.toNat / Scalar.ofInt 10000

end Autopilot
