import Autopilot.Noise.Normal
import Autopilot.Quaternion
import Autopilot.Readings
import Autopilot.Word

/-!
# Simulated instruments

`Fitment` says which sensors a vehicle has and how good they are.  Each of `Barometer`,
`RangeFinder` and `Accelerometer` knows the truth about the vehicle and answers with noise of its
own.

`Instruments.readings` gives what the fitted sensors would answer now, and `Instruments.settle`
moves an instrument on after a use that the hold loop has made of it.
-/

namespace Autopilot

/-! ### The fitment -/

/-- The sensors that have noise. -/
inductive Sensor where
  | barometer
  | ranger
  | accelerometer
deriving DecidableEq, Repr

/-- The name of a sensor in messages. -/
def Sensor.label : Sensor → String
  | .barometer => "barometer"
  | .ranger => "ranger"
  | .accelerometer => "accelerometer"

/-- The sensors of a vehicle. -/
structure Fitment where
  /-- A factor for all noise. -/
  noiseScale : Float := 1.0
  /-- The deviation of the barometer, in centimetres. -/
  baroNoise : Float := 15.0
  /-- The deviation of the ranger, in centimetres. -/
  rangerNoise : Float := 1.0
  /-- The deviation of the accelerometer, in metres per second squared. -/
  accelNoise : Float := 0.05
  /-- The steps that the barometer needs to find the ground level. -/
  calibrationSteps : UInt32 := 20
  /-- The reach of the ranger, in centimetres. -/
  rangerReach : Int32 := 400
  /-- The tilt up to which the ranger works, in degrees. -/
  rangerCone : Float := 22.5
  hasBaro : Bool := true
  hasRanger : Bool := false
  hasAccel : Bool := true
  /-- The seed of all noise. -/
  seed : UInt64 := 42
deriving DecidableEq, Repr

/-- The deviation of the noise of a sensor. -/
def Fitment.deviation (f : Fitment) : Sensor → Float
  | .barometer => f.baroNoise * f.noiseScale
  | .ranger => f.rangerNoise * f.noiseScale
  | .accelerometer => f.accelNoise * f.noiseScale

/-- The seed of the noise of a sensor. -/
def Fitment.sensorSeed (f : Fitment) : Sensor → UInt64
  | .barometer => f.seed
  | .ranger => f.seed + 1
  | .accelerometer => f.seed + 2

/-- Whether the sensor of a source is fitted. -/
def Fitment.has (f : Fitment) : Source → Bool
  | .baro => f.hasBaro
  | .ranger => f.hasRanger

/-- The sensors that are fitted, without anything that they would answer. -/
def Fitment.unread (f : Fitment) : Readings where
  baro := if f.hasBaro then some .calibrating else none
  ranger := if f.hasRanger then some ⟨0, 0, 0⟩ else none
  accel := if f.hasAccel then some .silent else none

/-- The noise of a sensor; the sensor itself if its deviation is not finite. -/
def Fitment.noise (f : Fitment) (sensor : Sensor) : Except Sensor NoiseSource :=
  if (f.deviation sensor).isFinite then
    .ok { deviation := f.deviation sensor, stream := .ofSeed (f.sensorSeed sensor) }
  else
    .error sensor

/-! ### The barometer -/

/-- An altimeter that counts from where it was calibrated. -/
structure Barometer where
  noise : NoiseSource
  /-- The calibration steps still to do. -/
  stepsLeft : UInt32
  /-- The true altitude in centimetres. -/
  truth : Float
deriving DecidableEq, Repr

namespace Barometer

/-- A barometer on the ground. -/
def ofFitment (f : Fitment) : Except Sensor Barometer := do
  return { noise := ← f.noise .barometer, stepsLeft := f.calibrationSteps, truth := 0.0 }

/-- The barometer at an altitude in metres. -/
def moveTo (b : Barometer) (altitude : Float) : Barometer :=
  { b with truth := altitude * 100.0 }

/-- Whether the ground level is known. -/
def isCalibrated (b : Barometer) : Bool :=
  b.stepsLeft = 0

/-- The barometer after one step of calibration. -/
def calibrate (b : Barometer) : Barometer :=
  { b with stepsLeft := if b.stepsLeft = 0 then 0 else b.stepsLeft - 1 }

/-- An altitude in centimetres, and the barometer after the reading. -/
def read (b : Barometer) : Int32 × Barometer :=
  let (noise, source) := b.noise.draw
  (.ofIntClamp (roundAway (b.truth + noise)), { b with noise := source })

end Barometer

/-! ### The ranger -/

/-- A downward echo sounder, blind beyond its reach and when it is tilted out of its cone. -/
structure RangeFinder where
  noise : NoiseSource
  reach : Int32
  /-- The cosine of the largest tilt. -/
  coneCos : Float
  /-- The true altitude in centimetres. -/
  truth : Float
deriving DecidableEq, Repr

namespace RangeFinder

/-- The reading without an echo. -/
def noEcho : Int32 := -1

/-- A ranger on the ground. -/
def ofFitment (f : Fitment) : Except Sensor RangeFinder := do
  return {
    noise := ← f.noise .ranger
    reach := f.rangerReach
    coneCos := (radians f.rangerCone).cos
    truth := 0.0 }

/-- The ranger at an altitude in metres. -/
def moveTo (r : RangeFinder) (altitude : Float) : RangeFinder :=
  { r with truth := altitude * 100.0 }

/-- An altitude in centimetres at a cosine of the tilt, and the ranger after the reading.  The echo
runs along the axis of the vehicle, so its length is brought back to the vertical. -/
def read (r : RangeFinder) (cosTilt : Float32) : Int32 × RangeFinder :=
  let cosTilt := widen cosTilt
  if cosTilt ≤ r.coneCos then
    (noEcho, r)
  else
    let (noise, source) := r.noise.draw
    let distance := r.truth / cosTilt + noise
    let r := { r with noise := source }
    if distance < 0.0 ∨ doubleOfInt r.reach.toInt < distance then
      (noEcho, r)
    else
      (truncate32Wide (distance * cosTilt), r)

/-- The greatest altitude that is in reach at the largest tilt. -/
def far (r : RangeFinder) : Int32 :=
  truncate32Wide (doubleOfInt r.reach.toInt * r.coneCos)

/-- The altitude up to which the ranger alone is trusted: half of the greatest. -/
def near (r : RangeFinder) : Int32 :=
  .ofIntClamp (r.far.toInt.tdiv 2)

end RangeFinder

/-! ### The accelerometer -/

/-- An accumulator of vertical acceleration. -/
structure Accelerometer where
  noise : NoiseSource
  countsPerGravity : Float
  window : AccelWindow Float32
deriving DecidableEq, Repr

namespace Accelerometer

/-- An accelerometer with an empty window. -/
def ofFitment (f : Fitment) (countsPerGravity : UInt16) : Except Sensor Accelerometer := do
  return {
    noise := ← f.noise .accelerometer
    countsPerGravity := doubleOfInt countsPerGravity.toNat
    window := .empty }

/-- Adds a sample of acceleration, in metres per second squared, that lasts `dt` microseconds. -/
def push (a : Accelerometer) (accel : Float) (dt : UInt32) : Except Fault Accelerometer := do
  let (noise, source) := a.noise.draw
  let sample := narrow (rawCounts a.countsPerGravity (accel + noise))
  return { a with noise := source, window := ← a.window.push sample dt }

/-- Begins a new window. -/
def reset (a : Accelerometer) : Accelerometer :=
  { a with window := .empty }

end Accelerometer

/-! ### All instruments -/

/-- The instruments of a vehicle, fitted or not. -/
structure Instruments where
  baro : Barometer
  ranger : RangeFinder
  accel : Accelerometer
deriving DecidableEq, Repr

namespace Instruments

/-- Instruments on the ground. -/
def ofFitment (f : Fitment) (countsPerGravity : UInt16) : Except Sensor Instruments := do
  return {
    baro := ← Barometer.ofFitment f
    ranger := ← RangeFinder.ofFitment f
    accel := ← Accelerometer.ofFitment f countsPerGravity }

/-- Tells the instruments the altitude in metres, and the acceleration that lasted for `dt`
microseconds. -/
def follow (s : Instruments) (altitude accel : Float) (dt : UInt32) : Except Fault Instruments := do
  return {
    baro := s.baro.moveTo altitude
    ranger := s.ranger.moveTo altitude
    accel := ← s.accel.push accel dt }

/-- What the barometer would answer. -/
def baroReading (s : Instruments) : BaroReading :=
  if s.baro.isCalibrated then .ready s.baro.read.1 else .calibrating

/-- What the ranger would answer at a cosine of the tilt. -/
def rangerReading (s : Instruments) (cosTilt : Float32) : RangerReading where
  range := (s.ranger.read cosTilt).1
  near := s.ranger.near
  far := s.ranger.far

/-- What the fitted instruments would answer. -/
def readings (s : Instruments) (f : Fitment) (attitude : Attitude) : Readings where
  baro := if f.hasBaro then some s.baroReading else none
  ranger := if f.hasRanger then some (s.rangerReading attitude.cosTilt) else none
  accel := if f.hasAccel then some (.window s.accel.window) else none
  attitude := attitude

/-- The instruments after one use. -/
def settle (s : Instruments) : SensorCall → Instruments
  | .calibrateBaro => { s with baro := s.baro.calibrate }
  | .readBaro => { s with baro := s.baro.read.2 }
  | .readAccel => s
  | .readRanger cosTilt => { s with ranger := (s.ranger.read cosTilt).2 }
  | .resetAccel => { s with accel := s.accel.reset }

/-- The instruments after several uses. -/
def settleAll (s : Instruments) (calls : List SensorCall) : Instruments :=
  calls.foldl settle s

end Instruments

end Autopilot
