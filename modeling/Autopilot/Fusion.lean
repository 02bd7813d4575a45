import Autopilot.Readings
import Autopilot.Regulator

/-!
# Fusion of altitude

`Fusion` is the memory of the altitude estimator.  `Fusion.update` gives it one chance to take an
estimate: a call less than `updatePeriod` after the last one that was taken changes nothing, a call
while the barometer calibrates runs one step of the calibration, and any other call mixes the
sensors into an altitude and a vertical speed.

The accelerometer is integrated, and the barometer pulls both integrals back with the weights of the
settings.  Near the ground the ranger takes over, through `blendRanger`.  The clock counts
microseconds and wraps around; the time between two estimates is the difference of wrapped readings.
-/

namespace Autopilot

/-- Diagnostic values of the last estimate. -/
structure Telemetry where
  /-- Mean vertical acceleration, in raw counts. -/
  accel : Int16 := 0
  /-- Vertical speed from the accelerometer, before the barometer corrects it. -/
  velocity : Int16 := 0
  /-- The integrated altitude, in centimetres. -/
  height : Int16 := 0
deriving DecidableEq, Repr

namespace Telemetry

/-- The values in the order of the telemetry frame. -/
def slots (t : Telemetry) : List Int16 :=
  [t.accel, t.velocity, t.height]

/-- The telemetry frame: every value as two bytes, the low one first. -/
def bytes (t : Telemetry) : List UInt8 :=
  t.slots.flatMap fun value =>
    let bits : UInt16 := value.toUInt16
    [bits.toUInt8, (bits / 256).toUInt8]

end Telemetry

/-- The memory of the estimator and its outputs. -/
structure Fusion where
  /-- Vertical speed in centimetres per second. -/
  velocity : Float32 := 0.0
  /-- The integrated altitude in centimetres. -/
  height : Float32 := 0.0
  /-- The barometric altitude of the last estimate. -/
  lastBaro : Int32 := 0
  /-- The time of the last call that was taken. -/
  lastTime : UInt32 := 0
  /-- The mean acceleration of the last estimate. -/
  lastAccel : Float32 := 0.0
  /-- The fused altitude in centimetres. -/
  altitude : Int32 := 0
  /-- The vertical speed for display, zero when small. -/
  vario : Int32 := 0
  telemetry : Telemetry := {}
deriving DecidableEq, Repr

/-- What became of a call of the estimator. -/
inductive Estimate where
  /-- A new estimate was taken. -/
  | fresh (sample : ClimbSample)
  /-- The call came too early. -/
  | early
  /-- The barometer is calibrating. -/
  | calibrating
deriving DecidableEq, Repr

/-- The least time between two estimates, in microseconds. -/
def updatePeriod : UInt32 := 25000

/-- The largest vertical speed taken from the barometer, in centimetres per second. -/
def baroVelocityBound : Int32 := 1500

/-- The vertical speed of the barometer that is taken for none. -/
def baroVelocityBand : Int32 := 10

/-- The vertical speed that is displayed as none. -/
def varioBand : Int32 := 5

/-! ### The ranger -/

/-- A line between the two altitudes: the ranger alone at `near`, the barometer alone at `far`.
Nothing when the range is not an echo between them. -/
def blendRanger (reading : RangerReading) (baro : Int32) : Except Fault (Option Int32) := do
  let { range, near, far } := reading
  if range ≤ 0 ∨ range < near ∨ far < range then
    return none
  else if far = near then
    return some range
  else
    let above ← exact (far.toInt - range.toInt)
    let band ← exact (far.toInt - near.toInt)
    let weight := singleOfInt above.toInt / singleOfInt band.toInt
    return some <| truncate32 <|
      singleOfInt range.toInt * weight + singleOfInt baro.toInt * (1.0 - weight)

/-! ### One estimate -/

namespace Fusion

/-- The barometric altitude of an estimate, zero without a barometer. -/
def baroAltitude : Option BaroReading → Int32
  | some (.ready altitude) => altitude
  | _ => 0

/-- The window of an estimate, if there is an accelerometer. -/
def accelWindow : Option AccelReading → Option (AccelWindow Float32)
  | some (.window w) => some w
  | _ => none

/-- Integrates one window: the speed and the altitude reached, the altitude drawn towards the
barometer. -/
def integrate (s : Settings) (baro : Int32) (w : AccelWindow Float32) (f : Fusion) : Fusion :=
  let seconds := singleOfInt w.time.toNat * 1e-6
  let gain := w.velocityGain s.countsPerGravity
  let height := f.height + (gain * 0.5 * seconds + f.velocity * seconds)
  let weight := s.weights.altitude
  { f with
    height := height * weight + singleOfInt baro.toInt * (1.0 - weight)
    velocity := f.velocity + gain }

/-- The vertical speed of the barometer over `elapsed` microseconds. -/
def baroVelocity (before baro : Int32) (elapsed : UInt32) : Except Fault Int32 := do
  let rise := Int32.ofIntClamp (baro.toInt - before.toInt)
  let speed := truncate32 (singleOfInt rise.toInt * 1000000.0 / singleOfInt elapsed.toNat)
  deadband (← limit speed baroVelocityBound) baroVelocityBand

/-- The altitude of an estimate without the ranger: the integrated one, else that of the barometer,
else the last one. -/
def coarseAltitude (r : Readings) (f : Fusion) : Int32 :=
  match accelWindow r.accel, r.baro with
  | some _, _ => truncate32 f.height
  | none, some _ => baroAltitude r.baro
  | none, none => f.altitude

/-- The sensors that an estimate uses, in order. -/
def freshCalls (r : Readings) : List SensorCall :=
  (r.baro.map fun _ => .readBaro).toList ++ (r.accel.map fun _ => .readAccel).toList ++
    (r.ranger.map fun _ => .readRanger r.attitude.cosTilt).toList ++
    (r.accel.map fun _ => .resetAccel).toList

/-- Takes an estimate from the readings. -/
def estimate (s : Settings) (now : UInt32) (r : Readings) (f : Fusion) :
    Except Fault (ClimbSample × Fusion) := do
  let baro := baroAltitude r.baro
  let window := accelWindow r.accel
  let accel := match window with
    | some w => w.mean
    | none => 0.0
  let integrated := match window with
    | some w => f.integrate s baro w
    | none => f
  let coarse := integrated.coarseAltitude r
  let altitude ← match r.ranger with
    | some reading => (·.getD coarse) <$> blendRanger reading baro
    | none => pure coarse
  let baroVelocity ← match r.baro with
    | some _ => baroVelocity f.lastBaro baro (now - f.lastTime)
    | none => pure 0
  let weight := s.weights.velocity
  let velocity := integrated.velocity * weight + singleOfInt baroVelocity.toInt * (1.0 - weight)
  let rounded := roundEven32 velocity
  let vario ← deadband rounded varioBand
  let sample := { velocity := rounded, accel, accelBefore := f.lastAccel }
  return (sample, {
    velocity
    height := integrated.height
    lastBaro := if r.baro.isSome then baro else f.lastBaro
    lastTime := now
    lastAccel := accel
    altitude
    vario
    telemetry := {
      accel := truncate16 accel
      velocity := truncate16 integrated.velocity
      height := truncate16 integrated.height } })

/-- The result of one call of the estimator. -/
structure Update where
  estimate : Estimate
  fusion : Fusion
  calls : List SensorCall
deriving DecidableEq, Repr

/-- Whether it is too early for an estimate at `now`. -/
def isEarly (f : Fusion) (now : UInt32) : Bool :=
  now - f.lastTime < updatePeriod

/-- Gives the estimator a chance to take an estimate at `now`. -/
def update (s : Settings) (now : UInt32) (r : Readings) (f : Fusion) : Except Fault Update := do
  if f.isEarly now then
    return ⟨.early, f, []⟩
  else if r.baro = some .calibrating then
    let reset := (r.accel.map fun _ => .resetAccel).toList
    return ⟨.calibrating, { f with velocity := 0.0, height := 0.0, lastTime := now },
      .calibrateBaro :: reset⟩
  else
    let (sample, next) ← f.estimate s now r
    return ⟨.fresh sample, next, freshCalls r⟩

end Fusion

end Autopilot
