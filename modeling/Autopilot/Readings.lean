import Autopilot.Attitude
import Autopilot.Engagement
import Autopilot.Scalar
import Autopilot.Settings
import Autopilot.Word

/-!
# Readings

`Readings` is what the fitted sensors would answer at one moment.  The estimator takes it as a
value and reports which of the sensors it really used as a list of `SensorCall`s, in order; the
owner of the sensors then carries these calls out on them.

An `AccelWindow` collects vertical acceleration between two estimates.  Its `mean` and its
`velocityGain` are written over any `Scalar`.
-/

namespace Autopilot

/-! ### The accelerometer window -/

/-- The raw counts of an acceleration in metres per second squared. -/
def rawCounts {R : Type} [Scalar R] (countsPerGravity accel : R) : R :=
  accel / Scalar.gravity * countsPerGravity

/-- The vertical acceleration collected since the last estimate. -/
structure AccelWindow (R : Type) where
  /-- The sum of the samples in raw counts, gravity removed. -/
  sum : R
  /-- The number of samples. -/
  count : UInt32
  /-- The time that the samples cover, in microseconds. -/
  time : UInt32
deriving DecidableEq, Repr

namespace AccelWindow

variable {R : Type} [Scalar R]

/-- The window without samples. -/
def empty : AccelWindow R :=
  ⟨Scalar.ofInt 0, 0, 0⟩

/-- Adds a sample that lasts for `dt` microseconds.  The number of samples has to fit its word; the
time wraps around. -/
def push (w : AccelWindow R) (sample : R) (dt : UInt32) : Except Fault (AccelWindow R) :=
  if w.count = 4294967295 then
    .error .overflow
  else
    .ok { sum := w.sum + sample, count := w.count + 1, time := w.time + dt }

/-- The mean of the samples, zero if there are none. -/
def mean (w : AccelWindow R) : R :=
  if 0 < w.count then w.sum / Scalar.ofInt w.count.toNat else Scalar.ofInt 0

/-- The vertical speed gained during the window, in centimetres per second. -/
def velocityGain (countsPerGravity : UInt16) (w : AccelWindow R) : R :=
  w.mean * velocityPerCount countsPerGravity * Scalar.ofInt w.time.toNat

end AccelWindow

/-! ### What the sensors answer -/

/-- A barometer. -/
inductive BaroReading where
  /-- Its ground level is not yet known. -/
  | calibrating
  /-- It is ready and reads this altitude above ground, in centimetres. -/
  | ready (altitude : Int32)
deriving DecidableEq, Repr

/-- A downward ranger. -/
structure RangerReading where
  /-- The altitude in centimetres, corrected for tilt; not positive without an echo. -/
  range : Int32
  /-- The altitude up to which the ranger alone is trusted. -/
  near : Int32
  /-- The altitude from which on the ranger is not trusted. -/
  far : Int32
deriving DecidableEq, Repr

/-- An accumulator of acceleration. -/
inductive AccelReading where
  /-- There is no accelerometer behind it. -/
  | silent
  /-- It has collected this window. -/
  | window (w : AccelWindow Float32)
deriving DecidableEq, Repr

/-- The answers of the sensors that are present, and the attitude. -/
structure Readings where
  baro : Option BaroReading := none
  ranger : Option RangerReading := none
  accel : Option AccelReading := none
  attitude : Attitude := {}
deriving DecidableEq, Repr

/-- Whether the sensor of `source` is present. -/
def Readings.has (r : Readings) : Source → Bool
  | .baro => r.baro.isSome
  | .ranger => r.ranger.isSome

/-! ### What is asked of the sensors -/

/-- One use of a sensor. -/
inductive SensorCall where
  /-- One step of the ground calibration of the barometer. -/
  | calibrateBaro
  /-- One reading of barometric altitude. -/
  | readBaro
  /-- A look at the accelerometer window. -/
  | readAccel
  /-- One reading of the ranger at this cosine of the tilt. -/
  | readRanger (cosTilt : Float32)
  /-- The accelerometer window is done with, and a new one begins. -/
  | resetAccel
deriving DecidableEq, Repr

end Autopilot
