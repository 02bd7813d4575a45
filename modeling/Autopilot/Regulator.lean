import Autopilot.Attitude
import Autopilot.Settings
import Autopilot.Word

/-!
# The regulator

Two loops in cascade turn an altitude into a throttle correction.  The outer one is proportional
and asks for a climb rate (`Regulator.climbTarget`); the inner one follows that rate with a
proportional, an integral and a derivative term (`Regulator.respond`).  Everything is integer
arithmetic except for the derivative term, and every term has a bound of its own, so the correction
is bounded by their sum.

`Regulator` is the memory of both loops.  `Regulator.restart` clears it for a new hold.
-/

namespace Autopilot

/-- The vertical motion that the estimator hands on after each new estimate. -/
structure ClimbSample where
  /-- Vertical speed in centimetres per second. -/
  velocity : Int32
  /-- Mean vertical acceleration of this estimate, in raw counts. -/
  accel : Float32
  /-- Mean vertical acceleration of the estimate before, in raw counts. -/
  accelBefore : Float32
deriving DecidableEq, Repr

/-- The memory of the two control loops. -/
structure Regulator where
  /-- The altitude to hold, in centimetres. -/
  setpoint : Int32 := 0
  /-- The climb rate that the stick asks for, in centimetres per second. -/
  stickClimb : Int32 := 0
  /-- Whether the inner loop follows `stickClimb` instead of the outer loop. -/
  followsStick : Bool := false
  /-- The sum of the integral term, before scaling. -/
  integral : Int32 := 0
  /-- The correction that the last response gave. -/
  correction : Int32 := 0
deriving DecidableEq, Repr

/-! ### Scales and bounds -/

/-- The largest altitude error that counts, in centimetres. -/
def altitudeErrorBound : Int32 := 500

/-- The altitude error that is taken for none, in centimetres. -/
def altitudeErrorBand : Int32 := 10

/-- The divisor of the outer loop. -/
def altitudeScale : Int := 128

/-- The largest climb rate that the outer loop asks for, in centimetres per second. -/
def climbBound : Int32 := 300

/-- The divisor of the proportional term. -/
def proportionalScale : Int := 32

/-- The bound of the proportional term. -/
def proportionalBound : Int32 := 300

/-- The divisor of the integral term. -/
def integralScale : Int := 8192

/-- The bound of the integral sum, which is `200` after scaling. -/
def integralBound : Int32 := 8192 * 200

/-- The divisor of the derivative term. -/
def derivativeScale : Float32 := 512.0

/-- The bound of the derivative term. -/
def derivativeBound : Int32 := 150

namespace Regulator

/-- Holds at `altitude` from now on, with nothing left of the integral sum and of the last
correction. -/
def restart (r : Regulator) (altitude : Int32) : Regulator :=
  { r with setpoint := altitude, integral := 0, correction := 0 }

/-- The climb rate that brings the vehicle from `altitude` to the setpoint, or the one that the
stick asks for. -/
def climbTarget (r : Regulator) (gains : AxisGains) (altitude : Int32) : Except Fault Int32 := do
  if r.followsStick then
    return r.stickClimb
  else
    let bounded ← limit (.ofIntClamp (r.setpoint.toInt - altitude.toInt)) altitudeErrorBound
    let error ← deadband bounded altitudeErrorBand
    let product ← exact (gains.altitude.proportional.toNat * error.toInt)
    limit (.ofIntClamp (product.toInt.tdiv altitudeScale)) climbBound

/-- The derivative term before its bound. -/
def derivativeTerm (gains : AxisGains) (sample : ClimbSample) : Int32 :=
  let gain := singleOfInt gains.climb.derivative.toNat
  truncate32 (gain * (sample.accel + sample.accelBefore) / derivativeScale)

/-- Runs both loops once while thrust points down: the new integral sum and the correction. -/
def correct (r : Regulator) (gains : AxisGains) (altitude : Int32) (sample : ClimbSample) :
    Except Fault (Int32 × Int32) := do
  let target ← r.climbTarget gains altitude
  let error := Int32.ofIntClamp (target.toInt - sample.velocity.toInt)
  let push := Int32.ofIntClamp (gains.climb.proportional.toNat * error.toInt)
  let proportional ← limit (.ofIntClamp (push.toInt.tdiv proportionalScale)) proportionalBound
  let step := Int32.ofIntClamp (gains.climb.integral.toNat * error.toInt)
  let integral ← limit (.ofIntClamp (r.integral.toInt + step.toInt)) integralBound
  let sum ← exact (proportional.toInt + integral.toInt.tdiv integralScale)
  let derivative ← limit (derivativeTerm gains sample) derivativeBound
  let correction ← exact (sum.toInt - derivative.toInt)
  return (integral, correction)

/-- Answers a new estimate with a correction, which is zero while the vehicle is tilted too far. -/
def respond (r : Regulator) (gains : AxisGains) (attitude : Attitude) (altitude : Int32)
    (sample : ClimbSample) : Except Fault Regulator := do
  if attitude.thrustPointsDown then
    let (integral, correction) ← r.correct gains altitude sample
    return { r with integral := integral, correction := correction }
  else
    return { r with correction := 0 }

end Regulator

end Autopilot
