import Autopilot.Command
import Autopilot.Scalar

/-!
# The vehicle

`Craft` holds the constants of a vehicle and `Motion` its vertical motion.  `Craft.advance` moves
it on by one time step of the classical Runge–Kutta method of order four.  Everything is written
over any `Scalar`.

A multirotor is lifted by its thrust against drag and gravity.  A fixed wing follows the climb rate
of its flight path with a lag.  The ground carries a vehicle that would sink into it: inside a step
no downward acceleration acts on it, and a step that still ends below the ground ends on it
instead.
-/

namespace Autopilot

/-- The constants of a vehicle. -/
structure Craft (R : Type) where
  /-- Mass in kilograms. -/
  mass : R
  /-- The thrust of all motors at full throttle, in newtons. -/
  maxThrust : R
  /-- Drag in newtons for each metre per second of vertical speed. -/
  drag : R
  /-- The throttle pulse of idle motors. -/
  idlePulse : R
  /-- The throttle pulse of full thrust. -/
  fullPulse : R
  /-- Airspeed of a fixed wing in metres per second. -/
  airspeed : R
  /-- Degrees of pitch for each unit of the pitch command. -/
  pitchPerUnit : R
  /-- The time constant of the climb rate of a fixed wing, in seconds. -/
  climbLag : R
  /-- Gravity in metres per second squared. -/
  gravity : R
deriving DecidableEq, Repr

/-- The vertical motion of a vehicle. -/
structure Motion (R : Type) where
  /-- Seconds since the start. -/
  time : R
  /-- Metres above the ground. -/
  altitude : R
  /-- Metres per second, upwards. -/
  velocity : R
  /-- Mean acceleration of the last step in metres per second squared, upwards. -/
  accel : R
deriving DecidableEq, Repr

/-- The rates of change of altitude and velocity. -/
structure Slope (R : Type) where
  altitude : R
  velocity : R
deriving DecidableEq, Repr

variable {R : Type} [Scalar R]

/-- At rest on the ground. -/
def Motion.rest : Motion R :=
  ⟨Scalar.ofInt 0, Scalar.ofInt 0, Scalar.ofInt 0, Scalar.ofInt 0⟩

namespace Craft

open Scalar

/-- The thrust of a throttle command, linear between idle and full. -/
@[specialize] def thrust (c : Craft R) (throttle : Int16) : R :=
  let span := c.fullPulse - c.idlePulse
  if span ≤ ofInt 0 then
    ofInt 0
  else
    unit ((ofInt throttle.toInt - c.idlePulse) / span) * c.maxThrust

/-- The vertical acceleration in free air at a vertical speed. -/
@[specialize] def freeAccel (c : Craft R) (airframe : Airframe) (command : Command)
    (cosTilt velocity : R) : R :=
  match airframe with
  | .multirotor =>
    (c.thrust command.throttle * nonneg cosTilt - c.drag * velocity) / c.mass - c.gravity
  | .fixedWing =>
    let pitch := ofInt command.pitch.toInt * c.pitchPerUnit * degree
    (c.airspeed * sin pitch - velocity) / c.climbLag

/-- The slope of the motion, with the reaction of the ground. -/
@[specialize] def slope (c : Craft R) (airframe : Airframe) (command : Command)
    (cosTilt altitude velocity : R) : Slope R :=
  let accel := c.freeAccel airframe command cosTilt velocity
  if altitude ≤ ofInt 0 ∧ velocity ≤ ofInt 0 ∧ accel < ofInt 0 then
    ⟨velocity, ofInt 0⟩
  else
    ⟨velocity, accel⟩

/-- The weighted sum of the four slopes of a step. -/
@[specialize] def blendSlopes (a b c d : R) : R :=
  a + b * ofInt 2 + c * ofInt 2 + d

/-- Moves the vehicle on by `dt` seconds. -/
@[specialize] def advance (c : Craft R) (airframe : Airframe) (command : Command) (cosTilt dt : R)
    (m : Motion R) : Motion R :=
  let half : R := ofInt 1 / ofInt 2
  let slope := c.slope airframe command cosTilt
  let k₁ := slope m.altitude m.velocity
  let k₂ := slope (m.altitude + k₁.altitude * dt * half) (m.velocity + k₁.velocity * dt * half)
  let k₃ := slope (m.altitude + k₂.altitude * dt * half) (m.velocity + k₂.velocity * dt * half)
  let k₄ := slope (m.altitude + k₃.altitude * dt) (m.velocity + k₃.velocity * dt)
  let sixth := dt / ofInt 6
  let altitude := m.altitude + blendSlopes k₁.altitude k₂.altitude k₃.altitude k₄.altitude * sixth
  let velocity := m.velocity + blendSlopes k₁.velocity k₂.velocity k₃.velocity k₄.velocity * sixth
  let below : Bool := altitude < ofInt 0
  let altitude := if below then ofInt 0 else altitude
  let velocity := if below then nonneg velocity else velocity
  { time := m.time + dt
    altitude
    velocity
    accel := if ofInt 0 < dt then (velocity - m.velocity) / dt else ofInt 0 }

end Craft

/-- A quadrotor of one kilogram that hovers at half throttle, and a slow glider. -/
def Craft.standard : Craft Float where
  mass := 1.0
  maxThrust := 2.0 * Scalar.gravity
  drag := 0.3
  idlePulse := 1000.0
  fullPulse := 2000.0
  airspeed := 12.0
  pitchPerUnit := 0.02
  climbLag := 0.5
  gravity := Scalar.gravity

/-- The throttle at which level thrust carries the weight. -/
def Craft.hoverThrottle (c : Craft Float) : Int16 :=
  let fraction :=
    if 0.0 < c.maxThrust then Scalar.unit (c.mass * c.gravity / c.maxThrust) else 1.0
  .ofIntClamp (roundAway (c.idlePulse + fraction * (c.fullPulse - c.idlePulse)))

end Autopilot
