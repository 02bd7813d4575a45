import Autopilot.Regulator

/-!
# Commands

A correction reaches the vehicle as a throttle pulse on a multirotor and as a pitch command on a
fixed wing.  On a multirotor the pilot can still use the throttle stick: `StickReference` remembers
where the stick was when the hold began and whether it has left that position since.

`StickReference.direct` and `StickReference.rate` are the two treatments of a displaced stick,
`steer` is the fixed wing, and `command` chooses between them.
-/

namespace Autopilot

/-- The raw positions of the sticks, in microseconds. -/
structure Stick where
  throttle : Int16
  pitch : Int16
deriving DecidableEq, Repr

/-- The commands for the mixer. -/
structure Command where
  throttle : Int16
  pitch : Int16
deriving DecidableEq, Repr

/-- The throttle stick relative to where the hold found it. -/
structure StickReference where
  /-- The throttle position when the hold began. -/
  baseline : Int16 := 0
  /-- Whether the stick has been displaced and is not yet back. -/
  displaced : Bool := false
deriving DecidableEq, Repr

/-- A throttle pulse inside the range of pulses. -/
def PulseRange.clamp (range : PulseRange) (pulse : Int32) : Except Fault Int16 := do
  let inside ← between (.ofIntClamp range.low.toInt) (.ofIntClamp range.high.toInt) pulse
  return .ofIntClamp inside.toInt

namespace StickReference

/-- Takes `throttle` for the new baseline. -/
def restart (ref : StickReference) (throttle : Int16) : StickReference :=
  { ref with baseline := throttle }

/-- The distance of the throttle stick from the baseline. -/
def deviation (ref : StickReference) (stick : Stick) : Int :=
  stick.throttle.toInt - ref.baseline.toInt

/-- Whether the throttle stick is outside the deadband. -/
def outside (ref : StickReference) (policy : StickPolicy) (stick : Stick) : Bool :=
  policy.deadband.toNat < (ref.deviation stick).natAbs

/-- The held throttle: the baseline with the last correction on top. -/
def held (ref : StickReference) (range : PulseRange) (r : Regulator) (command : Command) :
    Except Fault Command := do
  let pulse ← exact (ref.baseline.toInt + r.correction.toInt)
  return { command with throttle := ← range.clamp pulse }

/-- A displaced stick drives the throttle itself and empties the integral sum.  Once it is back, the
altitude reached is held. -/
def direct (ref : StickReference) (policy : StickPolicy) (range : PulseRange) (r : Regulator)
    (altitude : Int32) (stick : Stick) (command : Command) :
    Except Fault (StickReference × Regulator × Command) := do
  if ref.outside policy stick then
    let shift : Int :=
      if 0 < ref.deviation stick then -policy.deadband.toNat else policy.deadband.toNat
    return ({ ref with displaced := true }, { r with integral := 0 },
      { command with throttle := .ofIntClamp (command.throttle.toInt + shift) })
  else
    let r := if ref.displaced then { r with setpoint := altitude } else r
    let ref := { ref with displaced := false }
    return (ref, r, ← ref.held range r command)

/-- A displaced stick asks for a climb rate of half its deviation.  Once it is back, the altitude
reached is held. -/
def rate (ref : StickReference) (policy : StickPolicy) (range : PulseRange) (r : Regulator)
    (altitude : Int32) (stick : Stick) (command : Command) :
    Except Fault (StickReference × Regulator × Command) := do
  let r :=
    if ref.outside policy stick then
      { r with stickClimb := .ofIntClamp ((ref.deviation stick).tdiv 2), followsStick := true }
    else if ref.displaced then
      { r with setpoint := altitude, followsStick := false }
    else
      r
  let ref := { ref with displaced := ref.outside policy stick }
  return (ref, r, ← ref.held range r command)

end StickReference

/-- Adds the correction to the pitch command of a fixed wing. -/
def steer (reversed : Bool) (r : Regulator) (command : Command) : Except Fault Command := do
  let turn ← exact (r.correction.toInt * if reversed then -1 else 1)
  let pitch ← exact (command.pitch.toInt + turn.toInt)
  return { command with pitch := .ofIntClamp pitch.toInt }

/-- Brings the last correction into the command. -/
def command (s : Settings) (ref : StickReference) (r : Regulator) (altitude : Int32) (stick : Stick)
    (command : Command) : Except Fault (StickReference × Regulator × Command) := do
  match s.airframe with
  | .multirotor =>
    if s.stick.direct then
      ref.direct s.stick s.pulses r altitude stick command
    else
      ref.rate s.stick s.pulses r altitude stick command
  | .fixedWing => return (ref, r, ← steer s.pitchReversed r command)

end Autopilot
