import Autopilot.Script
import Autopilot.Trace

/-!
# Flights

`Script.fly` flies a script in closed loop.  In every pass the vehicle moves under the last command
and the instruments follow it (`Flight.advance`); then the hold loop runs on what they answer and
gives the next command (`Flight.control`).  After every new estimate a sample is recorded.

A script that cannot be flown is refused before the first pass.
-/

namespace Autopilot

/-- The fixed quantities of a flight. -/
structure Pace where
  /-- The time of a pass in seconds. -/
  dt : Float
  /-- The time of a pass in whole microseconds. -/
  ticks : UInt32
  /-- The number of passes. -/
  passes : Nat
  /-- The throttle of the vehicle in hover. -/
  hover : Int16
deriving DecidableEq, Repr

/-- The pace of a script. -/
def Script.pace (s : Script) : Pace where
  dt := 1.0 / s.rate.toFloat
  ticks := 1000000 / s.rate
  passes := min (roundAway (s.duration * s.rate.toFloat)).toNat (UInt64.size - 1)
  hover := s.craft.hoverThrottle

/-- The number of samples for which a flight makes room: one for every update of the estimate that
its passes allow, and one more. -/
def Pace.samples (p : Pace) : Nat :=
  p.passes / (max (updatePeriod / p.ticks) 1).toNat + 1

/-- The bytes of the widest entry of a sample. -/
def sampleBytes : Nat :=
  8

/-- The state of a flight between two passes. -/
structure Flight where
  loop : HoldLoop
  motion : Motion Float := .rest
  instruments : Instruments
  /-- The command that the vehicle follows. -/
  command : Command
  /-- The clock of the hold loop, in wrapping microseconds. -/
  clock : UInt32 := 0
  /-- The time at which altitude was first held. -/
  engagedAt : Option Float := none
  trace : Trace := {}
deriving DecidableEq, Repr

namespace Flight

/-- The time of a pass, in seconds. -/
def timeOf (pace : Pace) (pass : Nat) : Float :=
  doubleOfInt pass * pace.dt

/-- Moves the vehicle under the last command, and lets the instruments follow it. -/
def advance (s : Script) (pace : Pace) (pass : Nat) (f : Flight) : Except Fault Flight := do
  let orientation := s.orientation (timeOf pace pass)
  let motion :=
    s.craft.advance s.settings.airframe f.command orientation.cosTilt pace.dt f.motion
  let instruments ← f.instruments.follow motion.altitude motion.accel pace.ticks
  return { f with motion, instruments, clock := f.clock + pace.ticks }

/-- What the receiver gives the hold loop at a time. -/
def pilotInput (s : Script) (pace : Pace) (t : Float) (clock : UInt32) : PilotInput where
  now := clock
  switches := s.switches t
  stick := s.stick t pace.hover

/-- The command of the pilot, before the hold loop adjusts it. -/
def incoming (stick : Stick) : Command where
  throttle := stick.throttle
  pitch := .ofIntClamp (stick.pitch.toInt - Script.stickCentre.toInt)

/-- The sample of a flight after an estimate. -/
def sample (s : Script) (t : Float) (f : Flight) : Sample where
  time := t
  altitude := f.motion.altitude * 100.0
  velocity := f.motion.velocity * 100.0
  estimate := f.loop.altitude
  vario := f.loop.fusion.vario
  setpoint := f.loop.regulator.setpoint
  throttle := f.command.throttle
  pitch := f.command.pitch
  correction := f.loop.regulator.correction
  integral := f.loop.regulator.integral
  baroHold := f.loop.engagement.baro
  rangerHold := f.loop.engagement.ranger
  displaced := f.loop.reference.displaced
  disturbed := s.isDisturbed t

/-- What the instruments tell the hold loop.  While an estimate would come too early, they are not
asked for anything. -/
def readings (s : Script) (t : Float) (f : Flight) : Readings :=
  if f.loop.fusion.isEarly f.clock then s.fitment.unread
  else f.instruments.readings s.fitment (s.orientation t).attitude

/-- Runs the hold loop, and records what it did after a new estimate. -/
def control (s : Script) (pace : Pace) (pass : Nat) (f : Flight) : Except Fault Flight := do
  let t := timeOf pace pass
  let input := pilotInput s pace t f.clock
  let tick ← f.loop.tick input (f.readings s t) (incoming input.stick)
  let engagedAt := if tick.loop.engagement.any && f.engagedAt.isNone then some t else f.engagedAt
  let f := { f with
    loop := tick.loop
    instruments := f.instruments.settleAll tick.calls
    command := tick.command
    engagedAt }
  match tick.estimate with
  | .fresh _ =>
    let row := f.sample s t
    return { f with trace := f.trace.record row }
  | _ => return f

/-- One pass. -/
def pass (s : Script) (pace : Pace) (number : Nat) (f : Flight) : Except Fault Flight := do
  control s pace number (← advance s pace number f)

/-- A number of passes, from the one with this number on. -/
def passes (s : Script) (pace : Pace) : Nat → Nat → Flight → Except Fault Flight
  | 0, _, f => .ok f
  | count + 1, number, f =>
    match pass s pace number f with
    | .ok f => passes s pace count (number + 1) f
    | .error fault => .error fault

end Flight

/-- What is left of a flight. -/
structure FlightLog where
  trace : Trace
  /-- The time at which altitude was first held. -/
  engagedAt : Option Float
  /-- The accuracy of the hold once it had settled. -/
  accuracy : Option Accuracy
deriving DecidableEq, Repr

namespace Script

/-- The flight before its first pass. -/
def launch (s : Script) : Except ScriptError Flight := do
  s.check
  let loop ← (HoldLoop.start s.settings).mapError .settings
  let instruments ← (Instruments.ofFitment s.fitment s.settings.countsPerGravity).mapError .noise
  return { loop, instruments, command := { throttle := s.settings.pulses.low, pitch := 0 } }

/-- The time without end. -/
def forever : Float :=
  1.0 / 0.0

/-- The log of a flight after its last pass. -/
def log (s : Script) (f : Flight) : Except Fault FlightLog := do
  let accuracy ← match f.engagedAt with
    | some t => f.trace.accuracy (t + s.settle) forever
    | none => pure none
  return { trace := f.trace, engagedAt := f.engagedAt, accuracy }

/-- Flies a script to its end, if there is room for the trace. -/
def complete (s : Script) (f : Flight) : Except Fault FlightLog := do
  let pace := s.pace
  reserve pace.samples sampleBytes
  s.log (← Flight.passes s pace pace.passes 1 f)

/-- Flies a script, unless it is refused. -/
def fly (s : Script) : Except ScriptError (Except Fault FlightLog) := do
  return s.complete (← s.launch)

end Script

end Autopilot
