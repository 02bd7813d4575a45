import Autopilot.Command
import Autopilot.Fusion

/-!
# The hold loop

`HoldLoop` puts the estimator, the regulator, the switches and the stick together.  Its `tick` is
one pass of the control loop: the switches first, then the estimator with the regulator behind it,
then the command while a source is engaged.  The three stages can also be called one at a time,
with `switch`, `sense` and `drive`.

`HoldLoop.Action` names a call as a value, and `HoldLoop.perform` carries it out, so that a whole
run is a list of actions.
-/

namespace Autopilot

/-- The positions of the two hold switches. -/
structure Switches where
  baro : Bool := false
  ranger : Bool := false
deriving DecidableEq, Repr

/-- What the radio receiver gives the loop for one tick. -/
structure PilotInput where
  /-- The clock, in wrapping microseconds. -/
  now : UInt32
  switches : Switches
  stick : Stick
deriving DecidableEq, Repr

/-- The hold loop and its memory. -/
structure HoldLoop where
  settings : Settings
  fusion : Fusion := {}
  regulator : Regulator := {}
  engagement : Engagement := {}
  reference : StickReference := {}
deriving DecidableEq, Repr

namespace HoldLoop

/-- A fresh loop, for settings that pass their check. -/
def start (s : Settings) : Except SettingsError HoldLoop := do
  s.check
  return { settings := s }

/-- The fused altitude, in centimetres. -/
def altitude (h : HoldLoop) : Int32 :=
  h.fusion.altitude

/-- Feeds one sample of a hold switch.  A rising edge gives the setpoint, the stick baseline, the
integral sum and the correction a new start together. -/
def switch (h : HoldLoop) (source : Source) (on : Bool) (stick : Stick) : Edge × HoldLoop :=
  let (edge, engagement) := h.engagement.feed source on
  let h := { h with engagement }
  match edge with
  | .rising => (edge, { h with
      regulator := h.regulator.restart h.altitude
      reference := h.reference.restart stick.throttle })
  | _ => (edge, h)

/-- Runs the estimator, and the regulator after every new estimate. -/
def sense (h : HoldLoop) (now : UInt32) (r : Readings) :
    Except Fault (Estimate × List SensorCall × HoldLoop) := do
  let { estimate, fusion, calls } ← h.fusion.update h.settings now r
  let h := { h with fusion }
  match estimate with
  | .fresh sample =>
    let regulator ← h.regulator.respond h.settings.gains r.attitude h.altitude sample
    return (estimate, calls, { h with regulator })
  | _ => return (estimate, calls, h)

/-- Brings the last correction into the command while altitude is held. -/
def drive (h : HoldLoop) (stick : Stick) (incoming : Command) :
    Except Fault (Command × HoldLoop) := do
  if h.engagement.any then
    let (reference, regulator, outgoing) ←
      command h.settings h.reference h.regulator h.altitude stick incoming
    return (outgoing, { h with reference, regulator })
  else
    return (incoming, h)

/-- What one tick answers. -/
structure Tick where
  estimate : Estimate
  calls : List SensorCall
  command : Command
  loop : HoldLoop
deriving DecidableEq, Repr

/-- One pass of the control loop.  A source can only be engaged while its sensor is present. -/
def tick (h : HoldLoop) (input : PilotInput) (r : Readings) (incoming : Command) :
    Except Fault Tick := do
  let (_, h) := h.switch .baro (input.switches.baro && r.has .baro) input.stick
  let (_, h) := h.switch .ranger (input.switches.ranger && r.has .ranger) input.stick
  let (estimate, calls, h) ← h.sense input.now r
  let (command, loop) ← h.drive input.stick incoming
  return { estimate, calls, command, loop }

/-! ### Calls as values -/

/-- One call of the hold loop. -/
inductive Action where
  | tick (input : PilotInput) (readings : Readings) (incoming : Command)
  | switch (source : Source) (on : Bool) (stick : Stick)
  | sense (now : UInt32) (readings : Readings)
  | drive (stick : Stick) (incoming : Command)
deriving DecidableEq, Repr

/-- What a call answers beside the loop: the part that belongs to the kind of call. -/
structure Answer where
  edge : Option Edge := none
  estimate : Option Estimate := none
  calls : List SensorCall := []
  command : Option Command := none
deriving DecidableEq, Repr

/-- Carries one call out. -/
def perform (h : HoldLoop) : Action → Except Fault (Answer × HoldLoop)
  | .tick input readings incoming => do
    let t ← h.tick input readings incoming
    return ({ estimate := t.estimate, calls := t.calls, command := t.command }, t.loop)
  | .switch source on stick =>
    let (edge, h) := h.switch source on stick
    return ({ edge }, h)
  | .sense now readings => do
    let (estimate, calls, h) ← h.sense now readings
    return ({ estimate, calls }, h)
  | .drive stick incoming => do
    let (outgoing, h) ← h.drive stick incoming
    return ({ command := outgoing }, h)

/-- Carries a list of calls out, one after the other. -/
def performAll (h : HoldLoop) : List Action → Except Fault HoldLoop
  | [] => return h
  | action :: rest => do
    let (_, h) ← h.perform action
    h.performAll rest

end HoldLoop

end Autopilot
