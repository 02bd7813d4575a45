import Autopilot.Craft
import Autopilot.HoldLoop
import Autopilot.Instruments

/-!
# Flight scripts

A `Script` is one flight as it is planned: the vehicle sits on the ground, climbs from `takeoff`
on, is held from `holdAt` on, and may be disturbed meanwhile by the stick or by a bank.
`Script.stick`, `Script.switches` and `Script.orientation` say what the pilot does at a time.

`Script.check` names the first reason for which a script is not flown, as a `ScriptError`.
-/

namespace Autopilot

/-! ### The plan -/

/-- A stretch of time, without its end. -/
structure Window where
  start : Float
  stop : Float
deriving DecidableEq, Repr

/-- Whether a time lies in a window. -/
def Window.contains (w : Window) (t : Float) : Bool :=
  w.start ≤ t && t < w.stop

/-- The stick is held away from the baseline. -/
structure StickMove where
  window : Window
  /-- The distance from the baseline in microseconds. -/
  offset : Int16
deriving DecidableEq, Repr

/-- The vehicle is banked. -/
structure Bank where
  window : Window
  /-- Roll in degrees. -/
  roll : Float
deriving DecidableEq, Repr

/-- A planned flight. -/
structure Script where
  /-- Seconds until the end. -/
  duration : Float := 30.0
  /-- Passes of the control loop for each second. -/
  rate : UInt32 := 1000
  /-- The time at which the climb begins. -/
  takeoff : Float := 1.0
  /-- Throttle above hover, or pitch on a fixed wing, during the climb. -/
  climbOffset : Int16 := 50
  /-- The time at which the hold switch is turned on. -/
  holdAt : Float := 5.0
  source : Source := .baro
  /-- The distance of the stick from hover during the hold, for the integral term to take up. -/
  stickBias : Int16 := 20
  /-- Seconds of the hold that do not count for its accuracy. -/
  settle : Float := 10.0
  stickMove : Option StickMove := none
  bank : Option Bank := none
  settings : Settings := {}
  craft : Craft Float := .standard
  fitment : Fitment := {}
deriving DecidableEq, Repr

namespace Script

/-- The plan for a fixed wing, which climbs by pitching up. -/
def fixedWing : Script where
  climbOffset := 100
  settings := { airframe := .fixedWing }

/-- The plan for an airframe. -/
def standard : Airframe → Script
  | .multirotor => {}
  | .fixedWing => .fixedWing

end Script

/-! ### Checking -/

/-- The two disturbances of a hold. -/
inductive Disturbance where
  | stick
  | bank
deriving DecidableEq, Repr

/-- The name of a disturbance in messages. -/
def Disturbance.label : Disturbance → String
  | .stick => "stick"
  | .bank => "tilt"

/-- The reasons why a script is not flown. -/
inductive ScriptError where
  | settings (error : SettingsError)
  /-- The flight does not end at a time after its start. -/
  | duration (seconds : Float)
  /-- The control loop does not run at a possible rate. -/
  | rate (hertz : UInt32)
  /-- A disturbance ends before it begins. -/
  | emptyWindow (disturbance : Disturbance) (window : Window)
  /-- The sensor to hold on is not fitted. -/
  | sensorMissing (source : Source)
  /-- The noise of a sensor has no finite deviation. -/
  | noise (sensor : Sensor)
deriving DecidableEq, Repr

namespace ScriptError

/-- What is wrong with the plan itself. -/
def detail : ScriptError → String
  | .settings error => error.message
  | .duration seconds => "duration must be positive, got " ++ Layout.sentenceDouble seconds
  | .rate hertz =>
    "loop rate must be within 1..=1000000 Hz, got " ++ (Numeral.ofInt hertz.toNat).text
  | .emptyWindow disturbance window =>
    disturbance.label ++ " excursion window is empty (" ++ Layout.sentenceDouble window.start ++
      ".." ++ Layout.sentenceDouble window.stop ++ ")"
  | .sensorMissing source => source.label ++ " needs its sensor fitted"
  | .noise _ => "variation parameter is non-finite in (log)normal distribution"

/-- The text of an error. -/
def message : ScriptError → String
  | .settings error => "invalid controller configuration: " ++ error.message
  | .noise sensor =>
    "invalid noise level for " ++ sensor.label ++ ": " ++ (ScriptError.noise sensor).detail
  | error => "invalid scenario: " ++ error.detail

end ScriptError

namespace Script

/-- Refuses a window that ends before it begins. -/
def checkWindow (disturbance : Disturbance) : Option Window → Except ScriptError Unit
  | none => .ok ()
  | some w => if w.start < w.stop then .ok () else .error (.emptyWindow disturbance w)

/-- Accepts a plan that can be flown with the sensors it names, and otherwise gives the first reason
against it. -/
def check (s : Script) : Except ScriptError Unit := do
  s.settings.check.mapError .settings
  if !s.duration.isFinite || s.duration ≤ 0.0 then
    throw (.duration s.duration)
  if s.rate = 0 ∨ 1000000 < s.rate then
    throw (.rate s.rate)
  checkWindow .stick (s.stickMove.map (·.window))
  checkWindow .bank (s.bank.map (·.window))
  if !s.fitment.has s.source then
    throw (.sensorMissing s.source)

/-! ### The pilot -/

/-- The pitch stick in the middle, in microseconds. -/
def stickCentre : Int16 := 1500

/-- The offset of the stick from hover at a time, if the vehicle has taken off. -/
def offset (s : Script) (t : Float) : Option Int16 :=
  let moved : Int16 := match s.stickMove with
    | some m => if m.window.contains t then m.offset else 0
    | none => 0
  if t < s.takeoff then none
  else if t < s.holdAt then some s.climbOffset
  else some (.ofIntClamp (s.stickBias.toInt + moved.toInt))

/-- The positions of the sticks at a time. -/
def stick (s : Script) (t : Float) (hover : Int16) : Stick :=
  match s.settings.airframe with
  | .multirotor =>
    { throttle := match s.offset t with
        | some o => .ofIntClamp (hover.toInt + o.toInt)
        | none => s.settings.pulses.low
      pitch := stickCentre }
  | .fixedWing =>
    { throttle := stickCentre
      pitch := .ofIntClamp (stickCentre.toInt + ((s.offset t).getD 0).toInt) }

/-- The positions of the hold switches at a time. -/
def switches (s : Script) (t : Float) : Switches where
  baro := s.holdAt ≤ t && s.source = .baro
  ranger := s.holdAt ≤ t && s.source = .ranger

/-- The orientation of the vehicle at a time. -/
def orientation (s : Script) (t : Float) : Quaternion :=
  match s.bank with
  | some b => if b.window.contains t then .ofTilt b.roll 0.0 else .level
  | none => .level

/-- Whether the hold is being disturbed at a time. -/
def isDisturbed (s : Script) (t : Float) : Bool :=
  (s.stickMove.any fun m => m.window.contains t) || (s.bank.any fun b => b.window.contains t)

end Script

end Autopilot
