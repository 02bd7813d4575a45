import Autopilot.Scalar
import Autopilot.Word

/-!
# Traces of a flight

A `Trace` has a column for each recorded quantity.  `Trace.record` adds a `Sample` to all columns,
so that the columns of a flight have one length; columns from elsewhere may be shorter, and then
reading past the end is `Fault.missingSample`.

`Trace.accuracy` gives the accuracy of the hold over a stretch of time, from the samples in which
altitude is held and the pilot does not interfere.
-/

namespace Autopilot

/-- What is recorded after one estimate. -/
structure Sample where
  /-- Seconds since the start. -/
  time : Float
  /-- The true altitude in centimetres. -/
  altitude : Float
  /-- The true vertical speed in centimetres per second. -/
  velocity : Float
  /-- The estimated altitude in centimetres. -/
  estimate : Int32
  /-- The displayed vertical speed in centimetres per second. -/
  vario : Int32
  /-- The altitude to hold in centimetres. -/
  setpoint : Int32
  throttle : Int16
  pitch : Int16
  correction : Int32
  integral : Int32
  baroHold : Bool
  rangerHold : Bool
  /-- Whether the stick is displaced. -/
  displaced : Bool
  /-- Whether the script disturbs the hold. -/
  disturbed : Bool
deriving DecidableEq, Repr

/-- The recorded quantities of a flight, one column each. -/
structure Trace where
  time : Array Float := #[]
  altitude : Array Float := #[]
  velocity : Array Float := #[]
  estimate : Array Int32 := #[]
  vario : Array Int32 := #[]
  setpoint : Array Int32 := #[]
  throttle : Array Int16 := #[]
  pitch : Array Int16 := #[]
  correction : Array Int32 := #[]
  integral : Array Int32 := #[]
  baroHold : Array Bool := #[]
  rangerHold : Array Bool := #[]
  displaced : Array Bool := #[]
  disturbed : Array Bool := #[]
deriving DecidableEq, Repr

/-- The accuracy of a hold, in centimetres. -/
structure Accuracy where
  /-- The number of samples that count. -/
  samples : Nat
  /-- The largest distance from the setpoint. -/
  worst : Float
  /-- The root of the mean square of the distance. -/
  rms : Float
deriving DecidableEq, Repr

namespace Trace

/-- Adds a sample to every column. -/
def record (t : Trace) (s : Sample) : Trace where
  time := t.time.push s.time
  altitude := t.altitude.push s.altitude
  velocity := t.velocity.push s.velocity
  estimate := t.estimate.push s.estimate
  vario := t.vario.push s.vario
  setpoint := t.setpoint.push s.setpoint
  throttle := t.throttle.push s.throttle
  pitch := t.pitch.push s.pitch
  correction := t.correction.push s.correction
  integral := t.integral.push s.integral
  baroHold := t.baroHold.push s.baroHold
  rangerHold := t.rangerHold.push s.rangerHold
  displaced := t.displaced.push s.displaced
  disturbed := t.disturbed.push s.disturbed

/-- The number of samples. -/
def size (t : Trace) : Nat :=
  t.time.size

/-- The entry of a column for one sample. -/
def entry {α : Type} (column : Array α) (i : Nat) : Except Fault α :=
  match column[i]? with
  | some a => .ok a
  | none => .error .missingSample

/-- Whether altitude is held in a sample. -/
def isHolding (t : Trace) (i : Nat) : Except Fault Bool := do
  if ← entry t.baroHold i then return true else entry t.rangerHold i

/-- How far the true altitude of a sample is above the setpoint, in centimetres. -/
def holdError (t : Trace) (i : Nat) : Except Fault Float := do
  return (← entry t.altitude i) - doubleOfInt (← entry t.setpoint i).toInt

/-- Whether a sample counts: altitude is held, and neither the script nor the stick interferes. -/
def counts (t : Trace) (i : Nat) : Except Fault Bool := do
  if !(← t.isHolding i) then
    return false
  else if ← entry t.disturbed i then
    return false
  else
    return !(← entry t.displaced i)

/-- The error of a sample, if it lies between two times and counts. -/
def countedError (t : Trace) (start stop : Float) (i : Nat) : Except Fault (Option Float) := do
  let time ← entry t.time i
  if start ≤ time ∧ time < stop then
    if ← t.counts i then
      return some (← t.holdError i)
    else
      return none
  else
    return none

/-- The errors of all samples that lie between two times and count. -/
def countedErrors (t : Trace) (start stop : Float) : Except Fault (List Float) := do
  return (← (List.range t.size).mapM (t.countedError start stop)).filterMap id

/-- The larger of two numbers; a `NaN` on the right is passed over. -/
def larger (a b : Float) : Float :=
  if a < b then b else a

/-- The accuracy of a list of errors; nothing if there are none. -/
def accuracyOf (errors : List Float) : Option Accuracy :=
  if errors.isEmpty then
    none
  else
    let squares := errors.foldl (fun sum e => sum + e * e) 0.0
    some {
      samples := errors.length
      worst := errors.foldl (fun worst e => larger worst e.abs) 0.0
      rms := (squares / doubleOfInt errors.length).sqrt }

/-- The accuracy of the hold between two times; nothing if no sample counts. -/
def accuracy (t : Trace) (start stop : Float) : Except Fault (Option Accuracy) := do
  return accuracyOf (← t.countedErrors start stop)

end Trace

end Autopilot
