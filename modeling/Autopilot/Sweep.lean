import Autopilot.Flight

/-!
# Gain sweeps

`sweepGains` spaces gains evenly from a first to a last one, and `Script.sweep` flies a script once
with each of them for the proportional gain of vertical speed.  No flight depends on another one.
-/

namespace Autopilot

/-- The gain at `index` of `count + 1` evenly spaced ones. -/
def sweepGain (first last : UInt8) (count index : Nat) : UInt8 :=
  let start := doubleOfInt first.toNat
  let span := doubleOfInt last.toNat - start
  let gain := start + span * doubleOfInt index / doubleOfInt count
  (min (roundAway gain).toNat 255).toUInt8

/-- A number of evenly spaced gains, from the first to the last. -/
def sweepGains (first last : UInt8) : Nat → List UInt8
  | 0 => []
  | 1 => [first]
  | count + 2 => (List.range (count + 2)).map (sweepGain first last (count + 1))

/-- The gains of a sweep, if there is room for them. -/
def listGains (first last : UInt8) (count : Nat) : Except Fault (List UInt8) := do
  reserve count 1
  return sweepGains first last count

/-- The script with another proportional gain of vertical speed. -/
def Script.withClimbGain (s : Script) (gain : UInt8) : Script :=
  { s with settings.gains.climb.proportional := gain }

/-- What a sweep finds out about a gain. -/
structure SweepRow where
  gain : UInt8
  accuracy : Option Accuracy
deriving DecidableEq, Repr

/-- How a sweep ends. -/
inductive SweepEnd where
  /-- All gains have been flown. -/
  | complete
  | refused (gain : UInt8) (error : ScriptError)
  | stopped (fault : Fault)
deriving DecidableEq, Repr

/-- The rows of a sweep, and how it ended. -/
structure Sweep where
  rows : List SweepRow
  ending : SweepEnd
deriving DecidableEq, Repr

/-- Flies a script with each of the gains in turn, up to the first flight that does not succeed. -/
def Script.sweep (s : Script) : List UInt8 → Sweep
  | [] => ⟨[], .complete⟩
  | gain :: rest =>
    match (s.withClimbGain gain).fly with
    | .error e => ⟨[], .refused gain e⟩
    | .ok (.error fault) => ⟨[], .stopped fault⟩
    | .ok (.ok log) =>
      let others := s.sweep rest
      ⟨⟨gain, log.accuracy⟩ :: others.rows, others.ending⟩

end Autopilot
