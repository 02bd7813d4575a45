/-!
# Attitude

`Attitude` is what the hold loop knows of the orientation of the vehicle: roll and pitch in tenths
of a degree and the cosine of the tilt.  `Attitude.thrustPointsDown` tells whether thrust can still
lift.
-/

namespace Autopilot

/-- A snapshot of the orientation. -/
structure Attitude where
  /-- Roll in tenths of a degree. -/
  roll : Int16 := 0
  /-- Pitch in tenths of a degree. -/
  pitch : Int16 := 0
  /-- The cosine of the angle between the vertical axes of the vehicle and of the earth. -/
  cosTilt : Float32 := 1.0
deriving DecidableEq, Repr

/-- The tilt, in tenths of a degree, from which on thrust no longer points down. -/
def tiltLimit : Nat :=
  800

/-- Whether both roll and pitch are below the tilt limit. -/
def Attitude.thrustPointsDown (a : Attitude) : Bool :=
  a.roll.toInt.natAbs < tiltLimit && a.pitch.toInt.natAbs < tiltLimit

end Autopilot
