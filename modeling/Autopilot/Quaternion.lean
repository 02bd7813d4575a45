import Autopilot.Attitude
import Autopilot.Scalar

/-!
# Orientation

`Quaternion` is the orientation of the simulated vehicle.  `Quaternion.ofTilt` makes one from roll
and pitch, `Quaternion.cosTilt` is the cosine of the angle between the vertical axes of vehicle and
earth, and `Quaternion.attitude` is the snapshot that the hold loop gets.
-/

namespace Autopilot

/-- A vector in space. -/
structure Vector3 where
  x : Float
  y : Float
  z : Float
deriving DecidableEq, Repr

namespace Vector3

/-- The vector product. -/
def cross (a b : Vector3) : Vector3 :=
  ⟨a.y * b.z - a.z * b.y, a.z * b.x - a.x * b.z, a.x * b.y - a.y * b.x⟩

/-- The sum of two vectors. -/
def add (a b : Vector3) : Vector3 :=
  ⟨a.x + b.x, a.y + b.y, a.z + b.z⟩

/-- A multiple of a vector. -/
def scale (a : Vector3) (s : Float) : Vector3 :=
  ⟨a.x * s, a.y * s, a.z * s⟩

end Vector3

/-- A quaternion, of length one where it stands for an orientation. -/
structure Quaternion where
  w : Float
  i : Float
  j : Float
  k : Float
deriving DecidableEq, Repr

/-- An angle in degrees from one in radians. -/
def degrees (radians : Float) : Float :=
  radians * (180.0 / pi)

/-- An angle in radians from one in degrees. -/
def radians (degrees : Float) : Float :=
  degrees * (pi / 180.0)

namespace Quaternion

/-- Level, heading straight on. -/
def level : Quaternion :=
  ⟨1.0, 0.0, 0.0, 0.0⟩

/-- The orientation with these angles of roll, pitch and yaw, in radians. -/
def ofEuler (roll pitch yaw : Float) : Quaternion :=
  let r := roll * 0.5
  let p := pitch * 0.5
  let y := yaw * 0.5
  let (sr, cr) := (r.sin, r.cos)
  let (sp, cp) := (p.sin, p.cos)
  let (sy, cy) := (y.sin, y.cos)
  { w := cr * cp * cy + sr * sp * sy
    i := sr * cp * cy - cr * sp * sy
    j := cr * sp * cy + sr * cp * sy
    k := cr * cp * sy - sr * sp * cy }

/-- The orientation with these angles of roll and pitch, in degrees, and no yaw. -/
def ofTilt (roll pitch : Float) : Quaternion :=
  ofEuler (Autopilot.radians roll) (Autopilot.radians pitch) 0.0

/-- The vector part. -/
def vector (q : Quaternion) : Vector3 :=
  ⟨q.i, q.j, q.k⟩

/-- Turns a vector from the axes of the vehicle to those of the earth. -/
def turn (q : Quaternion) (v : Vector3) : Vector3 :=
  let t := (q.vector.cross v).scale 2.0
  ((t.scale q.w).add (q.vector.cross t)).add v

/-- The cosine of the angle between the vertical axes of the vehicle and of the earth. -/
def cosTilt (q : Quaternion) : Float :=
  (q.turn ⟨0.0, 0.0, 1.0⟩).z

/-- Roll and pitch in radians.  With the nose straight up or down, roll and yaw are the same, and
all of the turn counts as roll. -/
def rollPitch (q : Quaternion) : Float × Float :=
  let ww := q.w * q.w
  let ii := q.i * q.i
  let jj := q.j * q.j
  let kk := q.k * q.k
  let m01 := q.i * q.j * 2.0 - q.w * q.k * 2.0
  let m02 := q.w * q.j * 2.0 + q.i * q.k * 2.0
  let m20 := q.i * q.k * 2.0 - q.w * q.j * 2.0
  let m21 := q.w * q.i * 2.0 + q.j * q.k * 2.0
  let m22 := ww - ii - jj + kk
  if m20.abs < 1.0 then
    let pitch := -m20.asin
    let c := pitch.cos
    ((m21 / c).atan2 (m22 / c), pitch)
  else if m20 ≤ -1.0 then
    (m01.atan2 m02, pi / 2.0)
  else
    (-m01.atan2 (-m02), -(pi / 2.0))

/-- The snapshot that the hold loop gets of an orientation. -/
def attitude (q : Quaternion) : Attitude :=
  let (roll, pitch) := q.rollPitch
  { roll := .ofIntClamp (roundAway (degrees roll * 10.0))
    pitch := .ofIntClamp (roundAway (degrees pitch * 10.0))
    cosTilt := narrow q.cosTilt }

end Quaternion

end Autopilot
