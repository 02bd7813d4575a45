import Autopilot.Craft
import Autopilot.Proofs.Zeros
import Autopilot.Quaternion

/-!
# Ground contact

The ground acts on a vehicle in two places: no downward acceleration is taken at a point on the ground
in any of the four slopes of a step (`Craft.slope`), and a step that would end below the ground ends on
it (`Craft.advance`).

The second is why no step reports an altitude below zero (`Craft.not_altitude_advance_lt`), and why a
step that would end there does not sink (`Craft.touchdown`).  Both together keep a multirotor that
cannot lift its weight at rest.  On the ground and without speed its slope is zero, up to the sign of
the zero (`Craft.exists_slope_eq`).  What is added to a positive zero then leaves it what it is, so that
all four slopes are taken at the same point, and the step ends where it began
(`Motion.Rests.advance`).

A run of steps with any commands, orientations and durations is `Craft.passages`, and
`Craft.passages_grounded` says all of this of its steps.
-/

namespace Autopilot

/-! ### The sixth of a step -/

section Sixths

open Float.Model Float.Model.UnpackedFloat

/-- What is less than six of the least places is a multiple of that place. -/
theorem Canonical.of_lt_six {m : ℕ} {e : ℤ} (h : Canonical .binary64 m e)
    (hlt : (m : ℚ) * 2 ^ e < 2 ^ Format.minExponent .binary64 * 6) :
    e = Format.minExponent .binary64 ∧ m < 6 := by
  have hpos : (0 : ℚ) < 2 ^ Format.minExponent .binary64 := zpow_pos two_pos _
  have hleast : e = Format.minExponent .binary64 := by
    refine h.normal.resolve_left fun hnormal => ?_
    have hdigits : (2 ^ 52 : ℚ) ≤ m := by exact_mod_cast hnormal
    have hplace : (2 : ℚ) ^ Format.minExponent .binary64 ≤ 2 ^ e :=
      zpow_le_zpow_right₀ one_le_two h.least
    have hlarge := mul_le_mul hdigits hplace hpos.le (by positivity)
    linarith
  subst hleast
  refine ⟨rfl, ?_⟩
  rw [mul_comm, mul_lt_mul_iff_right₀ hpos] at hlt
  exact_mod_cast hlt

theorem isFinite_least_div_six (s : Sign) (m : Fin 6) (h : 0 < m.val) :
    (Float.ofModel (.pack (.div .binary64 (.finite s m.val (Format.minExponent .binary64) h)
      (doubleOfInt 6).toModel.unpack))).isFinite = true := by
  revert m
  cases s <;> decide

/-- A sixth of a finite double is finite, also where it is too small for its digits. -/
theorem isFinite_div_six {x : Float} (h : x.isFinite = true) : (x / doubleOfInt 6).isFinite = true := by
  obtain ⟨q, hx⟩ := isFinite_iff_exists_hasDoubleValue.mp h
  have hsix : HasDoubleValue (doubleOfInt 6) 6 := hasDoubleValue_doubleOfInt (n := 6) (by decide)
  have hsize : |q / 6| ≤ 2 ^ 1023 := by
    have hlt : |q| < 2 ^ 1024 := hx.lt
    have hpos : (0 : ℚ) < 2 ^ 1023 := by positivity
    rw [abs_div, abs_of_pos (by norm_num : (0 : ℚ) < 6), div_le_iff₀ (by norm_num)]
    rw [pow_succ] at hlt
    generalize (2 : ℚ) ^ 1023 = limit at hlt hpos ⊢
    linarith
  by_cases hlarge : q = 0 ∨ 2 ^ Format.minExponent .binary64 ≤ |q / 6|
  · exact isFinite_iff_exists_hasDoubleValue.mpr ⟨_, hx.div hsix (by norm_num) hlarge hsize⟩
  · -- Only the five least sizes are left.
    obtain ⟨hne, hsmall⟩ := not_or.mp hlarge
    obtain ⟨⟨s, p, hsized, rfl⟩, -⟩ := hx
    change (Float.ofModel (.pack (.div .binary64 x.toModel.unpack
      (doubleOfInt 6).toModel.unpack))).isFinite = true
    generalize x.toModel.unpack = u at hsized
    cases hsized with
    | zero => exact absurd (signed_zero s) hne
    | @finite m e hm =>
      obtain ⟨rfl, hm6⟩ := hm.of_lt_six (by
        rwa [abs_div, abs_signed s hm.size_pos.le, abs_of_pos (by norm_num : (0 : ℚ) < 6), not_le,
          div_lt_iff₀ (by norm_num)] at hsmall)
      exact isFinite_least_div_six s ⟨m, hm6⟩ hm.pos

end Sixths

/-! ### The ground -/

namespace Craft

open Scalar

section Steps

variable {R : Type} [Scalar R]

/-- Altitude and velocity at the end of a step, before the ground takes the vehicle up. -/
def integrated (c : Craft R) (airframe : Airframe) (command : Command) (cosTilt dt : R)
    (m : Motion R) : R × R :=
  let half : R := ofInt 1 / ofInt 2
  let slope := c.slope airframe command cosTilt
  let k₁ := slope m.altitude m.velocity
  let k₂ := slope (m.altitude + k₁.altitude * dt * half) (m.velocity + k₁.velocity * dt * half)
  let k₃ := slope (m.altitude + k₂.altitude * dt * half) (m.velocity + k₂.velocity * dt * half)
  let k₄ := slope (m.altitude + k₃.altitude * dt) (m.velocity + k₃.velocity * dt)
  let sixth := dt / ofInt 6
  (m.altitude + blendSlopes k₁.altitude k₂.altitude k₃.altitude k₄.altitude * sixth,
    m.velocity + blendSlopes k₁.velocity k₂.velocity k₃.velocity k₄.velocity * sixth)

/-- The net acceleration of a multirotor without speed. -/
def standingAccel (c : Craft R) (command : Command) (cosTilt : R) : R :=
  c.thrust command.throttle * nonneg cosTilt / c.mass - c.gravity

variable (c : Craft R) (airframe : Airframe) (command : Command) (cosTilt dt : R) (m : Motion R)

theorem advance_of_below (h : (c.integrated airframe command cosTilt dt m).1 < ofInt 0) :
    (c.advance airframe command cosTilt dt m).altitude = ofInt 0 ∧
      (c.advance airframe command cosTilt dt m).velocity =
        nonneg (c.integrated airframe command cosTilt dt m).2 := by
  have hbelow := decide_eq_true h
  exact ⟨if_pos hbelow, if_pos hbelow⟩

theorem advance_of_not_below (h : ¬ (c.integrated airframe command cosTilt dt m).1 < ofInt 0) :
    (c.advance airframe command cosTilt dt m).altitude =
        (c.integrated airframe command cosTilt dt m).1 ∧
      (c.advance airframe command cosTilt dt m).velocity =
        (c.integrated airframe command cosTilt dt m).2 := by
  have habove := ne_true_of_eq_false (decide_eq_false h)
  exact ⟨if_neg habove, if_neg habove⟩

end Steps

variable (c : Craft Float) (airframe : Airframe) (command : Command) (cosTilt dt : Float)
  (m : Motion Float)

theorem zero_le_nonneg (x : Float) : 0 ≤ nonneg x := by
  unfold nonneg
  split_ifs with h
  · exact h
  · exact show (0 : Float) ≤ 0 by decide

/-- No step ends below the ground. -/
theorem not_altitude_advance_lt : ¬ (c.advance airframe command cosTilt dt m).altitude < 0 := by
  by_cases h : (c.integrated airframe command cosTilt dt m).1 < ofInt 0
  · rw [(c.advance_of_below airframe command cosTilt dt m h).1]
    exact show ¬ (0 : Float) < 0 by decide
  · rw [(c.advance_of_not_below airframe command cosTilt dt m h).1]
    exact h

/-- A step that would end below the ground ends on it, and does not sink. -/
theorem touchdown (h : (c.integrated airframe command cosTilt dt m).1 < 0) :
    (c.advance airframe command cosTilt dt m).altitude = 0 ∧
      0 ≤ (c.advance airframe command cosTilt dt m).velocity := by
  obtain ⟨haltitude, hvelocity⟩ := c.advance_of_below airframe command cosTilt dt m h
  rw [hvelocity]
  exact ⟨haltitude, zero_le_nonneg _⟩

end Craft

/-! ### Rest -/

/-- The vehicle is on the ground, does not move, and did not gain any speed in the last step. -/
structure Motion.Rests (m : Motion Float) : Prop where
  altitude : m.altitude = 0
  velocity : m.velocity = 0
  accel : m.accel = 0

theorem Motion.rests_rest : Motion.rest.Rests :=
  ⟨rfl, rfl, rfl⟩

namespace Craft

open Scalar

variable {c : Craft Float} {command : Command} {cosTilt dt : Float} {m : Motion Float}

/-- On the ground and without speed, the slope of a multirotor that cannot lift its weight is zero. -/
theorem exists_slope_eq (hdrag : c.drag.isFinite = true)
    (hweight : c.standingAccel command cosTilt ≤ 0) :
    ∃ z, HasDoubleValue z 0 ∧ c.slope .multirotor command cosTilt 0 0 = ⟨0, z⟩ := by
  obtain ⟨q, hdrag⟩ := isFinite_iff_exists_hasDoubleValue.mp hdrag
  -- There is no drag without speed, but taking it away may change the sign of a zero thrust.
  have hstanding : SameOrZeros (c.freeAccel .multirotor command cosTilt 0)
      (c.standingAccel command cosTilt) :=
    ((SameOrZeros.of_sub _ (hdrag.mul_right_zero hasDoubleValue_zero)).div_right c.mass).sub_right
      c.gravity
  have hle : c.freeAccel .multirotor command cosTilt 0 ≤ 0 := (hstanding.le_iff 0).mpr hweight
  by_cases hsinks : c.freeAccel .multirotor command cosTilt 0 < 0
  · refine ⟨0, hasDoubleValue_zero, ?_⟩
    exact if_pos ⟨by decide, by decide, hsinks⟩
  · refine ⟨c.freeAccel .multirotor command cosTilt 0, hasDoubleValue_of_le_zero hle hsinks, ?_⟩
    exact if_neg fun h => hsinks h.2.2

/-- All four slopes of such a step are taken at rest, because the points that they are taken at come
from sums with the positive zero, which no zero changes. -/
theorem integrated_of_rests (hdrag : c.drag.isFinite = true)
    (hweight : c.standingAccel command cosTilt ≤ 0) (hdt : dt.isFinite = true) (hm : m.Rests) :
    c.integrated .multirotor command cosTilt dt m = (0, 0) := by
  obtain ⟨z, hz, hslope⟩ := exists_slope_eq hdrag hweight
  have hzero := hasDoubleValue_zero
  obtain ⟨time, htime⟩ := isFinite_iff_exists_hasDoubleValue.mp hdt
  obtain ⟨sixth, hsixth⟩ := isFinite_iff_exists_hasDoubleValue.mp (isFinite_div_six hdt)
  have htwo : HasDoubleValue (ofInt 2) 2 := hasDoubleValue_doubleOfInt (n := 2) (by decide)
  have hhalf : HasDoubleValue (ofInt 1 / ofInt 2) (1 / 2) := by
    rw [show (ofInt 1 / ofInt 2 : Float) = 0.5 by decide +kernel]
    exact hasDoubleValue_half
  have hmidway {w : Float} (hw : HasDoubleValue w 0) : 0 + w * dt * (ofInt 1 / ofInt 2) = 0 :=
    ((hw.mul_left_zero htime).mul_left_zero hhalf).positive_add
  have hend {w : Float} (hw : HasDoubleValue w 0) : 0 + w * dt = 0 :=
    (hw.mul_left_zero htime).positive_add
  have hblended {w : Float} (hw : HasDoubleValue w 0) :
      0 + blendSlopes w w w w * (dt / ofInt 6) = 0 := by
    have hdouble := hw.mul_left_zero htwo
    have hblend : HasDoubleValue (blendSlopes w w w w) 0 :=
      ((hw.add_zeros hdouble).add_zeros hdouble).add_zeros hw
    exact (hblend.mul_left_zero hsixth).positive_add
  unfold integrated
  simp only [hm.altitude, hm.velocity, hslope, hmidway hzero, hmidway hz, hend hzero, hend hz,
    hblended hzero, hblended hz]

end Craft

/-- A step of any length leaves a multirotor at rest that cannot lift its weight. -/
theorem Motion.Rests.advance {c : Craft Float} {command : Command} {cosTilt dt : Float}
    {m : Motion Float} (hm : m.Rests) (hdrag : c.drag.isFinite = true)
    (hweight : c.standingAccel command cosTilt ≤ 0) (hpos : 0 < dt) (hdt : dt.isFinite = true) :
    (c.advance .multirotor command cosTilt dt m).Rests := by
  have hintegrated := Craft.integrated_of_rests hdrag hweight hdt hm
  have habove : ¬ (c.integrated .multirotor command cosTilt dt m).1 < Scalar.ofInt 0 := by
    rw [hintegrated]
    exact show ¬ (0 : Float) < 0 by decide
  obtain ⟨haltitude, hvelocity⟩ := c.advance_of_not_below .multirotor command cosTilt dt m habove
  rw [hintegrated] at haltitude hvelocity
  have haccel : (c.advance .multirotor command cosTilt dt m).accel =
      ((c.advance .multirotor command cosTilt dt m).velocity - m.velocity) / dt := if_pos hpos
  rw [hvelocity, hm.velocity] at haccel
  exact ⟨haltitude, hvelocity, haccel.trans (zero_div_of_pos hpos hdt)⟩

/-! ### Runs of steps -/

/-- What a step is given. -/
structure TimeStep where
  command : Command
  orientation : Quaternion
  /-- The time of the step in seconds. -/
  dt : Float

/-- A step and the motion at both of its ends. -/
structure Passage where
  before : Motion Float
  step : TimeStep
  after : Motion Float

namespace Craft

/-- The passages of a vehicle that takes some steps one after the other. -/
def passages (c : Craft Float) (airframe : Airframe) : Motion Float → List TimeStep → List Passage
  | _, [] => []
  | m, s :: rest =>
    let after := c.advance airframe s.command s.orientation.cosTilt s.dt m
    ⟨m, s, after⟩ :: c.passages airframe after rest

variable {c : Craft Float} {airframe : Airframe} {steps : List TimeStep} {p : Passage}

theorem after_of_mem_passages {m : Motion Float} (h : p ∈ c.passages airframe m steps) :
    p.after =
      c.advance airframe p.step.command p.step.orientation.cosTilt p.step.dt p.before := by
  induction steps generalizing m with
  | nil => cases h
  | cons s rest ih =>
    rcases List.mem_cons.mp h with rfl | hrest
    · rfl
    · exact ih hrest

theorem rests_of_mem_passages (hdrag : c.drag.isFinite = true)
    (hsteps : ∀ s ∈ steps, 0 < s.dt ∧ s.dt.isFinite = true ∧
      c.standingAccel s.command s.orientation.cosTilt ≤ 0)
    {m : Motion Float} (hm : m.Rests) (h : p ∈ c.passages .multirotor m steps) :
    p.after.Rests := by
  induction steps generalizing m with
  | nil => cases h
  | cons s rest ih =>
    obtain ⟨⟨hpos, hfinite, hweight⟩, hlater⟩ := List.forall_mem_cons.mp hsteps
    have hafter := hm.advance hdrag hweight hpos hfinite
    rcases List.mem_cons.mp h with rfl | hrest
    · exact hafter
    · exact ih hlater hafter hrest

/-- From rest, no step of a run ends below the ground, and one that would ends on it without
sinking.  A multirotor whose net acceleration without speed is never upwards stays at rest: altitude,
velocity and acceleration are zero after every step. -/
theorem passages_grounded (c : Craft Float) (airframe : Airframe) (steps : List TimeStep) :
    (∀ p ∈ c.passages airframe .rest steps,
      ¬ p.after.altitude < 0 ∧
        ((c.integrated airframe p.step.command p.step.orientation.cosTilt p.step.dt p.before).1 < 0 →
          p.after.altitude = 0 ∧ 0 ≤ p.after.velocity)) ∧
      (airframe = .multirotor → c.drag.isFinite = true →
        (∀ s ∈ steps, 0 < s.dt ∧ s.dt.isFinite = true ∧
          c.standingAccel s.command s.orientation.cosTilt ≤ 0) →
        ∀ p ∈ c.passages airframe .rest steps, p.after.Rests) := by
  constructor
  · intro p hp
    rw [after_of_mem_passages hp]
    exact ⟨c.not_altitude_advance_lt airframe _ _ _ _, c.touchdown airframe _ _ _ _⟩
  · rintro rfl hdrag hsteps p hp
    exact rests_of_mem_passages hdrag hsteps Motion.rests_rest hp

/-- A quadrotor that is lifted for a second and then dropped comes down onto the ground.  Idle, at the
throttle of hovering, and tilted too far to be lifted by more, it stays there. -/
theorem passages_grounded_standard :
    let flight : List TimeStep := [⟨⟨2000, 0⟩, .level, 1.0⟩, ⟨⟨1000, 0⟩, .level, 4.0⟩]
    let stand : List TimeStep := [⟨⟨1000, 0⟩, .level, 0.001⟩, ⟨⟨1500, 0⟩, .level, 2.0⟩,
      ⟨⟨1700, 0⟩, ⟨0.8, 0.6, 0.0, 0.0⟩, 0.5⟩]
    (∃ p ∈ standard.passages .multirotor .rest flight,
      0 < p.before.altitude ∧
        (standard.integrated .multirotor p.step.command p.step.orientation.cosTilt p.step.dt
          p.before).1 < 0 ∧
        p.after.altitude = 0 ∧ 0 ≤ p.after.velocity) ∧
      standard.drag.isFinite = true ∧
      (∀ s ∈ stand, 0 < s.dt ∧ s.dt.isFinite = true ∧
        standard.standingAccel s.command s.orientation.cosTilt ≤ 0) ∧
      ∀ p ∈ standard.passages .multirotor .rest stand, p.after.Rests := by
  intro flight stand
  obtain ⟨p, hp, habove, hbelow⟩ : ∃ p ∈ standard.passages .multirotor .rest flight,
      0 < p.before.altitude ∧
        (standard.integrated .multirotor p.step.command p.step.orientation.cosTilt p.step.dt
          p.before).1 < 0 := by
    decide +kernel
  have htouchdown := ((passages_grounded standard .multirotor flight).1 p hp).2 hbelow
  have hdrag : standard.drag.isFinite = true := by decide +kernel
  have hstand : ∀ s ∈ stand, 0 < s.dt ∧ s.dt.isFinite = true ∧
      standard.standingAccel s.command s.orientation.cosTilt ≤ 0 := by
    decide +kernel
  exact ⟨⟨p, hp, habove, hbelow, htouchdown⟩, hdrag, hstand,
    (passages_grounded standard .multirotor stand).2 rfl hdrag hstand⟩

end Craft

end Autopilot
