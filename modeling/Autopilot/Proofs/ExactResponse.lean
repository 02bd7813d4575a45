import Autopilot.Proofs.Feedback

/-!
# Exact responses

`Regulator.Ideal` is the memory of the two loops in integers of any size, and `Ideal.respond` runs
the loops on it as their law says: every term is bounded once, at its end, and nothing saturates on
the way there.

A regulator whose integral sum is inside its bound computes this law to the last digit
(`Regulator.respond_exact`).  Every response leaves the sum inside its bound, so the same holds of
any number of runs in a row (`Regulator.exists_respondAll`).  A sum from outside of its bound shows
the saturation of the step that is added to it, and the law does not.
-/

namespace Autopilot

namespace Regulator

/-! ### The law -/

/-- The memory of the two loops in integers of any size. -/
structure Ideal where
  setpoint : Int
  stickClimb : Int
  followsStick : Bool
  integral : Int
  correction : Int
deriving DecidableEq, Repr

/-- The derivative term of a run. -/
def derivative (gains : AxisGains) (sample : ClimbSample) : Int :=
  confine 150 (derivativeTerm gains sample).toInt

namespace Ideal

/-- The climb rate that the inner loop has to follow at an altitude. -/
def target (m : Ideal) (gains : AxisGains) (altitude : Int) : Int :=
  if m.followsStick then m.stickClimb
  else
    let error := shrink 10 (confine 500 (m.setpoint - altitude))
    confine 300 ((gains.altitude.proportional.toNat * error).tdiv 128)

/-- One run of both loops, with a derivative term that is given.  While the vehicle is tilted by 80
degrees or more, the correction is zero and everything else stays. -/
def respond (m : Ideal) (gains : AxisGains) (attitude : Attitude)
    (altitude velocity derivative : Int) : Ideal :=
  if attitude.roll.toInt.natAbs < 800 ∧ attitude.pitch.toInt.natAbs < 800 then
    let error := m.target gains altitude - velocity
    let proportional := confine 300 ((gains.climb.proportional.toNat * error).tdiv 32)
    let integral := confine (8192 * 200) (m.integral + gains.climb.integral.toNat * error)
    { m with integral, correction := proportional + integral.tdiv 8192 - derivative }
  else
    { m with correction := 0 }

/-- The memory after each of several runs. -/
def respondAll (m : Ideal) (gains : AxisGains) : List Sighting → List Ideal
  | [] => []
  | seen :: rest =>
    let next := m.respond gains seen.attitude seen.altitude.toInt seen.sample.velocity.toInt
      (derivative gains seen.sample)
    next :: next.respondAll gains rest

end Ideal

/-! ### One run -/

/-- The memory of a regulator as integers. -/
def ideal (r : Regulator) : Ideal where
  setpoint := r.setpoint.toInt
  stickClimb := r.stickClimb.toInt
  followsStick := r.followsStick
  integral := r.integral.toInt
  correction := r.correction.toInt

/-- The memory after a run is the law applied to the memory before it. -/
theorem ideal_answered (r : Regulator) (gains : AxisGains) (attitude : Attitude) (altitude : Int32)
    (sample : ClimbSample) :
    (r.answered gains altitude sample attitude).ideal =
      r.ideal.respond gains attitude altitude.toInt sample.velocity.toInt
        (derivative gains sample) := by
  have hintegral := r.natAbs_nextIntegral_le gains altitude sample
  have hcorrection := r.natAbs_nextCorrection_le gains altitude sample
  have htilt : attitude.thrustPointsDown = true ↔
      attitude.roll.toInt.natAbs < 800 ∧ attitude.pitch.toInt.natAbs < 800 := by
    unfold Attitude.thrustPointsDown tiltLimit
    simp
  unfold answered Ideal.respond
  simp only [htilt]
  split_ifs
  · show Ideal.mk _ _ _ _ _ = _
    rw [toInt_ofInt_of_isWord (isWord_of_natAbs_le (hintegral.trans (by decide))),
      toInt_ofInt_of_isWord (isWord_of_natAbs_le (hcorrection.trans (by decide)))]
    rfl
  · rfl

section Exactness

variable {r : Regulator} (gains : AxisGains)

/-- With an integral sum inside its bound, the regulator has an answer, and the answer is that of the
law: nothing overflows, and no saturation can be seen. -/
theorem respond_exact (h : r.integral.toInt.natAbs ≤ 8192 * 200) (attitude : Attitude)
    (altitude : Int32) (sample : ClimbSample) :
    ∃ next, r.respond gains attitude altitude sample = .ok next ∧
      next.ideal = r.ideal.respond gains attitude altitude.toInt sample.velocity.toInt
        (derivative gains sample) := by
  refine ⟨r.answered gains altitude sample attitude, ?_, ?_⟩
  · exact respond_eq gains altitude sample attitude h
  · exact r.ideal_answered gains attitude altitude sample

/-- A regulator that is furthest below what it is shown, with gains that cannot be larger. -/
def outrun : Regulator :=
  { setpoint := Int32.minValue, integral := -(8192 * 200) }

/-- The largest gains. -/
def fullGains : AxisGains :=
  ⟨⟨255, 255, 255⟩, ⟨255, 255, 255⟩⟩

/-- A vehicle that climbs as fast as a word can say, with accelerations beyond all words. -/
def rocket : ClimbSample :=
  ⟨Int32.maxValue, 1e30, 1e38⟩

/-- All errors are larger than a word, and every term ends at its bound.  At the least word of roll,
only the correction changes. -/
theorem respond_exact_outrun :
    outrun.integral.toInt.natAbs ≤ 8192 * 200 ∧
      (∃ next, outrun.respond fullGains { roll := 799, pitch := -799 } Int32.maxValue rocket =
          .ok next ∧
        next.ideal = { outrun.ideal with integral := -1638400, correction := -650 }) ∧
      ∃ next, outrun.respond fullGains { roll := Int16.minValue } Int32.maxValue rocket =
          .ok next ∧
        next.ideal = { outrun.ideal with correction := 0 } := by
  have hinside : outrun.integral.toInt.natAbs ≤ 8192 * 200 := by decide
  obtain ⟨level, hlevel, hlaw⟩ :=
    respond_exact fullGains hinside { roll := 799, pitch := -799 } Int32.maxValue rocket
  obtain ⟨banked, hbanked, hlaw'⟩ :=
    respond_exact fullGains hinside { roll := Int16.minValue } Int32.maxValue rocket
  refine ⟨hinside, ⟨level, hlevel, hlaw.trans ?_⟩, ⟨banked, hbanked, hlaw'.trans ?_⟩⟩
  · decide +kernel
  · decide +kernel

/-- A sum from outside of its bound does not follow the law: what is added to it saturates. -/
example :
    let r : Regulator := { integral := Int32.maxValue, followsStick := true, stickClimb := -9000000 }
    (r.respond fullGains {} 0 ⟨0, 0, 0⟩).map (·.integral.toInt) = .ok (-1) ∧
      (r.ideal.respond fullGains {} 0 0 0).integral = -(8192 * 200) := by
  decide +kernel

/-! ### Any number of runs -/

/-- From an integral sum inside its bound, every run of the regulator is that of the law. -/
theorem exists_respondAll (h : r.integral.toInt.natAbs ≤ 8192 * 200) (seen : List Sighting) :
    ∃ memories, r.respondAll gains seen = .ok memories ∧
      memories.map ideal = r.ideal.respondAll gains seen := by
  induction seen generalizing r with
  | nil => exact ⟨[], rfl, rfl⟩
  | cons sighting rest ih =>
    obtain ⟨attitude, altitude, sample⟩ := sighting
    have hnext : (r.answered gains altitude sample attitude).integral.toInt.natAbs ≤ 8192 * 200 := by
      have hlaw := congrArg Ideal.integral (r.ideal_answered gains attitude altitude sample)
      change (r.answered gains altitude sample attitude).integral.toInt = _ at hlaw
      rw [hlaw]
      unfold Ideal.respond
      split_ifs
      · exact natAbs_confine_le rfl _
      · exact h
    obtain ⟨memories, hrun, hlaws⟩ := ih hnext
    refine ⟨r.answered gains altitude sample attitude :: memories,
      respondAll_cons (respond_eq gains altitude sample attitude h) hrun, ?_⟩
    rw [List.map_cons, hlaws, ideal_answered]
    rfl

end Exactness

end Regulator

end Autopilot
