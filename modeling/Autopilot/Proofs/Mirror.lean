import Autopilot.Proofs.Feedback
import Autopilot.Proofs.Opposite

/-!
# The regulator upside down

A regulator that is shown everything with the opposite sign answers with the opposite sign: its memory
is `mirrored` after every run (`Regulator.respondAll_mirrored`), so climbing and sinking are treated
alike.

Words have no opposite for the least of them, and saturation is not symmetric either.  None of this
can be seen: the regulator computes a formula over the integers, and there each of the dead band, the
bounds and the division is odd.  In the derivative term, negation commutes with the arithmetic of
floats up to the sign of zero, for infinities and what is no number as well (`OppositeSingles`).
-/

namespace Autopilot

/-- Every word but the least has an opposite. -/
theorem toInt_neg_of_ne {w : Int32} (h : w ≠ Int32.minValue) : (-w).toInt = -w.toInt := by
  obtain ⟨hlo, hhi⟩ := isWord_toInt w
  have hleast : w.toInt ≠ -2147483648 := fun heq => h (Int32.toInt_inj.mp heq)
  rw [Int32.toInt_neg]
  exact Int.bmod_eq_of_le (by omega) (by omega)

theorem ne_minValue_of_natAbs_le {w : Int32} (h : w.toInt.natAbs ≤ 2147483647) :
    w ≠ Int32.minValue := by
  rintro rfl
  exact absurd h (by decide)

/-- The vehicle moves the other way. -/
def ClimbSample.mirrored (sample : ClimbSample) : ClimbSample :=
  ⟨-sample.velocity, -sample.accel, -sample.accelBefore⟩

namespace Regulator

/-- The vehicle is on the other side of altitude zero and moves the other way, in the same
attitude. -/
def Sighting.mirrored (seen : Sighting) : Sighting :=
  ⟨seen.attitude, -seen.altitude, seen.sample.mirrored⟩

/-- No word that is seen is the least one. -/
structure Sighting.HasMirror (seen : Sighting) : Prop where
  altitude : seen.altitude ≠ Int32.minValue
  velocity : seen.sample.velocity ≠ Int32.minValue

/-- Everything that the regulator demands and remembers is the other way. -/
def mirrored (r : Regulator) : Regulator :=
  { r with
    setpoint := -r.setpoint
    stickClimb := -r.stickClimb
    integral := -r.integral
    correction := -r.correction }

/-- No demand is the least word, and the integral sum is inside its bound. -/
structure HasMirror (r : Regulator) : Prop where
  setpoint : r.setpoint ≠ Int32.minValue
  stickClimb : r.stickClimb ≠ Int32.minValue
  integral : r.integral.toInt.natAbs ≤ 8192 * 200

namespace HasMirror

variable {r : Regulator} (h : r.HasMirror)

include h

theorem toInt_integral : (-r.integral).toInt = -r.integral.toInt :=
  toInt_neg_of_ne (ne_minValue_of_natAbs_le (h.integral.trans (by decide)))

theorem natAbs_integral_mirrored : r.mirrored.integral.toInt.natAbs ≤ 8192 * 200 := by
  change (-r.integral).toInt.natAbs ≤ _
  rw [h.toInt_integral, Int.natAbs_neg]
  exact h.integral

/-- A run keeps the demands, and brings the integral sum inside its bound. -/
theorem answered (gains : AxisGains) (seen : Sighting) :
    (r.answered gains seen.altitude seen.sample seen.attitude).HasMirror := by
  have hintegral := r.natAbs_nextIntegral_le gains seen.altitude seen.sample
  unfold Regulator.answered
  split_ifs
  · refine ⟨h.setpoint, h.stickClimb, ?_⟩
    rw [toInt_ofInt_of_isWord (isWord_of_natAbs_le (hintegral.trans (by decide)))]
    exact hintegral
  · exact ⟨h.setpoint, h.stickClimb, h.integral⟩

end HasMirror

/-- A run ends with a correction that has an opposite. -/
theorem toInt_correction_answered (r : Regulator) (gains : AxisGains) (seen : Sighting) :
    (-(r.answered gains seen.altitude seen.sample seen.attitude).correction).toInt =
      -(r.answered gains seen.altitude seen.sample seen.attitude).correction.toInt := by
  have hcorrection := r.natAbs_nextCorrection_le gains seen.altitude seen.sample
  apply toInt_neg_of_ne
  apply ne_minValue_of_natAbs_le
  unfold answered
  split_ifs
  · rw [toInt_ofInt_of_isWord (isWord_of_natAbs_le (hcorrection.trans (by decide)))]
    exact hcorrection.trans (by decide)
  · exact show (0 : Int32).toInt.natAbs ≤ 2147483647 by decide

/-! ### One run -/

theorem confine_derivativeTerm_mirrored (gains : AxisGains) (sample : ClimbSample) :
    confine derivativeBound.toInt (derivativeTerm gains sample.mirrored).toInt =
      -confine derivativeBound.toInt (derivativeTerm gains sample).toInt := by
  have hsum : OppositeSingles (sample.accel + sample.accelBefore)
      (-sample.accel + -sample.accelBefore) :=
    (OppositeSingles.of_neg sample.accel).add (.of_neg sample.accelBefore)
  exact confine_truncate32_of_opposite ((hsum.mul_left _).div_right _) (by decide) (by decide)

section Run

variable {r : Regulator} {seen : Sighting} (hr : r.HasMirror) (hseen : seen.HasMirror)
  (gains : AxisGains)

include hr hseen

theorem altitudeError_mirrored :
    r.mirrored.altitudeError seen.mirrored.altitude = -r.altitudeError seen.altitude := by
  have hdistance : (-r.setpoint).toInt - (-seen.altitude).toInt =
      -(r.setpoint.toInt - seen.altitude.toInt) := by
    rw [toInt_neg_of_ne hr.setpoint, toInt_neg_of_ne hseen.altitude]
    ring
  unfold altitudeError
  change shrink _ (confine _ ((-r.setpoint).toInt - (-seen.altitude).toInt)) = _
  rw [hdistance, confine_neg (by decide), shrink_neg]

theorem target_mirrored :
    r.mirrored.target gains seen.mirrored.altitude = -r.target gains seen.altitude := by
  unfold target
  change (if r.followsStick then (-r.stickClimb).toInt else _) = _
  split_ifs
  · exact toInt_neg_of_ne hr.stickClimb
  · rw [altitudeError_mirrored hr hseen, mul_neg, Int.neg_tdiv, confine_neg (by decide)]

theorem climbError_mirrored :
    r.mirrored.climbError gains seen.mirrored.altitude seen.mirrored.sample =
      -r.climbError gains seen.altitude seen.sample := by
  have htarget := target_mirrored hr hseen gains
  have hvelocity := toInt_neg_of_ne hseen.velocity
  unfold climbError
  change _ - (-seen.sample.velocity).toInt = _
  omega

theorem nextIntegral_mirrored :
    r.mirrored.nextIntegral gains seen.mirrored.altitude seen.mirrored.sample =
      -r.nextIntegral gains seen.altitude seen.sample := by
  unfold nextIntegral
  change confine _ ((-r.integral).toInt + _) = _
  rw [climbError_mirrored hr hseen, hr.toInt_integral, mul_neg, ← neg_add, confine_neg (by decide)]

theorem nextCorrection_mirrored :
    r.mirrored.nextCorrection gains seen.mirrored.altitude seen.mirrored.sample =
      -r.nextCorrection gains seen.altitude seen.sample := by
  unfold nextCorrection
  rw [climbError_mirrored hr hseen, nextIntegral_mirrored hr hseen, mul_neg, Int.neg_tdiv,
    Int.neg_tdiv, confine_neg (by decide)]
  change _ + _ - confine _ (derivativeTerm gains seen.sample.mirrored).toInt = _
  rw [confine_derivativeTerm_mirrored]
  ring

theorem answered_mirrored :
    r.mirrored.answered gains seen.mirrored.altitude seen.mirrored.sample seen.mirrored.attitude =
      (r.answered gains seen.altitude seen.sample seen.attitude).mirrored := by
  unfold answered
  rw [nextIntegral_mirrored hr hseen, nextCorrection_mirrored hr hseen, Int32.ofInt_neg,
    Int32.ofInt_neg]
  change (if seen.attitude.thrustPointsDown then _ else _) = _
  split_ifs
  · rfl
  · exact congrArg (fun c => { r.mirrored with correction := c }) (show (0 : Int32) = -0 by decide)

end Run

/-! ### Any number of runs -/

/-- What a regulator answers to the mirrored sightings is what it answers to the sightings, mirrored,
run after run. -/
theorem respondAll_mirrored {r : Regulator} (hr : r.HasMirror) (gains : AxisGains)
    {seen : List Sighting} (hseen : ∀ s ∈ seen, s.HasMirror) :
    ∃ memories, r.respondAll gains seen = .ok memories ∧ memories.length = seen.length ∧
      r.mirrored.respondAll gains (seen.map Sighting.mirrored) = .ok (memories.map mirrored) ∧
      ∀ memory ∈ memories, memory.mirrored.correction.toInt = -memory.correction.toInt ∧
        memory.mirrored.integral.toInt = -memory.integral.toInt := by
  induction seen generalizing r with
  | nil => exact ⟨[], rfl, rfl, rfl, fun memory hmemory => absurd hmemory List.not_mem_nil⟩
  | cons s rest ih =>
    have hs := hseen s List.mem_cons_self
    have hrun := respond_eq gains s.altitude s.sample s.attitude hr.integral
    have hmirror := respond_eq gains s.mirrored.altitude s.mirrored.sample s.mirrored.attitude
      hr.natAbs_integral_mirrored
    rw [answered_mirrored hr hs] at hmirror
    have hcorrection := r.toInt_correction_answered gains s
    have hnext := hr.answered gains s
    generalize r.answered gains s.altitude s.sample s.attitude = next at *
    obtain ⟨memories, hall, hlength, hmirrors, hopposite⟩ :=
      ih hnext fun s' hs' => hseen s' (List.mem_cons_of_mem s hs')
    refine ⟨next :: memories, respondAll_cons hrun hall, congrArg (· + 1) hlength,
      respondAll_cons hmirror hmirrors, fun memory hmemory => ?_⟩
    rcases List.mem_cons.mp hmemory with rfl | hrest
    · exact ⟨hcorrection, hnext.toInt_integral⟩
    · exact hopposite memory hrest

/-- A regulator that holds at the largest word, with a sum at its bound. -/
def aloft : Regulator :=
  { setpoint := Int32.maxValue, integral := 8192 * 200 }

/-- A vehicle at the lower end of the words that have an opposite: with a positive infinite
acceleration, with opposite infinities and banked too far, and with accelerations whose sum is a
positive zero on both sides. -/
def plunging : List Sighting :=
  [⟨{}, -Int32.maxValue, ⟨-Int32.maxValue, .ofBits 0x7F800000, 0⟩⟩,
    ⟨{ roll := 900 }, 0, ⟨7, .ofBits 0x7F800000, .ofBits 0xFF800000⟩⟩,
    ⟨{}, -Int32.maxValue, ⟨299, 1.5, -1.5⟩⟩]

/-- At the ends of the words, where the errors are larger than a word. -/
theorem respondAll_mirrored_plunging :
    aloft.HasMirror ∧ (∀ s ∈ plunging, s.HasMirror) ∧
      ∃ memories, aloft.respondAll {} plunging = .ok memories ∧
        aloft.mirrored.respondAll {} (plunging.map Sighting.mirrored) =
          .ok (memories.map mirrored) ∧
        memories.map (fun m => (m.correction, m.integral)) =
          [(350, 1638400), (0, 1638400), (14, 1632460)] := by
  have haloft : aloft.HasMirror := ⟨by decide, by decide, by decide⟩
  have hseen : ∀ s ∈ plunging, s.HasMirror := by
    intro s hs
    simp only [plunging, List.mem_cons, List.not_mem_nil, or_false] at hs
    rcases hs with rfl | rfl | rfl
    · exact ⟨by decide, by decide⟩
    · exact ⟨by decide, by decide⟩
    · exact ⟨by decide, by decide⟩
  obtain ⟨memories, hall, -, hmirrors, -⟩ := respondAll_mirrored haloft {} hseen
  refine ⟨haloft, hseen, memories, hall, hmirrors, ?_⟩
  have heval : (aloft.respondAll {} plunging).map (·.map fun m => (m.correction, m.integral)) =
      .ok [(350, 1638400), (0, 1638400), (14, 1632460)] := by decide +kernel
  rw [hall] at heval
  exact Except.ok.inj heval

end Regulator

end Autopilot
