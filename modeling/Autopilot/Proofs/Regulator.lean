import Autopilot.Proofs.Word
import Autopilot.Regulator

/-!
# The regulator over the integers

One run of the two loops as a formula on integers, without words and without saturation:
`Regulator.nextIntegral` and `Regulator.nextCorrection`.  As long as the integral sum is inside its
bound, the regulator computes exactly these (`respond_eq`).

An integral sum that comes from outside of its bound shows one of the saturations, that of the step
which is added to it: `Regulator.saturatedIntegral`.  The regulator never fails, whatever its memory
is (`respond_eq_responded`).

`Regulator.Bounded` says that the integral sum and the correction are inside the bounds that the
terms add up to.  Every response keeps it (`Bounded.answered`).
-/

namespace Autopilot

namespace Regulator

/-! ### The formula -/

section Formula

variable (r : Regulator) (gains : AxisGains) (altitude : Int32) (sample : ClimbSample)

/-- The altitude error that the outer loop acts on. -/
def altitudeError : Int :=
  shrink altitudeErrorBand.toInt
    (confine altitudeErrorBound.toInt (r.setpoint.toInt - altitude.toInt))

/-- The climb rate that the inner loop has to follow. -/
def target : Int :=
  if r.followsStick then r.stickClimb.toInt
  else confine climbBound.toInt
    ((gains.altitude.proportional.toNat * r.altitudeError altitude).tdiv altitudeScale)

/-- The error of the climb rate. -/
def climbError : Int :=
  r.target gains altitude - sample.velocity.toInt

/-- The integral sum after the run. -/
def nextIntegral : Int :=
  confine integralBound.toInt
    (r.integral.toInt + gains.climb.integral.toNat * r.climbError gains altitude sample)

/-- The correction of the run. -/
def nextCorrection : Int :=
  confine proportionalBound.toInt
      ((gains.climb.proportional.toNat * r.climbError gains altitude sample).tdiv
        proportionalScale) +
    (r.nextIntegral gains altitude sample).tdiv integralScale -
      confine derivativeBound.toInt (derivativeTerm gains sample).toInt

/-- The memory after the run. -/
def answered (attitude : Attitude) : Regulator :=
  if attitude.thrustPointsDown then
    { r with
      integral := .ofInt (r.nextIntegral gains altitude sample)
      correction := .ofInt (r.nextCorrection gains altitude sample) }
  else
    { r with correction := 0 }

/-- The integral sum after a run from any integral sum: what is added to it is a word. -/
def saturatedIntegral : Int :=
  confine integralBound.toInt
    (r.integral.toInt + saturate (gains.climb.integral.toNat * r.climbError gains altitude sample))

/-- The correction of a run that ends with the integral sum `integral`. -/
def correctionAt (integral : Int) : Int :=
  confine proportionalBound.toInt
      ((gains.climb.proportional.toNat * r.climbError gains altitude sample).tdiv
        proportionalScale) +
    integral.tdiv integralScale -
      confine derivativeBound.toInt (derivativeTerm gains sample).toInt

/-- The memory after a run from any integral sum. -/
def responded (attitude : Attitude) : Regulator :=
  if attitude.thrustPointsDown then
    { r with
      integral := .ofInt (r.saturatedIntegral gains altitude sample)
      correction :=
        .ofInt (r.correctionAt gains altitude sample (r.saturatedIntegral gains altitude sample)) }
  else
    { r with correction := 0 }

end Formula

/-! ### The outer loop -/

theorem natAbs_altitudeError_le (r : Regulator) (altitude : Int32) :
    (r.altitudeError altitude).natAbs ≤ 500 := by
  unfold altitudeError
  calc (shrink altitudeErrorBand.toInt
        (confine altitudeErrorBound.toInt (r.setpoint.toInt - altitude.toInt))).natAbs
      ≤ (confine altitudeErrorBound.toInt (r.setpoint.toInt - altitude.toInt)).natAbs :=
        natAbs_shrink_le (by decide) _
    _ ≤ 500 := natAbs_confine_le rfl _

theorem isWord_target (r : Regulator) (gains : AxisGains) (altitude : Int32) :
    IsWord (r.target gains altitude) := by
  unfold target
  split_ifs
  · exact isWord_toInt _
  · exact isWord_confine (by decide) (by decide) _

theorem climbTarget_eq (r : Regulator) (gains : AxisGains) (altitude : Int32) :
    r.climbTarget gains altitude = .ok (.ofInt (r.target gains altitude)) := by
  unfold climbTarget target
  split_ifs
  · rw [Int32.ofInt_toInt, pure_eq_ok]
  have hconf : (confine altitudeErrorBound.toInt (r.setpoint.toInt - altitude.toInt)).natAbs ≤ 500 :=
    natAbs_confine_le rfl _
  rw [limit_ofIntClamp (by decide), ok_bind, deadband_ofInt (by decide) (by omega), ok_bind]
  change (exact (_ * (Int32.ofInt (r.altitudeError altitude)).toInt) >>= _) = _
  have herror := natAbs_altitudeError_le r altitude
  have hgain : gains.altitude.proportional.toNat ≤ 255 := by
    have := gains.altitude.proportional.toNat_lt
    omega
  have hproduct : (gains.altitude.proportional.toNat * r.altitudeError altitude).natAbs ≤
      255 * 500 := by
    rw [Int.natAbs_mul, Int.natAbs_natCast]
    exact Nat.mul_le_mul hgain herror
  have hword : IsWord (gains.altitude.proportional.toNat * r.altitudeError altitude) :=
    isWord_of_natAbs_le (by omega)
  rw [toInt_ofInt_of_isWord (isWord_of_natAbs_le (by omega)), exact_eq hword, ok_bind,
    toInt_ofInt_of_isWord hword, limit_ofIntClamp (by decide)]

/-! ### The inner loop -/

section InnerLoop

variable (r : Regulator) (gains : AxisGains) (altitude : Int32) (sample : ClimbSample)

theorem natAbs_nextIntegral_le :
    (r.nextIntegral gains altitude sample).natAbs ≤ 8192 * 200 := by
  unfold nextIntegral
  exact natAbs_confine_le rfl _

/-- The integral term after scaling. -/
theorem natAbs_tdiv_integralScale_le {n : Int} (h : n.natAbs ≤ 8192 * 200) :
    (n.tdiv integralScale).natAbs ≤ 200 := by
  rw [Int.natAbs_tdiv]
  exact Nat.div_le_of_le_mul h

/-- The correction is inside the sum of the bounds of its terms. -/
theorem natAbs_correctionAt_le {integral : Int} (h : integral.natAbs ≤ 8192 * 200) :
    (r.correctionAt gains altitude sample integral).natAbs ≤ 300 + 200 + 150 := by
  have hp : (confine proportionalBound.toInt ((gains.climb.proportional.toNat *
      r.climbError gains altitude sample).tdiv proportionalScale)).natAbs ≤ 300 :=
    natAbs_confine_le rfl _
  have hi := natAbs_tdiv_integralScale_le h
  have hd : (confine derivativeBound.toInt (derivativeTerm gains sample).toInt).natAbs ≤ 150 :=
    natAbs_confine_le rfl _
  unfold correctionAt
  omega

theorem natAbs_nextCorrection_le :
    (r.nextCorrection gains altitude sample).natAbs ≤ 300 + 200 + 150 :=
  r.natAbs_correctionAt_le gains altitude sample (r.natAbs_nextIntegral_le gains altitude sample)

theorem natAbs_saturatedIntegral_le :
    (r.saturatedIntegral gains altitude sample).natAbs ≤ 8192 * 200 := by
  unfold saturatedIntegral
  exact natAbs_confine_le rfl _

/-- The terms drop every saturation on the way to their bounds, except for the one of the step that
is added to the integral sum. -/
theorem correct_eq :
    r.correct gains altitude sample =
      .ok (.ofInt (r.saturatedIntegral gains altitude sample),
        .ofInt (r.correctionAt gains altitude sample
          (r.saturatedIntegral gains altitude sample))) := by
  have hp : (confine proportionalBound.toInt ((gains.climb.proportional.toNat *
      r.climbError gains altitude sample).tdiv proportionalScale)).natAbs ≤ 300 :=
    natAbs_confine_le rfl _
  have hi := r.natAbs_saturatedIntegral_le gains altitude sample
  have hd : (confine derivativeBound.toInt (derivativeTerm gains sample).toInt).natAbs ≤ 150 :=
    natAbs_confine_le rfl _
  have hsum := (Int.natAbs_add_le _ _).trans
    (Nat.add_le_add hp (natAbs_tdiv_integralScale_le hi))
  have hcorr := r.natAbs_correctionAt_le gains altitude sample hi
  unfold correctionAt at hcorr ⊢
  -- Everything that the loop adds up is a word.
  have hpword := isWord_of_natAbs_le (hp.trans (by decide))
  have hiword := isWord_of_natAbs_le (hi.trans (by decide))
  have hdword := isWord_of_natAbs_le (hd.trans (by decide))
  have hsumword := isWord_of_natAbs_le (hsum.trans (by decide))
  have hcorrword := isWord_of_natAbs_le (hcorr.trans (by decide))
  unfold correct
  rw [climbTarget_eq, ok_bind]
  dsimp only
  rw [toInt_ofInt_of_isWord (r.isWord_target gains altitude)]
  change (limit (.ofIntClamp ((Int32.ofIntClamp (_ *
    (Int32.ofIntClamp (r.climbError gains altitude sample)).toInt)).toInt.tdiv _)) _ >>= _) = _
  simp only [toInt_ofIntClamp, saturate_mul_saturate]
  rw [limit_ofIntClamp (by decide), confine_tdiv_saturate (by decide) (by decide) (by decide),
    ok_bind, limit_ofIntClamp (by decide), ok_bind]
  change (exact (_ + (Int32.ofInt (r.saturatedIntegral gains altitude sample)).toInt.tdiv _) >>= _)
    = _
  rw [toInt_ofInt_of_isWord hpword, toInt_ofInt_of_isWord hiword, exact_eq hsumword, ok_bind,
    limit_eq (by decide), ok_bind, toInt_ofInt_of_isWord hsumword, toInt_ofInt_of_isWord hdword,
    exact_eq hcorrword, ok_bind, pure_eq_ok]
  rfl

/-- The regulator answers every estimate. -/
theorem respond_eq_responded (attitude : Attitude) :
    r.respond gains attitude altitude sample =
      .ok (r.responded gains altitude sample attitude) := by
  unfold respond responded
  split_ifs
  · rw [correct_eq, ok_bind]
    rfl
  · rw [pure_eq_ok]

variable {r}

/-- While the integral sum is inside its bound, no saturation on the way can be seen in the
results. -/
theorem saturatedIntegral_eq (h : r.integral.toInt.natAbs ≤ 8192 * 200) :
    r.saturatedIntegral gains altitude sample = r.nextIntegral gains altitude sample := by
  have hinteg : r.integral.toInt.natAbs ≤ integralBound.toInt := Int.ofNat_le.mpr h
  unfold saturatedIntegral nextIntegral
  exact confine_add_saturate hinteg (by decide) _

theorem respond_eq (attitude : Attitude) (h : r.integral.toInt.natAbs ≤ 8192 * 200) :
    r.respond gains attitude altitude sample =
      .ok (r.answered gains altitude sample attitude) := by
  rw [respond_eq_responded]
  unfold responded answered
  rw [saturatedIntegral_eq gains altitude sample h]
  rfl

end InnerLoop

/-! ### The memory -/

/-- The integral sum and the correction are inside their bounds. -/
structure Bounded (r : Regulator) : Prop where
  integral : r.integral.toInt.natAbs ≤ 8192 * 200
  correction : r.correction.toInt.natAbs ≤ 300 + 200 + 150

namespace Bounded

variable {r : Regulator}

theorem initial : Bounded {} where
  integral := by decide
  correction := by decide

theorem restart (r : Regulator) (altitude : Int32) : (r.restart altitude).Bounded where
  integral := initial.integral
  correction := initial.correction

theorem answered (h : r.Bounded) (gains : AxisGains) (altitude : Int32) (sample : ClimbSample)
    (attitude : Attitude) : (r.answered gains altitude sample attitude).Bounded := by
  have hinteg := r.natAbs_nextIntegral_le gains altitude sample
  have hcorr := r.natAbs_nextCorrection_le gains altitude sample
  unfold Regulator.answered
  split_ifs
  · constructor
    · rw [toInt_ofInt_of_isWord (isWord_of_natAbs_le (hinteg.trans (by decide)))]
      exact hinteg
    · rw [toInt_ofInt_of_isWord (isWord_of_natAbs_le (hcorr.trans (by decide)))]
      exact hcorr
  · exact ⟨h.integral, initial.correction⟩

end Bounded

end Regulator

end Autopilot
