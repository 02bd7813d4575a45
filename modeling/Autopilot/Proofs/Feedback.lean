import Autopilot.Proofs.Regulator

/-!
# Negative feedback

Two regulators with the same gains are compared over any number of runs.  The first one is shown a
vehicle that is never lower and never climbs more slowly than the one that the second is shown, and
it starts with no larger demands (`Regulator.Below`).  Then it never gives the larger correction
(`Regulator.respondAll_le`).

Each term of the correction is monotone in the demand and antitone in what is seen, through every
bound, dead band, division and saturation (`Regulator.Below.saturatedIntegral_le`,
`Regulator.Below.correctionAt_le`).  While thrust does not point down, both corrections are zero and
the integral sums stay as they are.
-/

namespace Autopilot

namespace Regulator

/-! ### Runs -/

/-- What a regulator is shown in one run of its loops. -/
structure Sighting where
  attitude : Attitude
  altitude : Int32
  sample : ClimbSample
deriving DecidableEq, Repr

/-- The memory after each of several runs. -/
def respondAll (r : Regulator) (gains : AxisGains) : List Sighting → Except Fault (List Regulator)
  | [] => return []
  | seen :: rest => do
    let next ← r.respond gains seen.attitude seen.altitude seen.sample
    return next :: (← next.respondAll gains rest)

theorem respondAll_cons {r next : Regulator} {gains : AxisGains} {seen : Sighting}
    {rest : List Sighting} {memories : List Regulator}
    (hrun : r.respond gains seen.attitude seen.altitude seen.sample = .ok next)
    (hall : next.respondAll gains rest = .ok memories) :
    r.respondAll gains (seen :: rest) = .ok (next :: memories) := by
  unfold respondAll
  rw [hrun, ok_bind, hall, ok_bind, pure_eq_ok]

/-! ### The order -/

/-- The vehicle `x` is no lower than `y` and climbs no more slowly, in the same attitude and with the
same acceleration. -/
structure Sighting.Above (x y : Sighting) : Prop where
  attitude : x.attitude = y.attitude
  accel : x.sample.accel = y.sample.accel
  accelBefore : x.sample.accelBefore = y.sample.accelBefore
  altitude : y.altitude ≤ x.altitude
  velocity : y.sample.velocity ≤ x.sample.velocity

/-- The regulator `a` demands no more than `b`, and neither or both follow the stick. -/
structure Below (a b : Regulator) : Prop where
  followsStick : a.followsStick = b.followsStick
  setpoint : a.setpoint ≤ b.setpoint
  stickClimb : a.stickClimb ≤ b.stickClimb
  integral : a.integral ≤ b.integral

namespace Below

variable {a b : Regulator} {x y : Sighting} (h : a.Below b) (hseen : x.Above y) (gains : AxisGains)

include h hseen

theorem altitudeError_le : a.altitudeError x.altitude ≤ b.altitudeError y.altitude := by
  have hsetpoint := Int32.le_iff_toInt_le.mp h.setpoint
  have haltitude := Int32.le_iff_toInt_le.mp hseen.altitude
  unfold altitudeError
  apply shrink_mono (by decide)
  apply confine_mono
  omega

theorem target_le : a.target gains x.altitude ≤ b.target gains y.altitude := by
  unfold target
  rw [h.followsStick]
  split_ifs
  · exact Int32.le_iff_toInt_le.mp h.stickClimb
  · apply confine_mono
    apply Int.tdiv_le_tdiv (by decide)
    exact Int.mul_le_mul_of_nonneg_left (h.altitudeError_le hseen) (by omega)

theorem climbError_le :
    a.climbError gains x.altitude x.sample ≤ b.climbError gains y.altitude y.sample := by
  have htarget := h.target_le hseen gains
  have hvelocity := Int32.le_iff_toInt_le.mp hseen.velocity
  unfold climbError
  omega

/-- A gain that multiplies the error of the climb rate keeps the order. -/
theorem mul_climbError_le (gain : Nat) :
    gain * a.climbError gains x.altitude x.sample ≤
      gain * b.climbError gains y.altitude y.sample :=
  Int.mul_le_mul_of_nonneg_left (h.climbError_le hseen gains) (by omega)

theorem saturatedIntegral_le :
    a.saturatedIntegral gains x.altitude x.sample ≤
      b.saturatedIntegral gains y.altitude y.sample := by
  have hintegral := Int32.le_iff_toInt_le.mp h.integral
  have hstep := saturate_mono (h.mul_climbError_le hseen gains gains.climb.integral.toNat)
  unfold saturatedIntegral
  apply confine_mono
  omega

theorem correctionAt_le {m n : Int} (hmn : m ≤ n) :
    a.correctionAt gains x.altitude x.sample m ≤ b.correctionAt gains y.altitude y.sample n := by
  have hproportional := confine_mono proportionalBound.toInt
    (Int.tdiv_le_tdiv (show 0 < proportionalScale by decide)
      (h.mul_climbError_le hseen gains gains.climb.proportional.toNat))
  have hintegral := Int.tdiv_le_tdiv (show 0 < integralScale by decide) hmn
  -- The accelerations are the same, and so are the derivative terms.
  have hderivative : derivativeTerm gains x.sample = derivativeTerm gains y.sample := by
    unfold derivativeTerm
    rw [hseen.accel, hseen.accelBefore]
  unfold correctionAt
  rw [hderivative]
  omega

/-- One run keeps the order and gives no larger correction. -/
theorem responded :
    (a.responded gains x.altitude x.sample x.attitude).Below
        (b.responded gains y.altitude y.sample y.attitude) ∧
      (a.responded gains x.altitude x.sample x.attitude).correction ≤
        (b.responded gains y.altitude y.sample y.attitude).correction := by
  have hinteg := h.saturatedIntegral_le hseen gains
  have hcorr := h.correctionAt_le hseen gains hinteg
  unfold Regulator.responded
  rw [hseen.attitude]
  split_ifs
  · have ha := a.natAbs_saturatedIntegral_le gains x.altitude x.sample
    have hb := b.natAbs_saturatedIntegral_le gains y.altitude y.sample
    have ha' := a.natAbs_correctionAt_le gains x.altitude x.sample ha
    have hb' := b.natAbs_correctionAt_le gains y.altitude y.sample hb
    refine ⟨⟨h.followsStick, h.setpoint, h.stickClimb, ?_⟩, ?_⟩
    · rw [Int32.le_iff_toInt_le, toInt_ofInt_of_isWord (isWord_of_natAbs_le (ha.trans (by decide))),
        toInt_ofInt_of_isWord (isWord_of_natAbs_le (hb.trans (by decide)))]
      exact hinteg
    · rw [Int32.le_iff_toInt_le, toInt_ofInt_of_isWord (isWord_of_natAbs_le (ha'.trans (by decide))),
        toInt_ofInt_of_isWord (isWord_of_natAbs_le (hb'.trans (by decide)))]
      exact hcorr
  · exact ⟨⟨h.followsStick, h.setpoint, h.stickClimb, h.integral⟩, Int32.le_refl _⟩

end Below

/-! ### The comparison of runs -/

/-- A regulator that demands no more, and that is shown a vehicle which is never lower and never
climbs more slowly, answers every sighting with no larger correction and no larger integral sum.
Both regulators answer, whatever their memories are. -/
theorem respondAll_le {a b : Regulator} (h : a.Below b) (gains : AxisGains)
    {xs ys : List Sighting} (hseen : List.Forall₂ Sighting.Above xs ys) :
    ∃ as bs, a.respondAll gains xs = .ok as ∧ b.respondAll gains ys = .ok bs ∧
      as.length = xs.length ∧
      List.Forall₂ (fun a b => a.correction ≤ b.correction ∧ a.integral ≤ b.integral) as bs := by
  induction hseen generalizing a b with
  | nil => exact ⟨[], [], rfl, rfl, rfl, .nil⟩
  | cons hfirst _ ih =>
    obtain ⟨hnext, hcorr⟩ := h.responded hfirst gains
    obtain ⟨as, bs, has, hbs, hlength, hall⟩ := ih hnext
    refine ⟨_ :: as, _ :: bs, ?_, ?_, congrArg (· + 1) hlength, .cons ⟨hcorr, hnext.integral⟩ hall⟩
    · unfold respondAll
      rw [respond_eq_responded, ok_bind, has, ok_bind, pure_eq_ok]
    · unfold respondAll
      rw [respond_eq_responded, ok_bind, hbs, ok_bind, pure_eq_ok]

/-- A vehicle at the end `word` of all words: banked too far at first, then level, with an
acceleration that is no number. -/
def extreme (word : Int32) : List Sighting :=
  [⟨{ roll := 900 }, word, ⟨word, 0, 0⟩⟩, ⟨{}, word, ⟨word, .ofBits 0x7FC00000, 0⟩⟩]

/-- The regulators and the vehicles are as far apart as words allow.  The bank keeps integral sums
that are outside of their bound, and the run after it brings them back. -/
theorem respondAll_le_extreme :
    Below { setpoint := Int32.minValue, integral := Int32.minValue }
        { setpoint := Int32.maxValue, integral := Int32.maxValue } ∧
      List.Forall₂ Sighting.Above (extreme Int32.maxValue) (extreme Int32.minValue) ∧
      ∃ as bs,
        respondAll { setpoint := Int32.minValue, integral := Int32.minValue } {}
          (extreme Int32.maxValue) = .ok as ∧
        respondAll { setpoint := Int32.maxValue, integral := Int32.maxValue } {}
          (extreme Int32.minValue) = .ok bs ∧
        as.map (fun r => (r.correction, r.integral)) =
          [(0, Int32.minValue), (-500, -(8192 * 200))] ∧
        bs.map (fun r => (r.correction, r.integral)) =
          [(0, Int32.maxValue), (500, 8192 * 200)] ∧
        List.Forall₂ (fun a b => a.correction ≤ b.correction ∧ a.integral ≤ b.integral) as bs := by
  have hbelow : Below { setpoint := Int32.minValue, integral := Int32.minValue }
      { setpoint := Int32.maxValue, integral := Int32.maxValue } :=
    ⟨rfl, by decide, by decide, by decide⟩
  have habove : List.Forall₂ Sighting.Above (extreme Int32.maxValue) (extreme Int32.minValue) :=
    .cons ⟨rfl, rfl, rfl, by decide, by decide⟩
      (.cons ⟨rfl, rfl, rfl, by decide, by decide⟩ .nil)
  obtain ⟨as, bs, has, hbs, -, hall⟩ := respondAll_le hbelow {} habove
  have hleft : (respondAll { setpoint := Int32.minValue, integral := Int32.minValue } {}
      (extreme Int32.maxValue)).map (·.map fun r => (r.correction, r.integral)) =
        .ok [(0, Int32.minValue), (-500, -(8192 * 200))] := by decide +kernel
  have hright : (respondAll { setpoint := Int32.maxValue, integral := Int32.maxValue } {}
      (extreme Int32.minValue)).map (·.map fun r => (r.correction, r.integral)) =
        .ok [(0, Int32.maxValue), (500, 8192 * 200)] := by decide +kernel
  rw [has] at hleft
  rw [hbs] at hright
  exact ⟨hbelow, habove, as, bs, has, hbs, Except.ok.inj hleft, Except.ok.inj hright, hall⟩

end Regulator

end Autopilot
