import Autopilot.Fusion
import Autopilot.Proofs.Single

/-!
# When an estimate can be taken

An estimate can fail in two places.  The ranger is weighed by the distance between the two ends of
its band, and that distance is no word when the band is too wide (`RangerReading.TooWide`).  The
speed for display is what the rounded speed leaves outside of a dead band, and the least word, to
which all speeds from `-2147483648` down are rounded, has no size to compare with the band.

Everything else always has a result.  `Fusion.estimated` is the estimate without the two checks, and
`Fusion.update_eq` says that the estimator answers it unless it overflows (`Fusion.Overflows`,
`Fusion.update_eq_overflow`).
-/

namespace Autopilot

/-! ### The ranger -/

/-- The reading is inside its band, and the band is wider than a word. -/
structure RangerReading.TooWide (reading : RangerReading) : Prop where
  echo : 0 < reading.range
  near_le : reading.near ≤ reading.range
  le_far : reading.range ≤ reading.far
  wide : 2147483647 < reading.far.toInt - reading.near.toInt

/-- The blended altitude of a band that is not too wide. -/
def RangerReading.blended (reading : RangerReading) (baro : Int32) : Option Int32 :=
  if reading.range ≤ 0 ∨ reading.range < reading.near ∨ reading.far < reading.range then none
  else if reading.far = reading.near then some reading.range
  else
    let weight := singleOfInt (reading.far.toInt - reading.range.toInt) /
      singleOfInt (reading.far.toInt - reading.near.toInt)
    some <| truncate32 <|
      singleOfInt reading.range.toInt * weight + singleOfInt baro.toInt * (1.0 - weight)

theorem blendRanger_eq_overflow {reading : RangerReading} (h : reading.TooWide) (baro : Int32) :
    blendRanger reading baro = .error .overflow := by
  obtain ⟨hecho, hnear, hfar, hwide⟩ := h
  obtain ⟨range, near, far⟩ := reading
  simp only [Int32.lt_iff_toInt_lt, Int32.le_iff_toInt_le, Int32.toInt_zero] at hecho hnear hfar
  change 2147483647 < far.toInt - near.toInt at hwide
  have hword := isWord_toInt far
  unfold IsWord at hword
  unfold blendRanger
  simp only [Int32.lt_iff_toInt_lt, Int32.le_iff_toInt_le, Int32.toInt_zero]
  rw [if_neg (by omega), if_neg (by rintro rfl; omega), exact_eq (by unfold IsWord; omega),
    ok_bind, exact_eq_overflow (by unfold IsWord; omega), error_bind]

theorem blendRanger_eq {reading : RangerReading} (h : ¬ reading.TooWide) (baro : Int32) :
    blendRanger reading baro = .ok (reading.blended baro) := by
  obtain ⟨range, near, far⟩ := reading
  have hword := isWord_toInt far
  unfold IsWord at hword
  unfold blendRanger RangerReading.blended
  dsimp only
  split_ifs with hout hpoint
  · rfl
  · rfl
  · simp only [Int32.lt_iff_toInt_lt, Int32.le_iff_toInt_le, Int32.toInt_zero] at hout
    have hnarrow : ¬ 2147483647 < far.toInt - near.toInt := fun hwide => h
      ⟨by simp only [Int32.lt_iff_toInt_lt, Int32.toInt_zero]; omega,
        by simp only [Int32.le_iff_toInt_le]; omega,
        by simp only [Int32.le_iff_toInt_le]; omega, hwide⟩
    -- The reading is above zero, so its distance to the far end is shorter than a word.
    have habove : IsWord (far.toInt - range.toInt) := by unfold IsWord; omega
    have hband : IsWord (far.toInt - near.toInt) := by unfold IsWord; omega
    rw [exact_eq habove, ok_bind, exact_eq hband, ok_bind, toInt_ofInt_of_isWord habove,
      toInt_ofInt_of_isWord hband, pure_eq_ok]

namespace Fusion

/-! ### The barometer -/

/-- The vertical speed of the barometer over `elapsed` microseconds. -/
def baroClimb (before baro : Int32) (elapsed : UInt32) : Int32 :=
  let rise := Int32.ofIntClamp (baro.toInt - before.toInt)
  let speed := truncate32 (singleOfInt rise.toInt * 1000000.0 / singleOfInt elapsed.toNat)
  .ofInt (shrink baroVelocityBand.toInt (confine baroVelocityBound.toInt speed.toInt))

theorem baroVelocity_eq (before baro : Int32) (elapsed : UInt32) :
    baroVelocity before baro elapsed = .ok (baroClimb before baro elapsed) := by
  unfold baroVelocity baroClimb
  dsimp only
  have hconf : (confine baroVelocityBound.toInt (truncate32
      (singleOfInt (Int32.ofIntClamp (baro.toInt - before.toInt)).toInt * 1000000.0 /
        singleOfInt elapsed.toNat)).toInt).natAbs ≤ 1500 :=
    natAbs_confine_le rfl _
  rw [limit_eq (by decide), ok_bind]
  exact deadband_ofInt (by decide) (by omega)

/-! ### The estimate without its checks -/

section Estimated

variable (s : Settings) (now : UInt32) (r : Readings) (f : Fusion)

/-- The mean acceleration of the readings. -/
def meanAccel : Float32 :=
  match accelWindow r.accel with
  | some w => w.mean
  | none => 0.0

/-- The memory after the acceleration has been integrated. -/
def absorbed : Fusion :=
  match accelWindow r.accel with
  | some w => f.integrate s (baroAltitude r.baro) w
  | none => f

/-- The vertical speed, mixed from the accelerometer and the barometer. -/
def mixedVelocity : Float32 :=
  let climb := match r.baro with
    | some _ => baroClimb f.lastBaro (baroAltitude r.baro) (now - f.lastTime)
    | none => 0
  (f.absorbed s r).velocity * s.weights.velocity +
    singleOfInt climb.toInt * (1.0 - s.weights.velocity)

/-- The altitude, from the ranger where it can be blended in. -/
def fusedAltitude : Int32 :=
  (r.ranger.bind fun reading => reading.blended (baroAltitude r.baro)).getD
    ((f.absorbed s r).coarseAltitude r)

/-- The estimate, with a speed for display that is never a fault. -/
def estimated : ClimbSample × Fusion :=
  let velocity := f.mixedVelocity s now r
  let rounded := roundEven32 velocity
  ({ velocity := rounded, accel := meanAccel r, accelBefore := f.lastAccel },
    { velocity
      height := (f.absorbed s r).height
      lastBaro := if r.baro.isSome then baroAltitude r.baro else f.lastBaro
      lastTime := now
      lastAccel := meanAccel r
      altitude := f.fusedAltitude s r
      vario := .ofInt (shrink varioBand.toInt rounded.toInt)
      telemetry := {
        accel := truncate16 (meanAccel r)
        velocity := truncate16 (f.absorbed s r).velocity
        height := truncate16 (f.absorbed s r).height } })

/-- The altitude of an estimate, which is not known when the band of the ranger is too wide. -/
def blendedAltitude : Except Fault Int32 :=
  match r.ranger with
  | some reading =>
    (fun blend => blend.getD ((f.absorbed s r).coarseAltitude r)) <$>
      blendRanger reading (baroAltitude r.baro)
  | none => .ok ((f.absorbed s r).coarseAltitude r)

theorem estimate_eq :
    f.estimate s now r = (do
      let altitude ← f.blendedAltitude s r
      let vario ← deadband (roundEven32 (f.mixedVelocity s now r)) varioBand
      return ((f.estimated s now r).1,
        { (f.estimated s now r).2 with altitude := altitude, vario := vario })) := by
  obtain ⟨baro, ranger, accel, attitude⟩ := r
  unfold estimate
  simp only [baroVelocity_eq]
  cases baro <;> cases ranger <;> rfl

/-! ### Faults -/

variable {s now r f}

theorem blendedAltitude_eq (h : ∀ reading, r.ranger = some reading → ¬ reading.TooWide) :
    f.blendedAltitude s r = .ok (f.fusedAltitude s r) := by
  unfold blendedAltitude fusedAltitude
  cases hranger : r.ranger with
  | none => rfl
  | some reading =>
    dsimp only
    rw [blendRanger_eq (h reading hranger), map_ok]
    rfl

theorem blendedAltitude_eq_overflow {reading : RangerReading} (hr : r.ranger = some reading)
    (h : reading.TooWide) : f.blendedAltitude s r = .error .overflow := by
  unfold blendedAltitude
  rw [hr]
  dsimp only
  rw [blendRanger_eq_overflow h, map_error]

theorem estimate_eq_ok (hband : ∀ reading, r.ranger = some reading → ¬ reading.TooWide)
    (hspeed : ¬ f.mixedVelocity s now r ≤ -2147483648.0) :
    f.estimate s now r = .ok (f.estimated s now r) := by
  have hleast := mt roundEven32_eq_minValue_iff.mp hspeed
  rw [estimate_eq, blendedAltitude_eq hband, ok_bind, deadband_eq (by decide) hleast, ok_bind,
    pure_eq_ok]
  rfl

theorem estimate_eq_overflow
    (h : (∃ reading, r.ranger = some reading ∧ reading.TooWide) ∨
      f.mixedVelocity s now r ≤ -2147483648.0) :
    f.estimate s now r = .error .overflow := by
  rw [estimate_eq]
  by_cases hband : ∃ reading, r.ranger = some reading ∧ reading.TooWide
  · obtain ⟨reading, hr, hwide⟩ := hband
    rw [blendedAltitude_eq_overflow hr hwide, error_bind]
  -- The ranger comes first, so the speed decides only behind a band that is not too wide.
  · have hleast := roundEven32_eq_minValue_iff.mpr (h.resolve_left hband)
    push Not at hband
    rw [blendedAltitude_eq hband, ok_bind, hleast, deadband_minValue, error_bind]

end Estimated

/-! ### Calls of the estimator -/

section Update

variable (s : Settings) (now : UInt32) (r : Readings) (f : Fusion)

/-- The call takes an estimate, and the estimate cannot be taken: the ranger is inside a band that
is wider than a word, or the vertical speed is no larger than the least word. -/
structure Overflows : Prop where
  due : ¬ f.isEarly now
  calibrated : r.baro ≠ some .calibrating
  fault : (∃ reading, r.ranger = some reading ∧ reading.TooWide) ∨
    f.mixedVelocity s now r ≤ -2147483648.0

/-- The answer of the estimator, with a speed for display that is never a fault. -/
def updated : Update :=
  if f.isEarly now then ⟨.early, f, []⟩
  else if r.baro = some .calibrating then
    ⟨.calibrating, { f with velocity := 0.0, height := 0.0, lastTime := now },
      .calibrateBaro :: (r.accel.map fun _ => .resetAccel).toList⟩
  else ⟨.fresh (f.estimated s now r).1, (f.estimated s now r).2, freshCalls r⟩

variable {s now r f}

theorem updated_of_isEarly (h : f.isEarly now = true) :
    f.updated s now r = ⟨.early, f, []⟩ :=
  if_pos h

theorem updated_of_calibrating (h : ¬ f.isEarly now = true) (hbaro : r.baro = some .calibrating) :
    f.updated s now r = ⟨.calibrating, { f with velocity := 0.0, height := 0.0, lastTime := now },
      .calibrateBaro :: (r.accel.map fun _ => .resetAccel).toList⟩ := by
  unfold updated
  rw [if_neg h, if_pos hbaro]

theorem updated_of_calibrated (h : ¬ f.isEarly now = true) (hbaro : r.baro ≠ some .calibrating) :
    f.updated s now r = ⟨.fresh (f.estimated s now r).1, (f.estimated s now r).2, freshCalls r⟩ := by
  unfold updated
  rw [if_neg h, if_neg hbaro]

theorem update_eq (h : ¬ f.Overflows s now r) : f.update s now r = .ok (f.updated s now r) := by
  unfold update updated
  split_ifs with hearly hbaro
  · rfl
  · rfl
  · have hband : ∀ reading, r.ranger = some reading → ¬ reading.TooWide := fun reading hr hwide =>
      h ⟨hearly, hbaro, .inl ⟨reading, hr, hwide⟩⟩
    have hspeed : ¬ f.mixedVelocity s now r ≤ -2147483648.0 := fun hlow =>
      h ⟨hearly, hbaro, .inr hlow⟩
    rw [estimate_eq_ok hband hspeed, ok_bind]
    rfl

theorem update_eq_overflow (h : f.Overflows s now r) : f.update s now r = .error .overflow := by
  unfold update
  rw [if_neg h.due, if_neg h.calibrated, estimate_eq_overflow h.fault, error_bind]

theorem eq_updated_of_update {u : Update} (hu : f.update s now r = .ok u) :
    u = f.updated s now r := by
  by_cases hover : f.Overflows s now r
  · rw [update_eq_overflow hover] at hu
    cases hu
  · rw [update_eq hover, Except.ok.injEq] at hu
    exact hu.symm

/-- Only a call that comes too early answers so. -/
theorem isEarly_of_updated (h : (f.updated s now r).estimate = .early) : f.isEarly now = true := by
  unfold updated at h
  split_ifs at h with hearly
  exact hearly

theorem estimated_of_fresh {sample : ClimbSample}
    (h : (f.updated s now r).estimate = .fresh sample) :
    ¬ f.isEarly now = true ∧
      (sample, (f.updated s now r).fusion) = f.estimated s now r := by
  unfold updated at h ⊢
  split_ifs at h ⊢ with hearly hbaro
  obtain rfl := Estimate.fresh.inj h
  exact ⟨hearly, rfl⟩

end Update

end Fusion

end Autopilot
