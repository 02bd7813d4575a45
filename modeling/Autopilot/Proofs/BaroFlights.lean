import Autopilot.Proofs.AccelSamples
import Autopilot.Proofs.Refusals

/-!
# Flights without an accelerometer

Without an accelerometer, the vertical speed of the estimator is a running mean of the speeds of the
barometer, which are bounded.  The mean stays within `2^24` in spite of its roundings
(`HasValue.exists_mean`), far away from the least word, and the band of a ranger is never wider than its
reach.  So the estimator does not overflow (`Fusion.Steady.not_overflows`), and every flight without
an accelerometer comes to its end (`Script.exists_fly_of_noAccel`).
-/

namespace Autopilot

/-! ### A mean of bounded numbers -/

section Mean

variable {x y : Float32} {p q v : ℚ}

theorem abs_apply (s : Float.Model.UnpackedFloat.Sign) (m : ℕ) : |s.apply m| = m := by
  cases s with
  | positive => exact abs_of_nonneg (Int.natCast_nonneg m)
  | negative => exact (abs_neg _).trans (abs_of_nonneg (Int.natCast_nonneg m))

/-- A float times a power of two is not rounded. -/
theorem HasValue.rounded_two_pow_mul (h : HasValue x q) (k : ℕ) :
    rounded .binary32 (2 ^ k * q) = 2 ^ k * q := by
  obtain ⟨⟨s, size, hsized, rfl⟩, -⟩ := h
  generalize x.toModel.unpack = u at hsized
  cases hsized with
  | zero => rw [signed_zero, mul_zero, rounded_zero]
  | @finite m e hm =>
    have hdigits : |s.apply m| < 2 ^ 24 := by
      have hlt : m < 2 ^ 24 := hm.digits
      rw [abs_apply]
      exact_mod_cast hlt
    have hleast : Float.Model.Format.minExponent .binary32 ≤ e + k := by
      have := hm.least
      omega
    have hvalue : 2 ^ k * signed s ((m : ℚ) * 2 ^ e) = (s.apply m : ℤ) * 2 ^ (e + k) := by
      rw [signed_mul, signed_natCast, zpow_add₀ two_ne_zero, zpow_natCast]
      ring
    rw [hvalue]
    exact rounded_intCast_mul hdigits hleast

/-- The product of a weight and a number within a power of two is within the same part of the power. -/
theorem HasValue.abs_rounded_mul_le (h : HasValue x q) (hq : 0 ≤ q) {k : ℕ} (hp : |p| ≤ 2 ^ k) :
    |rounded .binary32 (p * q)| ≤ 2 ^ k * q := by
  calc |rounded .binary32 (p * q)| = rounded .binary32 |p * q| := abs_rounded _ _
    _ ≤ rounded .binary32 (2 ^ k * q) := by
        refine rounded_mono _ ?_
        rw [abs_mul, abs_of_nonneg hq]
        exact mul_le_mul_of_nonneg_right hp hq
    _ = 2 ^ k * q := h.rounded_two_pow_mul k

/-- The mean of two numbers within `2^24` stays there, with all its roundings: the two weights
together are rounded to one, or miss it by less than what is seen of a number that large. -/
theorem abs_rounded_mean_le (hx : HasValue x q) (h0 : 0 ≤ q) (h1 : q ≤ 1)
    (hy : HasValue y (rounded .binary32 (1 - q))) (hp : |p| ≤ 2 ^ 24) (hv : |v| ≤ 2 ^ 24) :
    |rounded .binary32 (rounded .binary32 (p * q) +
      rounded .binary32 (v * rounded .binary32 (1 - q)))| ≤ 2 ^ 24 := by
  have hrest : 0 ≤ rounded .binary32 (1 - q) := rounded_nonneg (by linarith)
  have herror : |rounded .binary32 (1 - q) - (1 - q)| ≤ 2 ^ (1 - 24 : ℤ) / 2 :=
    abs_rounded_sub_le_of_lt (by linarith) (by rw [zpow_one]; linarith) (by decide)
  have hsum : q + rounded .binary32 (1 - q) ≤ 1 + 1 / 2 ^ 24 := by
    have hhalf : (2 : ℚ) ^ (1 - 24 : ℤ) / 2 = 1 / 2 ^ 24 := by norm_num
    have := (abs_le.mp herror).2
    linarith
  calc _ = rounded .binary32 |rounded .binary32 (p * q) +
        rounded .binary32 (v * rounded .binary32 (1 - q))| := abs_rounded _ _
    _ ≤ rounded .binary32 (2 ^ 24 + 1) := by
        refine rounded_mono _ ((abs_add_le _ _).trans ?_)
        have hleft := hx.abs_rounded_mul_le h0 hp
        have hright := hy.abs_rounded_mul_le hrest hv
        linarith
    _ = 2 ^ 24 := rounded_two_pow_add_one

/-- So a float that is mixed with another one, by a weight from zero to one, stays within `2^24`. -/
theorem HasValue.exists_mean {w : Float32} (hx : HasValue x p) (hw : HasValue w q) (h0 : 0 ≤ q)
    (h1 : q ≤ 1) (hy : HasValue y v) (hp : |p| ≤ 2 ^ 24) (hv : |v| ≤ 2 ^ 24) :
    ∃ mean, HasValue (x * w + y * (1.0 - w)) mean ∧ |mean| ≤ 2 ^ 24 := by
  have hrest : HasValue (1.0 - w) (rounded .binary32 (1 - q)) := by
    refine hasValue_one.sub hw ?_
    rw [abs_of_nonneg (by linarith)]
    linarith
  have hrest0 : 0 ≤ rounded .binary32 (1 - q) := rounded_nonneg (by linarith)
  have hrest1 : rounded .binary32 (1 - q) ≤ 1 := by
    have hone := rounded_mono .binary32 (by linarith : 1 - q ≤ 1)
    rwa [hasValue_one.rounded_eq] at hone
  have hproduct : ∀ {a b : ℚ}, |a| ≤ 2 ^ 24 → 0 ≤ b → b ≤ 1 → |a * b| ≤ 2 ^ 24 := by
    intro a b ha hb0 hb1
    rw [abs_mul, abs_of_nonneg hb0]
    exact (mul_le_of_le_one_right (abs_nonneg a) hb1).trans ha
  have hlarge : (2 : ℚ) ^ 24 + 2 ^ 24 ≤ 2 ^ 127 := by norm_num
  have hleft := hx.mul hw ((hproduct hp h0 h1).trans (by linarith))
  have hright := hy.mul hrest ((hproduct hv hrest0 hrest1).trans (by linarith))
  have hsum := hleft.add hright (by
    have hleft_le := hw.abs_rounded_mul_le h0 hp
    have hright_le := hrest.abs_rounded_mul_le hrest0 hv
    refine (abs_add_le _ _).trans ?_
    linarith)
  exact ⟨_, hsum, abs_rounded_mean_le hw h0 h1 hrest hp hv⟩

/-- The float that is the least word. -/
theorem hasValue_least : HasValue (-2147483648.0) (-2 ^ 31) := by
  have hunpack : (2147483648.0 : Float32).toModel.unpack =
      .finite .positive (2 ^ 23) 8 (by decide) := rfl
  have hcanonical : Canonical .binary32 (2 ^ 23) 8 := ⟨by decide, by decide, by decide, .inl le_rfl⟩
  have hvalue : (2 ^ 31 : ℚ) = ((2 ^ 23 : ℕ) : ℚ) * 2 ^ (8 : ℤ) := by norm_num
  have hsized : Sized .binary32 .positive (2 ^ 31) (2147483648.0 : Float32).toModel.unpack := by
    rw [hunpack, hvalue]
    exact .finite hcanonical
  have hlt : |(2 ^ 31 : ℚ)| < sizeLimit .binary32 := by
    rw [abs_of_pos (by positivity)]
    exact pow_lt_pow_right₀ one_lt_two (by decide)
  exact HasValue.neg ⟨⟨.positive, _, hsized, rfl⟩, hlt⟩

end Mean

/-- The weight of vertical speed is a number from zero to one. -/
theorem Settings.exists_velocityWeight {s : Settings} (h : s.check = .ok ()) :
    ∃ q, HasValue s.weights.velocity q ∧ 0 ≤ q ∧ q ≤ 1 := by
  have hfails := s.failsWith_check
  rw [h] at hfails
  have hnone := s.grounded.eq_nil_iff.mp hfails.eq_nil
  exact not_not.mp (hnone ⟨_, .weightOutOfRange .velocity s.weights.velocity⟩
    (List.mem_cons_of_mem _ List.mem_cons_self))

/-! ### The estimator -/

namespace Fusion

variable {s : Settings} {now : UInt32} {r : Readings} {f : Fusion}

/-- The vertical speed is a number within `2^24`. -/
def Steady (f : Fusion) : Prop :=
  ∃ q, HasValue f.velocity q ∧ |q| ≤ 2 ^ 24

theorem steady_of_velocity_zero (h : f.velocity = 0.0) : f.Steady := by
  refine ⟨0, ?_, by norm_num⟩
  rw [h]
  exact @hasValue_singleOfInt 0 (by decide)

theorem abs_baroClimb_le (before baro : Int32) (elapsed : UInt32) :
    |(baroClimb before baro elapsed).toInt| ≤ 1500 := by
  unfold baroClimb
  dsimp only
  generalize (truncate32 _).toInt = speed
  have hconfined : (confine baroVelocityBound.toInt speed).natAbs ≤ 1500 :=
    natAbs_confine_le rfl speed
  have hshrunk := natAbs_shrink_le (by decide : 0 ≤ baroVelocityBand.toInt)
    (confine baroVelocityBound.toInt speed)
  generalize shrink baroVelocityBand.toInt (confine baroVelocityBound.toInt speed) = n at hshrunk
  rw [toInt_ofInt_of_isWord (by unfold IsWord; omega), Int.abs_eq_natAbs]
  omega

/-- Without an accelerometer, the last speed is mixed with that of the barometer. -/
theorem exists_mixedVelocity_eq (s : Settings) (now : UInt32) (f : Fusion) (haccel : r.accel = none) :
    ∃ climb : Int32, |climb.toInt| ≤ 1500 ∧ f.mixedVelocity s now r =
      f.velocity * s.weights.velocity + singleOfInt climb.toInt * (1.0 - s.weights.velocity) := by
  unfold Fusion.mixedVelocity absorbed
  rw [haccel]
  cases r.baro with
  | none => exact ⟨0, by decide, rfl⟩
  | some baro => exact ⟨_, abs_baroClimb_le _ _ _, rfl⟩

theorem Steady.mixedVelocity (hf : f.Steady) (hcheck : s.check = .ok ()) (haccel : r.accel = none) :
    ∃ q, HasValue (f.mixedVelocity s now r) q ∧ |q| ≤ 2 ^ 24 := by
  obtain ⟨p, hp, hple⟩ := hf
  obtain ⟨w, hw, h0, h1⟩ := Settings.exists_velocityWeight hcheck
  obtain ⟨climb, hclimb, heq⟩ := exists_mixedVelocity_eq s now f haccel
  have hv : |(climb.toInt : ℚ)| ≤ 2 ^ 24 := by
    have : |(climb.toInt : ℚ)| ≤ 1500 := by exact_mod_cast hclimb
    linarith
  rw [heq]
  exact hp.exists_mean hw h0 h1 (hasValue_singleOfInt (hclimb.trans (by norm_num))) hple hv

/-- The estimator does not overflow, unless the band of the ranger is wider than a word. -/
theorem Steady.not_overflows (hf : f.Steady) (hcheck : s.check = .ok ()) (haccel : r.accel = none)
    (hband : ∀ reading, r.ranger = some reading → ¬ reading.TooWide) : ¬ f.Overflows s now r := by
  rintro ⟨-, -, ⟨reading, hreading, hwide⟩ | hfall⟩
  · exact hband reading hreading hwide
  · obtain ⟨q, hq, hle⟩ : ∃ q, HasValue (f.mixedVelocity s now r) q ∧ |q| ≤ 2 ^ 24 :=
      hf.mixedVelocity hcheck haccel
    have hleast := (hq.le_iff hasValue_least).mp hfall
    have := (abs_le.mp hle).1
    linarith

theorem Steady.updated (hf : f.Steady) (hcheck : s.check = .ok ()) (haccel : r.accel = none) :
    (f.updated s now r).fusion.Steady := by
  unfold Fusion.updated
  split_ifs
  · exact hf
  · exact steady_of_velocity_zero rfl
  · exact hf.mixedVelocity hcheck haccel

end Fusion

/-! ### The instruments -/

theorem Flight.accel_readings {s : Script} (haccel : s.fitment.hasAccel = false) (t : Float)
    (f : Flight) : (f.readings s t).accel = none := by
  rw [← Option.isNone_iff_eq_none, ← Option.not_isSome, isSome_accel_readings, haccel]
  rfl

/-- The band of a ranger goes from half of its reach to the whole of it. -/
theorem Flight.not_tooWide_readings {s : Script} {t : Float} {f : Flight} {reading : RangerReading}
    (h : (f.readings s t).ranger = some reading) : ¬ reading.TooWide := by
  rintro ⟨hecho, -, hfar, hwide⟩
  unfold Flight.readings at h
  split_ifs at h
  · change (if s.fitment.hasRanger then some (⟨0, 0, 0⟩ : RangerReading) else none) = _ at h
    split_ifs at h
    obtain rfl := Option.some.inj h
    exact absurd hecho (by decide)
  · change (if s.fitment.hasRanger then some (f.instruments.rangerReading _) else none) = _ at h
    split_ifs at h
    obtain rfl := Option.some.inj h
    rw [Int32.lt_iff_toInt_lt] at hecho
    rw [Int32.le_iff_toInt_le] at hfar
    change 2147483647 < f.instruments.ranger.far.toInt -
      (Int32.ofIntClamp (f.instruments.ranger.far.toInt.tdiv 2)).toInt at hwide
    change _ ≤ f.instruments.ranger.far.toInt at hfar
    have hword := isWord_toInt f.instruments.ranger.far
    rw [toInt_ofIntClamp, Int.tdiv_eq_ediv_of_nonneg (hecho.trans_le hfar).le] at hwide
    change 0 < _ at hecho
    unfold IsWord at hword
    unfold saturate at hwide
    omega

/-- Without an accelerometer its window still grows, by one sample in each pass. -/
theorem Flight.exists_advance_of_count {s : Script} {n : ℕ} {f : Flight}
    (hroom : f.instruments.accel.window.count.toNat < 4294967295) :
    ∃ g, advance s s.pace n f = .ok g ∧ g.loop = f.loop ∧
      g.instruments.accel.window.count.toNat = f.instruments.accel.window.count.toNat + 1 := by
  have hcount : ¬ f.instruments.accel.window.count = 4294967295 := by
    rw [← UInt32.toNat_inj]
    exact hroom.ne
  rw [advance_eq, Instruments.follow_eq, Accelerometer.push_eq]
  unfold AccelWindow.push
  rw [if_neg hcount]
  refine ⟨_, rfl, rfl, ?_⟩
  change (f.instruments.accel.window.count + 1).toNat = _
  rw [UInt32.toNat_add]
  exact Nat.mod_eq_of_lt (Nat.add_lt_add_right hroom 1)

/-! ### Flights -/

namespace Flown

variable {s : Script} {n : ℕ} {f : Flight}

/-- What is kept from pass to pass: a bounded speed, and room in the window of the accelerometer. -/
theorem steady (hf : Flown s n f) (haccel : s.fitment.hasAccel = false) (hn : n ≤ 4294967295) :
    f.loop.fusion.Steady ∧ f.instruments.accel.window.count.toNat ≤ n := by
  induction hf with
  | launch h =>
    obtain ⟨-, instruments, hinstruments, rfl⟩ := Script.launch_eq_ok_iff.mp h
    obtain ⟨noise, hfitted⟩ := Instruments.accel_of_ofFitment hinstruments
    refine ⟨Fusion.steady_of_velocity_zero rfl, ?_⟩
    change instruments.accel.window.count.toNat ≤ 0
    rw [hfitted]
    rfl
  | @pass n f g hf h ih =>
    obtain ⟨hsteady, hcount⟩ := ih (by omega)
    obtain ⟨mid, hadvance, hloop, hgrown⟩ := Flight.exists_advance_of_count (s := s) (n := n + 1)
      (hcount.trans_lt hn)
    obtain ⟨mid', hadvance', hcontrol⟩ := bind_eq_ok_iff.mp h
    obtain rfl := Except.ok.inj (hadvance.symm.trans hadvance')
    obtain ⟨tick, htick, rfl⟩ := Flight.exists_tick_of_control hcontrol
    obtain ⟨-, -, hfusion⟩ := (Midway.advance hf hadvance).estimator_of_tick htick
    rw [Flight.recorded_loop, Flight.recorded_instruments]
    constructor
    · change tick.loop.fusion.Steady
      rw [hfusion]
      rw [← hloop] at hsteady
      exact hsteady.updated (Script.settings_and_rate_of_check hf.check).1
        (Flight.accel_readings haccel _ _)
    · change (mid.instruments.settleAll tick.calls).accel.window.count.toNat ≤ n + 1
      rw [Instruments.window_settleAll]
      split_ifs
      · exact Nat.zero_le _
      · omega

theorem exists_pass (hf : Flown s n f) (haccel : s.fitment.hasAccel = false) (hn : n < 4294967295) :
    ∃ g, Flight.pass s s.pace (n + 1) f = .ok g := by
  obtain ⟨hsteady, hcount⟩ := hf.steady haccel hn.le
  obtain ⟨mid, hadvance, hloop, -⟩ := Flight.exists_advance_of_count (s := s) (n := n + 1)
    (hcount.trans_lt hn)
  obtain ⟨past, hreached⟩ := (Midway.advance hf hadvance).reached
  have hpulses := Settings.low_le_high_of_check hreached.check
  rw [← hloop] at hsteady
  rw [← hreached.settings] at hpulses
  have hover : ¬ mid.loop.fusion.Overflows mid.loop.settings mid.clock
      (mid.readings s (Flight.timeOf s.pace (n + 1))) := by
    rw [hreached.settings]
    exact hsteady.not_overflows hreached.check (Flight.accel_readings haccel _ _)
      fun _ => Flight.not_tooWide_readings
  obtain ⟨g, hcontrol⟩ := Flight.exists_control hreached.bounded hpulses hover
  refine ⟨g, ?_⟩
  unfold Flight.pass
  rw [hadvance, ok_bind, hcontrol]

theorem exists_passes (count : ℕ) (hf : Flown s n f) (haccel : s.fitment.hasAccel = false)
    (hn : n + count ≤ 4294967295) :
    ∃ g, Flight.passes s s.pace count (n + 1) f = .ok g := by
  induction count generalizing n f with
  | zero => exact ⟨f, rfl⟩
  | succ count ih =>
    obtain ⟨mid, hpass⟩ := hf.exists_pass haccel (by omega)
    unfold Flight.passes
    rw [hpass]
    exact ih (hf.pass hpass) (by omega)

end Flown

/-- A flight without an accelerometer comes to its end, if it is not refused and there is room for its
trace. -/
theorem Script.exists_fly_of_noAccel {s : Script} (haccepted : ∀ e, s.fly ≠ .error e)
    (haccel : s.fitment.hasAccel = false) (hroom : reserve s.pace.samples sampleBytes = .ok ())
    (hpasses : s.pace.passes ≤ 4294967295) : ∃ log, s.fly = .ok (.ok log) := by
  cases hlaunch : s.launch with
  | error e =>
    refine absurd ?_ (haccepted e)
    unfold fly
    rw [hlaunch, error_bind]
  | ok f₀ =>
    obtain ⟨f, hf⟩ := (Flown.launch hlaunch).exists_passes s.pace.passes haccel (by omega)
    exact exists_fly hlaunch hroom hf

end Autopilot
