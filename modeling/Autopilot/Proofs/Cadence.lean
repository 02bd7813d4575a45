import Autopilot.Proofs.Flights
import Autopilot.Proofs.SensorCalls
import Autopilot.Proofs.Trace
import Mathlib.Algebra.Order.Floor.Div

/-!
# The cadence of a flight

The hold loop runs in every pass of a flight, and the estimator in every `Script.stride`-th: that
many passes last as long as its period, and fewer do not.  While the barometer is fitted, the first
`Script.warmUp` of these passes go into its calibration.  Every later one takes an estimate and
records a sample, and no other pass does (`Script.fly_trace`).

The clock and the time of the last estimate are words that wrap around, but what they tell apart is
never longer than a word: `Flight.Paced` follows the clock, the last estimate and the calibration
over the passes, and `Paced.pass` is its step.
-/

namespace Autopilot

/-! ### The stride of the estimator -/

namespace Script

variable {s : Script}

/-- The passes from one call of the estimator that does not come too early to the next: the least
number that lasts as long as its period. -/
def stride (s : Script) : Nat :=
  updatePeriod.toNat ⌈/⌉ s.pace.ticks.toNat

/-- The calls of the estimator that go into the calibration of the barometer. -/
def warmUp (s : Script) : Nat :=
  if s.fitment.hasBaro then s.fitment.calibrationSteps.toNat else 0

/-- A pass lasts between a microsecond and a second. -/
theorem ticks_of_check (h : s.check = .ok ()) :
    0 < s.pace.ticks.toNat ∧ s.pace.ticks.toNat ≤ 1000000 := by
  obtain ⟨-, hpos, hle⟩ := settings_and_rate_of_check h
  change 0 < (1000000 / s.rate).toNat ∧ (1000000 / s.rate).toNat ≤ 1000000
  rw [UInt32.toNat_div]
  exact ⟨Nat.div_pos hle hpos, Nat.div_le_self _ _⟩

theorem lt_stride_iff (h : s.check = .ok ()) {n : Nat} :
    n < s.stride ↔ n * s.pace.ticks.toNat < 25000 := by
  have hle : s.stride ≤ n ↔ 25000 ≤ s.pace.ticks.toNat * n :=
    ceilDiv_le_iff_le_mul (ticks_of_check h).1
  rw [Nat.mul_comm]
  omega

theorem stride_pos (h : s.check = .ok ()) : 0 < s.stride := by
  rw [lt_stride_iff h]
  omega

end Script

/-- The successor of a number is no multiple while its remainder is not the last one. -/
theorem mod_add_one_lt_iff {n k : Nat} (hk : 0 < k) : n % k + 1 < k ↔ ¬ k ∣ n + 1 := by
  rw [← ((Nat.mod_modEq n k).add_right 1).dvd_iff dvd_rfl]
  constructor
  · intro hlt hdvd
    exact absurd (Nat.le_of_dvd (Nat.succ_pos _) hdvd) (Nat.not_le.mpr hlt)
  · intro hdvd
    exact lt_of_le_of_ne (Nat.mod_lt n hk) fun heq => hdvd heq.symm.dvd

/-! ### Calibration -/

theorem Barometer.stepsLeft_calibrate (b : Barometer) :
    b.calibrate.stepsLeft.toNat = b.stepsLeft.toNat - 1 := by
  unfold calibrate
  dsimp only
  split_ifs with hzero
  · rw [hzero]
    rfl
  · rw [← UInt32.toNat_inj] at hzero
    have hpos : 1 ≤ b.stepsLeft.toNat := Nat.pos_of_ne_zero hzero
    exact UInt32.toNat_sub_of_le _ _ (UInt32.le_iff_toNat_le.mpr hpos)

namespace Instruments

theorem stepsLeft_of_ofFitment {f : Fitment} {countsPerGravity : UInt16} {i : Instruments}
    (h : ofFitment f countsPerGravity = .ok i) : i.baro.stepsLeft = f.calibrationSteps := by
  obtain ⟨baro, hbaro, h⟩ := bind_eq_ok_iff.mp h
  obtain ⟨ranger, -, h⟩ := bind_eq_ok_iff.mp h
  obtain ⟨accel, -, h⟩ := bind_eq_ok_iff.mp h
  obtain ⟨noise, -, hbaro⟩ := bind_eq_ok_iff.mp hbaro
  rw [← Except.ok.inj h, ← Except.ok.inj hbaro]

theorem stepsLeft_settle (i : Instruments) (call : SensorCall) :
    (i.settle call).baro.stepsLeft.toNat =
      i.baro.stepsLeft.toNat - if call = .calibrateBaro then 1 else 0 := by
  cases call with
  | calibrateBaro => exact i.baro.stepsLeft_calibrate
  | readBaro => rfl
  | readAccel => rfl
  | readRanger cosTilt => rfl
  | resetAccel => rfl

theorem stepsLeft_settleAll (i : Instruments) (calls : List SensorCall) :
    (i.settleAll calls).baro.stepsLeft.toNat =
      i.baro.stepsLeft.toNat - calls.count .calibrateBaro := by
  induction calls generalizing i with
  | nil => rfl
  | cons call rest ih =>
    change ((i.settle call).settleAll rest).baro.stepsLeft.toNat = _
    rw [ih, stepsLeft_settle, List.count_cons]
    simp only [beq_iff_eq]
    omega

theorem baroReading_eq_calibrating_iff (i : Instruments) :
    i.baroReading = .calibrating ↔ i.baro.stepsLeft.toNat ≠ 0 := by
  unfold baroReading Barometer.isCalibrated
  rw [← UInt32.toNat_zero, Ne, UInt32.toNat_inj]
  split_ifs with hzero <;> simpa using hzero

end Instruments

/-! ### One pass -/

namespace Flight

/-- The clock has gone through a number of passes, and the hold loop through another. -/
structure Paced (s : Script) (clocked looped : Nat) (f : Flight) : Prop where
  clock : f.clock.toNat = clocked * s.pace.ticks.toNat % 2 ^ 32
  lastTime : f.loop.fusion.lastTime.toNat =
    looped / s.stride * s.stride * s.pace.ticks.toNat % 2 ^ 32
  stepsLeft : s.fitment.hasBaro = true →
    f.instruments.baro.stepsLeft.toNat = s.warmUp - looped / s.stride

namespace Paced

variable {s : Script} {n : Nat} {f g : Flight}

theorem launch (h : s.launch = .ok f) : f.Paced s 0 0 := by
  obtain ⟨-, instruments, hinstruments, rfl⟩ := Script.launch_eq_ok_iff.mp h
  refine ⟨?_, ?_, fun hbaro => ?_⟩
  · rw [Nat.zero_mul]
    rfl
  · rw [Nat.zero_div, Nat.zero_mul, Nat.zero_mul]
    rfl
  · change instruments.baro.stepsLeft.toNat = _
    rw [Instruments.stepsLeft_of_ofFitment hinstruments, Nat.zero_div, Nat.sub_zero]
    unfold Script.warmUp
    rw [if_pos hbaro]

theorem advance (hp : f.Paced s n n) (h : advance s s.pace (n + 1) f = .ok g) :
    g.Paced s (n + 1) n := by
  obtain ⟨instruments, hfollow, rfl⟩ := exists_follow_of_advance h
  refine ⟨?_, hp.lastTime, fun hbaro => ?_⟩
  · rw [UInt32.toNat_add, hp.clock, Nat.add_one_mul, Nat.mod_add_mod]
  · rw [← hp.stepsLeft hbaro]
    obtain ⟨accel, -, hok⟩ := bind_eq_ok_iff.mp hfollow
    rw [← Except.ok.inj hok]
    rfl

/-- The time since the last call of the estimator that did not come too early. -/
theorem elapsed (hp : f.Paced s (n + 1) n) (hcheck : s.check = .ok ()) :
    (f.clock - f.loop.fusion.lastTime).toNat = (n % s.stride + 1) * s.pace.ticks.toNat := by
  have hticks := (Script.ticks_of_check hcheck).2
  have hshort := (Script.lt_stride_iff hcheck).mp (Nat.mod_lt n (Script.stride_pos hcheck))
  have hsplit : (n + 1) * s.pace.ticks.toNat =
      n / s.stride * s.stride * s.pace.ticks.toNat + (n % s.stride + 1) * s.pace.ticks.toNat := by
    rw [← Nat.add_mul, ← Nat.add_assoc, Nat.div_add_mod']
  have hlong : (n % s.stride + 1) * s.pace.ticks.toNat < 2 ^ 32 := by
    rw [Nat.add_one_mul]
    omega
  rw [toNat_sub_of_mod hp.clock hp.lastTime (by omega) (by omega)]
  omega

theorem isEarly_iff (hp : f.Paced s (n + 1) n) (hcheck : s.check = .ok ()) :
    f.loop.fusion.isEarly f.clock = true ↔ ¬ s.stride ∣ n + 1 := by
  unfold Fusion.isEarly
  rw [decide_eq_true_iff, UInt32.lt_iff_toNat_lt, hp.elapsed hcheck,
    ← mod_add_one_lt_iff (Script.stride_pos hcheck)]
  exact (Script.lt_stride_iff hcheck).symm

/-- The barometer calibrates in the first passes in which an estimate is due. -/
theorem calibrating_iff (hp : f.Paced s (n + 1) n) (hcheck : s.check = .ok ())
    (hdue : s.stride ∣ n + 1) (t : Float) :
    (f.readings s t).baro = some .calibrating ↔ n / s.stride < s.warmUp := by
  unfold Flight.readings
  rw [if_neg (mt (hp.isEarly_iff hcheck).mp (not_not_intro hdue))]
  change (if s.fitment.hasBaro then some f.instruments.baroReading else none) = _ ↔ _
  cases hbaro : s.fitment.hasBaro with
  | false =>
    unfold Script.warmUp
    rw [hbaro]
    simp
  | true =>
    rw [if_pos rfl, Option.some_inj, Instruments.baroReading_eq_calibrating_iff,
      hp.stepsLeft hbaro]
    omega

/-- A tick keeps the pace when it notes the time of a call that does not come too early, and asks
for a step of the calibration while there are steps left. -/
theorem ticked (hp : f.Paced s (n + 1) n) (t : Float) {tick : HoldLoop.Tick}
    (hlast : tick.loop.fusion.lastTime.toNat =
      (n + 1) / s.stride * s.stride * s.pace.ticks.toNat % 2 ^ 32)
    (hcount : s.warmUp - n / s.stride - tick.calls.count .calibrateBaro =
      s.warmUp - (n + 1) / s.stride) :
    ((f.ticked t tick).recorded s t tick.estimate).Paced s (n + 1) (n + 1) := by
  refine ⟨?_, ?_, fun hbaro => ?_⟩
  · rw [recorded_clock]
    exact hp.clock
  · rw [recorded_loop]
    exact hlast
  · rw [recorded_instruments, ← hcount, ← hp.stepsLeft hbaro]
    exact Instruments.stepsLeft_settleAll _ _

theorem control (hp : f.Paced s (n + 1) n) (hcheck : s.check = .ok ())
    (hb : f.loop.regulator.Bounded) (h : control s s.pace (n + 1) f = .ok g) :
    g.Paced s (n + 1) (n + 1) ∧
      g.trace = if s.stride ∣ n + 1 ∧ s.warmUp ≤ n / s.stride then
          f.trace.record (g.sample s (timeOf s.pace (n + 1)))
        else f.trace := by
  obtain ⟨tick, htick, rfl⟩ := exists_tick_of_control h
  obtain ⟨hestimate, hcalls, hfusion⟩ := HoldLoop.estimator_of_tick hb htick
  change _ = (f.loop.fusion.updated f.loop.settings f.clock _).estimate at hestimate
  change _ = (f.loop.fusion.updated f.loop.settings f.clock _).calls at hcalls
  change _ = (f.loop.fusion.updated f.loop.settings f.clock _).fusion at hfusion
  by_cases hdue : s.stride ∣ n + 1
  · have hlate : ¬ f.loop.fusion.isEarly f.clock = true :=
      mt (hp.isEarly_iff hcheck).mp (not_not_intro hdue)
    have hclock : f.clock.toNat =
        (n + 1) / s.stride * s.stride * s.pace.ticks.toNat % 2 ^ 32 := by
      rw [Nat.div_mul_cancel hdue]
      exact hp.clock
    by_cases hwarm : n / s.stride < s.warmUp
    · have hbaro := (hp.calibrating_iff hcheck hdue (timeOf s.pace (n + 1))).mpr hwarm
      have hcount : tick.calls.count .calibrateBaro = 1 := by
        rw [hcalls]
        exact (Fusion.calibrates_updated hlate hbaro).calibrateBaro
      rw [Fusion.updated_of_calibrating hlate hbaro] at hestimate hfusion
      refine ⟨hp.ticked _ ?_ ?_, ?_⟩
      · rw [hfusion]
        exact hclock
      · rw [hcount, Nat.succ_div_of_dvd hdue]
        omega
      · rw [hestimate, if_neg (by omega)]
        rfl
    · have hbaro := mt (hp.calibrating_iff hcheck hdue (timeOf s.pace (n + 1))).mp hwarm
      have hcount : tick.calls.count .calibrateBaro = 0 := by
        rw [hcalls, List.count_eq_zero]
        exact (Fusion.measures_updated hlate hbaro).calibrateBaro
      rw [Fusion.updated_of_calibrated hlate hbaro] at hestimate hfusion
      refine ⟨hp.ticked _ ?_ ?_, ?_⟩
      · rw [hfusion]
        exact hclock
      · rw [hcount, Nat.succ_div_of_dvd hdue]
        omega
      · rw [recorded_sample, hestimate, if_pos ⟨hdue, Nat.not_lt.mp hwarm⟩]
        rfl
  · rw [Fusion.updated_of_isEarly ((hp.isEarly_iff hcheck).mpr hdue)]
      at hestimate hcalls hfusion
    refine ⟨hp.ticked _ ?_ ?_, ?_⟩
    · rw [hfusion, Nat.succ_div_of_not_dvd hdue]
      exact hp.lastTime
    · rw [hcalls, Nat.succ_div_of_not_dvd hdue]
      rfl
    · rw [hestimate, if_neg (fun hrecord => hdue hrecord.1)]
      rfl

/-- A pass keeps the pace, and records a sample when the estimator is due and has warmed up. -/
theorem pass (hp : f.Paced s n n) (hcheck : s.check = .ok ()) (hb : f.loop.regulator.Bounded)
    (h : pass s s.pace (n + 1) f = .ok g) :
    g.Paced s (n + 1) (n + 1) ∧
      g.trace = if s.stride ∣ n + 1 ∧ s.warmUp ≤ n / s.stride then
          f.trace.record (g.sample s (timeOf s.pace (n + 1)))
        else f.trace := by
  obtain ⟨mid, hadvance, hcontrol⟩ := bind_eq_ok_iff.mp h
  have hmid := hp.advance hadvance
  obtain ⟨instruments, -, rfl⟩ := exists_follow_of_advance hadvance
  exact hmid.control hcheck hb hcontrol

end Paced

end Flight

/-! ### All passes -/

namespace Flown

variable {s : Script} {n : Nat} {f : Flight}

theorem paced (hf : Flown s n f) : f.Paced s n n := by
  induction hf with
  | launch h => exact .launch h
  | pass hf h ih =>
    obtain ⟨past, hreached⟩ := hf.reached
    exact (ih.pass hf.check hreached.bounded h).1

/-- Every estimate behind the calibration has its sample, and there are no others. -/
theorem trace_eq (hf : Flown s n f) :
    f.trace.lengths = List.replicate 14 (n / s.stride - s.warmUp) ∧
      ∀ j < n / s.stride - s.warmUp, ∃ g, Flown s ((s.warmUp + j + 1) * s.stride) g ∧
        f.trace.sample? j =
          some (g.sample s (Flight.timeOf s.pace ((s.warmUp + j + 1) * s.stride))) := by
  induction hf with
  | launch h =>
    obtain ⟨-, instruments, -, rfl⟩ := Script.launch_eq_ok_iff.mp h
    rw [Nat.zero_div, Nat.zero_sub]
    exact ⟨rfl, fun j hj => absurd hj (Nat.not_lt_zero j)⟩
  | @pass n f g hf h ih =>
    obtain ⟨past, hreached⟩ := hf.reached
    obtain ⟨hlengths, hsamples⟩ := ih
    have htrace := (hf.paced.pass hf.check hreached.bounded h).2
    by_cases hrecord : s.stride ∣ n + 1 ∧ s.warmUp ≤ n / s.stride
    · obtain ⟨hdue, hwarm⟩ := hrecord
      have hcount : (n + 1) / s.stride - s.warmUp = n / s.stride - s.warmUp + 1 := by
        rw [Nat.succ_div_of_dvd hdue]
        omega
      rw [if_pos ⟨hdue, hwarm⟩] at htrace
      rw [htrace, hcount, Trace.lengths_record, hlengths]
      refine ⟨rfl, fun j hj => ?_⟩
      rw [Trace.sample?_record hlengths]
      split_ifs with hlast
      · have hpass : (s.warmUp + j + 1) * s.stride = n + 1 := by
          rw [hlast, Nat.add_sub_cancel' hwarm, ← Nat.succ_div_of_dvd hdue,
            Nat.div_mul_cancel hdue]
        rw [hpass]
        exact ⟨g, hf.pass h, rfl⟩
      · exact hsamples j (by omega)
    · have hcount : (n + 1) / s.stride - s.warmUp = n / s.stride - s.warmUp := by
        by_cases hdue : s.stride ∣ n + 1
        · rw [Nat.succ_div_of_dvd hdue]
          omega
        · rw [Nat.succ_div_of_not_dvd hdue]
      rw [if_neg hrecord] at htrace
      rw [htrace, hcount]
      exact ⟨hlengths, hsamples⟩

/-- A sample shows the flight at the end of one of its passes. -/
theorem exists_of_sample (hf : Flown s n f) {j : Nat} {row : Sample}
    (hrow : f.trace.sample? j = some row) :
    ∃ m g, m ≠ 0 ∧ m ≤ n ∧ Flown s m g ∧ row = g.sample s (Flight.timeOf s.pace m) := by
  obtain ⟨hlengths, hsamples⟩ := hf.trace_eq
  have hj : j < n / s.stride - s.warmUp := by
    by_contra hj
    rw [Trace.sample?_eq_none hlengths (not_lt.mp hj)] at hrow
    cases hrow
  obtain ⟨g, hg, hsample⟩ := hsamples j hj
  refine ⟨_, g, ?_, ?_, hg, Option.some_inj.mp (hrow.symm.trans hsample)⟩
  · exact (Nat.mul_pos (Nat.succ_pos _) (Script.stride_pos hf.check)).ne'
  · exact (Nat.mul_le_mul_right _ (by omega)).trans (Nat.div_mul_le_self n s.stride)

end Flown

namespace Midway

variable {s : Script} {n : Nat} {f : Flight}

/-- In the middle of a pass, the clock is one pass ahead of the hold loop. -/
theorem paced (hf : Midway s (n + 1) f) : f.Paced s (n + 1) n := by
  cases hf with
  | advance hf h => exact hf.paced.advance h

/-- A tick hands on what the estimator answers in this pass. -/
theorem estimator_of_tick (hf : Midway s n f) {tick : HoldLoop.Tick} (ht : f.tick s n = .ok tick) :
    let u := f.loop.fusion.updated s.settings f.clock (f.readings s (Flight.timeOf s.pace n))
    tick.estimate = u.estimate ∧ tick.calls = u.calls ∧ tick.loop.fusion = u.fusion := by
  obtain ⟨past, hreached⟩ := hf.reached
  have htick := HoldLoop.estimator_of_tick hreached.bounded ht
  rwa [hreached.settings] at htick

theorem early_iff (hf : Midway s (n + 1) f) {tick : HoldLoop.Tick}
    (ht : f.tick s (n + 1) = .ok tick) : tick.estimate = .early ↔ ¬ s.stride ∣ n + 1 := by
  rw [(hf.estimator_of_tick ht).1, ← hf.paced.isEarly_iff hf.check]
  constructor
  · exact Fusion.isEarly_of_updated
  · intro hearly
    rw [Fusion.updated_of_isEarly hearly]

theorem exists_fresh (hf : Midway s (n + 1) f) (hdue : s.stride ∣ n + 1)
    (hwarm : s.warmUp ≤ n / s.stride) {tick : HoldLoop.Tick} (ht : f.tick s (n + 1) = .ok tick) :
    ∃ sample, tick.estimate = .fresh sample := by
  have hlate := mt (hf.paced.isEarly_iff hf.check).mp (not_not_intro hdue)
  have hready := mt (hf.paced.calibrating_iff hf.check hdue
    (Flight.timeOf s.pace (n + 1))).mp hwarm.not_gt
  rw [(hf.estimator_of_tick ht).1, Fusion.updated_of_calibrated hlate hready]
  exact ⟨_, rfl⟩

end Midway

namespace Script

/-- With a launch and with room for the trace, only a pass can fail. -/
theorem exists_fly {s : Script} {f₀ f : Flight} (hlaunch : s.launch = .ok f₀)
    (hroom : reserve s.pace.samples sampleBytes = .ok ())
    (hpasses : Flight.passes s s.pace s.pace.passes 1 f₀ = .ok f) :
    ∃ log, s.fly = .ok (.ok log) := by
  have hflown := (Flown.launch hlaunch).passes hpasses
  have hlog : ∃ log, s.log f = .ok log := by
    rw [log_eq]
    cases f.engagedAt with
    | none => exact ⟨_, rfl⟩
    | some t =>
      obtain ⟨accuracy, haccuracy⟩ := Trace.exists_accuracy hflown.trace_eq.1 (t + s.settle) forever
      dsimp only
      rw [haccuracy]
      exact ⟨_, rfl⟩
  obtain ⟨log, hlog⟩ := hlog
  refine ⟨log, ?_⟩
  unfold fly complete
  dsimp only
  rw [hlaunch, ok_bind, hroom, ok_bind, hpasses, ok_bind, hlog, pure_eq_ok]

/-- The trace of a whole flight is the one behind its last pass. -/
theorem trace_of_fly {s : Script} {log : FlightLog} (h : s.fly = .ok (.ok log)) :
    log.trace.lengths = List.replicate 14 (s.pace.passes / s.stride - s.warmUp) ∧
      ∀ j < s.pace.passes / s.stride - s.warmUp, ∃ f, Flown s ((s.warmUp + j + 1) * s.stride) f ∧
        log.trace.sample? j =
          some (f.sample s (Flight.timeOf s.pace ((s.warmUp + j + 1) * s.stride))) := by
  obtain ⟨f, hf, hlog⟩ := flown_of_fly h
  rw [trace_of_log hlog]
  exact hf.trace_eq

/-- The estimator is called at every `stride`-th pass, and the calls behind the calibration are the
samples of the trace: all columns have one entry for each of them, taken at the end of its pass and
with the time of this pass. -/
theorem fly_trace {s : Script} {log : FlightLog} (h : s.fly = .ok (.ok log)) :
    let calls := s.pace.passes / s.stride
    let count := calls - min s.warmUp calls
    log.trace.lengths = List.replicate 14 count ∧
      ∀ j < count,
        log.trace.time[j]? = some
          (doubleOfInt ((s.warmUp + j + 1) * s.stride : Nat) * (1.0 / s.rate.toFloat)) ∧
        ∃ f, Flown s ((s.warmUp + j + 1) * s.stride) f ∧
          log.trace.sample? j =
            some (f.sample s (Flight.timeOf s.pace ((s.warmUp + j + 1) * s.stride))) := by
  have hcount : s.pace.passes / s.stride - min s.warmUp (s.pace.passes / s.stride) =
      s.pace.passes / s.stride - s.warmUp := by omega
  obtain ⟨hlengths, hsamples⟩ := trace_of_fly h
  dsimp only
  rw [hcount]
  refine ⟨hlengths, fun j hj => ?_⟩
  obtain ⟨f, hf, hsample⟩ := hsamples j hj
  exact ⟨Trace.getElem?_time hlengths hj hsample, f, hf, hsample⟩

/-- A pass does not fail if the ranger is silent and the speed is not the least word.  The
regulator of the pass may ask for the attitude, whose angles do not evaluate; whether the estimator
overflows does not depend on them. -/
theorem exists_passes_succ {s : Script} {count : Nat}
    (hrun : (match s.launch with
      | .ok f₀ => do
        let f ← Flight.passes s s.pace count 1 f₀
        let m ← Flight.advance s s.pace (count + 1) f
        let r := m.readings s (Flight.timeOf s.pace (count + 1))
        return (r.ranger, decide (m.loop.fusion.mixedVelocity m.loop.settings m.clock r ≤
          -2147483648.0))
      | .error _ => .error .overflow) = Except.ok (none, false)) :
    ∃ f₀ f, s.launch = .ok f₀ ∧ Flight.passes s s.pace (count + 1) 1 f₀ = .ok f := by
  cases hlaunch : s.launch with
  | error e => rw [hlaunch] at hrun; cases hrun
  | ok f₀ =>
    rw [hlaunch] at hrun
    obtain ⟨f, hpasses, hrun⟩ := bind_eq_ok_iff.mp hrun
    obtain ⟨m, hadvance, hrun⟩ := bind_eq_ok_iff.mp hrun
    simp only [pure_eq_ok, Except.ok.injEq, Prod.mk.injEq, decide_eq_false_iff_not] at hrun
    obtain ⟨hranger, hspeed⟩ := hrun
    obtain ⟨past, hreached⟩ := ((Flown.launch hlaunch).passes hpasses).reached
    have hloop : m.loop = f.loop := by
      obtain ⟨instruments, -, hm⟩ := Flight.exists_follow_of_advance hadvance
      rw [hm]
    rw [← hloop] at hreached
    have hpulses := Settings.low_le_high_of_check hreached.check
    rw [← hreached.settings] at hpulses
    have hover : ¬ m.loop.fusion.Overflows m.loop.settings m.clock
        (m.readings s (Flight.timeOf s.pace (count + 1))) := by
      rintro ⟨-, -, ⟨reading, hreading, -⟩ | hfall⟩
      · rw [hranger] at hreading
        cases hreading
      · exact hspeed hfall
    obtain ⟨g, hcontrol⟩ := Flight.exists_control hreached.bounded hpulses hover
    refine ⟨f₀, g, rfl, ?_⟩
    rw [Flight.passes_add _ _ count 1, hpasses, ok_bind, Flight.passes, Nat.add_comm 1 count]
    unfold Flight.pass
    rw [hadvance, ok_bind, hcontrol]
    rfl

/-- A flight of four passes at 80 passes a second, without noise and on the barometer alone. -/
def brief : Script where
  duration := 0.05
  rate := 80
  fitment := { noiseScale := 0.0, calibrationSteps := 1, hasAccel := false }

/-- All four passes of the brief flight succeed. -/
theorem exists_passes_brief :
    ∃ f₀ f, brief.launch = .ok f₀ ∧ Flight.passes brief brief.pace 4 1 f₀ = .ok f :=
  exists_passes_succ (by decide +kernel)

/-- Two of the four passes are long enough after the last estimate.  The first of them goes into
the calibration, so that there is one sample, taken at the end of the last pass. -/
theorem fly_trace_brief :
    ∃ log, brief.fly = .ok (.ok log) ∧ log.trace.lengths = List.replicate 14 1 ∧
      log.trace.time[0]? = some 0.05 ∧
      ∃ f, Flown brief 4 f ∧
        log.trace.sample? 0 = some (f.sample brief (Flight.timeOf brief.pace 4)) := by
  obtain ⟨f₀, f, hlaunch, hpasses⟩ := exists_passes_brief
  have hfour : brief.pace.passes = 4 := by decide +kernel
  have hroom : reserve brief.pace.samples sampleBytes = .ok () := by decide +kernel
  have hstride : brief.stride = 2 := by decide +kernel
  have hwarm : brief.warmUp = 1 := by decide +kernel
  have htime : doubleOfInt (4 : Nat) * (1.0 / brief.rate.toFloat) = 0.05 := by decide +kernel
  obtain ⟨log, hlog⟩ := exists_fly hlaunch hroom (hfour ▸ hpasses)
  obtain ⟨hlengths, hsamples⟩ := fly_trace hlog
  rw [hfour, hstride, hwarm] at hlengths hsamples
  obtain ⟨hfirst, hsample⟩ := hsamples 0 (by decide)
  exact ⟨log, hlog, hlengths, hfirst.trans (congrArg some htime), hsample⟩

end Script

end Autopilot
