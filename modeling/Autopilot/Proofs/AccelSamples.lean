import Autopilot.Proofs.Cadence
import Autopilot.Proofs.SensorCalls

/-!
# The samples of the accelerometer

The accelerometer takes a sample in every pass of a flight, and keeps their sum, their number and
their time in its window.  The estimator keeps a clock of its own.  The two are never apart: before
every tick, the window holds the samples since the last call that the estimator has taken, and lasts
for as long as the estimator believes (`Flown.window_inStep`).

So an estimate integrates the samples of `Script.stride` passes, over the time from which it also
gets the speed of the barometer.  The window is empty after it, and never fuller than one stride,
which is why its counter has room for every flight.
-/

namespace Autopilot

/-! ### Windows -/

namespace AccelWindow

/-- The window of some samples, each of which lasts for `dt` microseconds. -/
def ofSamples (samples : List Float32) (dt : UInt32) : AccelWindow Float32 where
  sum := samples.foldl (· + ·) 0.0
  count := .ofNat samples.length
  time := .ofNat samples.length * dt

theorem ofSamples_nil (dt : UInt32) : ofSamples [] dt = empty := by
  have htime : UInt32.ofNat ([] : List Float32).length * dt = 0 := UInt32.zero_mul
  unfold ofSamples
  rw [htime]
  rfl

theorem push_ofSamples {samples : List Float32} (hroom : samples.length < 4294967295)
    (sample : Float32) (dt : UInt32) :
    (ofSamples samples dt).push sample dt = .ok (ofSamples (samples ++ [sample]) dt) := by
  have hcount : ¬ UInt32.ofNat samples.length = 4294967295 := by
    rw [← UInt32.toNat_inj, UInt32.toNat_ofNat_of_lt' (by unfold UInt32.size; omega)]
    exact hroom.ne
  unfold push ofSamples
  dsimp only
  rw [if_neg hcount, List.foldl_concat, List.length_append, List.length_singleton, UInt32.ofNat_add,
    UInt32.add_mul, UInt32.ofNat_one, UInt32.one_mul]

end AccelWindow

/-- The sample that an accelerometer makes of an acceleration, with the noise of this moment. -/
def Accelerometer.sample (a : Accelerometer) (accel : Float) : Float32 :=
  narrow (rawCounts a.countsPerGravity (accel + a.noise.draw.1))

theorem Accelerometer.push_eq (a : Accelerometer) (accel : Float) (dt : UInt32) :
    a.push accel dt =
      (fun window => { a with noise := a.noise.draw.2, window }) <$>
        a.window.push (a.sample accel) dt := by
  unfold push
  change (a.window.push (a.sample accel) dt >>= _) = _
  cases a.window.push (a.sample accel) dt <;> rfl

namespace Instruments

theorem follow_eq (i : Instruments) (altitude accel : Float) (dt : UInt32) :
    i.follow altitude accel dt =
      (fun accel => ⟨i.baro.moveTo altitude, i.ranger.moveTo altitude, accel⟩) <$>
        i.accel.push accel dt := by
  unfold follow
  cases i.accel.push accel dt <;> rfl

theorem accel_of_ofFitment {f : Fitment} {countsPerGravity : UInt16} {i : Instruments}
    (h : ofFitment f countsPerGravity = .ok i) :
    ∃ noise, i.accel = ⟨noise, doubleOfInt countsPerGravity.toNat, .empty⟩ := by
  obtain ⟨baro, -, h⟩ := bind_eq_ok_iff.mp h
  obtain ⟨ranger, -, h⟩ := bind_eq_ok_iff.mp h
  obtain ⟨accel, haccel, h⟩ := bind_eq_ok_iff.mp h
  obtain ⟨noise, -, haccel⟩ := bind_eq_ok_iff.mp haccel
  exact ⟨noise, by rw [← Except.ok.inj h, ← Except.ok.inj haccel]⟩

theorem window_settle (i : Instruments) (call : SensorCall) :
    (i.settle call).accel.window = if call = .resetAccel then .empty else i.accel.window := by
  cases call <;> rfl

theorem window_settleAll (i : Instruments) (calls : List SensorCall) :
    (i.settleAll calls).accel.window =
      if .resetAccel ∈ calls then .empty else i.accel.window := by
  induction calls generalizing i with
  | nil => rfl
  | cons call rest ih =>
    change ((i.settle call).settleAll rest).accel.window = _
    rw [ih, window_settle]
    by_cases hcall : call = .resetAccel
    · simp [hcall]
    · simp [hcall, Ne.symm hcall]

end Instruments

/-! ### Flights -/

/-- The sample that the accelerometer takes when this flight goes on to pass `n`. -/
def Flight.accelSample (s : Script) (n : ℕ) (f : Flight) : Float32 :=
  f.instruments.accel.sample (f.moved s s.pace n).accel

/-- The samples that the accelerometer takes in the passes behind `first`, up to pass `n`. -/
inductive Samples (s : Script) (first : ℕ) : ℕ → List Float32 → Prop where
  | none : Samples s first first []
  | pass {n : ℕ} {f : Flight} {samples : List Float32} (h : Samples s first n samples)
      (hf : Flown s n f) : Samples s first (n + 1) (samples ++ [f.accelSample s (n + 1)])

theorem Samples.length_add {s : Script} {first n : ℕ} {samples : List Float32}
    (h : Samples s first n samples) : samples.length + first = n := by
  induction h with
  | none => exact Nat.zero_add _
  | pass h hf ih => rw [List.length_append, List.length_singleton, ← ih, Nat.add_right_comm]

/-- The estimator takes the call of pass `n`, for an estimate or to calibrate. -/
def Takes (s : Script) (n : ℕ) : Prop :=
  ∃ f tick, Midway s n f ∧ f.tick s n = .ok tick ∧ tick.estimate ≠ .early

/-- Before pass `n`, the call of pass `last` is the last one that has been taken; there was none if
`last` is zero. -/
structure LastTaken (s : Script) (n last : ℕ) : Prop where
  lt : last < n
  taken : last ≠ 0 → Takes s last
  early : ∀ m, last < m → m < n → ¬ Takes s m

/-- The estimate of a tick takes its acceleration from the whole window, and its gain of speed and of
height from the acceleration and the time of the window.  It measures the climb of the barometer over
the same time. -/
structure Flight.Integrates (s : Script) (n : ℕ) (f : Flight) (sample : ClimbSample)
    (tick : HoldLoop.Tick) : Prop where
  accel : sample.accel = f.instruments.accel.window.mean
  height :
    let baro := Fusion.baroAltitude (f.readings s (timeOf s.pace n)).baro
    let gain := f.instruments.accel.window.velocityGain s.settings.countsPerGravity
    let seconds := singleOfInt f.instruments.accel.window.time.toNat * 1e-6
    let weight := s.settings.weights.altitude
    tick.loop.fusion.height =
      (f.loop.fusion.height + (gain * 0.5 * seconds + f.loop.fusion.velocity * seconds)) * weight +
        singleOfInt baro.toInt * (1.0 - weight)
  velocity :
    let baro := Fusion.baroAltitude (f.readings s (timeOf s.pace n)).baro
    let gain := f.instruments.accel.window.velocityGain s.settings.countsPerGravity
    let climb := if s.fitment.hasBaro
      then Fusion.baroClimb f.loop.fusion.lastBaro baro f.instruments.accel.window.time else 0
    let weight := s.settings.weights.velocity
    tick.loop.fusion.velocity =
      (f.loop.fusion.velocity + gain) * weight + singleOfInt climb.toInt * (1.0 - weight)

/-- In the middle of pass `n`, the accelerometer and the estimator agree on what there is to
integrate, when the call of pass `last` is the last one that has been taken. -/
structure Flight.InStep (s : Script) (n last : ℕ) (f : Flight) : Prop where
  samples : ∃ samples, Samples s last n samples ∧
    f.instruments.accel.window = .ofSamples samples s.pace.ticks
  count : f.instruments.accel.window.count.toNat = n - last
  time : f.instruments.accel.window.time = f.clock - f.loop.fusion.lastTime
  /-- A call is taken when a stride of samples is in the window. -/
  full : ∀ tick, f.tick s n = .ok tick → tick.estimate ≠ .early → n - last = s.stride
  /-- Every sample of the window is in the estimate. -/
  integrated : ∀ tick sample, f.tick s n = .ok tick → tick.estimate = .fresh sample →
    f.Integrates s n sample tick
  /-- No sample of the window is in a later estimate, unless this call has come too early. -/
  emptied : ∀ tick, f.tick s n = .ok tick →
    (f.instruments.settleAll tick.calls).accel.window =
      if tick.estimate = .early then f.instruments.accel.window else .empty

section Flights

variable {s : Script} {n : ℕ} {f g : Flight}

theorem Script.stride_le (h : s.check = .ok ()) : s.stride ≤ 25000 := by
  by_contra! hlong
  have hticks := (ticks_of_check h).1
  have hshort := (lt_stride_iff h).mp hlong
  omega

theorem Midway.takes_iff (hf : Midway s (n + 1) f) {tick : HoldLoop.Tick}
    (ht : f.tick s (n + 1) = .ok tick) : Takes s (n + 1) ↔ s.stride ∣ n + 1 := by
  rw [← not_iff_not, ← hf.early_iff ht]
  constructor
  · intro hskip
    by_contra htaken
    exact hskip ⟨f, tick, hf, ht, htaken⟩
  · rintro hearly ⟨g, tick', hg, ht', htaken⟩
    obtain rfl := hf.unique hg
    obtain rfl := Except.ok.inj (ht.symm.trans ht')
    exact htaken hearly

theorem Flown.takes_iff (hf : Flown s n f) {m : ℕ} (hpos : 0 < m) (hle : m ≤ n) :
    Takes s m ↔ s.stride ∣ m := by
  obtain ⟨g, tick, hg, htick⟩ := hf.exists_midway hpos hle
  obtain ⟨k, rfl⟩ := Nat.exists_eq_succ_of_ne_zero hpos.ne'
  exact hg.takes_iff htick

theorem Flown.lastTaken (hf : Flown s n f) : LastTaken s (n + 1) (n / s.stride * s.stride) := by
  have hle := Nat.div_mul_le_self n s.stride
  refine ⟨Nat.lt_succ_of_le hle, fun hsome => ?_, fun m hlast hm => ?_⟩
  · rw [hf.takes_iff (Nat.pos_of_ne_zero hsome) hle]
    exact Nat.dvd_mul_left _ _
  · rw [hf.takes_iff (Nat.zero_lt_of_lt hlast) (Nat.le_of_lt_succ hm)]
    -- The multiples of the stride behind the last one are behind `n`.
    rintro ⟨k, rfl⟩
    have hk : k ≤ n / s.stride := by
      rw [Nat.le_div_iff_mul_le (Script.stride_pos hf.check), Nat.mul_comm]
      exact Nat.le_of_lt_succ hm
    exact absurd (Nat.mul_le_mul_right s.stride hk) (by rw [Nat.mul_comm k]; exact hlast.not_ge)

theorem Flight.exists_advance {samples : List Float32} (hroom : samples.length < 4294967295)
    (hwindow : f.instruments.accel.window = .ofSamples samples s.pace.ticks) :
    ∃ g, advance s s.pace n f = .ok g ∧
      g.instruments.accel.window = .ofSamples (samples ++ [f.accelSample s n]) s.pace.ticks := by
  rw [advance_eq, Instruments.follow_eq, Accelerometer.push_eq, hwindow]
  change ∃ g, _ <$> _ <$> _ <$> AccelWindow.push _ (f.accelSample s n) _ = Except.ok g ∧ _
  rw [AccelWindow.push_ofSamples hroom]
  exact ⟨_, rfl, rfl⟩

theorem Midway.resetAccel_mem_calls_iff (hf : Midway s (n + 1) f)
    (haccel : s.fitment.hasAccel = true) {tick : HoldLoop.Tick}
    (ht : f.tick s (n + 1) = .ok tick) : .resetAccel ∈ tick.calls ↔ s.stride ∣ n + 1 := by
  have hpresent : (f.readings s (Flight.timeOf s.pace (n + 1))).accel.isSome = true := by
    rw [Flight.isSome_accel_readings, haccel]
  rw [(hf.estimator_of_tick ht).2.1, Fusion.resetAccel_mem_calls_iff,
    hf.paced.isEarly_iff hf.check, not_not]
  exact and_iff_left hpresent

/-- A call that is taken drops the window, and any other one leaves it. -/
theorem Midway.window_ticked (hf : Midway s (n + 1) f) (haccel : s.fitment.hasAccel = true)
    {tick : HoldLoop.Tick} (ht : f.tick s (n + 1) = .ok tick) :
    (f.instruments.settleAll tick.calls).accel.window =
      if s.stride ∣ n + 1 then .empty else f.instruments.accel.window := by
  rw [Instruments.window_settleAll]
  exact if_congr (hf.resetAccel_mem_calls_iff haccel ht) rfl rfl

theorem Samples.length_eq {samples : List Float32}
    (h : Samples s (n / s.stride * s.stride) n samples) : samples.length = n % s.stride := by
  have hlength := h.length_add
  have hsplit := Nat.div_add_mod' n s.stride
  omega

theorem Samples.length_lt {samples : List Float32} (hcheck : s.check = .ok ())
    (h : Samples s (n / s.stride * s.stride) n samples) : samples.length < 25000 := by
  rw [h.length_eq]
  exact (Nat.mod_lt n (Script.stride_pos hcheck)).trans_le (Script.stride_le hcheck)

theorem Flown.exists_samples (hf : Flown s n f) (haccel : s.fitment.hasAccel = true) :
    ∃ samples, Samples s (n / s.stride * s.stride) n samples ∧
      f.instruments.accel.window = .ofSamples samples s.pace.ticks := by
  induction hf with
  | launch h =>
    obtain ⟨-, instruments, hinstruments, rfl⟩ := Script.launch_eq_ok_iff.mp h
    obtain ⟨noise, hfitted⟩ := Instruments.accel_of_ofFitment hinstruments
    refine ⟨[], ?_, ?_⟩
    · rw [Nat.zero_div, Nat.zero_mul]
      exact .none
    · rw [AccelWindow.ofSamples_nil]
      exact congrArg Accelerometer.window hfitted
  | @pass n f g hf h ih =>
    obtain ⟨samples, hsamples, hwindow⟩ := ih
    have hroom := hsamples.length_lt hf.check
    obtain ⟨mid, hadvance, hmid⟩ := Flight.exists_advance (n := n + 1) (by omega) hwindow
    obtain ⟨mid', hadvance', hcontrol⟩ := bind_eq_ok_iff.mp h
    obtain rfl := Except.ok.inj (hadvance.symm.trans hadvance')
    obtain ⟨tick, htick, rfl⟩ := Flight.exists_tick_of_control hcontrol
    have hticked := (Midway.advance hf hadvance).window_ticked haccel htick
    rw [Flight.recorded_instruments]
    change ∃ samples, _ ∧ (mid.instruments.settleAll tick.calls).accel.window = _
    rw [hticked]
    by_cases hdue : s.stride ∣ n + 1
    · refine ⟨[], ?_, ?_⟩
      · rw [Nat.div_mul_cancel hdue]
        exact .none
      · rw [if_pos hdue, AccelWindow.ofSamples_nil]
    · refine ⟨samples ++ [f.accelSample s (n + 1)], ?_, ?_⟩
      · rw [Nat.succ_div_of_not_dvd hdue]
        exact hsamples.pass hf
      · rw [if_neg hdue, hmid]

/-- The estimator is answered with the window of the accelerometer when its call is taken. -/
theorem Midway.accelWindow_readings (hf : Midway s n f) (haccel : s.fitment.hasAccel = true)
    {tick : HoldLoop.Tick} (ht : f.tick s n = .ok tick) {sample : ClimbSample}
    (hfresh : tick.estimate = .fresh sample) :
    f.readings s (Flight.timeOf s.pace n) =
        f.instruments.readings s.fitment (s.orientation (Flight.timeOf s.pace n)).attitude ∧
      Fusion.accelWindow (f.readings s (Flight.timeOf s.pace n)).accel =
        some f.instruments.accel.window := by
  obtain ⟨hestimate, -, -⟩ := hf.estimator_of_tick ht
  rw [hfresh] at hestimate
  have hreadings : f.readings s (Flight.timeOf s.pace n) =
      f.instruments.readings s.fitment (s.orientation (Flight.timeOf s.pace n)).attitude :=
    if_neg (Fusion.estimated_of_fresh hestimate.symm).1
  refine ⟨hreadings, ?_⟩
  rw [hreadings]
  unfold Instruments.readings
  rw [haccel, if_pos rfl]
  rfl

/-- An estimate is taken from the window as it is. -/
theorem Midway.integrates (hf : Midway s n f) (haccel : s.fitment.hasAccel = true)
    (htime : f.instruments.accel.window.time = f.clock - f.loop.fusion.lastTime)
    {tick : HoldLoop.Tick} (ht : f.tick s n = .ok tick) {sample : ClimbSample}
    (hfresh : tick.estimate = .fresh sample) : f.Integrates s n sample tick := by
  obtain ⟨hestimate, -, hfusion⟩ := hf.estimator_of_tick ht
  rw [hfresh] at hestimate
  have hestimated := (Fusion.estimated_of_fresh hestimate.symm).2
  rw [← hfusion] at hestimated
  obtain ⟨rfl, hnext⟩ := Prod.mk.inj hestimated
  obtain ⟨hreadings, hwindow⟩ := hf.accelWindow_readings haccel ht hfresh
  refine ⟨?_, ?_, ?_⟩
  · change Fusion.meanAccel _ = _
    unfold Fusion.meanAccel
    rw [hwindow]
  · rw [hnext]
    change (Fusion.absorbed _ _ _).height = _
    unfold Fusion.absorbed
    rw [hwindow]
    rfl
  · rw [hnext, htime]
    change Fusion.mixedVelocity _ _ _ _ = _
    unfold Fusion.mixedVelocity Fusion.absorbed
    rw [hwindow, hreadings]
    cases hbaro : s.fitment.hasBaro with
    | true =>
      have hpresent : (f.instruments.readings s.fitment
          (s.orientation (Flight.timeOf s.pace n)).attitude).baro =
            some f.instruments.baroReading := if_pos hbaro
      rw [hpresent]
      rfl
    | false =>
      have habsent : (f.instruments.readings s.fitment
          (s.orientation (Flight.timeOf s.pace n)).attitude).baro = none :=
        if_neg (ne_true_of_eq_false hbaro)
      rw [habsent]
      rfl

/-- Before every tick, the window holds the samples since the last call that the estimator has taken,
and lasts for as long as the estimator believes. -/
theorem Flown.window_inStep (hf : Flown s n f) (haccel : s.fitment.hasAccel = true) :
    ∃ g last, Midway s (n + 1) g ∧ LastTaken s (n + 1) last ∧ g.InStep s (n + 1) last := by
  obtain ⟨samples, hsamples, hwindow⟩ := hf.exists_samples haccel
  have hroom := hsamples.length_lt hf.check
  have hlt := Nat.mod_lt n (Script.stride_pos hf.check)
  obtain ⟨g, hadvance, hwindow'⟩ := Flight.exists_advance (n := n + 1) (by omega) hwindow
  have hg : Midway s (n + 1) g := .advance hf hadvance
  have hsamples' := hsamples.pass hf
  have hlength := hsamples'.length_add
  have hcount : (samples ++ [f.accelSample s (n + 1)]).length = n % s.stride + 1 := by
    rw [List.length_append, List.length_singleton, hsamples.length_eq]
  have htime : g.instruments.accel.window.time = g.clock - g.loop.fusion.lastTime := by
    have helapsed := hg.paced.elapsed hf.check
    have hword := (g.clock - g.loop.fusion.lastTime).toNat_lt
    rw [helapsed] at hword
    rw [hwindow', ← UInt32.toNat_inj, helapsed]
    change (UInt32.ofNat _ * s.pace.ticks).toNat = _
    rw [UInt32.toNat_mul, UInt32.toNat_ofNat', hcount, Nat.mod_mul_mod]
    exact Nat.mod_eq_of_lt hword
  refine ⟨g, n / s.stride * s.stride, hg, hf.lastTaken, ⟨_, hsamples', hwindow'⟩, ?_, htime,
    fun tick htick htaken => ?_, fun tick sample htick => hg.integrates haccel htime htick,
    fun tick htick => ?_⟩
  · have hshort := hsamples.length_eq
    rw [hwindow', ← Nat.eq_sub_of_add_eq hlength]
    exact UInt32.toNat_ofNat_of_lt' (by rw [hcount]; unfold UInt32.size; omega)
  · have hdue := mt (hg.early_iff htick).mpr htaken
    rw [← mod_add_one_lt_iff (Script.stride_pos hf.check)] at hdue
    omega
  · rw [hg.window_ticked haccel htick, if_congr (hg.early_iff htick) rfl rfl, ite_not]

end Flights

/-- The brief flight, with an accelerometer. -/
def Script.weighed : Script :=
  { brief with fitment := { brief.fitment with hasAccel := true } }

/-- In the fourth pass, two samples are in the window, and an estimate is taken from them. -/
theorem Flown.window_inStep_weighed :
    ∃ g last tick sample, Midway .weighed 4 g ∧ LastTaken .weighed 4 last ∧
      g.InStep .weighed 4 last ∧ g.instruments.accel.window.count = 2 ∧
      g.tick .weighed 4 = .ok tick ∧ tick.estimate = .fresh sample ∧
      sample.accel = g.instruments.accel.window.mean := by
  obtain ⟨f₀, f, hlaunch, hpasses⟩ : ∃ f₀ f, Script.weighed.launch = .ok f₀ ∧
      Flight.passes .weighed Script.weighed.pace 4 1 f₀ = .ok f :=
    Script.exists_passes_succ (by decide +kernel)
  have hflown : Flown .weighed 4 f := (Flown.launch hlaunch).passes hpasses
  have hstride : Script.weighed.stride = 2 := by decide +kernel
  have hwarm : Script.weighed.warmUp = 1 := by decide +kernel
  obtain ⟨g, tick, hg, htick⟩ := hflown.exists_midway (by decide : 0 < 4) le_rfl
  obtain ⟨sample, hfresh⟩ := hg.exists_fresh (by rw [hstride]; decide)
    (by rw [hstride, hwarm]) htick
  cases hflown with
  | pass hthree _ =>
    obtain ⟨g', last, hg', hlast, hstep⟩ := hthree.window_inStep rfl
    obtain rfl := hg.unique hg'
    have htwo : g.instruments.accel.window.count.toNat = 2 := by
      rw [hstep.count, hstep.full tick htick (by rw [hfresh]; nofun), hstride]
    exact ⟨g, last, tick, sample, hg, hlast, hstep, UInt32.toNat_inj.mp htwo, htick, hfresh,
      (hstep.integrated tick sample htick hfresh).accel⟩

end Autopilot
