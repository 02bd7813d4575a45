import Mathlib.Algebra.Order.Field.Basic
import Autopilot.Proofs.AccelSamples

/-!
# The gain of speed in exact numbers

Four scales lie between the speed of the vehicle and the gain of speed that an estimate integrates:
the accelerometer turns metres per second squared into raw counts, the window turns their sum into a
mean, the estimator turns raw counts into centimetres per second for each microsecond, and the time
of the window is counted in microseconds.

A `Ride` is what the vehicle and its accelerometer do in a flight, over any two types of numbers.
Over doubles and single-precision floats the ride of a script is the one of its flight
(`Midway.ride_eq`).  Over exact numbers, without noise, the accelerations of a window add up to the
difference of two speeds, because the mean acceleration of a step is the difference of its two
speeds, also where the ground has taken a part of it (`Ride.Exact.push_telescoped`).  Then the four
scales cancel, and the gain of a window is the difference of the speeds at its ends, in centimetres
per second (`Ride.Exact.velocityGain_telescoped`).
-/

namespace Autopilot

/-! ### Rides -/

/-- What one pass of a flight brings to the vehicle and its accelerometer. -/
structure Leg (R : Type) where
  /-- The command that the vehicle follows. -/
  command : Command
  cosTilt : R
  /-- The noise of the accelerometer, in metres per second squared. -/
  noise : R
  /-- Whether the window is emptied at the end of the pass. -/
  resets : Bool

/-- The vehicle and its accelerometer over the passes of a flight.  The vehicle moves in the numbers
`R`, and the window is kept in the numbers `S`. -/
structure Ride (R S : Type) where
  craft : Craft R
  airframe : Airframe
  countsPerGravity : UInt16
  /-- The time of a pass in seconds. -/
  dt : R
  /-- The time of a pass in whole microseconds. -/
  ticks : UInt32
  narrow : R → S
  leg : ℕ → Leg R

namespace Ride

variable {R S : Type} [Scalar R] [Scalar S]

/-- The motion of the vehicle at the end of pass `n`. -/
def motion (r : Ride R S) : ℕ → Motion R
  | 0 => .rest
  | n + 1 =>
    r.craft.advance r.airframe (r.leg (n + 1)).command (r.leg (n + 1)).cosTilt r.dt (r.motion n)

/-- The sample of the accelerometer in pass `n`. -/
def sample (r : Ride R S) (n : ℕ) : S :=
  r.narrow <| rawCounts (Scalar.ofInt r.countsPerGravity.toNat)
    ((r.motion n).accel + (r.leg n).noise)

/-- What the end of pass `n` leaves of a window. -/
def kept (r : Ride R S) (n : ℕ) (w : AccelWindow S) : AccelWindow S :=
  if (r.leg n).resets then .empty else w

/-- The window in the middle of pass `n`, after its sample has been added. -/
def window (r : Ride R S) : ℕ → Except Fault (AccelWindow S)
  | 0 => .ok .empty
  | n + 1 => do
    let w ← r.window n
    (r.kept n w).push (r.sample (n + 1)) r.ticks

end Ride

/-! ### The ride of a flight -/

namespace Script

/-- The flight after its first `n` passes, if it comes so far. -/
def flight? (s : Script) (n : ℕ) : Option Flight :=
  match s.launch with
  | .ok f => (Flight.passes s s.pace n 1 f).toOption
  | .error _ => none

/-- What pass `n` of the flight brings to the vehicle and its accelerometer. -/
def leg (s : Script) (n : ℕ) : Leg Float :=
  match s.flight? (n - 1) with
  | some f =>
    { command := f.command
      cosTilt := (s.orientation (Flight.timeOf s.pace n)).cosTilt
      noise := f.instruments.accel.noise.draw.1
      resets := match Flight.advance s s.pace n f >>= Flight.tick s n with
        | .ok tick => .resetAccel ∈ tick.calls
        | .error _ => false }
  | none =>
    { command := { throttle := 0, pitch := 0 }, cosTilt := 1.0, noise := 0.0, resets := false }

/-- The vehicle and the accelerometer of the flight. -/
def ride (s : Script) : Ride Float Float32 where
  craft := s.craft
  airframe := s.settings.airframe
  countsPerGravity := s.settings.countsPerGravity
  dt := s.pace.dt
  ticks := s.pace.ticks
  narrow := narrow
  leg := s.leg

end Script

section Flights

variable {s : Script} {n : ℕ} {f g : Flight}

theorem Flown.flight?_eq (hf : Flown s n f) : s.flight? n = some f := by
  obtain ⟨f₀, hlaunch, hpasses⟩ :
      ∃ f₀, s.launch = .ok f₀ ∧ Flight.passes s s.pace n 1 f₀ = .ok f := by
    induction hf with
    | launch h => exact ⟨_, h, rfl⟩
    | pass _ h ih =>
      obtain ⟨f₀, hlaunch, hpasses⟩ := ih
      refine ⟨f₀, hlaunch, ?_⟩
      rw [Flight.passes_add, hpasses, ok_bind, Flight.passes, Nat.add_comm 1, h]
      rfl
  unfold Script.flight?
  rw [hlaunch]
  dsimp only
  rw [hpasses]
  rfl

theorem Flown.leg_eq (hf : Flown s n f) :
    s.leg (n + 1) =
      { command := f.command
        cosTilt := (s.orientation (Flight.timeOf s.pace (n + 1))).cosTilt
        noise := f.instruments.accel.noise.draw.1
        resets := match Flight.advance s s.pace (n + 1) f >>= Flight.tick s (n + 1) with
          | .ok tick => .resetAccel ∈ tick.calls
          | .error _ => false } := by
  unfold Script.leg
  rw [Nat.add_sub_cancel, hf.flight?_eq]

theorem Midway.resets_leg (hg : Midway s (n + 1) g) {tick : HoldLoop.Tick}
    (ht : g.tick s (n + 1) = .ok tick) :
    (s.leg (n + 1)).resets = decide (.resetAccel ∈ tick.calls) := by
  cases hg with
  | advance hf h =>
    rw [hf.leg_eq, h, ok_bind, ht]

/-- A use of the instruments leaves the scale of the accelerometer. -/
theorem Instruments.countsPerGravity_settleAll (i : Instruments) (calls : List SensorCall) :
    (i.settleAll calls).accel.countsPerGravity = i.accel.countsPerGravity := by
  induction calls generalizing i with
  | nil => rfl
  | cons call rest ih =>
    change ((i.settle call).settleAll rest).accel.countsPerGravity = _
    rw [ih]
    cases call <;> rfl

/-- The flight is where its ride is. -/
structure Flight.Rides (s : Script) (n : ℕ) (f : Flight) : Prop where
  motion : s.ride.motion n = f.motion
  scale : f.instruments.accel.countsPerGravity = doubleOfInt s.settings.countsPerGravity.toNat
  window : s.ride.kept n <$> s.ride.window n = .ok f.instruments.accel.window

theorem Flight.Rides.advance (hr : f.Rides s n) (hf : Flown s n f)
    (h : Flight.advance s s.pace (n + 1) f = .ok g) :
    s.ride.motion (n + 1) = g.motion ∧
      g.instruments.accel.countsPerGravity = doubleOfInt s.settings.countsPerGravity.toNat ∧
      s.ride.window (n + 1) = .ok g.instruments.accel.window := by
  obtain ⟨instruments, hfollow, rfl⟩ := exists_follow_of_advance h
  have hmotion : s.ride.motion (n + 1) = f.moved s s.pace (n + 1) := by
    rw [Ride.motion, hr.motion]
    change s.craft.advance _ (s.leg (n + 1)).command (s.leg (n + 1)).cosTilt _ _ = _
    rw [hf.leg_eq]
    rfl
  have hsample : s.ride.sample (n + 1) =
      f.instruments.accel.sample (f.moved s s.pace (n + 1)).accel := by
    unfold Ride.sample Accelerometer.sample
    rw [hmotion, hr.scale]
    change narrow (rawCounts _ (_ + (s.leg (n + 1)).noise)) = _
    rw [hf.leg_eq]
    rfl
  rw [Instruments.follow_eq, Accelerometer.push_eq] at hfollow
  obtain ⟨accel, haccel, rfl⟩ := map_eq_ok_iff.mp hfollow
  obtain ⟨window, hpush, rfl⟩ := map_eq_ok_iff.mp haccel
  refine ⟨hmotion, hr.scale, ?_⟩
  obtain ⟨w, hw, hkept⟩ := map_eq_ok_iff.mp hr.window
  rw [Ride.window, hw, ok_bind, hkept, hsample]
  exact hpush

theorem Flown.rides (hf : Flown s n f) : f.Rides s n := by
  induction hf with
  | launch h =>
    obtain ⟨-, instruments, hinstruments, rfl⟩ := Script.launch_eq_ok_iff.mp h
    obtain ⟨noise, hfitted⟩ := Instruments.accel_of_ofFitment hinstruments
    refine ⟨rfl, ?_, ?_⟩
    · change instruments.accel.countsPerGravity = _
      rw [hfitted]
    · change Except.ok (s.ride.kept 0 .empty) = Except.ok instruments.accel.window
      rw [hfitted, Ride.kept, ite_self]
  | @pass n f g hf h ih =>
    obtain ⟨mid, hadvance, hcontrol⟩ := bind_eq_ok_iff.mp h
    obtain ⟨tick, htick, rfl⟩ := Flight.exists_tick_of_control hcontrol
    obtain ⟨hmotion, hscale, hwindow⟩ := ih.advance hf hadvance
    refine ⟨?_, ?_, ?_⟩
    · rw [hmotion, Flight.recorded_motion]
      rfl
    · rw [Flight.recorded_instruments]
      exact (Instruments.countsPerGravity_settleAll _ _).trans hscale
    · rw [Flight.recorded_instruments, hwindow]
      change Except.ok (s.ride.kept (n + 1) _) =
        Except.ok (mid.instruments.settleAll _).accel.window
      rw [Instruments.window_settleAll, Ride.kept]
      change Except.ok (if (s.leg (n + 1)).resets = true then _ else _) = _
      rw [(Midway.advance hf hadvance).resets_leg htick]
      simp only [decide_eq_true_eq]

/-- In the middle of a pass, the ride of the script has the motion and the window of the flight. -/
theorem Midway.ride_eq (hg : Midway s n g) :
    s.ride.motion n = g.motion ∧ s.ride.window n = .ok g.instruments.accel.window := by
  cases hg with
  | advance hf h =>
    obtain ⟨hmotion, -, hwindow⟩ := hf.rides.advance hf h
    exact ⟨hmotion, hwindow⟩

end Flights

theorem Settings.countsPerGravity_pos_of_check {s : Settings} (h : s.check = .ok ()) :
    0 < s.countsPerGravity.toNat := by
  rw [Nat.pos_iff_ne_zero]
  intro hzero
  have hscale : s.countsPerGravity = 0 := UInt16.toNat_inj.mp hzero
  unfold Settings.check at h
  rw [if_pos hscale] at h
  split_ifs at h

/-! ### Exact numbers -/

/-- Exact arithmetic, with any sine. -/
@[reducible] def Scalar.exact {K : Type} [Field K] [LinearOrder K] (sine : K → K) (degree : K) :
    Scalar K where
  decidableLT := inferInstance
  decidableLE := inferInstance
  ofInt n := n
  sin := sine
  degree := degree

section Exact

variable {K : Type} [Field K] [LinearOrder K] {sine : K → K} {degree : K}

/-- The ride takes the passes of the script in exact numbers and without noise, and its window is
emptied when that of the flight is.  Its vehicle, its commands and its tilts are any. -/
structure Ride.Exact (s : Script) (e : Ride K K) : Prop where
  countsPerGravity : e.countsPerGravity = s.settings.countsPerGravity
  dt : e.dt = 1 / s.rate.toNat
  ticks : e.ticks = s.pace.ticks
  narrow : ∀ x, e.narrow x = x
  noise : ∀ n, (e.leg n).noise = 0
  resets : ∀ n, (e.leg n).resets = (s.leg n).resets

/-- The speed that the vehicle has gained between two passes. -/
def Ride.rise (sine : K → K) (degree : K) (e : Ride K K) (first n : ℕ) : K :=
  letI := Scalar.exact sine degree
  (e.motion n).velocity - (e.motion first).velocity

/-- The window of the passes behind `first`, up to pass `n`: its mean acceleration is that between
the two. -/
def Ride.telescoped (sine : K → K) (degree : K) (e : Ride K K) (first n : ℕ) : AccelWindow K where
  sum := e.rise sine degree first n / e.dt / (980665 / 100000) * e.countsPerGravity.toNat
  count := .ofNat (n - first)
  time := .ofNat (n - first) * e.ticks

/-- Nothing is in the window of no pass. -/
theorem Ride.telescoped_self (e : Ride K K) (n : ℕ) :
    letI := Scalar.exact sine degree
    e.telescoped sine degree n n = .empty := by
  let _ := Scalar.exact sine degree
  have hsum : e.rise sine degree n n / e.dt / (980665 / 100000) * e.countsPerGravity.toNat =
      ((0 : ℤ) : K) := by
    unfold Ride.rise
    rw [sub_self, zero_div, zero_div, zero_mul, Int.cast_zero]
  have htime : UInt32.ofNat (n - n) * e.ticks = 0 := by
    rw [Nat.sub_self]
    exact UInt32.zero_mul
  unfold Ride.telescoped
  rw [hsum, htime, Nat.sub_self]
  rfl

/-- The mean acceleration of a step is the difference of its two speeds, on the ground as well. -/
theorem Craft.accel_advance (c : Craft K) (airframe : Airframe) (command : Command)
    (cosTilt : K) {dt : K} (hdt : 0 < dt) (m : Motion K) :
    letI := Scalar.exact sine degree
    (c.advance airframe command cosTilt dt m).accel =
      ((c.advance airframe command cosTilt dt m).velocity - m.velocity) / dt := by
  have hpos : ((0 : ℤ) : K) < dt := by rwa [Int.cast_zero]
  exact if_pos hpos

namespace Ride.Exact

variable {s : Script} {e : Ride K K} (he : e.Exact s)

include he

/-- A sample is the rise of one pass in raw counts. -/
theorem sample_eq (hdt : 0 < e.dt) (n : ℕ) :
    letI := Scalar.exact sine degree
    e.sample (n + 1) =
      e.rise sine degree n (n + 1) / e.dt / (980665 / 100000) * e.countsPerGravity.toNat := by
  let _ := Scalar.exact sine degree
  have haccel : (e.motion (n + 1)).accel = e.rise sine degree n (n + 1) / e.dt :=
    Craft.accel_advance e.craft e.airframe _ _ hdt (e.motion n)
  unfold Ride.sample
  rw [he.narrow, he.noise, haccel]
  change (_ + 0) / (((980665 : ℤ) : K) / ((100000 : ℤ) : K)) *
    ((e.countsPerGravity.toNat : ℤ) : K) = _
  rw [add_zero]
  push_cast
  rfl

theorem push_telescoped (hdt : 0 < e.dt) {first n : ℕ} (hle : first ≤ n)
    (hroom : n - first < 4294967295) :
    letI := Scalar.exact sine degree
    (e.telescoped sine degree first n).push (e.sample (n + 1)) e.ticks =
      .ok (e.telescoped sine degree first (n + 1)) := by
  let _ := Scalar.exact sine degree
  have hcount : ¬ UInt32.ofNat (n - first) = 4294967295 := by
    rw [← UInt32.toNat_inj, UInt32.toNat_ofNat_of_lt' (by unfold UInt32.size; omega)]
    exact hroom.ne
  have hnext : n + 1 - first = n - first + 1 := by omega
  have hrise : e.rise sine degree first (n + 1) =
      e.rise sine degree first n + e.rise sine degree n (n + 1) := by
    unfold Ride.rise
    ring
  unfold AccelWindow.push Ride.telescoped
  dsimp only
  rw [if_neg hcount, he.sample_eq hdt, hnext, UInt32.ofNat_add, UInt32.add_mul, UInt32.ofNat_one,
    UInt32.one_mul, hrise]
  congr 2
  ring

/-- In the middle of a pass, the window covers the passes since the last one that has emptied it. -/
theorem window_eq (hdt : 0 < e.dt) (haccel : s.fitment.hasAccel = true) {n : ℕ} {g : Flight}
    (hg : Midway s (n + 1) g) :
    letI := Scalar.exact sine degree
    e.window (n + 1) = .ok (e.telescoped sine degree (n / s.stride * s.stride) (n + 1)) := by
  let _ := Scalar.exact sine degree
  have hcheck := hg.check
  have hroom : ∀ n, n - n / s.stride * s.stride < 4294967295 := by
    intro n
    have hlt := (Nat.mod_lt n (Script.stride_pos hcheck)).trans_le (Script.stride_le hcheck)
    have hsplit := Nat.div_add_mod' n s.stride
    omega
  -- The induction is on the passes: the pass that has emptied the window is another one exactly after
  -- a pass that empties it.
  induction n generalizing g with
  | zero =>
    change (e.kept 0 .empty).push (e.sample 1) e.ticks = _
    rw [Ride.kept, ite_self, ← e.telescoped_self, Nat.zero_div, Nat.zero_mul]
    exact he.push_telescoped hdt le_rfl (by omega)
  | succ n ih =>
    cases hg with
    | advance hf h =>
      obtain ⟨mid, tick, hmid, htick⟩ := hf.exists_midway (Nat.succ_pos n) le_rfl
      have hdue : (e.leg (n + 1)).resets = true ↔ s.stride ∣ n + 1 := by
        rw [he.resets, hmid.resets_leg htick, decide_eq_true_iff]
        exact hmid.resetAccel_mem_calls_iff haccel htick
      have hkept : e.kept (n + 1) (e.telescoped sine degree (n / s.stride * s.stride) (n + 1)) =
          e.telescoped sine degree ((n + 1) / s.stride * s.stride) (n + 1) := by
        by_cases hdvd : s.stride ∣ n + 1
        · rw [Ride.kept, if_pos (hdue.mpr hdvd), Nat.div_mul_cancel hdvd, e.telescoped_self]
        · rw [Ride.kept, if_neg (mt hdue.mp hdvd), Nat.succ_div_of_not_dvd hdvd]
      rw [Ride.window, ih hmid, ok_bind, hkept]
      exact he.push_telescoped hdt (Nat.div_mul_le_self _ _) (hroom _)

end Ride.Exact

/-! ### The scales -/

/-- A rate that divides a million has passes of whole microseconds. -/
theorem Script.ticks_mul_rate {s : Script} (hrate : s.rate.toNat ∣ 1000000) :
    s.pace.ticks.toNat * s.rate.toNat = 1000000 := by
  change (1000000 / s.rate).toNat * s.rate.toNat = 1000000
  rw [UInt32.toNat_div]
  exact Nat.div_mul_cancel hrate

/-- Up to a stride of passes, their time does not leave the words. -/
theorem Script.toNat_passes_mul_ticks {s : Script} (h : s.check = .ok ()) {passes : ℕ}
    (hle : passes ≤ s.stride) :
    (UInt32.ofNat passes * s.pace.ticks).toNat = passes * s.pace.ticks.toNat := by
  have hmany : passes ≤ 25000 := hle.trans (Script.stride_le h)
  have hpass := (Script.ticks_of_check h).2
  have hword : passes * s.pace.ticks.toNat < 2 ^ 32 := by
    rcases passes.eq_zero_or_pos with rfl | hpos
    · omega
    · have hshort : (passes - 1) * s.pace.ticks.toNat < 25000 :=
        (Script.lt_stride_iff h).mp (by omega)
      rw [Nat.sub_one_mul] at hshort
      omega
  rw [UInt32.toNat_mul, UInt32.toNat_ofNat_of_lt' (by unfold UInt32.size; omega),
    Nat.mod_eq_of_lt hword]

/-- The mean sample of a window that is not empty. -/
theorem Ride.mean_telescoped (e : Ride K K) {first n : ℕ} (hlt : first < n)
    (hcount : n - first < UInt32.size) :
    letI := Scalar.exact sine degree
    (e.telescoped sine degree first n).mean =
      e.rise sine degree first n / e.dt / (980665 / 100000) * e.countsPerGravity.toNat /
        (n - first : ℕ) := by
  let _ := Scalar.exact sine degree
  have htoNat : (UInt32.ofNat (n - first)).toNat = n - first := UInt32.toNat_ofNat_of_lt' hcount
  have hsome : (0 : UInt32) < .ofNat (n - first) := by
    rw [UInt32.lt_iff_toNat_lt, htoNat]
    exact Nat.sub_pos_of_lt hlt
  refine (if_pos hsome).trans ?_
  change _ / (((UInt32.ofNat (n - first)).toNat : ℤ) : K) = _
  rw [htoNat, Int.cast_natCast]
  rfl

variable [IsStrictOrderedRing K]

/-- The scales cancel: the gain of a window is what the vehicle has gained, in centimetres. -/
theorem Ride.Exact.velocityGain_telescoped {s : Script} {e : Ride K K} (he : e.Exact s)
    (hcheck : s.check = .ok ()) (hrate : s.rate.toNat ∣ 1000000) {first n : ℕ} (hlt : first < n)
    (hle : n - first ≤ s.stride) :
    letI := Scalar.exact sine degree
    (e.telescoped sine degree first n).velocityGain s.settings.countsPerGravity =
      100 * e.rise sine degree first n := by
  let _ := Scalar.exact sine degree
  obtain ⟨hsettings, hpos, -⟩ := Script.settings_and_rate_of_check hcheck
  have hcount : n - first < UInt32.size :=
    (hle.trans (Script.stride_le hcheck)).trans_lt (by decide)
  have hscale := Settings.countsPerGravity_pos_of_check hsettings
  unfold AccelWindow.velocityGain velocityPerCount
  rw [e.mean_telescoped hlt hcount]
  change _ * (((980665 : ℤ) : K) / ((100000 : ℤ) : K) /
    ((s.settings.countsPerGravity.toNat : ℤ) : K) / ((10000 : ℤ) : K)) *
    (((UInt32.ofNat (n - first) * e.ticks).toNat : ℤ) : K) = _
  rw [he.ticks, Script.toNat_passes_mul_ticks hcheck hle, he.dt, he.countsPerGravity]
  have hcancel : (s.pace.ticks.toNat : K) * s.rate.toNat = 1000000 := by
    exact_mod_cast Script.ticks_mul_rate hrate
  have hrate' : (s.rate.toNat : K) ≠ 0 := by exact_mod_cast hpos.ne'
  have hscale' : (s.settings.countsPerGravity.toNat : K) ≠ 0 := by exact_mod_cast hscale.ne'
  have hpasses : ((n - first : ℕ) : K) ≠ 0 := by exact_mod_cast (Nat.sub_pos_of_lt hlt).ne'
  push_cast
  field_simp
  linear_combination e.rise sine degree first n * hcancel

end Exact

/-! ### The gain of an estimate -/

section Gain

variable {s : Script} {n : ℕ} {g : Flight}

/-- An estimate raises the speed by the gain of the window, and the window is that of the ride of
the script.  In exact numbers the gain of this window is what the vehicle has gained since the last
call that was taken, in centimetres per second: for every vehicle, all commands, all tilts, and
every scale of the accelerometer. -/
theorem Midway.velocityGain_eq (haccel : s.fitment.hasAccel = true)
    (hrate : s.rate.toNat ∣ 1000000) (hg : Midway s (n + 1) g) {tick : HoldLoop.Tick}
    (ht : g.tick s (n + 1) = .ok tick) {sample : ClimbSample}
    (hfresh : tick.estimate = .fresh sample) :
    (g.loop.fusion.absorbed s.settings (g.readings s (Flight.timeOf s.pace (n + 1)))).velocity =
        g.loop.fusion.velocity +
          g.instruments.accel.window.velocityGain s.settings.countsPerGravity ∧
      s.ride.motion (n + 1) = g.motion ∧
      s.ride.window (n + 1) = .ok g.instruments.accel.window ∧
      ∃ last, LastTaken s (n + 1) last ∧
        ∀ {K : Type} [Field K] [LinearOrder K] [IsStrictOrderedRing K] (sine : K → K) (degree : K)
          (e : Ride K K), e.Exact s →
          letI := Scalar.exact sine degree
          ∃ w, e.window (n + 1) = .ok w ∧
            w.velocityGain s.settings.countsPerGravity =
              100 * ((e.motion (n + 1)).velocity - (e.motion last).velocity) := by
  have hcheck := hg.check
  obtain ⟨-, hpos, -⟩ := Script.settings_and_rate_of_check hcheck
  obtain ⟨hmotion, hwindow⟩ := hg.ride_eq
  refine ⟨?_, hmotion, hwindow, n / s.stride * s.stride, ?_, ?_⟩
  · unfold Fusion.absorbed
    rw [(hg.accelWindow_readings haccel ht hfresh).2]
    rfl
  · cases hg with
    | advance hf _ => exact hf.lastTaken
  · intro K _ _ _ sine degree e he
    have hdt : 0 < e.dt := by
      rw [he.dt]
      exact one_div_pos.mpr (by exact_mod_cast hpos)
    have hlt := Nat.mod_lt n (Script.stride_pos hcheck)
    have hsplit := Nat.div_add_mod' n s.stride
    exact ⟨_, he.window_eq hdt haccel hg,
      he.velocityGain_telescoped hcheck hrate (by omega) (by omega)⟩

/-- A quadrotor that climbs at full throttle, in the passes of the brief flight. -/
def lifted : Ride ℚ ℚ where
  craft :=
    { mass := 1, maxThrust := 20, drag := 3 / 10, idlePulse := 1000, fullPulse := 2000
      airspeed := 12, pitchPerUnit := 1 / 50, climbLag := 1 / 2, gravity := 980665 / 100000 }
  airframe := .multirotor
  countsPerGravity := Script.weighed.settings.countsPerGravity
  dt := 1 / 80
  ticks := Script.weighed.pace.ticks
  narrow := id
  leg n :=
    { command := { throttle := 2000, pitch := 0 }, cosTilt := 1, noise := 0
      resets := (Script.weighed.leg n).resets }

theorem exact_lifted : lifted.Exact .weighed where
  countsPerGravity := rfl
  dt := by
    change (1 / 80 : ℚ) = 1 / ((80 : ℕ) : ℚ)
    norm_num
  ticks := rfl
  narrow _ := rfl
  noise _ := rfl
  resets _ := rfl

/-- In the fourth pass, the window of the quadrotor has gained what the quadrotor has gained, and
that is not nothing. -/
theorem Midway.velocityGain_eq_lifted :
    letI : Scalar ℚ := Scalar.exact (fun _ => 0) 0
    ∃ g tick sample last w, Midway .weighed 4 g ∧ g.tick .weighed 4 = .ok tick ∧
      tick.estimate = .fresh sample ∧ LastTaken .weighed 4 last ∧ lifted.window 4 = .ok w ∧
      w.velocityGain Script.weighed.settings.countsPerGravity =
        100 * ((lifted.motion 4).velocity - (lifted.motion last).velocity) ∧
      0 < w.velocityGain Script.weighed.settings.countsPerGravity := by
  let _ : Scalar ℚ := Scalar.exact (fun _ => 0) 0
  obtain ⟨f₀, f, hlaunch, hpasses⟩ : ∃ f₀ f, Script.weighed.launch = .ok f₀ ∧
      Flight.passes .weighed Script.weighed.pace 4 1 f₀ = .ok f :=
    Script.exists_passes_succ (by decide +kernel)
  have hstride : Script.weighed.stride = 2 := by decide +kernel
  have hwarm : Script.weighed.warmUp = 1 := by decide +kernel
  have hflown : Flown .weighed 4 f := (Flown.launch hlaunch).passes hpasses
  obtain ⟨g, tick, hg, htick⟩ := hflown.exists_midway (by decide : 0 < 4) le_rfl
  obtain ⟨sample, hfresh⟩ := hg.exists_fresh (by rw [hstride]; decide)
    (by rw [hstride, hwarm]) htick
  obtain ⟨-, -, -, last, hlast, hexact⟩ := hg.velocityGain_eq rfl (by decide) htick hfresh
  obtain ⟨w, hw, hgain⟩ := hexact (fun _ => 0) 0 lifted exact_lifted
  have hclimbs : ∀ m < 4, (lifted.motion m).velocity < (lifted.motion 4).velocity := by
    decide +kernel
  refine ⟨g, tick, sample, last, w, hg, htick, hfresh, hlast, hw, hgain, ?_⟩
  rw [hgain]
  have hrise := hclimbs last hlast.lt
  linarith

end Gain

end Autopilot
