import Autopilot.Flight
import Autopilot.Proofs.Faults

/-!
# Flights, pass by pass

`Flight.advance_eq` and `Flight.control_eq` say what the two halves of a pass do, and leave to the
instruments and to the hold loop whether there is a result.

`Flown` is the induction behind everything that holds of all flights: it has one case for the launch
and one for a pass, and counts the passes.  A flight that comes to its end is the last of them
(`Script.flown_of_fly`), and its hold loop is always one that calls can reach (`Flown.reached`).
-/

namespace Autopilot

theorem mapError_eq_ok_iff {ε ε' α : Type} {f : ε → ε'} {x : Except ε α} {a : α} :
    x.mapError f = .ok a ↔ x = .ok a := by
  cases x <;> simp [Except.mapError]

namespace HoldLoop

/-- A tick takes a reached loop to a reached loop. -/
theorem Reached.tick {s : Settings} {past : List Moment} {h : HoldLoop} (hr : Reached s past h)
    {input : PilotInput} {r : Readings} {incoming : Command} {t : Tick}
    (ht : h.tick input r incoming = .ok t) : ∃ past, Reached s past t.loop := by
  have hcall : h.perform (.tick input r incoming) =
      .ok ({ estimate := t.estimate, calls := t.calls, command := t.command }, t.loop) := by
    unfold HoldLoop.perform
    dsimp only
    rw [ht, ok_bind, pure_eq_ok]
  exact ⟨_, hr.perform hcall⟩

end HoldLoop

namespace Flight

variable {s : Script} {pace : Pace} {number : Nat} {f g : Flight}

/-! ### The vehicle and its instruments -/

/-- The motion of the vehicle at the end of a pass. -/
def moved (s : Script) (pace : Pace) (number : Nat) (f : Flight) : Motion Float :=
  s.craft.advance s.settings.airframe f.command (s.orientation (timeOf pace number)).cosTilt
    pace.dt f.motion

theorem advance_eq (s : Script) (pace : Pace) (number : Nat) (f : Flight) :
    advance s pace number f =
      (fun instruments => { f with
        motion := f.moved s pace number
        instruments
        clock := f.clock + pace.ticks }) <$>
      f.instruments.follow (f.moved s pace number).altitude (f.moved s pace number).accel
        pace.ticks := by
  unfold advance
  dsimp only
  change (f.instruments.follow (f.moved s pace number).altitude (f.moved s pace number).accel
    pace.ticks >>= _) = _
  cases f.instruments.follow (f.moved s pace number).altitude (f.moved s pace number).accel
    pace.ticks <;> rfl

theorem exists_follow_of_advance (h : advance s pace number f = .ok g) :
    ∃ instruments, f.instruments.follow (f.moved s pace number).altitude
        (f.moved s pace number).accel pace.ticks = .ok instruments ∧
      g = { f with
        motion := f.moved s pace number
        instruments
        clock := f.clock + pace.ticks } := by
  rw [advance_eq, map_eq_ok_iff] at h
  obtain ⟨instruments, hfollow, rfl⟩ := h
  exact ⟨instruments, hfollow, rfl⟩

theorem isSome_ite {α : Type} (b : Bool) (a : α) : (if b then some a else none).isSome = b := by
  cases b <;> rfl

/-- The sensors that answer are the fitted ones, also while they are not asked. -/
theorem has_readings (s : Script) (t : Float) (f : Flight) (source : Source) :
    (f.readings s t).has source = s.fitment.has source := by
  unfold readings
  split_ifs
  · cases source <;> exact isSome_ite _ _
  · cases source <;> exact isSome_ite _ _

theorem isSome_accel_readings (s : Script) (t : Float) (f : Flight) :
    (f.readings s t).accel.isSome = s.fitment.hasAccel := by
  unfold readings
  split_ifs
  · exact isSome_ite _ _
  · exact isSome_ite _ _

/-! ### The hold loop -/

/-- The flight after a tick of its hold loop at the time `t`. -/
def ticked (f : Flight) (t : Float) (tick : HoldLoop.Tick) : Flight :=
  { f with
    loop := tick.loop
    instruments := f.instruments.settleAll tick.calls
    command := tick.command
    engagedAt := if tick.loop.engagement.any && f.engagedAt.isNone then some t else f.engagedAt }

/-- The flight with a sample of what it is, if there is a new estimate. -/
def recorded (s : Script) (t : Float) (estimate : Estimate) (f : Flight) : Flight :=
  match estimate with
  | .fresh _ => { f with trace := f.trace.record (f.sample s t) }
  | _ => f

section Recorded

variable (s : Script) (t : Float) (estimate : Estimate) (f : Flight)

@[simp] theorem recorded_loop : (f.recorded s t estimate).loop = f.loop := by
  cases estimate <;> rfl

@[simp] theorem recorded_instruments : (f.recorded s t estimate).instruments = f.instruments := by
  cases estimate <;> rfl

@[simp] theorem recorded_clock : (f.recorded s t estimate).clock = f.clock := by
  cases estimate <;> rfl

@[simp] theorem recorded_engagedAt : (f.recorded s t estimate).engagedAt = f.engagedAt := by
  cases estimate <;> rfl

@[simp] theorem recorded_command : (f.recorded s t estimate).command = f.command := by
  cases estimate <;> rfl

@[simp] theorem recorded_motion : (f.recorded s t estimate).motion = f.motion := by
  cases estimate <;> rfl

/-- The sample of a flight does not depend on the samples before it. -/
@[simp] theorem recorded_sample : (f.recorded s t estimate).sample s t = f.sample s t := by
  cases estimate <;> rfl

end Recorded

theorem ticked_engagedAt (f : Flight) (t : Float) (tick : HoldLoop.Tick) :
    (f.ticked t tick).engagedAt =
      if tick.loop.engagement.any && f.engagedAt.isNone then some t else f.engagedAt := rfl

theorem ticked_engagedAt_of_some {t₀ : Float} (hat : f.engagedAt = some t₀) (t : Float)
    (tick : HoldLoop.Tick) :
    (f.ticked t tick).engagedAt = some t₀ := by
  rw [ticked_engagedAt, hat, Option.isNone_some, Bool.and_false]
  rfl

theorem control_eq (s : Script) (pace : Pace) (number : Nat) (f : Flight) :
    control s pace number f =
      (fun tick => (f.ticked (timeOf pace number) tick).recorded s (timeOf pace number)
        tick.estimate) <$>
      f.loop.tick (pilotInput s pace (timeOf pace number) f.clock)
        (f.readings s (timeOf pace number))
        (incoming (pilotInput s pace (timeOf pace number) f.clock).stick) := by
  unfold control
  dsimp only
  cases f.loop.tick (pilotInput s pace (timeOf pace number) f.clock)
      (f.readings s (timeOf pace number))
      (incoming (pilotInput s pace (timeOf pace number) f.clock).stick) with
  | error fault => rfl
  | ok tick =>
    rw [ok_bind, map_ok]
    unfold recorded
    cases tick.estimate <;> rfl

theorem exists_tick_of_control (h : control s pace number f = .ok g) :
    ∃ tick, f.loop.tick (pilotInput s pace (timeOf pace number) f.clock)
        (f.readings s (timeOf pace number))
        (incoming (pilotInput s pace (timeOf pace number) f.clock).stick) = .ok tick ∧
      g = (f.ticked (timeOf pace number) tick).recorded s (timeOf pace number) tick.estimate := by
  rw [control_eq, map_eq_ok_iff] at h
  obtain ⟨tick, htick, rfl⟩ := h
  exact ⟨tick, htick, rfl⟩

/-- The tick of the hold loop in pass `n`. -/
def tick (s : Script) (n : Nat) (f : Flight) : Except Fault HoldLoop.Tick :=
  f.loop.tick (pilotInput s s.pace (timeOf s.pace n) f.clock) (f.readings s (timeOf s.pace n))
    (incoming (pilotInput s s.pace (timeOf s.pace n) f.clock).stick)

/-- A pass leaves the hold loop to its tick, which finds it as it was before the pass. -/
theorem exists_tick_of_pass {n : Nat} (h : pass s s.pace n f = .ok g) :
    ∃ (mid : Flight) (tick : HoldLoop.Tick), mid.loop = f.loop ∧ mid.tick s n = .ok tick ∧
      g.loop = tick.loop ∧ g.engagedAt = (f.ticked (timeOf s.pace n) tick).engagedAt := by
  obtain ⟨mid, hadvance, hcontrol⟩ := bind_eq_ok_iff.mp h
  obtain ⟨instruments, -, hmid⟩ := exists_follow_of_advance hadvance
  obtain ⟨tick, htick, rfl⟩ := exists_tick_of_control hcontrol
  refine ⟨mid, tick, ?_, htick, ?_, ?_⟩
  · rw [hmid]
  · rw [recorded_loop]
    rfl
  · rw [recorded_engagedAt, hmid]
    rfl

theorem exists_control (hb : f.loop.regulator.Bounded)
    (hpulses : f.loop.settings.pulses.low ≤ f.loop.settings.pulses.high)
    (hover : ¬ f.loop.fusion.Overflows f.loop.settings f.clock
      (f.readings s (timeOf pace number))) :
    ∃ g, control s pace number f = .ok g := by
  have hdue : ¬ f.loop.fusion.Overflows f.loop.settings
      (pilotInput s pace (timeOf pace number) f.clock).now (f.readings s (timeOf pace number)) :=
    hover
  obtain ⟨tick, htick⟩ := HoldLoop.exists_tick hb hpulses hdue
    (incoming (pilotInput s pace (timeOf pace number) f.clock).stick)
  rw [control_eq, htick]
  exact ⟨_, rfl⟩

theorem passes_add (s : Script) (pace : Pace) (before after number : Nat) (f : Flight) :
    passes s pace (before + after) number f =
      passes s pace before number f >>= passes s pace after (number + before) := by
  induction before generalizing number f with
  | zero => rw [Nat.zero_add]; rfl
  | succ before ih =>
    rw [Nat.add_right_comm, passes, passes]
    cases pass s pace number f with
    | error fault => rfl
    | ok f =>
      dsimp only
      rw [ih, Nat.add_assoc number 1 before, Nat.add_comm 1 before]

end Flight

/-! ### Launches -/

namespace Script

variable {s : Script} {f : Flight}

theorem check_eq (s : Script) :
    s.check = (do
      s.settings.check.mapError .settings
      if !s.duration.isFinite || s.duration ≤ 0.0 then .error (.duration s.duration)
      else if s.rate = 0 ∨ 1000000 < s.rate then .error (.rate s.rate)
      else do
        checkWindow .stick (s.stickMove.map (·.window))
        checkWindow .bank (s.bank.map (·.window))
        if !s.fitment.has s.source then .error (.sensorMissing s.source) else .ok ()) := by
  unfold check
  split_ifs <;> rfl

/-- A script that passes its check has good settings and a possible rate. -/
theorem settings_and_rate_of_check (h : s.check = .ok ()) :
    s.settings.check = .ok () ∧ 0 < s.rate.toNat ∧ s.rate.toNat ≤ 1000000 := by
  rw [check_eq] at h
  obtain ⟨_, hsettings, h⟩ := bind_eq_ok_iff.mp h
  refine ⟨mapError_eq_ok_iff.mp hsettings, ?_⟩
  by_cases hrate : s.rate = 0 ∨ 1000000 < s.rate
  · rw [if_pos hrate] at h
    split_ifs at h
  · rw [← UInt32.toNat_inj, UInt32.lt_iff_toNat_lt] at hrate
    change ¬ (s.rate.toNat = 0 ∨ 1000000 < s.rate.toNat) at hrate
    omega

theorem has_source_of_check (h : s.check = .ok ()) : s.fitment.has s.source = true := by
  cases hsource : s.fitment.has s.source with
  | true => rfl
  | false =>
    rw [check_eq, hsource, Bool.not_false, if_pos (rfl : true = true)] at h
    obtain ⟨_, -, h⟩ := bind_eq_ok_iff.mp h
    split_ifs at h
    obtain ⟨_, -, h⟩ := bind_eq_ok_iff.mp h
    obtain ⟨_, -, h⟩ := bind_eq_ok_iff.mp h
    cases h

/-- The flight at its launch, with the instruments it has. -/
def launched (s : Script) (instruments : Instruments) : Flight :=
  { loop := { settings := s.settings }
    instruments
    command := { throttle := s.settings.pulses.low, pitch := 0 } }

theorem launch_eq_ok_iff :
    s.launch = .ok f ↔ s.check = .ok () ∧ ∃ instruments,
      Instruments.ofFitment s.fitment s.settings.countsPerGravity = .ok instruments ∧
      f = s.launched instruments := by
  unfold launch
  constructor
  · intro h
    obtain ⟨_, hcheck, h⟩ := bind_eq_ok_iff.mp h
    obtain ⟨loop, hloop, h⟩ := bind_eq_ok_iff.mp h
    obtain ⟨instruments, hinstruments, h⟩ := bind_eq_ok_iff.mp h
    obtain ⟨-, rfl⟩ := HoldLoop.start_eq_ok_iff.mp (mapError_eq_ok_iff.mp hloop)
    exact ⟨hcheck, instruments, mapError_eq_ok_iff.mp hinstruments, (Except.ok.inj h).symm⟩
  · rintro ⟨hcheck, instruments, hinstruments, rfl⟩
    have hloop := HoldLoop.start_eq_ok_iff.mpr ⟨(settings_and_rate_of_check hcheck).1, rfl⟩
    rw [hcheck, ok_bind, hloop, hinstruments]
    rfl

end Script

/-! ### Flights -/

/-- The script has flown its first `n` passes and come to the state `f`. -/
inductive Flown (s : Script) : Nat → Flight → Prop where
  | launch {f : Flight} (h : s.launch = .ok f) : Flown s 0 f
  | pass {n : Nat} {f g : Flight} (hf : Flown s n f) (h : Flight.pass s s.pace (n + 1) f = .ok g) :
      Flown s (n + 1) g

namespace Flown

variable {s : Script} {n count : Nat} {f g : Flight}

/-- A flight takes one course only. -/
theorem unique (hf : Flown s n f) (hg : Flown s n g) : f = g := by
  induction hf generalizing g with
  | launch h =>
    cases hg with
    | launch h' => exact Except.ok.inj (h.symm.trans h')
  | pass _ h ih =>
    cases hg with
    | pass hf' h' =>
      obtain rfl := ih hf'
      exact Except.ok.inj (h.symm.trans h')

theorem check (hf : Flown s n f) : s.check = .ok () := by
  induction hf with
  | launch h => exact (Script.launch_eq_ok_iff.mp h).1
  | pass _ _ ih => exact ih

/-- The hold loop of a flight is one that calls can reach. -/
theorem reached (hf : Flown s n f) : ∃ past, HoldLoop.Reached s.settings past f.loop := by
  induction hf with
  | launch h =>
    obtain ⟨hcheck, instruments, -, rfl⟩ := Script.launch_eq_ok_iff.mp h
    exact ⟨[], .start (Script.settings_and_rate_of_check hcheck).1⟩
  | pass _ h ih =>
    obtain ⟨mid, tick, hmid, htick, hloop, -⟩ := Flight.exists_tick_of_pass h
    obtain ⟨past, hreached⟩ := ih
    rw [← hmid] at hreached
    rw [hloop]
    exact hreached.tick htick

/-- The time at which altitude was first held is that of all later states. -/
theorem engagedAt_of_le {k : Nat} (hg : Flown s k g) (hf : Flown s n f) (hkn : k ≤ n) {t₀ : Float}
    (hat : g.engagedAt = some t₀) : f.engagedAt = some t₀ := by
  induction hf with
  | launch h =>
    obtain rfl := Nat.le_zero.mp hkn
    obtain rfl := hg.unique (.launch h)
    exact hat
  | @pass n f f' hf h ih =>
    rcases hkn.lt_or_eq with hlt | rfl
    · obtain ⟨mid, tick, -, -, -, hat'⟩ := Flight.exists_tick_of_pass h
      rw [hat']
      exact Flight.ticked_engagedAt_of_some (ih (Nat.le_of_lt_succ hlt)) _ _
    · obtain rfl := hg.unique (hf.pass h)
      exact hat

theorem passes (hf : Flown s n f) (h : Flight.passes s s.pace count (n + 1) f = .ok g) :
    Flown s (n + count) g := by
  induction count generalizing n f with
  | zero =>
    obtain rfl := Except.ok.inj h
    exact hf
  | succ count ih =>
    unfold Flight.passes at h
    cases hpass : Flight.pass s s.pace (n + 1) f with
    | error fault => rw [hpass] at h; cases h
    | ok mid =>
      rw [hpass] at h
      rw [← Nat.add_assoc, Nat.add_right_comm]
      exact ih (hf.pass hpass) h

end Flown

/-! ### Within a pass -/

/-- The script is in the middle of pass `n`: the vehicle has moved and the instruments have followed,
and the hold loop is about to tick. -/
inductive Midway (s : Script) : Nat → Flight → Prop where
  | advance {n : Nat} {f g : Flight} (hf : Flown s n f)
      (h : Flight.advance s s.pace (n + 1) f = .ok g) : Midway s (n + 1) g

namespace Midway

variable {s : Script} {n : Nat} {f g : Flight}

theorem unique (hf : Midway s n f) (hg : Midway s n g) : f = g := by
  cases hf with
  | advance hf h =>
    cases hg with
    | advance hg h' =>
      obtain rfl := hf.unique hg
      exact Except.ok.inj (h.symm.trans h')

theorem check (hf : Midway s n f) : s.check = .ok () := by
  cases hf with
  | advance hf h => exact hf.check

/-- The hold loop in the middle of a pass is one that calls can reach. -/
theorem reached (hf : Midway s n f) : ∃ past, HoldLoop.Reached s.settings past f.loop := by
  cases hf with
  | advance hf h =>
    obtain ⟨instruments, -, rfl⟩ := Flight.exists_follow_of_advance h
    exact hf.reached

end Midway

/-- A flight has been in the middle of each of its passes, and has ticked there. -/
theorem Flown.exists_midway {s : Script} {n m : Nat} {f : Flight} (hf : Flown s n f) (hpos : 0 < m)
    (hle : m ≤ n) : ∃ g tick, Midway s m g ∧ g.tick s m = .ok tick := by
  induction hf with
  | launch h => omega
  | @pass n f f' hf h ih =>
    rcases hle.lt_or_eq with hlt | rfl
    · exact ih (Nat.le_of_lt_succ hlt)
    · obtain ⟨mid, hadvance, hcontrol⟩ := bind_eq_ok_iff.mp h
      obtain ⟨tick, htick, -⟩ := Flight.exists_tick_of_control hcontrol
      exact ⟨mid, tick, .advance hf hadvance, htick⟩

theorem Midway.exists_of_le {s : Script} {n m : Nat} {f : Flight} (hf : Midway s n f) (hpos : 0 < m)
    (hle : m ≤ n) : ∃ g, Midway s m g := by
  cases hf with
  | @advance n f₀ f hf₀ h =>
    rcases hle.lt_or_eq with hlt | rfl
    · obtain ⟨g, -, hg, -⟩ := hf₀.exists_midway hpos (Nat.le_of_lt_succ hlt)
      exact ⟨g, hg⟩
    · exact ⟨f, .advance hf₀ h⟩

/-- The log of a flight is that of its state after the last pass. -/
theorem Script.flown_of_fly {s : Script} {log : FlightLog} (h : s.fly = .ok (.ok log)) :
    ∃ f, Flown s s.pace.passes f ∧ s.log f = .ok log := by
  unfold fly at h
  obtain ⟨f₀, hlaunch, h⟩ := bind_eq_ok_iff.mp h
  rw [pure_eq_ok, Except.ok.injEq] at h
  unfold complete at h
  obtain ⟨_, -, h⟩ := bind_eq_ok_iff.mp h
  obtain ⟨f, hpasses, hlog⟩ := bind_eq_ok_iff.mp h
  have hflown := (Flown.launch hlaunch).passes hpasses
  rw [Nat.zero_add] at hflown
  exact ⟨f, hflown, hlog⟩

theorem Script.log_eq (s : Script) (f : Flight) :
    s.log f = (fun accuracy => { trace := f.trace, engagedAt := f.engagedAt, accuracy }) <$>
      match f.engagedAt with
      | some t => f.trace.accuracy (t + s.settle) forever
      | none => .ok none := by
  unfold Script.log
  cases f.engagedAt with
  | none => rfl
  | some t =>
    dsimp only
    cases f.trace.accuracy (t + s.settle) forever <;> rfl

theorem Script.trace_of_log {s : Script} {f : Flight} {log : FlightLog} (h : s.log f = .ok log) :
    log.trace = f.trace := by
  rw [log_eq, map_eq_ok_iff] at h
  obtain ⟨accuracy, -, rfl⟩ := h
  rfl

theorem Script.engagedAt_of_log {s : Script} {f : Flight} {log : FlightLog}
    (h : s.log f = .ok log) : log.engagedAt = f.engagedAt := by
  rw [log_eq, map_eq_ok_iff] at h
  obtain ⟨accuracy, -, rfl⟩ := h
  rfl

end Autopilot
