import Autopilot.Proofs.Setpoint
import Autopilot.Proofs.Tilt

/-!
# What a flight records of its hold

The log of a flight tells when altitude was first held, and its samples tell whether it is held and
what the hold has made of the stick.  `Script.fly_holdRecord` says how all of this follows from the
script.  The hold begins in the first pass whose time is that of the hold switch
(`Script.firstHeld`), and every sample after it shows the source of the script as held.  What a held
sample commands is the baseline or the pitch stick with the correction of the same sample
(`Sample.HoldsThrottle`, `Sample.HoldsPitch`): the command is issued behind the estimator and the
regulator, and nothing of them changes before the sample is taken (`Flown.exists_prepared`).
-/

namespace Autopilot

/-! ### The columns of the hold -/

/-- Whether a sample shows altitude as held on a source. -/
def Sample.holds (row : Sample) : Source → Bool
  | .baro => row.baroHold
  | .ranger => row.rangerHold

/-- Whether a sample shows altitude as held. -/
def Sample.isHeld (row : Sample) : Bool :=
  row.baroHold || row.rangerHold

/-- A held throttle: the baseline with the correction on top, inside the range of pulses. -/
def Sample.HoldsThrottle (range : PulseRange) (baseline : Int16) (row : Sample) : Prop :=
  row.throttle.toInt =
    max range.low.toInt (min (baseline.toInt + row.correction.toInt) range.high.toInt)

/-- The pitch command of a fixed wing: the distance of the stick from its centre, and the correction
on top while altitude is held. -/
def Sample.HoldsPitch (reversed : Bool) (stick : Stick) (row : Sample) : Prop :=
  row.pitch.toInt =
    if row.isHeld then
      saturate16 (saturate16 (stick.pitch.toInt - 1500) +
        if reversed then -row.correction.toInt else row.correction.toInt)
    else
      saturate16 (stick.pitch.toInt - 1500)

theorem Engagement.holds_only_eq (source other : Source) :
    (only source).holds other = decide (source = other) := by
  cases source <;> cases other <;> rfl

theorem Flight.holds_sample (s : Script) (t : Float) (f : Flight) (source : Source) :
    (f.sample s t).holds source = f.loop.engagement.holds source := by
  cases source <;> rfl

theorem Flight.isHeld_sample (s : Script) (t : Float) (f : Flight) :
    (f.sample s t).isHeld = f.loop.engagement.any := rfl

/-! ### The first pass of the hold -/

/-- The first pass in which the hold switch is on. -/
def Script.firstHeld (s : Script) : Option ℕ :=
  (List.range' 1 s.pace.passes).find? fun i => s.holdAt ≤ Flight.timeOf s.pace i

theorem Script.passes_le_two_pow (s : Script) : s.pace.passes ≤ 2 ^ 64 :=
  (min_le_right _ _).trans (by decide)

namespace Flown

variable {s : Script} {n : ℕ} {f : Flight}

theorem engagedAt_eq (hf : Flown s s.pace.passes f) :
    f.engagedAt = s.firstHeld.map (Flight.timeOf s.pace) := by
  have hword := s.passes_le_two_pow
  unfold Script.firstHeld
  cases hat : f.engagedAt with
  | none =>
    have hwaits : ¬ f.engagedAt.isSome = true := by
      rw [hat]
      exact Bool.false_ne_true
    have hnever : (List.range' 1 s.pace.passes).find?
        (fun i => s.holdAt ≤ Flight.timeOf s.pace i) = none := by
      rw [List.find?_eq_none]
      intro i hi hon
      obtain ⟨hpos, hle⟩ := List.mem_range'_1.mp hi
      -- The switch would still be on at the end.
      refine hwaits ((hf.isSome_engagedAt_iff hword).mpr ⟨by omega, ?_⟩)
      exact double_le_trans (of_decide_eq_true hon)
        (Script.timeOf_mono hf.check (by omega) hword)
    rw [hnever]
    rfl
  | some t₀ =>
    obtain ⟨k, f₀, hk, he⟩ := hf.exists_engages hat
    obtain ⟨rfl, hon⟩ := he.time_eq (by omega)
    have hfirst : (List.range' 1 s.pace.passes).find?
        (fun i => s.holdAt ≤ Flight.timeOf s.pace i) = some (k + 1) := by
      refine List.find?_range'_eq_some.mpr ⟨decide_eq_true hon, ?_, fun j hpos hj => ?_⟩
      · exact List.mem_range'_1.mpr ⟨by omega, by omega⟩
      · -- Otherwise altitude would be held before.
        rw [Bool.not_eq_true', decide_eq_false_iff_not]
        intro hearly
        have hlast : s.holdAt ≤ Flight.timeOf s.pace k :=
          double_le_trans hearly (Script.timeOf_mono hf.check (by omega) (by omega))
        have hheld := (he.flown.isSome_engagedAt_iff (by omega)).mpr ⟨by omega, hlast⟩
        rw [he.waiting] at hheld
        cases hheld
    rw [hfirst]
    rfl

/-! ### The command of a pass -/

theorem holds_eq (hf : Flown s n f) (hn : n ≠ 0) (source : Source) :
    f.loop.engagement.holds source =
      decide (s.source = source ∧ s.holdAt ≤ Flight.timeOf s.pace n) := by
  rw [hf.engagement_eq]
  by_cases hon : s.holdAt ≤ Flight.timeOf s.pace n
  · rw [if_pos ⟨hn, hon⟩, decide_eq_decide.mpr (and_iff_left hon)]
    exact Engagement.holds_only_eq s.source source
  · rw [if_neg fun h => hon h.2, decide_eq_false fun h => hon h.2]
    cases source <;> rfl

/-- The command after a pass was issued from the loop `p` behind the estimator of this pass, which is
the loop after the pass but for the stick. -/
theorem exists_prepared (hf : Flown s n f) (hn : n ≠ 0) :
    let stick := s.stick (Flight.timeOf s.pace n) s.pace.hover
    ∃ p : HoldLoop, p.regulator.Bounded ∧ p.settings = s.settings ∧
      p.issued stick (Flight.incoming stick) = .ok f.command ∧ f.loop = p.driven stick := by
  cases hf with
  | launch h => exact absurd rfl hn
  | @pass n f₀ f hf₀ h =>
    obtain ⟨past, hreached⟩ := hf₀.reached
    obtain ⟨mid, hadvance, hcontrol⟩ := bind_eq_ok_iff.mp h
    obtain ⟨instruments, -, rfl⟩ := Flight.exists_follow_of_advance hadvance
    obtain ⟨tick, htick, rfl⟩ := Flight.exists_tick_of_control hcontrol
    obtain ⟨u, -, hout, ht⟩ := HoldLoop.exists_update_of_tick hreached.bounded htick
    have hloop := congrArg HoldLoop.Tick.loop ht
    rw [Flight.recorded_command, Flight.recorded_loop]
    exact ⟨_, HoldLoop.bounded_poised hreached.bounded _ _ u,
      (HoldLoop.poised_settings _ _ _ u).trans hreached.settings, hout, hloop⟩

/-- A held throttle stands on the stick of the time at which the hold began. -/
theorem holdsThrottle (hf : Flown s n f) (hn : n ≠ 0) (hword : n ≤ 2 ^ 64)
    (hair : s.settings.airframe = .multirotor) {t₀ : Float} (hat : f.engagedAt = some t₀)
    (hback : f.loop.reference.displaced = false) :
    (f.sample s (Flight.timeOf s.pace n)).HoldsThrottle s.settings.pulses
      (s.stick t₀ s.pace.hover).throttle := by
  obtain ⟨-, -, hengagement, hbaseline, hdisplaced⟩ := hf.holds hair hword hat
  obtain ⟨p, hb, hsettings, hout, hloop⟩ := hf.exists_prepared hn
  have hpulses := Settings.low_le_high_of_check (Script.settings_and_rate_of_check hf.check).1
  have hany : p.engagement.any = true := by
    rw [← Engagement.any_only s.source, ← hengagement, hloop, HoldLoop.driven_engagement]
  have hsame : p.reference.baseline = f.loop.reference.baseline := by
    rw [hloop, HoldLoop.driven_baseline]
  have hdrives : ¬ p.StickDrives (s.stick (Flight.timeOf s.pace n) s.pace.hover) := by
    rw [HoldLoop.stickDrives_iff]
    rintro ⟨-, houtside⟩
    unfold StickReference.outside StickReference.deviation at houtside hdisplaced
    rw [hsame, hsettings, ← hdisplaced, hback] at houtside
    cases houtside
  have hcorrection : p.regulator.correction = f.loop.regulator.correction := by
    rw [hloop, HoldLoop.driven_correction]
  rw [HoldLoop.issued_held hb (hsettings ▸ hpulses) hany (hsettings ▸ hair) hdrives,
    Except.ok.injEq, hsettings, hsame, hbaseline, hcorrection] at hout
  change f.command.throttle.toInt = _
  rw [← hout]
  exact toInt_ofInt_clamp _ _ _ hpulses

/-- The command of a fixed wing is the stick, with the correction in its pitch while altitude is
held. -/
theorem holdsPitch (hf : Flown s n f) (hn : n ≠ 0) (hair : s.settings.airframe = .fixedWing) :
    (f.sample s (Flight.timeOf s.pace n)).throttle = 1500 ∧
      (f.sample s (Flight.timeOf s.pace n)).HoldsPitch s.settings.pitchReversed
        (s.stick (Flight.timeOf s.pace n) s.pace.hover) := by
  obtain ⟨p, hb, hsettings, hout, hloop⟩ := hf.exists_prepared hn
  have hcentre : (s.stick (Flight.timeOf s.pace n) s.pace.hover).throttle = 1500 := by
    unfold Script.stick
    rw [hair]
    rfl
  have hany : p.engagement.any = f.loop.engagement.any := by
    rw [hloop, HoldLoop.driven_engagement]
  have hcorrection : p.regulator.correction = f.loop.regulator.correction := by
    rw [hloop, HoldLoop.driven_correction]
  have hraw := toInt_ofIntClamp_eq_saturate16
    ((s.stick (Flight.timeOf s.pace n) s.pace.hover).pitch.toInt - 1500)
  unfold Sample.HoldsPitch
  rw [Flight.isHeld_sample]
  cases hheld : f.loop.engagement.any with
  | true =>
    have hdrives : HoldLoop.DrivesPitch p _ ⟨.early, [], _, _⟩ :=
      HoldLoop.drivesPitch_of_issued hb (hany.trans hheld) (hsettings ▸ hair) hout
    obtain ⟨hthrottle, hpitch, -⟩ := hdrives
    refine ⟨hthrottle.trans hcentre, ?_⟩
    rw [if_pos rfl, ← hraw]
    refine hpitch.trans ?_
    rw [hsettings, hcorrection]
    cases s.settings.pitchReversed <;> rfl
  | false =>
    unfold HoldLoop.issued at hout
    rw [hany, hheld, if_neg Bool.false_ne_true, Except.ok.injEq] at hout
    change f.command.throttle = 1500 ∧ f.command.pitch.toInt = _
    rw [← hout]
    exact ⟨hcentre, hraw⟩

end Flown

/-! ### Whole flights -/

/-- The hold of a flight begins at the time of the first pass in which its switch is on, and never if
there is no such pass.  From then on, and not before, every sample shows the source of the script as
held and the other one as not.  All held throttles stand on one baseline while the stick is not
displaced, and a fixed wing flies by its pitch. -/
theorem Script.fly_holdRecord {s : Script} {log : FlightLog} (h : s.fly = .ok (.ok log)) :
    log.engagedAt = s.firstHeld.map (Flight.timeOf s.pace) ∧
      (∀ j row, log.trace.sample? j = some row → ∀ source,
        row.holds source = decide (s.source = source ∧ s.holdAt ≤ row.time)) ∧
      (s.settings.airframe = .multirotor → ∃ baseline : Int16,
        (∀ t₀, log.engagedAt = some t₀ → baseline = (s.stick t₀ s.pace.hover).throttle) ∧
        ∀ j row, log.trace.sample? j = some row → row.isHeld = true → row.displaced = false →
          row.HoldsThrottle s.settings.pulses baseline) ∧
      (s.settings.airframe = .fixedWing → ∀ j row, log.trace.sample? j = some row →
        row.throttle = 1500 ∧
          row.HoldsPitch s.settings.pitchReversed (s.stick row.time s.pace.hover)) := by
  obtain ⟨f, hf, hlog⟩ := flown_of_fly h
  have hword := s.passes_le_two_pow
  rw [trace_of_log hlog, engagedAt_of_log hlog]
  refine ⟨hf.engagedAt_eq, fun j row hrow source => ?_, fun hair => ?_, fun hair j row hrow => ?_⟩
  · obtain ⟨m, g, hpos, -, hg, rfl⟩ := hf.exists_of_sample hrow
    rw [Flight.holds_sample]
    exact hg.holds_eq hpos source
  · refine ⟨(f.engagedAt.elim 0 fun t₀ => (s.stick t₀ s.pace.hover).throttle), ?_, ?_⟩
    · intro t₀ hat
      rw [hat]
      rfl
    · intro j row hrow hheld hback
      obtain ⟨m, g, hpos, hm, hg, rfl⟩ := hf.exists_of_sample hrow
      have hon : s.holdAt ≤ Flight.timeOf s.pace m := by
        by_contra hoff
        rw [Flight.isHeld_sample, hg.engagement_eq, if_neg fun h => hoff h.2] at hheld
        cases hheld
      obtain ⟨t₀, hat⟩ :=
        Option.isSome_iff_exists.mp ((hg.isSome_engagedAt_iff (hm.trans hword)).mpr ⟨hpos, hon⟩)
      rw [hg.engagedAt_of_le hf hm hat]
      exact hg.holdsThrottle hpos (hm.trans hword) hair hat hback
  · obtain ⟨m, g, hpos, -, hg, rfl⟩ := hf.exists_of_sample hrow
    exact hg.holdsPitch hpos hair

/-- The flight that is held from its third pass on records it one pass later, around the stick of its
third pass. -/
theorem Script.fly_holdRecord_heldLate :
    ∃ log row, heldLate.fly = .ok (.ok log) ∧
      log.engagedAt = some (Flight.timeOf heldLate.pace 3) ∧ log.trace.sample? 0 = some row ∧
      row.baroHold = true ∧ row.rangerHold = false ∧
      (row.displaced = false → row.HoldsThrottle {} 1520) := by
  obtain ⟨f₀, f, hlaunch, hpasses⟩ : ∃ f₀ f, heldLate.launch = .ok f₀ ∧
      Flight.passes heldLate heldLate.pace 4 1 f₀ = .ok f := exists_passes_succ (by decide +kernel)
  have hfour : heldLate.pace.passes = 4 := by decide +kernel
  have hroom : reserve heldLate.pace.samples sampleBytes = .ok () := by decide +kernel
  have hstride : heldLate.stride = 2 := by decide +kernel
  have hwarm : heldLate.warmUp = 1 := by decide +kernel
  obtain ⟨log, hlog⟩ := exists_fly hlaunch hroom (hfour ▸ hpasses)
  obtain ⟨g, -, hrow⟩ := (trace_of_fly hlog).2 0 (by rw [hfour, hstride, hwarm]; decide)
  rw [hstride, hwarm] at hrow
  obtain ⟨hat, hflags, hthrottle, -⟩ := fly_holdRecord hlog
  have hfirst : heldLate.firstHeld = some 3 := by decide +kernel
  rw [hfirst] at hat
  have hlater : heldLate.holdAt ≤ Flight.timeOf heldLate.pace 4 := by decide +kernel
  have hbaro := (hflags 0 _ hrow .baro).trans (decide_eq_true ⟨rfl, hlater⟩)
  have hranger := (hflags 0 _ hrow .ranger).trans (decide_eq_false (by rintro ⟨h, -⟩; cases h))
  obtain ⟨baseline, hbaseline, hheld⟩ := hthrottle rfl
  obtain rfl : baseline = 1520 := (hbaseline _ hat).trans (by decide +kernel)
  refine ⟨log, _, hlog, hat, hrow, hbaro, hranger, hheld 0 _ hrow ?_⟩
  exact Bool.or_eq_true_iff.mpr (.inl hbaro)

end Autopilot
