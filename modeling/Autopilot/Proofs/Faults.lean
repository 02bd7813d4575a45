import Autopilot.Proofs.Fusion
import Autopilot.Proofs.Runs

/-!
# When a tick fails

After any calls, the regulator and the command of a tick have a result whatever the readings are:
the correction is inside its bound, and the checked range of pulses is not empty.  So a tick fails
exactly when its estimate cannot be taken (`tick_eq_error_iff`), and always in the same way.
Otherwise it hands on what the estimator answers (`estimator_of_tick`).

Estimates that cannot be taken exist: one reading of a ranger with a band that is too wide is
enough, and so is one window of an accelerometer with a large negative sum (`tick_fresh_overflows`).
-/

namespace Autopilot

namespace HoldLoop

/-! ### Ticks that do not fail -/

section Tick

variable {h : HoldLoop} (hb : h.regulator.Bounded) {input : PilotInput} {r : Readings}

include hb

/-- While the regulator is bounded and the range of pulses is not empty, only the estimator can
fail. -/
theorem exists_tick (hpulses : h.settings.pulses.low ≤ h.settings.pulses.high)
    (hover : ¬ h.fusion.Overflows h.settings input.now r) (incoming : Command) :
    ∃ t, h.tick input r incoming = .ok t := by
  rw [tick_eq_of_bounded hb, Fusion.update_eq hover, ok_bind]
  obtain ⟨out, hout⟩ := issued_eq_ok
    (bounded_poised hb input r (h.fusion.updated h.settings input.now r))
    (by rw [poised_settings]; exact hpulses) input.stick incoming
  rw [hout]
  exact ⟨_, rfl⟩

/-- A tick that does not fail hands on what the estimator answers. -/
theorem estimator_of_tick {incoming : Command} {t : Tick} (ht : h.tick input r incoming = .ok t) :
    t.estimate = (h.fusion.updated h.settings input.now r).estimate ∧
      t.calls = (h.fusion.updated h.settings input.now r).calls ∧
      t.loop.fusion = (h.fusion.updated h.settings input.now r).fusion := by
  obtain ⟨u, hu, -, ht'⟩ := exists_update_of_tick hb ht
  rw [← Fusion.eq_updated_of_update hu]
  refine ⟨congrArg Tick.estimate ht', congrArg Tick.calls ht', ?_⟩
  rw [congrArg Tick.loop ht', driven_fusion]
  rfl

end Tick

/-! ### Ticks that fail -/

/-- After any calls, a tick fails if and only if it takes an estimate with the ranger inside a band
that is wider than a word, or with a vertical speed that is no larger than the least word.  The
fault is an overflow each time. -/
theorem tick_eq_error_iff {s : Settings} {h₀ h : HoldLoop} {actions : List Action}
    (hs : start s = .ok h₀) (ha : h₀.performAll actions = .ok h) (input : PilotInput)
    (r : Readings) (incoming : Command) (fault : Fault) :
    h.tick input r incoming = .error fault ↔
      fault = .overflow ∧ h.fusion.Overflows s input.now r := by
  have hr := reached_performAll hs ha
  have hb := hr.bounded
  have hsettings := hr.settings
  rw [tick_eq_of_bounded hb, hsettings]
  by_cases hover : h.fusion.Overflows s input.now r
  · rw [Fusion.update_eq_overflow hover, error_bind]
    constructor
    · intro hfault
      exact ⟨(Except.error.inj hfault).symm, hover⟩
    · rintro ⟨rfl, -⟩
      rfl
  · rw [Fusion.update_eq hover, ok_bind]
    -- Nothing can fail behind the estimator.
    have hpulses := Settings.low_le_high_of_check hr.check
    obtain ⟨out, hout⟩ := issued_eq_ok (bounded_poised hb input r (h.fusion.updated s input.now r))
      (by rw [poised_settings, hsettings]; exact hpulses) input.stick incoming
    rw [hout, ok_bind, pure_eq_ok]
    constructor
    · intro hfault
      cases hfault
    · rintro ⟨-, hover'⟩
      exact absurd hover' hover

/-- A ranger that reads the lowest altitude with an echo, in the widest of all bands. -/
def widestBand : Readings :=
  { ranger := some ⟨1, Int32.minValue, Int32.maxValue⟩ }

/-- An accelerometer that has summed up to a fall of more than a word of speed. -/
def plunge : Readings :=
  { accel := some (.window ⟨-1e30, 1, 25000⟩) }

/-- The tick after the switch has been turned on fails when the band is too wide. -/
theorem tick_eq_error_iff_widestBand :
    ∃ h, start {} = .ok { settings := {} } ∧
      performAll { settings := {} } [.switch .ranger true ⟨1500, 1500⟩] = .ok h ∧
      h.fusion.Overflows {} 25000 widestBand ∧
      h.tick ⟨25000, { ranger := true }, ⟨1500, 1500⟩⟩ widestBand ⟨1500, 0⟩ = .error .overflow := by
  have hstart : start {} = .ok { settings := {} } := by decide +kernel
  have hrun : performAll { settings := {} } [.switch .ranger true ⟨1500, 1500⟩] =
      .ok (fed { settings := {} } .ranger true ⟨1500, 1500⟩) := by
    rw [performAll_eq]
    change Except.ok (switch { settings := {} } .ranger true ⟨1500, 1500⟩).2 = _
    rw [switch_eq]
  have hband : (⟨1, Int32.minValue, Int32.maxValue⟩ : RangerReading).TooWide :=
    ⟨by decide, by decide, by decide, by decide⟩
  have hover : (fed { settings := {} } .ranger true ⟨1500, 1500⟩).fusion.Overflows {} 25000
      widestBand :=
    ⟨by decide, by decide, .inl ⟨_, rfl, hband⟩⟩
  exact ⟨_, hstart, hrun, hover,
    (tick_eq_error_iff hstart hrun _ widestBand _ .overflow).mpr ⟨rfl, hover⟩⟩

/-- A fresh loop has both ways to fail. -/
theorem tick_fresh_overflows :
    start {} = .ok { settings := {} } ∧
      tick { settings := {} } ⟨25000, {}, ⟨1500, 1500⟩⟩ widestBand ⟨1500, 0⟩ = .error .overflow ∧
      tick { settings := {} } ⟨25000, {}, ⟨1500, 1500⟩⟩ plunge ⟨1500, 0⟩ = .error .overflow := by
  decide +kernel

end HoldLoop

end Autopilot
