import Autopilot.Proofs.Alike
import Autopilot.Proofs.Fusion
import Autopilot.Proofs.Provenance
import Autopilot.Proofs.RangerReach

/-!
# What an engagement keeps of the ones before

A rising edge clears the setpoint, the integral sum, the correction and the stick baseline.  It does
not clear whether the stick is displaced, nor the climb rate that a displaced stick asks for.  Two
loops that agree in these two show the same from the next engagement on (`agree_of_sameStick`); two
loops of which only one has a displaced stick can be told apart by a single tick
(`displaced_eq_of_agree`), in which the ranger moves the altitude while the stick is at its new
baseline.

So every engagement forgets all that was before it on a fixed wing, where the stick is never
displaced, and only there (`forgets_iff_fixedWing`).
-/

namespace Autopilot

namespace HoldLoop

/-! ### Between two engagements -/

/-- The pass turns the switch of a present sensor on. -/
def Pass.engages (pass : Pass) : Bool :=
  (pass.input.switches.baro && pass.readings.has .baro) ||
    (pass.input.switches.ranger && pass.readings.has .ranger)

/-- Two loops are at rest with the same estimates. -/
structure Rested (s : Settings) (a b : HoldLoop) : Prop where
  left : Reachable s a
  right : Reachable s b
  left_idle : a.engagement.any = false
  right_idle : b.engagement.any = false
  fusion : a.fusion = b.fusion

/-- The next engagement and everything after it shows the same on both loops. -/
def Agree (a b : HoldLoop) : Prop :=
  ∀ first rest, first.engages = true → a.observe (first :: rest) = b.observe (first :: rest)

/-- What an engagement keeps of a loop at rest is the same. -/
structure SameStick (a b : HoldLoop) : Prop where
  displaced : a.reference.displaced = b.reference.displaced
  stickClimb : a.regulator.followsStick = true → a.regulator.stickClimb = b.regulator.stickClimb

/-- A pass that engages a loop at rest gives it a new start. -/
theorem armed_eq_of_engages {h : HoldLoop} (hidle : h.engagement.any = false) {pass : Pass}
    (hpass : pass.engages = true) :
    h.armed pass.input pass.readings =
      { h with
        engagement := (h.armed pass.input pass.readings).engagement
        regulator := h.regulator.restart h.altitude
        reference := h.reference.restart pass.input.stick.throttle } := by
  obtain ⟨s, f, r, ⟨baro, ranger⟩, ref⟩ := h
  obtain ⟨rfl, rfl⟩ : baro = false ∧ ranger = false := by simpa [Engagement.any] using hidle
  unfold Pass.engages at hpass
  unfold armed
  revert hpass
  cases pass.input.switches.baro && pass.readings.has .baro <;>
    cases pass.input.switches.ranger && pass.readings.has .ranger <;> intro hpass
  · cases hpass
  · rfl
  · rfl
  · rfl

/-! ### What is kept decides -/

theorem agree_of_sameStick {s : Settings} {a b : HoldLoop} (h : Rested s a b)
    (hstick : SameStick a b) : Agree a b := by
  obtain ⟨past, ha⟩ := h.left.reached
  obtain ⟨past', hb⟩ := h.right.reached
  intro first rest hfirst
  refine observe_cons_eq ha.bounded hb.bounded ?_ fun ha' hb' halike =>
    halike.observe_eq ha' hb' rest
  have haltitude : a.altitude = b.altitude := congrArg Fusion.altitude h.fusion
  have hengaged : (a.armed first.input first.readings).engagement =
      (b.armed first.input first.readings).engagement := by
    rw [armed_engagement, armed_engagement]
  have hfollows : a.regulator.followsStick = b.regulator.followsStick := by
    rw [ha.followsStick_eq, hb.followsStick_eq, hstick.displaced]
  rw [armed_eq_of_engages h.left_idle hfirst, armed_eq_of_engages h.right_idle hfirst, haltitude]
  refine ⟨ha.settings.trans hb.settings.symm, h.fusion, hengaged, ?_,
    .restart hfollows hstick.stickClimb _⟩
  unfold StickReference.restart
  rw [hstick.displaced]

/-! ### A tick that tells loops apart -/

/-- A ranger reads `range` and is alone trusted there, and the accelerometer knows nothing of the
vertical speed. -/
def probe (h : HoldLoop) (range : Int32) : Pass where
  input := ⟨h.fusion.lastTime + 25000, { ranger := true }, ⟨0, 0⟩⟩
  readings :=
    { ranger := some ⟨range, range, range⟩
      accel := some (.window ⟨.ofBits 0x7FC00000, 1, 0⟩) }
  incoming := ⟨0, 0⟩

theorem isNaN_mixedVelocity_probe (s : Settings) (h : HoldLoop) (range : Int32) :
    (h.fusion.mixedVelocity s (h.probe range).input.now (h.probe range).readings).isNaN = true := by
  have hmean : (AccelWindow.mean (⟨.ofBits 0x7FC00000, 1, 0⟩ : AccelWindow Float32)).isNaN = true :=
    by decide
  have hgain : ((⟨.ofBits 0x7FC00000, 1, 0⟩ : AccelWindow Float32).velocityGain
      s.countsPerGravity).isNaN = true :=
    isNaN_mul_left (isNaN_mul_left hmean _) _
  exact isNaN_add_left (isNaN_mul_left (isNaN_add_right hgain _) _) _

/-- The estimator takes the altitude of the probe. -/
theorem update_probe (s : Settings) (h : HoldLoop) {range : Int32} (hrange : 0 < range) :
    ∃ u, h.fusion.update s (h.probe range).input.now (h.probe range).readings = .ok u ∧
      u.fusion.altitude = range := by
  have hspeed := isNaN_mixedVelocity_probe s h range
  have hearly : h.fusion.isEarly (h.probe range).input.now = false := by
    unfold Fusion.isEarly
    change decide (h.fusion.lastTime + 25000 - h.fusion.lastTime < _) = false
    rw [UInt32.add_comm, UInt32.add_sub_cancel]
    decide
  -- A band of one point is not wide, and a speed that is no number is not low.
  have hover : ¬ h.fusion.Overflows s (h.probe range).input.now (h.probe range).readings := by
    rintro ⟨-, -, ⟨reading, hreading, hwide⟩ | hlow⟩
    · cases hreading
      have hband : 2147483647 < range.toInt - range.toInt := hwide.wide
      omega
    · have hleast := roundEven32_eq_minValue_iff.mpr hlow
      rw [roundEven32_of_isNaN hspeed] at hleast
      exact absurd hleast (by decide)
  have hinside : RangerReading.InBand ⟨range, range, range⟩ :=
    ⟨hrange, Int32.le_refl _, Int32.le_refl _⟩
  have hblend := hinside.blended_of_point rfl
    (Fusion.baroAltitude (h.probe range).readings.baro)
  refine ⟨_, Fusion.update_eq hover, ?_⟩
  unfold Fusion.updated
  rw [hearly, if_neg (by decide), if_neg (by intro hbaro; cases hbaro)]
  change (RangerReading.blended ⟨range, range, range⟩ _).getD _ = range
  rw [hblend]
  rfl

/-- The probe leaves the stick at its new baseline, so only an old displacement can end. -/
theorem recaptures_probe_iff {h : HoldLoop} (hidle : h.engagement.any = false)
    (hair : h.settings.airframe = .multirotor) (range : Int32) (u : Fusion.Update) :
    (h.poised (h.probe range).input (h.probe range).readings u).Recaptures
      (h.probe range).input.stick ↔ h.reference.displaced = true := by
  have harmed := armed_eq_of_engages hidle (show (h.probe range).engages = true from rfl)
  have hreference : (h.poised (h.probe range).input (h.probe range).readings u).reference =
      h.reference.restart 0 := by
    change (h.armed (h.probe range).input (h.probe range).readings).reference = _
    rw [harmed]
    rfl
  have hengaged :
      (h.poised (h.probe range).input (h.probe range).readings u).engagement.any = true := by
    change (h.armed (h.probe range).input (h.probe range).readings).engagement.any = true
    rw [armed_engagement]
    rfl
  have hinside :
      ¬ (h.reference.restart 0).outside h.settings.stick (h.probe range).input.stick := by
    unfold StickReference.outside
    change ¬ decide (h.settings.stick.deadband.toNat < 0) = true
    simp
  unfold Recaptures
  rw [poised_settings, hreference]
  constructor
  · rintro ⟨-, -, -, hdisplaced⟩
    exact hdisplaced
  · intro hdisplaced
    exact ⟨hengaged, hair, hinside, hdisplaced⟩

/-- On a multirotor, the setpoint after the probe tells whether the stick was displaced. -/
theorem observe_probe {s : Settings} {h : HoldLoop} {past : List Moment} (hr : Reached s past h)
    (hidle : h.engagement.any = false) (hair : s.airframe = .multirotor) {range : Int32}
    (hrange : 0 < range) :
    ∃ command displaced, h.observe [h.probe range] =
      [.ok ⟨command, if h.reference.displaced then range else h.altitude, displaced⟩] := by
  obtain ⟨u, hu, haltitude⟩ := update_probe s h hrange
  have hreached : (h.poised (h.probe range).input (h.probe range).readings u).altitude = range :=
    haltitude
  have hsettings := hr.settings
  have hpulses := Settings.low_le_high_of_check hr.check
  obtain ⟨out, hout⟩ := issued_eq_ok
    (bounded_poised hr.bounded (h.probe range).input (h.probe range).readings u)
    (by rw [poised_settings, hsettings]; exact hpulses)
    (h.probe range).input.stick (h.probe range).incoming
  have hback := recaptures_probe_iff hidle (hsettings ▸ hair) range u
  have hbefore : (h.poised (h.probe range).input (h.probe range).readings u).regulator.setpoint =
      h.altitude := by
    unfold poised
    rw [sensed_setpoint, armed_eq_of_engages hidle (show (h.probe range).engages = true from rfl)]
    rfl
  unfold observe
  rw [tick_eq_of_bounded hr.bounded, hsettings, hu, ok_bind, hout, ok_bind, pure_eq_ok]
  dsimp only
  rw [driven_setpoint, hbefore, if_congr hback hreached rfl]
  exact ⟨_, _, rfl⟩

theorem displaced_eq_of_agree {s : Settings} {a b : HoldLoop} (h : Rested s a b)
    (hagree : Agree a b) : a.reference.displaced = b.reference.displaced := by
  obtain ⟨past, ha⟩ := h.left.reached
  obtain ⟨past', hb⟩ := h.right.reached
  cases hair : s.airframe with
  | fixedWing => rw [ha.displaced_of_fixedWing hair, hb.displaced_of_fixedWing hair]
  | multirotor =>
    -- The probe has to move the altitude, which is the same for both loops before it.
    obtain ⟨range, hrange, hmoved⟩ : ∃ range : Int32, 0 < range ∧ range ≠ a.altitude := by
      by_cases haltitude : a.altitude = 1
      · exact ⟨2, by decide, by rw [haltitude]; decide⟩
      · exact ⟨1, by decide, fun heq => haltitude heq.symm⟩
    have hprobe : a.probe range = b.probe range := by
      unfold probe
      rw [h.fusion]
    have hsame : b.altitude = a.altitude := congrArg Fusion.altitude h.fusion.symm
    obtain ⟨command, displaced, hleft⟩ := observe_probe ha h.left_idle hair hrange
    obtain ⟨command', displaced', hright⟩ := observe_probe hb h.right_idle hair hrange
    have heq := hagree (a.probe range) [] rfl
    rw [hleft, hprobe, hright, hsame] at heq
    obtain ⟨-, hsetpoint, -⟩ : command = command' ∧
        (if a.reference.displaced then range else a.altitude) =
          (if b.reference.displaced then range else a.altitude) ∧ displaced = displaced' := by
      simpa using heq
    cases hleft : a.reference.displaced <;> cases hright : b.reference.displaced
    · rfl
    · simp only [hleft, hright] at hsetpoint
      exact absurd hsetpoint.symm hmoved
    · simp only [hleft, hright] at hsetpoint
      exact absurd hsetpoint hmoved
    · rfl

/-! ### The exact condition -/

/-- The stick leaves the deadband while altitude is held, and then the switch is turned off. -/
def abandoned : List Action :=
  [.switch .baro true ⟨0, 0⟩, .drive ⟨1000, 0⟩ ⟨0, 0⟩, .switch .baro false ⟨0, 0⟩]

/-- An engagement of a multirotor can end with the stick displaced. -/
theorem exists_abandoned {s : Settings} {h₀ : HoldLoop} (hs : start s = .ok h₀)
    (hair : s.airframe = .multirotor) :
    ∃ h, h₀.performAll abandoned = .ok h ∧ h.engagement.any = false ∧ h.fusion = h₀.fusion ∧
      h.reference.displaced = true := by
  obtain ⟨hcheck, rfl⟩ := start_eq_ok_iff.mp hs
  have hpulses := Settings.low_le_high_of_check hcheck
  have hengaged : (fed { settings := s } .baro true ⟨0, 0⟩).engagement.any = true := rfl
  -- The half-width of the deadband is a byte, so no deadband reaches up to 1000.
  have hout : (StickReference.restart {} 0).outside s.stick ⟨1000, 0⟩ = true := by
    have hband := s.stick.deadband.toNat_lt
    change decide (s.stick.deadband.toNat < 1000) = true
    rw [decide_eq_true_iff]
    omega
  obtain ⟨out, hissued⟩ := issued_eq_ok (h := fed { settings := s } .baro true ⟨0, 0⟩)
    (bounded_fed .initial _ _ _) hpulses ⟨1000, 0⟩ ⟨0, 0⟩
  refine ⟨((fed { settings := s } .baro true ⟨0, 0⟩).driven ⟨1000, 0⟩).fed .baro false ⟨0, 0⟩,
    ?_, ?_, ?_, ?_⟩
  · rw [performAll_eq]
    simp only [abandoned, List.flatMap_cons, List.flatMap_nil, Action.stages, List.cons_append,
      List.nil_append, advanceAll, advance, switch_eq, drive_eq, hissued, ok_bind, map_ok]
  · rw [fed_engagement, driven_engagement, fed_engagement]
    rfl
  · rw [fed_fusion, driven_fusion, fed_fusion]
  · rw [fed_displaced]
    unfold driven StickReference.noted
    rw [if_pos hengaged]
    change (if s.airframe = .fixedWing then _ else _ : StickReference).displaced = true
    rw [hair]
    exact hout

/-- A climb rate of the stick is followed only while the stick is displaced, and never where it
drives the throttle itself. -/
theorem sameStick_of_displaced_eq {s : Settings} {past : List Moment} {a b : HoldLoop}
    (ha : Reached s past a) (hdisplaced : a.reference.displaced = b.reference.displaced)
    (h : a.reference.displaced = false ∨ s.stick.direct = true) : SameStick a b := by
  refine ⟨hdisplaced, fun hfollows => ?_⟩
  rw [ha.followsStick_eq] at hfollows
  rcases h with hback | hdirect
  · rw [hback] at hfollows
    cases hfollows
  · rw [hdirect, Bool.not_true, Bool.and_false] at hfollows
    cases hfollows

/-- Every engagement forgets all that was before it exactly on a fixed wing.  On any airframe,
engagements after the same stick show the same, and engagements that show the same come after a
stick that was displaced in both loops or in none; where the stick drives the throttle itself, that
is all they have to share. -/
theorem forgets_iff_fixedWing {s : Settings} {h₀ : HoldLoop} (hs : start s = .ok h₀) :
    ((∀ a b, Rested s a b → Agree a b) ↔ s.airframe = .fixedWing) ∧
    (∀ a b, Rested s a b → SameStick a b → Agree a b) ∧
    (∀ a b, Rested s a b → Agree a b → a.reference.displaced = b.reference.displaced) ∧
    (s.stick.direct = true → ∀ a b, Rested s a b →
      (Agree a b ↔ a.reference.displaced = b.reference.displaced)) := by
  refine ⟨⟨fun hforgets => ?_, fun hair a b hrest => ?_⟩,
    fun a b hrest => agree_of_sameStick hrest, fun a b hrest => displaced_eq_of_agree hrest,
    fun hdirect a b hrest => ⟨displaced_eq_of_agree hrest, fun hdisplaced => ?_⟩⟩
  · cases hair : s.airframe with
    | fixedWing => rfl
    | multirotor =>
      -- The abandoned engagement is compared with no engagement at all.
      obtain ⟨a, ha, hidle, hfusion, hdisplaced⟩ := exists_abandoned hs hair
      obtain ⟨-, rfl⟩ := start_eq_ok_iff.mp hs
      have hrest : Rested s a { settings := s } :=
        ⟨⟨_, abandoned, hs, ha⟩, ⟨_, [], hs, rfl⟩, hidle, rfl, hfusion⟩
      have hsame := displaced_eq_of_agree hrest (hforgets a _ hrest)
      rw [hdisplaced] at hsame
      cases hsame
  · obtain ⟨past, ha⟩ := hrest.left.reached
    obtain ⟨past', hb⟩ := hrest.right.reached
    have hleft := ha.displaced_of_fixedWing hair
    have hright := hb.displaced_of_fixedWing hair
    exact agree_of_sameStick hrest
      (sameStick_of_displaced_eq ha (hleft.trans hright.symm) (.inl hleft))
  · obtain ⟨past, ha⟩ := hrest.left.reached
    exact agree_of_sameStick hrest (sameStick_of_displaced_eq ha hdisplaced (.inr hdirect))

/-- Both airframes occur. -/
theorem forgets_iff_fixedWing_default :
    start {} = .ok { settings := {} } ∧
      start { airframe := .fixedWing } = .ok { settings := { airframe := .fixedWing } } ∧
      (¬ ∀ a b, Rested {} a b → Agree a b) ∧
      ∀ a b, Rested { airframe := .fixedWing } a b → Agree a b := by
  have hrotor : start {} = .ok { settings := {} } := by decide +kernel
  have hwing : start { airframe := .fixedWing } =
      .ok { settings := { airframe := .fixedWing } } := by decide +kernel
  refine ⟨hrotor, hwing, fun hforgets => ?_, (forgets_iff_fixedWing hwing).1.mpr rfl⟩
  exact absurd ((forgets_iff_fixedWing hrotor).1.mp hforgets) (by decide)

/-- Settings with which a displaced stick asks for a climb rate. -/
def climbSettings : Settings :=
  { stick := { direct := false } }

/-- The first tick of an engagement, with the barometer at one metre. -/
def firstMetre : Pass where
  input := ⟨25000, { baro := true }, ⟨1500, 1500⟩⟩
  readings := { baro := some (.ready 100) }
  incoming := ⟨1500, 0⟩

/-- An abandoned engagement changes the command and the setpoint of the next one. -/
theorem observe_abandoned :
    ∃ a, Rested climbSettings a { settings := climbSettings } ∧
      performAll { settings := climbSettings } abandoned = .ok a ∧
      firstMetre.engages = true ∧
      a.observe [firstMetre] = [.ok ⟨⟨1803, 0⟩, 100, false⟩] ∧
      observe { settings := climbSettings } [firstMetre] =
        [.ok ⟨⟨1403, 0⟩, 0, false⟩] := by
  have hstart : start climbSettings =
      .ok { settings := climbSettings } := by decide +kernel
  have hrun : (performAll { settings := climbSettings } abandoned).map
      (fun a => (a.engagement.any, a.fusion, a.observe [firstMetre])) =
        .ok (false, {}, [.ok ⟨⟨1803, 0⟩, 100, false⟩]) := by decide +kernel
  cases ha : performAll { settings := climbSettings } abandoned with
  | error fault => rw [ha] at hrun; cases hrun
  | ok a =>
    rw [ha] at hrun
    obtain ⟨hidle, hfusion, hshown⟩ : a.engagement.any = false ∧ a.fusion = {} ∧
        a.observe [firstMetre] = [.ok ⟨⟨1803, 0⟩, 100, false⟩] := by
      simpa [Except.map] using hrun
    exact ⟨a, ⟨⟨_, abandoned, hstart, ha⟩, ⟨_, [], hstart, rfl⟩, hidle, rfl, hfusion⟩, rfl, rfl,
      hshown, by decide +kernel⟩

end HoldLoop

end Autopilot
