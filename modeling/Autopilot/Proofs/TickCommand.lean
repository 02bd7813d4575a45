import Autopilot.Proofs.Runs

/-!
# The command of a tick

A tick samples the switches, calls the estimator, and then issues a command from what these two have
left behind (`HoldLoop.prepare`).  What it issues is one of three things: the incoming command while
altitude is not held (`HoldLoop.Idle`), a new throttle on a multirotor (`HoldLoop.DrivesThrottle`),
and a new pitch on a fixed wing (`HoldLoop.DrivesPitch`).

`HoldLoop.tick_command` is the whole law.  On every loop that calls have led to, a tick fails only
when its estimator does: the integers on the way to the command are all words, because the correction
of a run is bounded.
-/

namespace Autopilot

namespace HoldLoop

/-! ### Before the command -/

/-- The loop behind the switches and the estimator of a tick. -/
def prepare (h : HoldLoop) (input : PilotInput) (r : Readings) : Except Fault HoldLoop :=
  let (_, h) := h.switch .baro (input.switches.baro && r.has .baro) input.stick
  let (_, h) := h.switch .ranger (input.switches.ranger && r.has .ranger) input.stick
  (fun answer => answer.2.2) <$> h.sense input.now r

section Prepare

variable {h p : HoldLoop} {input : PilotInput} {r : Readings}

theorem prepare_eq (hb : h.regulator.Bounded) (input : PilotInput) (r : Readings) :
    h.prepare input r = h.poised input r <$> h.fusion.update h.settings input.now r := by
  unfold prepare poised
  rw [switch_eq]
  dsimp only
  rw [switch_eq]
  change (fun answer => answer.2.2) <$> (h.armed input r).sense input.now r = _
  rw [sense_eq (bounded_armed hb input r), armed_fusion, armed_settings]
  cases h.fusion.update h.settings input.now r <;> rfl

theorem exists_poised_of_prepare (hb : h.regulator.Bounded) (hp : h.prepare input r = .ok p) :
    ∃ u, h.fusion.update h.settings input.now r = .ok u ∧ p = h.poised input r u := by
  rw [prepare_eq hb, map_eq_ok_iff] at hp
  obtain ⟨u, hu, rfl⟩ := hp
  exact ⟨u, hu, rfl⟩

/-- Behind the estimator, a tick only needs a command to issue. -/
theorem tick_eq_prepare (hb : h.regulator.Bounded) (hp : h.prepare input r = .ok p)
    {incoming out : Command} (hout : p.issued input.stick incoming = .ok out) :
    ∃ estimate calls,
      h.tick input r incoming = .ok ⟨estimate, calls, out, p.driven input.stick⟩ := by
  obtain ⟨u, hu, rfl⟩ := exists_poised_of_prepare hb hp
  refine ⟨u.estimate, u.calls, ?_⟩
  rw [tick_eq_of_bounded hb, hu, ok_bind, hout, ok_bind, pure_eq_ok]

/-- Behind the estimator, a bounded loop with a range of pulses has a command to issue. -/
theorem exists_issued_of_prepare (hb : h.regulator.Bounded)
    (hpulses : h.settings.pulses.low ≤ h.settings.pulses.high) (hp : h.prepare input r = .ok p)
    (incoming : Command) :
    p.settings = h.settings ∧ p.regulator.Bounded ∧
      ∃ out, p.issued input.stick incoming = .ok out := by
  obtain ⟨u, -, rfl⟩ := exists_poised_of_prepare hb hp
  have hsettings := h.poised_settings input r u
  have hbounded := bounded_poised hb input r u
  exact ⟨hsettings, hbounded, issued_eq_ok hbounded (by rw [hsettings]; exact hpulses) _ _⟩

theorem tick_error_iff_prepare (hb : h.regulator.Bounded)
    (hpulses : h.settings.pulses.low ≤ h.settings.pulses.high) (incoming : Command)
    (fault : Fault) :
    h.tick input r incoming = .error fault ↔ h.prepare input r = .error fault := by
  cases hp : h.prepare input r with
  | ok p =>
    obtain ⟨-, -, out, hout⟩ := exists_issued_of_prepare hb hpulses hp incoming
    obtain ⟨estimate, calls, ht⟩ := tick_eq_prepare hb hp hout
    rw [ht]
    constructor <;> intro hfault <;> cases hfault
  | error fault' =>
    rw [prepare_eq hb] at hp
    rw [tick_eq_of_bounded hb]
    cases hu : h.fusion.update h.settings input.now r with
    | error _ =>
      rw [hu, map_error, Except.error.injEq] at hp
      rw [error_bind, hp, Except.error.injEq, Except.error.injEq]
    | ok u => rw [hu, map_ok] at hp; cases hp

/-- Switches that leave no source engaged have left everything else alone. -/
theorem armed_of_idle (hidle : (h.armed input r).engagement.any = false) :
    h.armed input r = { h with engagement := {} } := by
  rw [armed_engagement] at hidle
  obtain ⟨hbaro, hranger⟩ : (input.switches.baro && r.has .baro) = false ∧
      (input.switches.ranger && r.has .ranger) = false := Bool.or_eq_false_iff.mp hidle
  unfold armed
  rw [hbaro, hranger, fed_false, fed_false]
  rfl

end Prepare

/-! ### The law -/

/-- While altitude is not held, the tick of `h` hands the incoming command on.  The command changes
nothing of the loop `p` before it, and the tick changes no setpoint and nothing of the stick. -/
structure Idle (h p : HoldLoop) (incoming : Command) (t : Tick) : Prop where
  command : t.command = incoming
  loop : t.loop = p
  setpoint : t.loop.regulator.setpoint = h.regulator.setpoint
  stickClimb : t.loop.regulator.stickClimb = h.regulator.stickClimb
  followsStick : t.loop.regulator.followsStick = h.regulator.followsStick
  baseline : t.loop.reference.baseline = h.reference.baseline
  displaced : t.loop.reference.displaced = h.reference.displaced

/-- The throttle stick is so far from its baseline that it drives the throttle itself. -/
def StickDrives (p : HoldLoop) (stick : Stick) : Prop :=
  p.settings.stick.direct = true ∧
    p.settings.stick.deadband.toNat < (stick.throttle.toInt - p.reference.baseline.toInt).natAbs

instance (p : HoldLoop) (stick : Stick) : Decidable (p.StickDrives stick) :=
  inferInstanceAs (Decidable (_ ∧ _))

/-- The throttle stick of a multirotor drives the throttle itself while altitude is held. -/
def Overrides (h : HoldLoop) (stick : Stick) : Prop :=
  h.engagement.any = true ∧ h.settings.airframe = .multirotor ∧ h.StickDrives stick

instance (h : HoldLoop) (stick : Stick) : Decidable (h.Overrides stick) :=
  inferInstanceAs (Decidable (_ ∧ _ ∧ _))

/-- On a multirotor, a tick with the loop `p` before its command issues the baseline with the
correction on top, inside the range of pulses.  A stick that drives the throttle itself has the
incoming throttle moved by the deadband instead, and empties the integral sum. -/
structure DrivesThrottle (p : HoldLoop) (stick : Stick) (incoming : Command) (t : Tick) : Prop where
  pitch : t.command.pitch = incoming.pitch
  throttle : t.command.throttle.toInt =
    if p.StickDrives stick then
      saturate16 (if p.reference.baseline < stick.throttle
        then incoming.throttle.toInt - p.settings.stick.deadband.toNat
        else incoming.throttle.toInt + p.settings.stick.deadband.toNat)
    else
      max p.settings.pulses.low.toInt
        (min (p.reference.baseline.toInt + p.regulator.correction.toInt)
          p.settings.pulses.high.toInt)
  integral : t.loop.regulator.integral = if p.StickDrives stick then 0 else p.regulator.integral

/-- On a fixed wing, a tick with the loop `p` before its command adds the correction to the incoming
pitch, or takes it away from it, and changes nothing of the loop. -/
structure DrivesPitch (p : HoldLoop) (incoming : Command) (t : Tick) : Prop where
  throttle : t.command.throttle = incoming.throttle
  pitch : t.command.pitch.toInt =
    saturate16 (if p.settings.pitchReversed
      then incoming.pitch.toInt - p.regulator.correction.toInt
      else incoming.pitch.toInt + p.regulator.correction.toInt)
  loop : t.loop = p

/-- The integers on the way to a command. -/
def intermediates (p : HoldLoop) (stick : Stick) (incoming : Command) : List Int :=
  let deviation := stick.throttle.toInt - p.reference.baseline.toInt
  let correction := p.regulator.correction.toInt
  [deviation, deviation.natAbs, deviation.tdiv 2, p.reference.baseline.toInt + correction,
    incoming.throttle.toInt - p.settings.stick.deadband.toNat,
    incoming.throttle.toInt + p.settings.stick.deadband.toNat,
    -correction, incoming.pitch.toInt - correction, incoming.pitch.toInt + correction]

/-! ### The parts of the law -/

section Law

variable {h p : HoldLoop} {input : PilotInput} {r : Readings} {stick : Stick} {incoming out : Command}
  {estimate : Estimate} {calls : List SensorCall}

theorem isWord_intermediates (hb : p.regulator.Bounded) (stick : Stick) (incoming : Command) :
    ∀ n ∈ p.intermediates stick incoming, IsWord n := by
  obtain ⟨hs1, hs2⟩ := toInt16_bounds stick.throttle
  obtain ⟨hb1, hb2⟩ := toInt16_bounds p.reference.baseline
  obtain ⟨ht1, ht2⟩ := toInt16_bounds incoming.throttle
  obtain ⟨hp1, hp2⟩ := toInt16_bounds incoming.pitch
  have hcorr := hb.correction
  have hband := p.settings.stick.deadband.toNat_lt
  have hhalf : ((stick.throttle.toInt - p.reference.baseline.toInt).tdiv 2).natAbs =
      (stick.throttle.toInt - p.reference.baseline.toInt).natAbs / 2 := Int.natAbs_tdiv _ 2
  unfold intermediates IsWord
  simp only [List.forall_mem_cons, List.not_mem_nil, false_implies, implies_true, and_true]
  refine ⟨?_, ?_, ?_, ?_, ?_, ?_, ?_, ?_, ?_⟩ <;> omega

theorem idle_of_prepare (hb : h.regulator.Bounded) (hp : h.prepare input r = .ok p)
    (hidle : p.engagement.any = false) :
    Idle h p incoming ⟨estimate, calls, incoming, p.driven input.stick⟩ := by
  obtain ⟨u, hu, rfl⟩ := exists_poised_of_prepare hb hp
  have harmed : h.armed input r = { h with engagement := {} } := armed_of_idle hidle
  have hdriven : (h.poised input r u).driven input.stick = h.poised input r u := by
    unfold driven
    rw [hidle, if_neg Bool.false_ne_true]
  refine ⟨rfl, hdriven, ?_, ?_, ?_, ?_, ?_⟩
  all_goals
    dsimp only
    rw [hdriven]
    unfold poised
    simp [harmed]

theorem stickDrives_iff :
    p.StickDrives stick ↔
      p.settings.stick.direct ∧ p.reference.outside p.settings.stick stick := by
  unfold StickDrives StickReference.outside StickReference.deviation
  rw [decide_eq_true_iff]

theorem driven_integral (h : HoldLoop) (stick : Stick) :
    (h.driven stick).regulator.integral =
      if h.Overrides stick then 0 else h.regulator.integral := by
  unfold driven Overrides
  simp only [stickDrives_iff]
  by_cases hany : h.engagement.any
  · rw [if_pos hany, Regulator.steered_integral]
    exact if_congr ⟨fun ⟨hair, hout, hdirect⟩ => ⟨hany, hair, hdirect, hout⟩,
      fun ⟨_, hair, hdirect, hout⟩ => ⟨hair, hout, hdirect⟩⟩ rfl rfl
  · rw [if_neg hany, if_neg fun hover => hany hover.1]

theorem issued_shifted (hany : p.engagement.any = true) (hair : p.settings.airframe = .multirotor)
    (hdrives : p.StickDrives stick) :
    p.issued stick incoming = .ok (p.reference.shifted p.settings.stick stick incoming) := by
  unfold issued outgoing
  rw [if_pos hany, hair, if_neg (by decide), if_pos (stickDrives_iff.mp hdrives)]

theorem issued_held (hb : p.regulator.Bounded) (hpulses : p.settings.pulses.low ≤ p.settings.pulses.high)
    (hany : p.engagement.any = true) (hair : p.settings.airframe = .multirotor)
    (hdrives : ¬ p.StickDrives stick) :
    p.issued stick incoming =
      .ok { incoming with
        throttle := .ofInt (max p.settings.pulses.low.toInt
          (min (p.reference.baseline.toInt + p.regulator.correction.toInt)
            p.settings.pulses.high.toInt)) } := by
  unfold issued outgoing
  rw [if_pos hany, hair, if_neg (by decide), if_neg (mt stickDrives_iff.mpr hdrives),
    held_eq hb hpulses]

theorem drivesThrottle_of_issued (hb : p.regulator.Bounded)
    (hpulses : p.settings.pulses.low ≤ p.settings.pulses.high) (hany : p.engagement.any = true)
    (hair : p.settings.airframe = .multirotor) (hout : p.issued stick incoming = .ok out) :
    DrivesThrottle p stick incoming ⟨estimate, calls, out, p.driven stick⟩ := by
  have hintegral : (p.driven stick).regulator.integral =
      if p.StickDrives stick then 0 else p.regulator.integral :=
    (p.driven_integral stick).trans
      (if_congr ⟨fun hover => hover.2.2, fun hdrives => ⟨hany, hair, hdrives⟩⟩ rfl rfl)
  by_cases hdrives : p.StickDrives stick
  · rw [issued_shifted hany hair hdrives, Except.ok.injEq] at hout
    subst hout
    refine ⟨rfl, ?_, hintegral⟩
    rw [if_pos hdrives]
    unfold StickReference.shifted StickReference.deviation
    simp only [toInt_ofIntClamp_eq_saturate16, Int16.lt_iff_toInt_lt]
    split_ifs
    · rw [Int.sub_eq_add_neg]
    · omega
    · omega
    · rfl
  · rw [issued_held hb hpulses hany hair hdrives, Except.ok.injEq] at hout
    subst hout
    refine ⟨rfl, ?_, hintegral⟩
    rw [if_neg hdrives]
    exact toInt_ofInt_clamp _ _ _ hpulses

theorem drivesPitch_of_issued (hb : p.regulator.Bounded) (hany : p.engagement.any = true)
    (hair : p.settings.airframe = .fixedWing) (hout : p.issued stick incoming = .ok out) :
    DrivesPitch p incoming ⟨estimate, calls, out, p.driven stick⟩ := by
  unfold issued outgoing at hout
  rw [if_pos hany, if_pos hair, steer_eq hb, Except.ok.injEq] at hout
  subst hout
  refine ⟨rfl, ?_, ?_⟩
  · dsimp only
    rw [toInt_ofIntClamp_eq_saturate16]
    split_ifs
    · rw [Int.mul_neg_one, Int.sub_eq_add_neg]
    · rw [Int.mul_one]
  · dsimp only
    unfold driven StickReference.noted Regulator.steered
    rw [if_pos hany, if_pos hair, if_pos hair]

end Law

/-! ### All ticks -/

/-- After any calls, a tick fails exactly when its switches and its estimator do, and otherwise it
issues a command from what they have left behind.  While altitude is not held, that is the incoming
command.  While it is held, a multirotor gets a new throttle and a fixed wing a new pitch.  On a fixed
wing no call ever displaces the stick or makes the regulator follow it. -/
theorem tick_command {s : Settings} {h : HoldLoop} (hr : Reachable s h) (input : PilotInput)
    (r : Readings) (incoming : Command) :
    (∀ fault, h.tick input r incoming = .error fault ↔ h.prepare input r = .error fault) ∧
    (∀ p, h.prepare input r = .ok p →
      p.settings = s ∧ (∀ n ∈ p.intermediates input.stick incoming, IsWord n) ∧
      ∃ t, h.tick input r incoming = .ok t ∧
        (p.engagement.any = false → Idle h p incoming t) ∧
        (p.engagement.any = true → s.airframe = .multirotor →
          DrivesThrottle p input.stick incoming t) ∧
        (p.engagement.any = true → s.airframe = .fixedWing → DrivesPitch p incoming t)) ∧
    (s.airframe = .fixedWing →
      h.reference.displaced = false ∧ h.regulator.followsStick = false) := by
  obtain ⟨past, hreached⟩ := hr.reached
  have hb := hreached.bounded
  have hpulses := Settings.low_le_high_of_check hreached.check
  have hsettings := hreached.settings
  rw [← hsettings] at hpulses
  refine ⟨tick_error_iff_prepare hb hpulses incoming, fun p hp => ?_, fun hair => ?_⟩
  · obtain ⟨hsame, hbounded, out, hout⟩ := exists_issued_of_prepare hb hpulses hp incoming
    obtain ⟨estimate, calls, ht⟩ := tick_eq_prepare hb hp hout
    have hrange : p.settings.pulses.low ≤ p.settings.pulses.high := hsame ▸ hpulses
    rw [hsettings] at hsame
    refine ⟨hsame, isWord_intermediates hbounded _ _, _, ht, fun hidle => ?_,
      fun hany hair => ?_, fun hany hair => ?_⟩
    · have hunchanged : out = incoming := by
        unfold issued at hout
        rw [hidle, if_neg Bool.false_ne_true, Except.ok.injEq] at hout
        exact hout.symm
      rw [hunchanged]
      exact idle_of_prepare hb hp hidle
    · exact drivesThrottle_of_issued hbounded hrange hany (hsame ▸ hair) hout
    · exact drivesPitch_of_issued hbounded hany (hsame ▸ hair) hout
  · have hback := hreached.displaced_of_fixedWing hair
    refine ⟨hback, ?_⟩
    rw [hreached.followsStick_eq, hback]
    rfl

/-- Altitude is held at a stick of 1450. -/
def engageAt1450 : List Action :=
  [.sense 25000 { baro := some (.ready 250) }, .switch .baro true ⟨1450, 1500⟩]

/-- The barometer has sunk by half a metre, and the stick is far from its baseline. -/
def sunken : PilotInput × Readings :=
  (⟨60000, { baro := true }, ⟨1600, 1500⟩⟩, { baro := some (.ready 200) })

/-- One tick takes an estimate and finds the stick displaced.  On a multirotor the stick drives the
throttle, and the integral sum of the estimate is lost; a fixed wing only pitches up. -/
theorem tick_command_sunken :
    (∃ h p t, start {} = .ok { settings := {} } ∧
      performAll { settings := {} } engageAt1450 = .ok h ∧
      h.prepare sunken.1 sunken.2 = .ok p ∧ h.tick sunken.1 sunken.2 ⟨1700, 20⟩ = .ok t ∧
      p.StickDrives sunken.1.stick ∧ p.regulator.integral = 770 ∧ t.command = ⟨1660, 20⟩ ∧
      DrivesThrottle p sunken.1.stick ⟨1700, 20⟩ t) ∧
    ∃ h p t, start { airframe := .fixedWing } = .ok { settings := { airframe := .fixedWing } } ∧
      performAll { settings := { airframe := .fixedWing } } engageAt1450 = .ok h ∧
      h.prepare sunken.1 sunken.2 = .ok p ∧ h.tick sunken.1 sunken.2 ⟨1700, 20⟩ = .ok t ∧
      t.command = ⟨1700, 44⟩ ∧ DrivesPitch p ⟨1700, 20⟩ t ∧
      h.reference.displaced = false ∧ h.regulator.followsStick = false := by
  constructor
  · have hstart : start {} = .ok { settings := {} } := by decide +kernel
    have hrun : (do
        let h ← performAll { settings := {} } engageAt1450
        let p ← h.prepare sunken.1 sunken.2
        let t ← h.tick sunken.1 sunken.2 ⟨1700, 20⟩
        return (p.engagement.any, decide (p.StickDrives sunken.1.stick), p.regulator.integral,
          t.command)) = .ok (true, true, 770, ⟨1660, 20⟩) := by decide +kernel
    obtain ⟨h, ha, hrun⟩ := bind_eq_ok_iff.mp hrun
    obtain ⟨p, hp, hrun⟩ := bind_eq_ok_iff.mp hrun
    obtain ⟨t, ht, hrun⟩ := bind_eq_ok_iff.mp hrun
    simp only [pure_eq_ok, Except.ok.injEq, Prod.mk.injEq, decide_eq_true_eq] at hrun
    obtain ⟨hany, hdrives, hintegral, hcommand⟩ := hrun
    obtain ⟨-, -, t', ht', -, hthrottle, -⟩ :=
      (tick_command ⟨_, _, hstart, ha⟩ sunken.1 sunken.2 ⟨1700, 20⟩).2.1 p hp
    obtain rfl := Except.ok.inj (ht.symm.trans ht')
    exact ⟨h, p, t, hstart, ha, hp, ht, hdrives, hintegral, hcommand, hthrottle hany rfl⟩
  · have hstart : start { airframe := .fixedWing } =
        .ok { settings := { airframe := .fixedWing } } := by decide +kernel
    have hrun : (do
        let h ← performAll { settings := { airframe := .fixedWing } } engageAt1450
        let p ← h.prepare sunken.1 sunken.2
        let t ← h.tick sunken.1 sunken.2 ⟨1700, 20⟩
        return (p.engagement.any, t.command)) = .ok (true, ⟨1700, 44⟩) := by decide +kernel
    obtain ⟨h, ha, hrun⟩ := bind_eq_ok_iff.mp hrun
    obtain ⟨p, hp, hrun⟩ := bind_eq_ok_iff.mp hrun
    obtain ⟨t, ht, hrun⟩ := bind_eq_ok_iff.mp hrun
    simp only [pure_eq_ok, Except.ok.injEq, Prod.mk.injEq] at hrun
    obtain ⟨hany, hcommand⟩ := hrun
    obtain ⟨-, hlaw, hwing⟩ :=
      tick_command ⟨_, _, hstart, ha⟩ sunken.1 sunken.2 ⟨1700, 20⟩
    obtain ⟨-, -, t', ht', -, -, hpitch⟩ := hlaw p hp
    obtain rfl := Except.ok.inj (ht.symm.trans ht')
    exact ⟨h, p, t, hstart, ha, hp, ht, hcommand, hpitch hany rfl, hwing rfl⟩

end HoldLoop

end Autopilot
