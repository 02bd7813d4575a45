import Autopilot.HoldLoop
import Autopilot.Proofs.Command

/-!
# The stages of the hold loop

Each of the three stages of the loop has a part that always succeeds: what it makes of the loop.
`HoldLoop.fed` is the loop after a sample of a switch, `HoldLoop.sensed` the loop after a call of
the estimator with a given result, and `HoldLoop.driven` the loop after a command.  `switch_eq`,
`sense_eq` and `drive_eq` say that the stages do just this, and leave to the estimator and to the
issued command whether there is a result; `tick_eq_of_bounded` puts them in a row.
-/

namespace Autopilot

/-! ### Switches -/

/-- The edge rises when the sample is on and the last one was not. -/
theorem Edge.of_eq_rising_iff {before on : Bool} :
    Edge.of before on = .rising ↔ on = true ∧ before = false := by
  cases before <;> cases on <;> decide

theorem Engagement.holds_set (e : Engagement) (source other : Source) (on : Bool) :
    (e.set source on).holds other = if source = other then on else e.holds other := by
  cases source <;> cases other <;> rfl

namespace HoldLoop

/-- The loop after one sample of a switch. -/
def fed (h : HoldLoop) (source : Source) (on : Bool) (stick : Stick) : HoldLoop :=
  if Edge.of (h.engagement.holds source) on = .rising then
    { h with
      engagement := h.engagement.set source on
      regulator := h.regulator.restart h.altitude
      reference := h.reference.restart stick.throttle }
  else
    { h with engagement := h.engagement.set source on }

theorem switch_eq (h : HoldLoop) (source : Source) (on : Bool) (stick : Stick) :
    h.switch source on stick =
      (Edge.of (h.engagement.holds source) on, h.fed source on stick) := by
  unfold switch fed Engagement.feed
  cases Edge.of (h.engagement.holds source) on <;> rfl

section Fed

variable (h : HoldLoop) (source : Source) (on : Bool) (stick : Stick)

@[simp] theorem fed_settings : (h.fed source on stick).settings = h.settings := by
  unfold fed
  split_ifs <;> rfl

@[simp] theorem fed_fusion : (h.fed source on stick).fusion = h.fusion := by
  unfold fed
  split_ifs <;> rfl

@[simp] theorem fed_engagement :
    (h.fed source on stick).engagement = h.engagement.set source on := by
  unfold fed
  split_ifs <;> rfl

@[simp] theorem fed_displaced :
    (h.fed source on stick).reference.displaced = h.reference.displaced := by
  unfold fed
  split_ifs <;> rfl

@[simp] theorem fed_followsStick :
    (h.fed source on stick).regulator.followsStick = h.regulator.followsStick := by
  unfold fed
  split_ifs <;> rfl

end Fed

/-- A switch that is off disengages its source and does nothing else. -/
theorem fed_false (h : HoldLoop) (source : Source) (stick : Stick) :
    h.fed source false stick = { h with engagement := h.engagement.set source false } := by
  unfold fed
  rw [if_neg]
  intro hedge
  exact absurd (Edge.of_eq_rising_iff.mp hedge).1 Bool.false_ne_true

theorem bounded_fed {h : HoldLoop} (hb : h.regulator.Bounded) (source : Source) (on : Bool)
    (stick : Stick) : (h.fed source on stick).regulator.Bounded := by
  unfold fed
  split_ifs
  · exact .restart _ _
  · exact hb

/-! ### The estimator -/

/-- The loop after a call of the estimator. -/
def sensed (h : HoldLoop) (r : Readings) (u : Fusion.Update) : HoldLoop :=
  { h with
    fusion := u.fusion
    regulator := match u.estimate with
      | .fresh sample =>
        h.regulator.answered h.settings.gains u.fusion.altitude sample r.attitude
      | _ => h.regulator }

@[simp] theorem sensed_engagement (h : HoldLoop) (r : Readings) (u : Fusion.Update) :
    (h.sensed r u).engagement = h.engagement := rfl

@[simp] theorem sensed_reference (h : HoldLoop) (r : Readings) (u : Fusion.Update) :
    (h.sensed r u).reference = h.reference := rfl

/-- The regulator has a new integral sum and a new correction at most. -/
theorem sensed_regulator (h : HoldLoop) (r : Readings) (u : Fusion.Update) :
    ∃ integral correction, (h.sensed r u).regulator = { h.regulator with integral, correction } := by
  unfold sensed Regulator.answered
  dsimp only
  split
  · split_ifs
    · exact ⟨_, _, rfl⟩
    · exact ⟨_, _, rfl⟩
  · exact ⟨_, _, rfl⟩

@[simp] theorem sensed_followsStick (h : HoldLoop) (r : Readings) (u : Fusion.Update) :
    (h.sensed r u).regulator.followsStick = h.regulator.followsStick := by
  obtain ⟨integral, correction, hreg⟩ := h.sensed_regulator r u
  rw [hreg]

@[simp] theorem sensed_stickClimb (h : HoldLoop) (r : Readings) (u : Fusion.Update) :
    (h.sensed r u).regulator.stickClimb = h.regulator.stickClimb := by
  obtain ⟨integral, correction, hreg⟩ := h.sensed_regulator r u
  rw [hreg]

@[simp] theorem sensed_setpoint (h : HoldLoop) (r : Readings) (u : Fusion.Update) :
    (h.sensed r u).regulator.setpoint = h.regulator.setpoint := by
  obtain ⟨integral, correction, hreg⟩ := h.sensed_regulator r u
  rw [hreg]

/-- While the regulator is bounded, only the estimator decides whether there is a result. -/
theorem sense_eq {h : HoldLoop} (hb : h.regulator.Bounded) (now : UInt32) (r : Readings) :
    h.sense now r =
      (fun u => (u.estimate, u.calls, h.sensed r u)) <$> h.fusion.update h.settings now r := by
  unfold sense
  cases h.fusion.update h.settings now r with
  | error fault => rfl
  | ok u =>
    obtain ⟨estimate, fusion, calls⟩ := u
    cases estimate with
    | fresh sample =>
      rw [ok_bind, map_ok]
      dsimp only [altitude, sensed]
      rw [Regulator.respond_eq _ _ _ _ hb.integral, ok_bind, pure_eq_ok]
    | early => rfl
    | calibrating => rfl

theorem bounded_sensed {h : HoldLoop} (hb : h.regulator.Bounded) (r : Readings)
    (u : Fusion.Update) : (h.sensed r u).regulator.Bounded := by
  unfold sensed
  dsimp only
  split
  · exact hb.answered _ _ _ _
  · exact hb

/-! ### Commands -/

/-- The loop after a command. -/
def driven (h : HoldLoop) (stick : Stick) : HoldLoop :=
  if h.engagement.any then
    { h with
      reference := h.reference.noted h.settings stick
      regulator := h.regulator.steered h.settings h.reference h.altitude stick }
  else h

/-- The command that the loop issues: the incoming one unless altitude is held. -/
def issued (h : HoldLoop) (stick : Stick) (incoming : Command) : Except Fault Command :=
  if h.engagement.any then outgoing h.settings h.reference h.regulator stick incoming
  else .ok incoming

theorem issued_eq_ok {h : HoldLoop} (hb : h.regulator.Bounded)
    (hp : h.settings.pulses.low ≤ h.settings.pulses.high) (stick : Stick) (incoming : Command) :
    ∃ out, h.issued stick incoming = .ok out := by
  unfold issued
  split_ifs
  · exact outgoing_eq_ok hb hp stick incoming
  · exact ⟨incoming, rfl⟩

theorem drive_eq (h : HoldLoop) (stick : Stick) (incoming : Command) :
    h.drive stick incoming = (fun out => (out, h.driven stick)) <$> h.issued stick incoming := by
  unfold drive driven issued
  split_ifs
  · rw [command_eq]
    cases outgoing h.settings h.reference h.regulator stick incoming <;> rfl
  · rfl

section Driven

variable (h : HoldLoop) (stick : Stick)

@[simp] theorem driven_settings : (h.driven stick).settings = h.settings := by
  unfold driven
  split_ifs <;> rfl

@[simp] theorem driven_fusion : (h.driven stick).fusion = h.fusion := by
  unfold driven
  split_ifs <;> rfl

@[simp] theorem driven_engagement : (h.driven stick).engagement = h.engagement := by
  unfold driven
  split_ifs <;> rfl

end Driven

theorem bounded_driven {h : HoldLoop} (hb : h.regulator.Bounded) (stick : Stick) :
    (h.driven stick).regulator.Bounded := by
  unfold driven
  split_ifs
  · exact hb.steered _ _ _ _
  · exact hb

/-! ### Ticks -/

/-- The loop after the switches of a tick.  A switch counts only while its sensor is present. -/
def armed (h : HoldLoop) (input : PilotInput) (r : Readings) : HoldLoop :=
  (h.fed .baro (input.switches.baro && r.has .baro) input.stick).fed .ranger
    (input.switches.ranger && r.has .ranger) input.stick

@[simp] theorem armed_settings (h : HoldLoop) (input : PilotInput) (r : Readings) :
    (h.armed input r).settings = h.settings := by
  unfold armed
  rw [fed_settings, fed_settings]

@[simp] theorem armed_fusion (h : HoldLoop) (input : PilotInput) (r : Readings) :
    (h.armed input r).fusion = h.fusion := by
  unfold armed
  rw [fed_fusion, fed_fusion]

@[simp] theorem armed_engagement (h : HoldLoop) (input : PilotInput) (r : Readings) :
    (h.armed input r).engagement =
      ⟨input.switches.baro && r.has .baro, input.switches.ranger && r.has .ranger⟩ := by
  unfold armed
  rw [fed_engagement, fed_engagement]
  rfl

theorem bounded_armed {h : HoldLoop} (hb : h.regulator.Bounded) (input : PilotInput)
    (r : Readings) : (h.armed input r).regulator.Bounded :=
  bounded_fed (bounded_fed hb _ _ _) _ _ _

theorem tick_eq (h : HoldLoop) (input : PilotInput) (r : Readings) (incoming : Command) :
    h.tick input r incoming = (do
      let (estimate, calls, sensed) ← (h.armed input r).sense input.now r
      let (command, loop) ← sensed.drive input.stick incoming
      return { estimate, calls, command, loop }) := by
  unfold tick armed
  rw [switch_eq]
  dsimp only
  rw [switch_eq]

/-- The loop before the command of a tick. -/
def poised (h : HoldLoop) (input : PilotInput) (r : Readings) (u : Fusion.Update) : HoldLoop :=
  (h.armed input r).sensed r u

@[simp] theorem poised_settings (h : HoldLoop) (input : PilotInput) (r : Readings)
    (u : Fusion.Update) : (h.poised input r u).settings = h.settings :=
  h.armed_settings input r

theorem bounded_poised {h : HoldLoop} (hb : h.regulator.Bounded) (input : PilotInput)
    (r : Readings) (u : Fusion.Update) : (h.poised input r u).regulator.Bounded :=
  bounded_sensed (bounded_armed hb input r) r u

/-- While the regulator is bounded, a tick needs a result of the estimator and a command to issue,
and nothing else. -/
theorem tick_eq_of_bounded {h : HoldLoop} (hb : h.regulator.Bounded) (input : PilotInput)
    (r : Readings) (incoming : Command) :
    h.tick input r incoming = (do
      let u ← h.fusion.update h.settings input.now r
      let command ← (h.poised input r u).issued input.stick incoming
      return ⟨u.estimate, u.calls, command, (h.poised input r u).driven input.stick⟩) := by
  rw [tick_eq, sense_eq (bounded_armed hb input r), armed_fusion, armed_settings, bind_map_left]
  simp only [drive_eq, bind_map_left]
  rfl

/-- A tick that succeeds has an update of the estimator, a command and a loop behind both. -/
theorem exists_update_of_tick {h : HoldLoop} (hb : h.regulator.Bounded) {input : PilotInput}
    {r : Readings} {incoming : Command} {t : Tick} (ht : h.tick input r incoming = .ok t) :
    ∃ u, h.fusion.update h.settings input.now r = .ok u ∧
      (h.poised input r u).issued input.stick incoming = .ok t.command ∧
      t = ⟨u.estimate, u.calls, t.command, (h.poised input r u).driven input.stick⟩ := by
  rw [tick_eq_of_bounded hb] at ht
  obtain ⟨u, hu, hrest⟩ := bind_eq_ok_iff.mp ht
  obtain ⟨out, hout, hok⟩ := bind_eq_ok_iff.mp hrest
  obtain rfl := Except.ok.inj hok
  exact ⟨u, hu, hout, rfl⟩

theorem bounded_of_tick {h : HoldLoop} (hb : h.regulator.Bounded) {input : PilotInput}
    {r : Readings} {incoming : Command} {t : Tick} (ht : h.tick input r incoming = .ok t) :
    t.loop.regulator.Bounded := by
  obtain ⟨u, -, -, ht'⟩ := exists_update_of_tick hb ht
  rw [congrArg Tick.loop ht']
  exact bounded_driven (bounded_poised hb input r u) input.stick

end HoldLoop

end Autopilot
