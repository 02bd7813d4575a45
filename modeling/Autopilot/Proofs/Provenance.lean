import Autopilot.Proofs.Runs

/-!
# Where the setpoint and the baseline come from

The history of a loop is all there is to know of its switches, its stick baseline and its setpoint.
A switch is engaged when the last sample of it was on.  A `Mark` is a moment that rewrites the
setpoint: a rising edge, or a command that finds the stick back after it was displaced.  The
baseline is the throttle of the last rising edge, and the setpoint is the altitude of the last mark
(`performAll_provenance`).

The two switches share one setpoint and one baseline, but it does not matter in which order they are
sampled (`fed_comm`).
-/

namespace Autopilot

/-- The position of the switch of a source. -/
def Switches.position (switches : Switches) : Source → Bool
  | .baro => switches.baro
  | .ranger => switches.ranger

namespace HoldLoop

/-! ### History -/

/-- The sample of the switch of `source` that a stage takes. -/
def Stage.signal (source : Source) : Stage → Option Bool
  | .switch other on _ => if other = source then some on else none
  | _ => none

/-- The samples of the switch of `source` that calls take, the last one at the end. -/
def signals (source : Source) (actions : List Action) : List Bool :=
  (actions.flatMap Action.stages).filterMap (Stage.signal source)

/-- What rewrites the setpoint. -/
inductive Mark where
  /-- A rising edge, with the stick at this throttle and the vehicle at this altitude. -/
  | activated (throttle : Int16) (altitude : Int32)
  /-- The stick is back, with the vehicle at this altitude. -/
  | recaptured (altitude : Int32)
deriving DecidableEq, Repr

namespace Mark

/-- The altitude at a mark. -/
def altitude : Mark → Int32
  | activated _ altitude => altitude
  | recaptured altitude => altitude

/-- The throttle of the stick at a rising edge. -/
def throttle : Mark → Option Int16
  | activated throttle _ => some throttle
  | recaptured _ => none

end Mark

/-- A command finds the stick of a multirotor back inside the deadband while altitude is held. -/
def Recaptures (h : HoldLoop) (stick : Stick) : Prop :=
  h.engagement.any ∧ h.settings.airframe = .multirotor ∧
    ¬ h.reference.outside h.settings.stick stick ∧ h.reference.displaced

instance (h : HoldLoop) (stick : Stick) : Decidable (h.Recaptures stick) :=
  inferInstanceAs (Decidable (_ ∧ _ ∧ ¬ _ ∧ _))

/-- The mark that a moment leaves. -/
def Moment.mark : Moment → Option Mark
  | ⟨h, .switch source on stick⟩ =>
    if (h.switch source on stick).1 = .rising then some (.activated stick.throttle h.altitude)
    else none
  | ⟨_, .sense _ _⟩ => none
  | ⟨h, .drive stick _⟩ => if h.Recaptures stick then some (.recaptured h.altitude) else none

/-- The marks that calls leave, the last one at the end. -/
def marks (h : HoldLoop) (actions : List Action) : List Mark :=
  (h.trail (actions.flatMap Action.stages)).filterMap Moment.mark

/-- The last value in a history of which only some entries have one. -/
theorem getD_getLast?_filterMap_concat {α β : Type} (value : α → Option β) (past : List α) (a : α)
    (default : β) :
    ((past ++ [a]).filterMap value).getLast?.getD default =
      (value a).getD ((past.filterMap value).getLast?.getD default) := by
  rw [List.filterMap_append, List.getLast?_append]
  cases ha : value a <;> simp [ha]

/-! ### Switches -/

/-- Two switches are sampled at one moment, in either order. -/
theorem fed_comm (h : HoldLoop) (baro ranger : Bool) (stick : Stick) :
    (h.fed .baro baro stick).fed .ranger ranger stick =
      (h.fed .ranger ranger stick).fed .baro baro stick := by
  -- A second start at the same altitude and stick changes nothing.
  obtain ⟨s, f, r, ⟨b, n⟩, ref⟩ := h
  cases b <;> cases n <;> cases baro <;> cases ranger <;> rfl

/-- After a tick, a source is engaged when its switch is on and its sensor present. -/
theorem tick_holds {h : HoldLoop} (hb : h.regulator.Bounded) {input : PilotInput} {r : Readings}
    {incoming : Command} {t : Tick} (ht : h.tick input r incoming = .ok t) (source : Source) :
    t.loop.engagement.holds source = (input.switches.position source && r.has source) := by
  obtain ⟨u, -, -, ht'⟩ := exists_update_of_tick hb ht
  rw [congrArg Tick.loop ht', driven_engagement]
  change (h.armed input r).engagement.holds source = _
  rw [armed_engagement]
  cases source <;> rfl

theorem Reached.holds_eq {s : Settings} {past : List Moment} {h : HoldLoop}
    (hr : Reached s past h) (source : Source) :
    h.engagement.holds source =
      (past.filterMap fun moment => moment.stage.signal source).getLast?.getD false := by
  induction hr with
  | start => cases source <;> rfl
  | fed _ other on stick ih =>
    rw [getD_getLast?_filterMap_concat, fed_engagement, Engagement.holds_set, ih]
    by_cases hsource : other = source <;> simp [Stage.signal, hsource]
  | sensed _ now r _ ih => rw [getD_getLast?_filterMap_concat, sensed_engagement, ih]; rfl
  | driven _ stick incoming ih =>
    rw [getD_getLast?_filterMap_concat, driven_engagement, ih]
    rfl

/-! ### The baseline and the setpoint -/

section Marks

variable (h : HoldLoop) (source : Source) (on : Bool) (stick : Stick)

theorem fed_baseline :
    (h.fed source on stick).reference.baseline =
      if (h.switch source on stick).1 = .rising then stick.throttle else h.reference.baseline := by
  unfold fed
  rw [switch_eq]
  split_ifs <;> rfl

theorem fed_setpoint :
    (h.fed source on stick).regulator.setpoint =
      if (h.switch source on stick).1 = .rising then h.altitude else h.regulator.setpoint := by
  unfold fed
  rw [switch_eq]
  split_ifs <;> rfl

@[simp] theorem driven_baseline :
    (h.driven stick).reference.baseline = h.reference.baseline := by
  unfold driven StickReference.noted
  split_ifs <;> rfl

theorem driven_setpoint :
    (h.driven stick).regulator.setpoint =
      if h.Recaptures stick then h.altitude else h.regulator.setpoint := by
  unfold driven
  by_cases hany : h.engagement.any
  · rw [if_pos hany]
    dsimp only
    rw [Regulator.steered_setpoint]
    exact if_congr ⟨fun hback => ⟨hany, hback⟩, fun hback => hback.2⟩ rfl rfl
  · rw [if_neg hany, if_neg (fun hback : h.Recaptures stick => hany hback.1)]

variable {s : Settings} {past : List Moment} {h}

theorem Reached.baseline_eq (hr : Reached s past h) :
    h.reference.baseline =
      (past.filterMap fun moment => moment.mark.bind Mark.throttle).getLast?.getD 0 := by
  induction hr with
  | start => rfl
  | @fed past h _ source on stick ih =>
    rw [getD_getLast?_filterMap_concat, fed_baseline, ← ih]
    by_cases hedge : (h.switch source on stick).1 = .rising <;>
      simp [Moment.mark, Mark.throttle, hedge]
  | sensed _ now r _ ih => rw [getD_getLast?_filterMap_concat, sensed_reference, ih]; rfl
  | @driven past h _ stick incoming ih =>
    rw [getD_getLast?_filterMap_concat, driven_baseline, ← ih]
    by_cases hback : h.Recaptures stick <;> simp [Moment.mark, Mark.throttle, hback]

theorem Reached.setpoint_eq (hr : Reached s past h) :
    h.regulator.setpoint =
      (past.filterMap fun moment => moment.mark.map Mark.altitude).getLast?.getD 0 := by
  induction hr with
  | start => rfl
  | @fed past h _ source on stick ih =>
    rw [getD_getLast?_filterMap_concat, fed_setpoint, ← ih]
    by_cases hedge : (h.switch source on stick).1 = .rising <;>
      simp [Moment.mark, Mark.altitude, hedge]
  | sensed _ now r _ ih => rw [getD_getLast?_filterMap_concat, sensed_setpoint, ih]; rfl
  | @driven past h _ stick incoming ih =>
    rw [getD_getLast?_filterMap_concat, driven_setpoint, ← ih]
    by_cases hback : h.Recaptures stick <;> simp [Moment.mark, Mark.altitude, hback]

end Marks

/-! ### The history of a run -/

/-- The trail of a run that succeeds goes through all of its stages. -/
theorem filterMap_trail {β : Type} (value : Stage → Option β) {h h' : HoldLoop}
    {stages : List Stage} (hrun : h.advanceAll stages = .ok h') :
    ((h.trail stages).filterMap fun moment => value moment.stage) = stages.filterMap value := by
  induction stages generalizing h with
  | nil => rfl
  | cons stage rest ih =>
    obtain ⟨mid, hstep, hrest⟩ := bind_eq_ok_iff.mp hrun
    rw [trail, hstep, List.filterMap_cons, List.filterMap_cons, ih hrest]

/-- After any calls: a switch rises when it is on and its last sample was not; a tick engages the
sources whose switch is on and whose sensor is present; the baseline is the throttle at the last
rising edge and the setpoint the altitude at the last mark; and the order in which the two switches
are sampled does not matter. -/
theorem performAll_provenance {s : Settings} {h₀ h : HoldLoop} {actions : List Action}
    (hs : start s = .ok h₀) (ha : h₀.performAll actions = .ok h) :
    (∀ source on stick, (h.switch source on stick).1 = .rising ↔
      on = true ∧ (signals source actions).getLast? ≠ some true) ∧
    (∀ input r incoming t source, h.tick input r incoming = .ok t →
      t.loop.engagement.holds source = (input.switches.position source && r.has source)) ∧
    h.reference.baseline = ((h₀.marks actions).filterMap Mark.throttle).getLast?.getD 0 ∧
    h.regulator.setpoint = ((h₀.marks actions).map Mark.altitude).getLast?.getD 0 ∧
    (∀ baro ranger stick,
      ((h.switch .baro baro stick).2.switch .ranger ranger stick).2 =
        ((h.switch .ranger ranger stick).2.switch .baro baro stick).2) := by
  have hr := reached_performAll hs ha
  refine ⟨fun source on stick => ?_, fun input r incoming t source ht => ?_, ?_, ?_,
    fun baro ranger stick => ?_⟩
  · have hrun := (performAll_eq h₀ actions).symm.trans ha
    rw [switch_eq, Edge.of_eq_rising_iff, hr.holds_eq source,
      filterMap_trail (Stage.signal source) hrun, signals]
    cases ((actions.flatMap Action.stages).filterMap (Stage.signal source)).getLast? <;> simp
  · exact tick_holds hr.bounded ht source
  · rw [hr.baseline_eq, marks, List.filterMap_filterMap]
  · rw [hr.setpoint_eq, marks, List.map_filterMap]
  · rw [switch_eq, switch_eq, switch_eq, switch_eq]
    exact h.fed_comm baro ranger stick

/-- The run in which the stick leaves the deadband and comes back while the vehicle climbs. -/
def climbAndHold : List Action :=
  [.sense 25000 { baro := some (.ready 250) },
    .tick ⟨30000, { baro := true }, ⟨1450, 1500⟩⟩ { baro := some (.ready 250) } ⟨1450, 0⟩,
    .drive ⟨1600, 1500⟩ ⟨1500, 0⟩,
    .sense 60000 { baro := some (.ready 300) },
    .drive ⟨1440, 1500⟩ ⟨1500, 0⟩]

/-- The hold goes on at the altitude that was reached, around the old baseline. -/
theorem performAll_provenance_climbAndHold :
    ∃ h, start {} = .ok { settings := {} } ∧ performAll { settings := {} } climbAndHold = .ok h ∧
      marks { settings := {} } climbAndHold = [.activated 1450 250, .recaptured 300] ∧
      h.reference.baseline = 1450 ∧ h.regulator.setpoint = 300 ∧
      (∀ stick, (h.switch .baro true stick).1 ≠ .rising) ∧
      (∀ stick, (h.switch .ranger true stick).1 = .rising) := by
  have hstart : start {} = .ok { settings := {} } := by decide +kernel
  have hmarks : marks { settings := {} } climbAndHold =
      [.activated 1450 250, .recaptured 300] := by decide +kernel
  have hends : (performAll { settings := {} } climbAndHold).isOk = true := by decide +kernel
  cases hloop : performAll { settings := {} } climbAndHold with
  | error fault => rw [hloop] at hends; cases hends
  | ok h =>
    obtain ⟨hedge, -, hbase, hset, -⟩ := performAll_provenance hstart hloop
    rw [hmarks] at hbase hset
    refine ⟨h, hstart, rfl, hmarks, hbase, hset, fun stick hrising => ?_, fun stick => ?_⟩
    · exact ((hedge .baro true stick).mp hrising).2 (by decide)
    · exact (hedge .ranger true stick).mpr (by decide)

end HoldLoop

end Autopilot
