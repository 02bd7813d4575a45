import Autopilot.Proofs.Provenance
import Autopilot.Proofs.TickCommand

/-!
# While the vehicle is tilted

An estimate that is taken while thrust does not point down (`Attitude.Tilted`) leaves no correction
and does not touch the integral sum.  What else rewrites the two between estimates only empties them:
a rising edge empties both, and a stick that drives the throttle itself empties the integral sum.

So from a tilted estimate to the next level one, whatever else is called in between, the correction
is zero and a held throttle is the baseline (`HoldLoop.calm_of_tilted`).  A run is looked at as the
list of its calls, each with the loop that it finds and the loop that it leaves
(`HoldLoop.Call`, `HoldLoop.calls`).
-/

namespace Autopilot

/-! ### Attitudes -/

/-- Roll or pitch is at the tilt limit or beyond it. -/
def Attitude.Tilted (a : Attitude) : Prop :=
  800 ≤ a.roll.toInt.natAbs ∨ 800 ≤ a.pitch.toInt.natAbs

/-- Both roll and pitch are below the tilt limit. -/
def Attitude.Level (a : Attitude) : Prop :=
  a.roll.toInt.natAbs < 800 ∧ a.pitch.toInt.natAbs < 800

theorem Attitude.thrustPointsDown_iff {a : Attitude} : a.thrustPointsDown = true ↔ a.Level := by
  unfold thrustPointsDown Level
  rw [Bool.and_eq_true, decide_eq_true_iff, decide_eq_true_iff]
  rfl

instance : DecidablePred Attitude.Tilted := fun _ => inferInstanceAs (Decidable (_ ∨ _))

instance : DecidablePred Attitude.Level := fun _ => inferInstanceAs (Decidable (_ ∧ _))

theorem Attitude.not_level_iff {a : Attitude} : ¬ a.Level ↔ a.Tilted := by
  unfold Level Tilted
  omega

/-! ### Engagements and estimates -/

/-- A new estimate was taken. -/
def Estimate.isFresh : Estimate → Bool
  | fresh _ => true
  | _ => false

/-- A source is engaged that was not. -/
def Engagement.Gains (before after : Engagement) : Prop :=
  ∃ source, before.holds source = false ∧ after.holds source = true

theorem Engagement.gains_iff {before after : Engagement} :
    before.Gains after ↔
      before.baro = false ∧ after.baro = true ∨ before.ranger = false ∧ after.ranger = true := by
  constructor
  · rintro ⟨source, hgains⟩
    cases source with
    | baro => exact .inl hgains
    | ranger => exact .inr hgains
  · rintro (hgains | hgains)
    · exact ⟨.baro, hgains⟩
    · exact ⟨.ranger, hgains⟩

instance (before after : Engagement) : Decidable (before.Gains after) :=
  decidable_of_iff _ Engagement.gains_iff.symm

@[simp] theorem Engagement.not_gains_self (e : Engagement) : ¬ e.Gains e := by
  rintro ⟨source, hoff, hon⟩
  exact absurd (hoff.symm.trans hon) Bool.false_ne_true

namespace HoldLoop

/-! ### The calls of a run -/

/-- One call of a run. -/
structure Call where
  /-- The loop that the call finds. -/
  before : HoldLoop
  action : Action
  answer : Answer
  /-- The loop that the call leaves. -/
  after : HoldLoop
deriving DecidableEq, Repr

/-- The calls of a run, up to the first fault. -/
def calls (h : HoldLoop) : List Action → List Call
  | [] => []
  | action :: rest =>
    match h.perform action with
    | .ok (answer, next) => ⟨h, action, answer, next⟩ :: next.calls rest
    | .error _ => []

/-- The attitude that comes with a call of the estimator. -/
def Action.attitude : Action → Option Attitude
  | .tick _ r _ => some r.attitude
  | .sense _ r => some r.attitude
  | _ => none

/-- The stick that comes with a call for a command. -/
def Action.stick : Action → Option Stick
  | .tick input _ _ => some input.stick
  | .drive stick _ => some stick
  | _ => none

namespace Call

/-- The call takes an estimate, at an attitude with the property `p`. -/
def Estimates (c : Call) (p : Attitude → Prop) : Prop :=
  (∃ estimate ∈ c.answer.estimate, estimate.isFresh) ∧ ∃ attitude ∈ c.action.attitude, p attitude

instance (c : Call) (p : Attitude → Prop) [DecidablePred p] : Decidable (c.Estimates p) :=
  inferInstanceAs (Decidable (_ ∧ _))

/-- The call engages a source. -/
def Engages (c : Call) : Prop :=
  c.before.engagement.Gains c.after.engagement

/-- The call asks for a command, and the stick drives the throttle itself. -/
def Overrides (c : Call) : Prop :=
  ∃ stick ∈ c.action.stick, c.after.Overrides stick

/-- The call leaves no correction.  The integral sum is as before, or empty after a new start and
after a stick that drives the throttle itself.  A held throttle is the baseline, inside the range of
pulses. -/
structure Calm (c : Call) : Prop where
  correction : c.after.regulator.correction = 0
  emptied : c.Engages ∨ c.Overrides → c.after.regulator.integral = 0
  kept : ¬ c.Engages → ¬ c.Overrides → c.after.regulator.integral = c.before.regulator.integral
  throttle : ∀ out, c.answer.command = some out → c.after.engagement.any = true →
    c.after.settings.airframe = .multirotor → ¬ c.Overrides →
    out.throttle.toInt = max c.after.settings.pulses.low.toInt
      (min c.after.reference.baseline.toInt c.after.settings.pulses.high.toInt)

end Call

/-! ### The integral sum and the correction, stage by stage -/

section Stages

variable (h : HoldLoop) (source : Source) (on : Bool) (stick : Stick) (r : Readings)
  (u : Fusion.Update)

theorem fed_integral :
    (h.fed source on stick).regulator.integral =
      if h.engagement.Gains (h.fed source on stick).engagement then 0
      else h.regulator.integral := by
  rw [fed_engagement]
  obtain ⟨s, f, rg, ⟨b, n⟩, ref⟩ := h
  cases source <;> cases on <;> cases b <;> cases n <;> rfl

theorem armed_integral (input : PilotInput) :
    (h.armed input r).regulator.integral =
      if h.engagement.Gains (h.armed input r).engagement then 0 else h.regulator.integral := by
  rw [armed_engagement]
  unfold armed
  rw [fed_integral, fed_integral, fed_engagement, fed_engagement]
  generalize (input.switches.baro && r.has .baro) = baro
  generalize (input.switches.ranger && r.has .ranger) = ranger
  obtain ⟨s, f, rg, ⟨b, n⟩, ref⟩ := h
  cases b <;> cases n <;> cases baro <;> cases ranger <;> rfl

variable {h r u}

theorem fed_correction (hzero : h.regulator.correction = 0) :
    (h.fed source on stick).regulator.correction = 0 := by
  unfold fed
  split_ifs
  · rfl
  · exact hzero

theorem armed_correction (hzero : h.regulator.correction = 0) (input : PilotInput) :
    (h.armed input r).regulator.correction = 0 :=
  fed_correction _ _ _ (fed_correction _ _ _ hzero)

/-- An estimate takes the correction away while the vehicle is tilted, and a call of the estimator
that takes none leaves the regulator alone. -/
theorem sensed_of_tilted (htilt : u.estimate.isFresh → r.attitude.Tilted) :
    (h.sensed r u).regulator.integral = h.regulator.integral ∧
      (h.regulator.correction = 0 ∨ u.estimate.isFresh →
        (h.sensed r u).regulator.correction = 0) := by
  obtain ⟨estimate, fusion, calls⟩ := u
  unfold sensed Regulator.answered
  cases estimate with
  | fresh sample =>
    have hdown : ¬ r.attitude.thrustPointsDown = true := fun hlevel =>
      Attitude.not_level_iff.mpr (htilt rfl) (Attitude.thrustPointsDown_iff.mp hlevel)
    dsimp only
    rw [if_neg hdown]
    exact ⟨rfl, fun _ => rfl⟩
  | early => exact ⟨rfl, fun hzero => hzero.resolve_right Bool.false_ne_true⟩
  | calibrating => exact ⟨rfl, fun hzero => hzero.resolve_right Bool.false_ne_true⟩

variable (h)

@[simp] theorem driven_correction :
    (h.driven stick).regulator.correction = h.regulator.correction := by
  unfold driven
  split_ifs
  · exact Regulator.steered_correction _ _ _ _ _
  · rfl

/-- Whether the stick overrides is not changed by the command that finds it so. -/
@[simp] theorem overrides_driven : (h.driven stick).Overrides stick ↔ h.Overrides stick := by
  unfold Overrides StickDrives
  rw [driven_engagement, driven_settings, driven_baseline]

end Stages

/-! ### One call -/

namespace Call

variable {c : Call}

/-- A call that ends with a command is calm if the loop before the command is. -/
theorem calm_of_driven {p : HoldLoop} {stick : Stick} {incoming out : Command}
    (hb : p.regulator.Bounded) (hpulses : p.settings.pulses.low ≤ p.settings.pulses.high)
    (hstick : c.action.stick = some stick) (hafter : c.after = p.driven stick)
    (hcommand : c.answer.command = some out) (hout : p.issued stick incoming = .ok out)
    (hzero : p.regulator.correction = 0) (hemptied : c.Engages → p.regulator.integral = 0)
    (hkept : ¬ c.Engages → p.regulator.integral = c.before.regulator.integral) : c.Calm := by
  have hover : c.Overrides ↔ p.Overrides stick := by
    unfold Overrides
    rw [hstick, hafter]
    simp only [Option.mem_some_iff, exists_eq_left', overrides_driven]
  refine ⟨?_, fun hcase => ?_, fun hengages hfree => ?_, fun out' hout' hany hair hfree => ?_⟩
  · rw [hafter, driven_correction, hzero]
  · rw [hafter, driven_integral]
    split_ifs with hdrives
    · rfl
    · exact hemptied (hcase.resolve_right (mt hover.mp hdrives))
  · rw [hafter, driven_integral, if_neg (mt hover.mpr hfree), hkept hengages]
  · rw [hafter, driven_engagement] at hany
    rw [hafter, driven_settings] at hair
    have hdrives : ¬ p.StickDrives stick := fun hdrives =>
      hfree (hover.mpr ⟨hany, hair, hdrives⟩)
    rw [issued_held hb hpulses hany hair hdrives, Except.ok.injEq] at hout
    obtain rfl := Option.some.inj (hcommand.symm.trans hout')
    rw [← hout, hafter, driven_settings, driven_baseline, hzero]
    exact (toInt_ofInt_clamp _ _ _ hpulses).trans (by rw [Int32.toInt_zero, Int.add_zero])

/-- Whatever the call, it is calm if it takes no level estimate, and the correction was zero or is
taken away by a tilted estimate. -/
theorem calm_of_perform (hb : c.before.regulator.Bounded)
    (hpulses : c.before.settings.pulses.low ≤ c.before.settings.pulses.high)
    (hcall : c.before.perform c.action = .ok (c.answer, c.after))
    (hzero : c.before.regulator.correction = 0 ∨ c.Estimates Attitude.Tilted)
    (hlevel : ¬ c.Estimates Attitude.Level) : c.Calm := by
  obtain ⟨h, action, answer, after⟩ := c
  dsimp only at hb hpulses hcall hzero
  cases action with
  | tick input r incoming =>
    obtain ⟨t, ht, hok⟩ := bind_eq_ok_iff.mp hcall
    obtain ⟨rfl, rfl⟩ := Prod.mk.inj (Except.ok.inj hok)
    obtain ⟨u, -, hout, hloop⟩ := exists_update_of_tick hb ht
    have hestimate : t.estimate = u.estimate := congrArg Tick.estimate hloop
    have hafter : t.loop = (h.poised input r u).driven input.stick := congrArg Tick.loop hloop
    have htilt : u.estimate.isFresh → r.attitude.Tilted := fun hfresh =>
      Attitude.not_level_iff.mp fun hdown =>
        hlevel ⟨⟨_, rfl, hestimate ▸ hfresh⟩, _, rfl, hdown⟩
    obtain ⟨hintegral, hcorrection⟩ := sensed_of_tilted (h := h.armed input r) htilt
    have hgains : h.engagement.Gains (h.armed input r).engagement ↔
        h.engagement.Gains t.loop.engagement := by
      rw [hafter, driven_engagement]
      rfl
    rw [armed_integral, if_congr hgains rfl rfl] at hintegral
    refine calm_of_driven (bounded_poised hb input r u) (by rwa [poised_settings]) rfl hafter rfl
      hout (hcorrection ?_) (fun hcase => hintegral.trans (if_pos hcase))
      (fun hcase => hintegral.trans (if_neg hcase))
    rcases hzero with hzero | ⟨⟨estimate, hsome, hfresh⟩, -⟩
    · exact .inl (armed_correction hzero input)
    · obtain rfl := Option.some.inj hsome
      exact .inr (hestimate ▸ hfresh)
  | switch source on stick =>
    change Except.ok (({ edge := some _ } : Answer), (h.switch source on stick).2) = _ at hcall
    rw [switch_eq] at hcall
    obtain ⟨rfl, rfl⟩ := Prod.mk.inj (Except.ok.inj hcall)
    have hcorr : h.regulator.correction = 0 :=
      hzero.resolve_right fun ⟨⟨_, hnone, _⟩, _⟩ => by cases hnone
    have hintegral := h.fed_integral source on stick
    refine ⟨fed_correction _ _ _ hcorr, fun hcase => ?_, fun hcase _ => ?_, fun _ hnone => ?_⟩
    · rcases hcase with hgains | ⟨_, hnone, _⟩
      · exact hintegral.trans (if_pos hgains)
      · cases hnone
    · exact hintegral.trans (if_neg hcase)
    · cases hnone
  | sense now r =>
    obtain ⟨⟨estimate, calls, loop⟩, hsense, hok⟩ := bind_eq_ok_iff.mp hcall
    obtain ⟨rfl, rfl⟩ := Prod.mk.inj (Except.ok.inj hok)
    rw [sense_eq hb] at hsense
    obtain ⟨u, -, hu⟩ := map_eq_ok_iff.mp hsense
    obtain ⟨rfl, rfl, rfl⟩ : u.estimate = estimate ∧ u.calls = calls ∧ h.sensed r u = loop := by
      simpa using hu
    have htilt : u.estimate.isFresh → r.attitude.Tilted := fun hfresh =>
      Attitude.not_level_iff.mp fun hdown => hlevel ⟨⟨_, rfl, hfresh⟩, _, rfl, hdown⟩
    obtain ⟨hintegral, hcorrection⟩ := sensed_of_tilted (h := h) htilt
    refine ⟨hcorrection ?_, fun hcase => ?_, fun _ _ => hintegral, fun _ hnone => ?_⟩
    · rcases hzero with hzero | ⟨⟨estimate, hsome, hfresh⟩, -⟩
      · exact .inl hzero
      · obtain rfl := Option.some.inj hsome
        exact .inr hfresh
    · rcases hcase with hgains | ⟨_, hnone, _⟩
      · exact absurd hgains (Engagement.not_gains_self _)
      · cases hnone
    · cases hnone
  | drive stick incoming =>
    obtain ⟨⟨out, loop⟩, hdrive, hok⟩ := bind_eq_ok_iff.mp hcall
    obtain ⟨rfl, rfl⟩ := Prod.mk.inj (Except.ok.inj hok)
    rw [drive_eq] at hdrive
    obtain ⟨out', hout, hpair⟩ := map_eq_ok_iff.mp hdrive
    obtain ⟨rfl, rfl⟩ := Prod.mk.inj hpair
    have hcorr : h.regulator.correction = 0 :=
      hzero.resolve_right fun ⟨⟨_, hnone, _⟩, _⟩ => by cases hnone
    refine calm_of_driven hb hpulses rfl rfl rfl hout hcorr (fun hgains => ?_) (fun _ => rfl)
    unfold Engages at hgains
    rw [driven_engagement] at hgains
    exact absurd hgains (Engagement.not_gains_self _)

theorem not_estimates_level (htilt : c.Estimates Attitude.Tilted) :
    ¬ c.Estimates Attitude.Level := by
  obtain ⟨-, attitude, hattitude, htilt⟩ := htilt
  rintro ⟨-, attitude', hattitude', hlevel⟩
  obtain rfl := Option.mem_unique hattitude hattitude'
  exact Attitude.not_level_iff.mpr htilt hlevel

end Call

/-! ### Runs -/

section Runs

variable {s : Settings} {past : List Moment} {h : HoldLoop} {actions : List Action} {c : Call}
  {rest later : List Call}

theorem exists_perform_of_calls (hrun : h.calls actions = c :: rest) :
    ∃ others, c.before = h ∧ h.perform c.action = .ok (c.answer, c.after) ∧
      c.after.calls others = rest := by
  cases actions with
  | nil => cases hrun
  | cons action others =>
    unfold calls at hrun
    cases hcall : h.perform action with
    | error fault => rw [hcall] at hrun; cases hrun
    | ok result =>
      rw [hcall] at hrun
      obtain ⟨rfl, rfl⟩ := List.cons.inj hrun
      exact ⟨others, rfl, hcall, rfl⟩

/-- A reached loop makes its next call calm under the conditions of `Call.calm_of_perform`. -/
theorem Reached.calm (hr : Reached s past h) (hbefore : c.before = h)
    (hcall : h.perform c.action = .ok (c.answer, c.after))
    (hzero : h.regulator.correction = 0 ∨ c.Estimates Attitude.Tilted)
    (hlevel : ¬ c.Estimates Attitude.Level) : c.Calm := by
  subst hbefore
  have hpulses := Settings.low_le_high_of_check hr.check
  rw [← hr.settings] at hpulses
  exact Call.calm_of_perform hr.bounded hpulses hcall hzero hlevel

/-- Once the correction is zero, every call is calm until the next level estimate. -/
theorem Reached.calm_of_calls (hr : Reached s past h) (hzero : h.regulator.correction = 0)
    (hrun : h.calls actions = later ++ rest)
    (hlater : ∀ c ∈ later, ¬ c.Estimates Attitude.Level) : ∀ c ∈ later, c.Calm := by
  -- A calm call leaves no correction, and that is all the next one needs.
  induction later generalizing past h actions with
  | nil => exact fun c hc => absurd hc List.not_mem_nil
  | cons c later ih =>
    obtain ⟨hlevel, hlater⟩ := List.forall_mem_cons.mp hlater
    obtain ⟨others, hbefore, hcall, hothers⟩ := exists_perform_of_calls hrun
    have hcalm := hr.calm hbefore hcall (.inl hzero) hlevel
    exact List.forall_mem_cons.mpr
      ⟨hcalm, ih (hr.perform hcall) hcalm.correction hothers hlater⟩

/-- From a tilted estimate on, the call that takes it and all later calls up to the next level
estimate leave no correction, keep the integral sum or empty it, and hold the throttle at the
baseline. -/
theorem calm_of_tilted {s : Settings} {h : HoldLoop} (hr : Reachable s h) {actions : List Action}
    {first : Call} {later rest : List Call}
    (hrun : h.calls actions = first :: later ++ rest)
    (htilt : first.Estimates Attitude.Tilted)
    (hlater : ∀ c ∈ later, ¬ c.Estimates Attitude.Level) : ∀ c ∈ first :: later, c.Calm := by
  obtain ⟨past, hreached⟩ := hr.reached
  obtain ⟨others, hbefore, hcall, hothers⟩ := exists_perform_of_calls hrun
  have hcalm := hreached.calm hbefore hcall (.inr htilt) (Call.not_estimates_level htilt)
  exact List.forall_mem_cons.mpr
    ⟨hcalm, (hreached.perform hcall).calm_of_calls hcalm.correction hothers hlater⟩

/-- An estimate of the sinking barometer leaves an integral sum. -/
def sinking : List Action :=
  engageAt1450 ++ [.sense sunken.1.now sunken.2]

/-- The vehicle banks hard.  The stick moves inside the deadband and outside of it, the second source
is engaged, and then the vehicle is level again. -/
def bank : List Action :=
  let banked : Readings :=
    { baro := some (.ready 200), ranger := some ⟨200, 300, 500⟩, attitude := { roll := -32768 } }
  [.sense 90000 banked,
    .tick ⟨90001, { baro := true }, ⟨1460, 1500⟩⟩ banked ⟨1700, 20⟩,
    .drive ⟨1600, 1500⟩ ⟨1500, 0⟩,
    .switch .ranger true ⟨1470, 1500⟩,
    .tick ⟨120000, ⟨true, true⟩, ⟨1480, 1500⟩⟩ banked ⟨1700, 20⟩,
    .sense 150000 { banked with attitude := {} }]

/-- The integral sum of 770 is kept until the stick empties it, and the throttle is held first at the
old baseline and then at the new one.  The level estimate moves the integral sum again. -/
theorem calm_of_tilted_bank :
    ∃ h first later last, Reachable {} h ∧ h.calls bank = first :: later ++ [last] ∧
      first.Estimates Attitude.Tilted ∧ (∀ c ∈ later, ¬ c.Estimates Attitude.Level) ∧
      (h.calls bank).map (fun c => (c.after.regulator.integral, c.answer.command)) =
        [(770, none), (770, some ⟨1450, 20⟩), (0, some ⟨1460, 0⟩), (0, none),
          (0, some ⟨1470, 20⟩), (-55, none)] ∧
      ∀ c ∈ first :: later, c.Calm := by
  have hstart : start {} = .ok { settings := {} } := by decide +kernel
  have hrun : (do
      let h ← performAll { settings := {} } sinking
      return ((h.calls bank).map fun c => decide (c.Estimates Attitude.Tilted),
        (h.calls bank).map fun c => decide (c.Estimates Attitude.Level),
        (h.calls bank).map fun c => (c.after.regulator.integral, c.answer.command))) =
      Except.ok ([true, false, false, false, true, false], [false, false, false, false, false, true],
        [(770, none), (770, some ⟨1450, 20⟩), (0, some ⟨1460, 0⟩), (0, none),
          (0, some ⟨1470, 20⟩), (-55, none)]) := by
    decide +kernel
  obtain ⟨h, ha, hok⟩ := bind_eq_ok_iff.mp hrun
  obtain ⟨htilted, hrest⟩ := Prod.mk.inj (Except.ok.inj hok)
  obtain ⟨hlevel, hvalues⟩ := Prod.mk.inj hrest
  simp only [List.map_eq_cons_iff, List.map_eq_nil_iff] at hlevel
  obtain ⟨first, _, hcalls, -, c₂, _, rfl, h₂, c₃, _, rfl, h₃, c₄, _, rfl, h₄, c₅, _, rfl, h₅, last,
    _, rfl, -, rfl⟩ := hlevel
  have hsplit : h.calls bank = first :: [c₂, c₃, c₄, c₅] ++ [last] := hcalls
  have htilt : first.Estimates Attitude.Tilted := by
    rw [hcalls] at htilted
    exact of_decide_eq_true (List.cons.inj htilted).1
  have hlater : ∀ c ∈ [c₂, c₃, c₄, c₅], ¬ c.Estimates Attitude.Level := by
    simp only [List.forall_mem_cons, List.not_mem_nil, false_implies, implies_true, and_true]
    exact ⟨of_decide_eq_false h₂, of_decide_eq_false h₃, of_decide_eq_false h₄,
      of_decide_eq_false h₅⟩
  have hreachable : Reachable {} h := ⟨_, sinking, hstart, ha⟩
  exact ⟨h, first, _, last, hreachable, hsplit, htilt, hlater, hvalues,
    calm_of_tilted hreachable hsplit htilt hlater⟩

end Runs

end HoldLoop

end Autopilot
