import Autopilot.Proofs.Reengagement
import Autopilot.Proofs.Repetition
import Autopilot.Proofs.TickCommand

/-!
# What the estimator and the pilot hide from each other

The estimator reads the clock, the sensors, the filter weights and the scale of the accelerometer.
Nothing that the pilot does reaches it, and nothing behind it fails, so two runs of ticks with the
same readings show the same estimates whatever else is different (`HoldLoop.SameReadings`).

The other way round, a loop that holds no altitude does not look at the sticks and does not remember
the command that it hands on.  Two runs that differ only there stay the same loop
(`HoldLoop.SameWhileEngaged`).  `answers_isolated` has both halves.
-/

namespace Autopilot

/-- Of the settings, only the weights and the scale of the accelerometer reach the estimator. -/
theorem Fusion.update_congr {s s' : Settings} (hweights : s.weights = s'.weights)
    (hcounts : s.countsPerGravity = s'.countsPerGravity) (f : Fusion) (now : UInt32)
    (r : Readings) : f.update s now r = f.update s' now r := by
  unfold update estimate integrate
  rw [hweights, hcounts]

namespace HoldLoop

/-! ### What is compared -/

/-- What a tick shows of the estimator. -/
structure Sensing where
  estimate : Option Estimate
  calls : List SensorCall
  altitude : Int32
  vario : Int32
  telemetry : Telemetry
deriving DecidableEq, Repr

/-- The estimator's part of an answer. -/
def sensing (result : Answer × HoldLoop) : Sensing where
  estimate := result.1.estimate
  calls := result.1.calls
  altitude := result.2.altitude
  vario := result.2.fusion.vario
  telemetry := result.2.fusion.telemetry

/-- The passes come at the same time and read the same sensors at the same attitude. -/
structure SameReadings (p q : Pass) : Prop where
  now : p.input.now = q.input.now
  readings : p.readings = q.readings

/-- The passes are the same, except for the stick and the incoming command of a pass that engages no
source. -/
structure SameWhileEngaged (p q : Pass) : Prop where
  now : p.input.now = q.input.now
  switches : p.input.switches = q.input.switches
  readings : p.readings = q.readings
  pilot : p.engages = true → p.input.stick = q.input.stick ∧ p.incoming = q.incoming

/-- Two results are the same, except for the command of a loop that holds no altitude. -/
inductive Concur : Except Fault (Answer × HoldLoop) → Except Fault (Answer × HoldLoop) → Prop where
  | ok {answer answer' : Answer} {loop : HoldLoop} (estimate : answer.estimate = answer'.estimate)
    (calls : answer.calls = answer'.calls)
    (command : loop.engagement.any = true → answer.command = answer'.command) :
    Concur (.ok (answer, loop)) (.ok (answer', loop))
  | error (fault : Fault) : Concur (.error fault) (.error fault)

/-! ### The estimator does not see the pilot -/

section Sensing

variable {s s' : Settings} {past past' : List Moment} {h h' : HoldLoop} {p q : Pass}

/-- A tick of a reached loop succeeds when its estimator does, and shows what the update has. -/
theorem Reached.perform_action_of_update (hr : Reached s past h) (p : Pass) :
    (∀ fault, h.fusion.update s p.input.now p.readings = .error fault →
      h.perform p.action = .error fault) ∧
    (∀ u, h.fusion.update s p.input.now p.readings = .ok u →
      ∃ answer next past, h.perform p.action = .ok (answer, next) ∧ Reached s past next ∧
        next.fusion = u.fusion ∧ answer.estimate = some u.estimate ∧ answer.calls = u.calls) := by
  have hpulses := Settings.low_le_high_of_check hr.check
  have htick := tick_eq_of_bounded hr.bounded p.input p.readings p.incoming
  rw [hr.settings] at htick
  constructor
  · intro fault hfault
    rw [perform_action, htick, hfault, error_bind, map_error]
  · intro u hu
    have hsettings : (h.poised p.input p.readings u).settings = s := by
      rw [poised_settings, hr.settings]
    obtain ⟨out, hout⟩ := issued_eq_ok (bounded_poised hr.bounded p.input p.readings u)
      (by rw [hsettings]; exact hpulses) p.input.stick p.incoming
    have hperform : h.perform p.action =
        .ok ({ estimate := u.estimate, calls := u.calls, command := out },
          (h.poised p.input p.readings u).driven p.input.stick) := by
      rw [perform_action, htick, hu, ok_bind, hout, ok_bind, pure_eq_ok, map_ok]
      rfl
    exact ⟨_, _, _, hperform, hr.perform hperform, driven_fusion _ _, rfl, rfl⟩

theorem Reached.sensing_eq (hr : Reached s past h) (hr' : Reached s' past' h')
    (hweights : s.weights = s'.weights) (hcounts : s.countsPerGravity = s'.countsPerGravity)
    (hfusion : h.fusion = h'.fusion) {passes passes' : List Pass}
    (hpasses : List.Forall₂ SameReadings passes passes') :
    (h.answers (passes.map Pass.action)).map (sensing <$> ·) =
      (h'.answers (passes'.map Pass.action)).map (sensing <$> ·) := by
  -- The two estimators have the same memory before every pass.
  induction hpasses generalizing past past' h h' with
  | nil => rfl
  | @cons p q _ _ hpass _ ih =>
    have hupdate : h.fusion.update s p.input.now p.readings =
        h'.fusion.update s' q.input.now q.readings := by
      rw [hfusion, hpass.now, hpass.readings, Fusion.update_congr hweights hcounts]
    obtain ⟨hfails, hsucceeds⟩ := hr.perform_action_of_update p
    obtain ⟨hfails', hsucceeds'⟩ := hr'.perform_action_of_update q
    simp only [List.map_cons, answers]
    cases hu : h.fusion.update s p.input.now p.readings with
    | error fault =>
      rw [hfails fault hu, hfails' fault (hupdate.symm.trans hu)]
    | ok u =>
      obtain ⟨answer, next, _, hperform, hnext, hf, hestimate, hcalls⟩ := hsucceeds u hu
      obtain ⟨answer', next', _, hperform', hnext', hf', hestimate', hcalls'⟩ :=
        hsucceeds' u (hupdate.symm.trans hu)
      have hsame : next.fusion = next'.fusion := hf.trans hf'.symm
      have hshown : sensing (answer, next) = sensing (answer', next') := by
        unfold sensing altitude
        dsimp only
        rw [hestimate, hestimate', hcalls, hcalls', hsame]
      rw [hperform, hperform']
      dsimp only
      rw [ih hnext hnext' hsame, map_ok, map_ok, hshown]

end Sensing

/-! ### A loop at rest does not see the sticks -/

section Rest

variable {s : Settings} {past : List Moment} {h : HoldLoop} {p q : Pass}

theorem engages_eq_any (h : HoldLoop) (p : Pass) :
    (h.armed p.input p.readings).engagement.any = p.engages := by
  rw [armed_engagement]
  rfl

/-- A pass that engages no source hands its command on, and only the estimator does anything. -/
theorem perform_action_of_not_engages (hb : h.regulator.Bounded) (hp : p.engages = false) :
    h.perform p.action =
      (fun u => ({ estimate := u.estimate, calls := u.calls, command := p.incoming },
        ({ h with engagement := {} } : HoldLoop).sensed p.readings u)) <$>
        h.fusion.update h.settings p.input.now p.readings := by
  have hidle : (h.armed p.input p.readings).engagement.any = false := by rw [engages_eq_any, hp]
  have harmed := armed_of_idle hidle
  rw [perform_action, tick_eq_of_bounded hb]
  cases h.fusion.update h.settings p.input.now p.readings with
  | error fault => rfl
  | ok u =>
    have hpoised : h.poised p.input p.readings u =
        ({ h with engagement := {} } : HoldLoop).sensed p.readings u := by
      unfold poised
      rw [harmed]
    rw [ok_bind, map_ok, hpoised]
    rfl

theorem SameWhileEngaged.engages_eq (hpass : SameWhileEngaged p q) : p.engages = q.engages := by
  unfold Pass.engages
  rw [hpass.switches, hpass.readings]

/-- Passes that are the same while a source is engaged have results that concur. -/
theorem concur_of_sameWhileEngaged (hb : h.regulator.Bounded) (hpass : SameWhileEngaged p q) :
    Concur (h.perform p.action) (h.perform q.action) := by
  by_cases hengages : p.engages = true
  · obtain ⟨hstick, hincoming⟩ := hpass.pilot hengages
    have hsame : p = q := by
      obtain ⟨⟨_, _, _⟩, _, _⟩ := p
      obtain ⟨⟨_, _, _⟩, _, _⟩ := q
      obtain ⟨rfl, rfl, rfl, -⟩ := hpass
      obtain rfl : _ = _ := hstick
      obtain rfl : _ = _ := hincoming
      rfl
    rw [hsame]
    cases h.perform q.action with
    | error fault => exact .error fault
    | ok result => exact .ok rfl rfl fun _ => rfl
  · have hp : p.engages = false := Bool.eq_false_iff.mpr hengages
    have hq : q.engages = false := hpass.engages_eq ▸ hp
    rw [perform_action_of_not_engages hb hp, perform_action_of_not_engages hb hq, hpass.now,
      hpass.readings]
    cases h.fusion.update h.settings q.input.now q.readings with
    | error fault => exact .error fault
    | ok u => exact .ok rfl rfl fun hany => absurd hany Bool.false_ne_true

theorem Reached.forall₂_concur (hr : Reached s past h) {passes passes' : List Pass}
    (hpasses : List.Forall₂ SameWhileEngaged passes passes') :
    List.Forall₂ Concur (h.answers (passes.map Pass.action)) (h.answers (passes'.map Pass.action)) := by
  induction hpasses generalizing past h with
  | nil => exact .nil
  | @cons p q _ _ hpass _ ih =>
    have hconcur := concur_of_sameWhileEngaged hr.bounded hpass
    simp only [List.map_cons, answers]
    refine .cons hconcur ?_
    -- Concurring results leave the same loop for the passes after them.
    generalize hperform : h.perform p.action = result at hconcur
    generalize h.perform q.action = result' at hconcur
    cases hconcur with
    | error fault => exact .nil
    | ok _ _ _ => exact ih (hr.perform hperform)

end Rest

/-- Ticks with the same readings show the same of the estimator, whatever the pilot does and whatever
else is tuned; and ticks that differ in the stick and the incoming command of passes without an
engaged source leave the same loop, and issue the same commands while altitude is held. -/
theorem answers_isolated {s s' : Settings} {h h' : HoldLoop} (hs : start s = .ok h)
    (hs' : start s' = .ok h') (hweights : s.weights = s'.weights)
    (hcounts : s.countsPerGravity = s'.countsPerGravity) :
    (∀ passes passes', List.Forall₂ SameReadings passes passes' →
      (h.answers (passes.map Pass.action)).map (sensing <$> ·) =
        (h'.answers (passes'.map Pass.action)).map (sensing <$> ·)) ∧
    (∀ passes passes', List.Forall₂ SameWhileEngaged passes passes' →
      List.Forall₂ Concur (h.answers (passes.map Pass.action))
        (h.answers (passes'.map Pass.action))) := by
  obtain ⟨hcheck, rfl⟩ := start_eq_ok_iff.mp hs
  obtain ⟨hcheck', rfl⟩ := start_eq_ok_iff.mp hs'
  exact ⟨fun _ _ hpasses => (Reached.start hcheck).sensing_eq (.start hcheck') hweights hcounts rfl
      hpasses,
    fun _ _ hpasses => (Reached.start hcheck).forall₂_concur hpasses⟩

/-- Two passes on the ground and one that engages the barometer, with the throttle stick at one place
on the ground and at another in the last pass. -/
def liftOff (ground last : Int16) : List Pass :=
  [⟨⟨25000, {}, ⟨ground, 1500⟩⟩, { baro := some (.ready 0) }, ⟨ground, 0⟩⟩,
    ⟨⟨30000, {}, ⟨ground, 1500⟩⟩, { baro := some (.ready 90) }, ⟨ground, 0⟩⟩,
    ⟨⟨60000, { baro := true }, ⟨last, 1500⟩⟩, { baro := some (.ready 120) }, ⟨last, 0⟩⟩]

/-- A fixed wing with a larger gain and a wider range of pulses. -/
def wing : Settings :=
  { gains := { altitude := ⟨200, 0, 0⟩ }, airframe := .fixedWing, pulses := ⟨900, 2100⟩ }

/-- A multirotor and a fixed wing with other sticks see the same three altitudes.  On the multirotor,
the place of the stick on the ground goes into the first two commands and nowhere else. -/
theorem answers_isolated_liftOff :
    start {} = .ok { settings := {} } ∧ start wing = .ok { settings := wing } ∧
      (answers { settings := {} } ((liftOff 1000 1450).map Pass.action)).map
          (fun result => (fun x => (x.2.altitude, x.1.command)) <$> result) =
        [.ok (0, some ⟨1000, 0⟩), .ok (0, some ⟨1000, 0⟩), .ok (120, some ⟨1340, 0⟩)] ∧
      (answers { settings := {} } ((liftOff 1000 1450).map Pass.action)).map (sensing <$> ·) =
        (answers { settings := wing } ((liftOff 1700 1200).map Pass.action)).map (sensing <$> ·) ∧
      List.Forall₂ Concur (answers { settings := {} } ((liftOff 1000 1450).map Pass.action))
        (answers { settings := {} } ((liftOff 1100 1450).map Pass.action)) := by
  have hstart : start {} = .ok { settings := {} } := by decide +kernel
  have hstart' : start wing = .ok { settings := wing } := by decide +kernel
  have hanswers : (answers { settings := {} } ((liftOff 1000 1450).map Pass.action)).map
      (fun result => (fun x => (x.2.altitude, x.1.command)) <$> result) =
      [.ok (0, some ⟨1000, 0⟩), .ok (0, some ⟨1000, 0⟩), .ok (120, some ⟨1340, 0⟩)] := by
    decide +kernel
  have hreadings : List.Forall₂ SameReadings (liftOff 1000 1450) (liftOff 1700 1200) :=
    .cons ⟨rfl, rfl⟩ (.cons ⟨rfl, rfl⟩ (.cons ⟨rfl, rfl⟩ .nil))
  have hengaged : List.Forall₂ SameWhileEngaged (liftOff 1000 1450) (liftOff 1100 1450) :=
    .cons ⟨rfl, rfl, rfl, fun hon => nomatch hon⟩ (.cons ⟨rfl, rfl, rfl, fun hon => nomatch hon⟩
      (.cons ⟨rfl, rfl, rfl, fun _ => ⟨rfl, rfl⟩⟩ .nil))
  obtain ⟨hsensing, -⟩ := answers_isolated hstart hstart' rfl rfl
  obtain ⟨-, hconcur⟩ := answers_isolated hstart hstart' rfl rfl
  exact ⟨hstart, hstart', hanswers, hsensing _ _ hreadings, hconcur _ _ hengaged⟩

end HoldLoop

end Autopilot
