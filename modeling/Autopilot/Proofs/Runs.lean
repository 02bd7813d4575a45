import Autopilot.Proofs.Stages

/-!
# Runs of the hold loop

A call of the hold loop is a list of stages (`HoldLoop.Action.stages`): a tick is four of them, and
any other call is one.  Carrying calls out is going through their stages (`performAll_eq`).

`HoldLoop.Reached` is the induction behind everything that holds after every run.  It has one case
for the fresh loop and one for each stage, and remembers every stage of the past together with the
loop that the stage found.  A fresh loop that has carried calls out is reached
(`reached_performAll`), so the memory of its regulator is bounded (`performAll_bounded`).
-/

namespace Autopilot

/-! ### The settings of a run -/

theorem Settings.low_le_high_of_check {s : Settings} (h : s.check = .ok ()) :
    s.pulses.low ≤ s.pulses.high := by
  unfold Settings.check at h
  split_ifs at h with h1 h2 h3 h4
  rw [Int16.le_iff_toInt_le] at h4 ⊢
  omega

namespace HoldLoop

theorem start_eq_ok_iff {s : Settings} {h : HoldLoop} :
    start s = .ok h ↔ s.check = .ok () ∧ h = { settings := s } := by
  unfold start
  rw [bind_eq_ok_iff]
  constructor
  · rintro ⟨_, hcheck, hloop⟩
    exact ⟨hcheck, (Except.ok.inj hloop).symm⟩
  · rintro ⟨hcheck, rfl⟩
    exact ⟨(), hcheck, rfl⟩

/-! ### Stages as values -/

/-- One stage of the hold loop. -/
inductive Stage where
  | switch (source : Source) (on : Bool) (stick : Stick)
  | sense (now : UInt32) (readings : Readings)
  | drive (stick : Stick) (incoming : Command)
deriving DecidableEq, Repr

/-- The loop after a stage. -/
def advance (h : HoldLoop) : Stage → Except Fault HoldLoop
  | .switch source on stick => .ok (h.switch source on stick).2
  | .sense now r => (fun answer => answer.2.2) <$> h.sense now r
  | .drive stick incoming => (fun answer => answer.2) <$> h.drive stick incoming

/-- The loop after a list of stages. -/
def advanceAll (h : HoldLoop) : List Stage → Except Fault HoldLoop
  | [] => .ok h
  | stage :: rest => do
    let h ← h.advance stage
    h.advanceAll rest

/-- The stages of a call. -/
def Action.stages : Action → List Stage
  | .tick input r incoming =>
    [.switch .baro (input.switches.baro && r.has .baro) input.stick,
      .switch .ranger (input.switches.ranger && r.has .ranger) input.stick,
      .sense input.now r, .drive input.stick incoming]
  | .switch source on stick => [.switch source on stick]
  | .sense now r => [.sense now r]
  | .drive stick incoming => [.drive stick incoming]

theorem advanceAll_append (h : HoldLoop) (before after : List Stage) :
    h.advanceAll (before ++ after) = (h.advanceAll before >>= fun h => h.advanceAll after) := by
  induction before generalizing h with
  | nil => rfl
  | cons stage rest ih =>
    change (h.advance stage >>= fun h => h.advanceAll (rest ++ after)) =
      (h.advance stage >>= fun h => h.advanceAll rest) >>= fun h => h.advanceAll after
    rw [bind_assoc]
    simp only [ih]

/-- A call is its stages. -/
theorem perform_eq (h : HoldLoop) (action : Action) :
    (fun answer => answer.2) <$> h.perform action = h.advanceAll action.stages := by
  unfold perform
  cases action with
  | tick input r incoming =>
    dsimp only
    rw [tick_eq]
    unfold armed
    rw [Action.stages]
    simp only [advanceAll, advance, ok_bind, switch_eq]
    -- Both sides stop where the estimator or the command has no result.
    cases ((h.fed _ _ _).fed _ _ _).sense input.now r with
    | error fault => rfl
    | ok answer =>
      rw [ok_bind, map_ok, ok_bind]
      cases answer.2.2.drive input.stick incoming <;> rfl
  | switch source on stick => rfl
  | sense now r =>
    dsimp only
    rw [Action.stages]
    simp only [advanceAll, advance]
    cases h.sense now r <;> rfl
  | drive stick incoming =>
    dsimp only
    rw [Action.stages]
    simp only [advanceAll, advance]
    cases h.drive stick incoming <;> rfl

theorem performAll_eq (h : HoldLoop) (actions : List Action) :
    h.performAll actions = h.advanceAll (actions.flatMap Action.stages) := by
  induction actions generalizing h with
  | nil => rfl
  | cons action rest ih =>
    rw [List.flatMap_cons, advanceAll_append, ← perform_eq]
    change (h.perform action >>= fun answer => answer.2.performAll rest) = _
    simp only [ih]
    cases h.perform action <;> rfl

/-! ### Reached loops -/

/-- A stage and the loop that it found. -/
structure Moment where
  loop : HoldLoop
  stage : Stage
deriving DecidableEq, Repr

/-- The moments of a run. -/
def trail (h : HoldLoop) : List Stage → List Moment
  | [] => []
  | stage :: rest => ⟨h, stage⟩ :: match h.advance stage with
    | .ok h => h.trail rest
    | .error _ => []

/-- A loop with the settings `s` gets from its fresh state through the moments of the past to its
present state. -/
inductive Reached (s : Settings) : List Moment → HoldLoop → Prop where
  | start (hs : s.check = .ok ()) : Reached s [] { settings := s }
  | fed {past : List Moment} {h : HoldLoop} (hr : Reached s past h) (source : Source) (on : Bool)
      (stick : Stick) :
      Reached s (past ++ [⟨h, .switch source on stick⟩]) (h.fed source on stick)
  | sensed {past : List Moment} {h : HoldLoop} (hr : Reached s past h) (now : UInt32)
      (r : Readings) {u : Fusion.Update} (hu : h.fusion.update h.settings now r = .ok u) :
      Reached s (past ++ [⟨h, .sense now r⟩]) (h.sensed r u)
  | driven {past : List Moment} {h : HoldLoop} (hr : Reached s past h) (stick : Stick)
      (incoming : Command) :
      Reached s (past ++ [⟨h, .drive stick incoming⟩]) (h.driven stick)

namespace Reached

variable {s : Settings} {past : List Moment} {h h' : HoldLoop}

theorem settings (hr : Reached s past h) : h.settings = s := by
  induction hr with
  | start => rfl
  | fed _ source on stick ih => rw [fed_settings, ih]
  | sensed _ _ _ _ ih => exact ih
  | driven _ stick _ ih => rw [driven_settings, ih]

theorem check (hr : Reached s past h) : s.check = .ok () := by
  induction hr with
  | start hs => exact hs
  | fed _ _ _ _ ih => exact ih
  | sensed _ _ _ _ ih => exact ih
  | driven _ _ _ ih => exact ih

theorem bounded (hr : Reached s past h) : h.regulator.Bounded := by
  induction hr with
  | start => exact .initial
  | fed _ source on stick ih => exact bounded_fed ih source on stick
  | sensed _ _ r _ ih => exact bounded_sensed ih r _
  | driven _ stick _ ih => exact bounded_driven ih stick

theorem followsStick_eq (hr : Reached s past h) :
    h.regulator.followsStick = (h.reference.displaced && !s.stick.direct) := by
  induction hr with
  | start => rfl
  | fed _ source on stick ih => rw [fed_followsStick, fed_displaced, ih]
  | sensed _ now r _ ih => rw [sensed_followsStick, sensed_reference, ih]
  | @driven past h hr stick _ ih =>
    have hsettings := hr.settings
    unfold HoldLoop.driven
    split_ifs
    · rw [← hsettings] at ih ⊢
      exact Regulator.steered_followsStick _ _ _ _ ih
    · exact ih

/-- The stick of a fixed wing is never displaced. -/
theorem displaced_of_fixedWing (hr : Reached s past h) (hwing : s.airframe = .fixedWing) :
    h.reference.displaced = false := by
  induction hr with
  | start => rfl
  | fed _ source on stick ih => rw [fed_displaced, ih]
  | sensed _ now r _ ih => rw [sensed_reference, ih]
  | @driven past h hr stick _ ih =>
    have hsettings := hr.settings
    unfold HoldLoop.driven StickReference.noted
    rw [hsettings, if_pos hwing]
    split_ifs <;> exact ih

theorem advance (hr : Reached s past h) {stage : Stage} (hstep : h.advance stage = .ok h') :
    Reached s (past ++ [⟨h, stage⟩]) h' := by
  cases stage with
  | switch source on stick =>
    change Except.ok (h.switch source on stick).2 = _ at hstep
    rw [switch_eq, Except.ok.injEq] at hstep
    exact hstep ▸ hr.fed source on stick
  | sense now r =>
    change (fun answer => answer.2.2) <$> h.sense now r = _ at hstep
    rw [sense_eq hr.bounded, map_eq_ok_iff] at hstep
    obtain ⟨answer, hsense, rfl⟩ := hstep
    obtain ⟨u, hu, rfl⟩ := map_eq_ok_iff.mp hsense
    exact hr.sensed now r hu
  | drive stick incoming =>
    change (fun answer => answer.2) <$> h.drive stick incoming = _ at hstep
    rw [drive_eq, map_eq_ok_iff] at hstep
    obtain ⟨answer, hdrive, rfl⟩ := hstep
    obtain ⟨out, -, rfl⟩ := map_eq_ok_iff.mp hdrive
    exact hr.driven stick incoming

theorem advanceAll (hr : Reached s past h) {stages : List Stage}
    (hrun : h.advanceAll stages = .ok h') : Reached s (past ++ h.trail stages) h' := by
  -- Each stage adds to the end of the past, so the induction is for every past.
  induction stages generalizing past h with
  | nil =>
    cases hrun
    rw [trail, List.append_nil]
    exact hr
  | cons stage rest ih =>
    obtain ⟨mid, hstep, hrest⟩ := bind_eq_ok_iff.mp hrun
    have hmid := ih (hr.advance hstep) hrest
    rw [List.append_assoc] at hmid
    rw [trail, hstep]
    exact hmid

/-- A call takes a reached loop to a reached loop. -/
theorem perform (hr : Reached s past h) {action : Action} {answer : Answer}
    (hcall : h.perform action = .ok (answer, h')) :
    Reached s (past ++ h.trail action.stages) h' :=
  hr.advanceAll (by rw [← perform_eq, hcall, map_ok])

end Reached

/-- A fresh loop that has carried calls out is reached. -/
theorem reached_performAll {s : Settings} {h₀ h : HoldLoop} {actions : List Action}
    (hs : start s = .ok h₀) (ha : h₀.performAll actions = .ok h) :
    Reached s (h₀.trail (actions.flatMap Action.stages)) h := by
  obtain ⟨hcheck, rfl⟩ := start_eq_ok_iff.mp hs
  rw [performAll_eq] at ha
  exact (Reached.start hcheck).advanceAll ha

/-- A fresh loop with the settings `s` becomes `h` when it carries calls out. -/
def Reachable (s : Settings) (h : HoldLoop) : Prop :=
  ∃ h₀ actions, start s = .ok h₀ ∧ h₀.performAll actions = .ok h

theorem Reachable.reached {s : Settings} {h : HoldLoop} (hr : Reachable s h) :
    ∃ past, Reached s past h := by
  obtain ⟨h₀, actions, hs, ha⟩ := hr
  exact ⟨_, reached_performAll hs ha⟩

/-! ### The bounds of a run -/

/-- After any calls, the integral sum and the correction are inside the bounds of the terms that
they are made of. -/
theorem performAll_bounded {s : Settings} {h₀ h : HoldLoop} {actions : List Action}
    (hs : start s = .ok h₀) (ha : h₀.performAll actions = .ok h) :
    h.regulator.integral.toInt.natAbs ≤ 8192 * 200 ∧
      h.regulator.correction.toInt.natAbs ≤ 300 + 200 + 150 := by
  obtain ⟨hinteg, hcorr⟩ := (reached_performAll hs ha).bounded
  exact ⟨hinteg, hcorr⟩

/-- The run in which an accelerometer sums up to infinity while altitude is held. -/
def infiniteClimb : List Action :=
  [.switch .baro true ⟨1500, 1500⟩,
    .sense 25000 { accel := some (.window ⟨.ofBits 0x7F800000, 1, 25000⟩) }]

/-- Both bounds are attained. -/
theorem performAll_bounded_infiniteClimb :
    ∃ h, start {} = .ok { settings := {} } ∧
      performAll { settings := {} } infiniteClimb = .ok h ∧
      h.regulator.integral = -(8192 * 200) ∧ h.regulator.correction = -650 ∧
      h.regulator.integral.toInt.natAbs ≤ 8192 * 200 ∧
      h.regulator.correction.toInt.natAbs ≤ 300 + 200 + 150 := by
  have hstart : start {} = .ok { settings := {} } := by decide +kernel
  have hrun : (performAll { settings := {} } infiniteClimb).map
      (fun h => (h.regulator.integral, h.regulator.correction)) = .ok (-(8192 * 200), -650) := by
    decide +kernel
  cases hloop : performAll { settings := {} } infiniteClimb with
  | error fault => rw [hloop] at hrun; cases hrun
  | ok h =>
    rw [hloop] at hrun
    obtain ⟨hinteg, hcorr⟩ := Prod.mk.inj (Except.ok.inj hrun)
    exact ⟨h, hstart, rfl, hinteg, hcorr, performAll_bounded hstart hloop⟩

end HoldLoop

end Autopilot
