import Autopilot.Proofs.Runs

/-!
# Loops that nothing can tell apart

Two loops are `HoldLoop.Alike` when they differ at most in the climb rate that the stick asked for,
and only while the regulator does not follow it.  Every stage of two such loops answers the same and
leaves two such loops, so the same passes of the control loop show the same on both
(`HoldLoop.Alike.observe_eq`).
-/

namespace Autopilot

/-! ### Regulators -/

/-- The regulators differ at most in a climb rate that neither of them follows. -/
structure Regulator.Alike (r r' : Regulator) : Prop where
  setpoint : r.setpoint = r'.setpoint
  integral : r.integral = r'.integral
  correction : r.correction = r'.correction
  followsStick : r.followsStick = r'.followsStick
  stickClimb : r.followsStick = true → r.stickClimb = r'.stickClimb

namespace Regulator.Alike

variable {r r' : Regulator}

/-- A new start leaves nothing but the climb rate that the stick asked for. -/
theorem restart (hfollows : r.followsStick = r'.followsStick)
    (hclimb : r.followsStick = true → r.stickClimb = r'.stickClimb) (altitude : Int32) :
    (r.restart altitude).Alike (r'.restart altitude) :=
  ⟨rfl, rfl, rfl, hfollows, hclimb⟩

theorem target_eq (h : r.Alike r') (gains : AxisGains) (altitude : Int32) :
    r.target gains altitude = r'.target gains altitude := by
  unfold target altitudeError
  rw [h.followsStick, h.setpoint]
  split_ifs with hfollows
  · rw [h.stickClimb (h.followsStick.trans hfollows)]
  · rfl

theorem answered (h : r.Alike r') (gains : AxisGains) (altitude : Int32) (sample : ClimbSample)
    (attitude : Attitude) :
    (r.answered gains altitude sample attitude).Alike
      (r'.answered gains altitude sample attitude) := by
  have herror : r.climbError gains altitude sample = r'.climbError gains altitude sample := by
    unfold climbError
    rw [h.target_eq]
  have hinteg : r.nextIntegral gains altitude sample = r'.nextIntegral gains altitude sample := by
    unfold nextIntegral
    rw [herror, h.integral]
  have hcorr :
      r.nextCorrection gains altitude sample = r'.nextCorrection gains altitude sample := by
    unfold nextCorrection
    rw [herror, hinteg]
  unfold Regulator.answered
  split_ifs
  · exact ⟨h.setpoint, congrArg Int32.ofInt hinteg, congrArg Int32.ofInt hcorr, h.followsStick,
      h.stickClimb⟩
  · exact ⟨h.setpoint, h.integral, rfl, h.followsStick, h.stickClimb⟩

theorem steered (h : r.Alike r') (s : Settings) (ref : StickReference) (altitude : Int32)
    (stick : Stick) :
    (r.steered s ref altitude stick).Alike (r'.steered s ref altitude stick) := by
  obtain ⟨hset, hinteg, hcorr, hfollows, hclimb⟩ := h
  unfold Regulator.steered
  split_ifs
  · exact ⟨hset, hinteg, hcorr, hfollows, hclimb⟩
  · exact ⟨hset, rfl, hcorr, hfollows, hclimb⟩
  · exact ⟨hset, hinteg, hcorr, rfl, fun _ => rfl⟩
  · exact ⟨rfl, hinteg, hcorr, hfollows, hclimb⟩
  · exact ⟨rfl, hinteg, hcorr, rfl, fun hfalse => nomatch hfalse⟩
  · exact ⟨hset, hinteg, hcorr, hfollows, hclimb⟩

end Regulator.Alike

namespace HoldLoop

/-! ### Loops -/

/-- The loops differ at most in a climb rate that neither of them follows. -/
structure Alike (a b : HoldLoop) : Prop where
  settings : a.settings = b.settings
  fusion : a.fusion = b.fusion
  engagement : a.engagement = b.engagement
  reference : a.reference = b.reference
  regulator : a.regulator.Alike b.regulator

namespace Alike

variable {a b : HoldLoop}

theorem fed (h : a.Alike b) (source : Source) (on : Bool) (stick : Stick) :
    (a.fed source on stick).Alike (b.fed source on stick) := by
  obtain ⟨hs, hf, he, href, hr⟩ := h
  have haltitude : a.altitude = b.altitude := congrArg Fusion.altitude hf
  unfold HoldLoop.fed
  rw [hs, he, href, haltitude, hf]
  split_ifs
  · exact ⟨rfl, rfl, rfl, rfl, .restart hr.followsStick hr.stickClimb _⟩
  · exact ⟨rfl, rfl, rfl, rfl, hr⟩

theorem armed (h : a.Alike b) (input : PilotInput) (r : Readings) :
    (a.armed input r).Alike (b.armed input r) :=
  (h.fed _ _ _).fed _ _ _

theorem sensed (h : a.Alike b) (r : Readings) (u : Fusion.Update) :
    (a.sensed r u).Alike (b.sensed r u) := by
  obtain ⟨hs, -, he, href, hr⟩ := h
  unfold HoldLoop.sensed
  rw [hs]
  refine ⟨rfl, rfl, he, href, ?_⟩
  dsimp only
  split
  · exact hr.answered _ _ _ _
  · exact hr

theorem issued_eq (h : a.Alike b) (stick : Stick) (incoming : Command) :
    a.issued stick incoming = b.issued stick incoming := by
  obtain ⟨hs, -, he, href, hr⟩ := h
  unfold HoldLoop.issued
  rw [hs, he, href, outgoing_congr hr.correction]

theorem driven (h : a.Alike b) (stick : Stick) : (a.driven stick).Alike (b.driven stick) := by
  obtain ⟨hs, hf, he, href, hr⟩ := h
  have haltitude : a.altitude = b.altitude := congrArg Fusion.altitude hf
  unfold HoldLoop.driven
  rw [hs, he, href, haltitude, hf]
  split_ifs
  · exact ⟨rfl, rfl, rfl, rfl, hr.steered _ _ _ _⟩
  · exact ⟨hs, hf, he, href, hr⟩

end Alike

/-! ### What can be seen of a loop -/

/-- One pass of the control loop with everything that comes in from outside. -/
structure Pass where
  input : PilotInput
  readings : Readings
  incoming : Command
deriving DecidableEq, Repr

/-- What can be seen of a loop after a tick. -/
structure Observation where
  command : Command
  setpoint : Int32
  displaced : Bool
deriving DecidableEq, Repr

/-- What can be seen of a loop over some passes, up to the first fault. -/
def observe (h : HoldLoop) : List Pass → List (Except Fault Observation)
  | [] => []
  | pass :: rest =>
    match h.tick pass.input pass.readings pass.incoming with
    | .ok t =>
      .ok ⟨t.command, t.loop.regulator.setpoint, t.loop.reference.displaced⟩ :: t.loop.observe rest
    | .error fault => [.error fault]

variable {a b : HoldLoop}

/-- A pass shows the same on two loops that are alike behind the switches, when the passes after it
show the same on all loops that are alike. -/
theorem observe_cons_eq (ha : a.regulator.Bounded) (hb : b.regulator.Bounded) {pass : Pass}
    (h : (a.armed pass.input pass.readings).Alike (b.armed pass.input pass.readings))
    {rest : List Pass}
    (hrest : ∀ {a b : HoldLoop}, a.regulator.Bounded → b.regulator.Bounded → a.Alike b →
      a.observe rest = b.observe rest) :
    a.observe (pass :: rest) = b.observe (pass :: rest) := by
  have hs : a.settings = b.settings := by simpa using h.settings
  have hf : a.fusion = b.fusion := by simpa using h.fusion
  unfold observe
  rw [tick_eq_of_bounded ha, tick_eq_of_bounded hb, hs, hf]
  -- The estimator reads nothing else of the loop, so it answers both with the same update.
  cases b.fusion.update b.settings pass.input.now pass.readings with
  | error fault => rfl
  | ok u =>
    have hpoised : (a.poised pass.input pass.readings u).Alike
        (b.poised pass.input pass.readings u) := h.sensed _ _
    rw [ok_bind, ok_bind, hpoised.issued_eq]
    cases (b.poised pass.input pass.readings u).issued pass.input.stick pass.incoming with
    | error fault => rfl
    | ok out =>
      have hdriven := hpoised.driven pass.input.stick
      have hnext := hrest (bounded_driven (bounded_poised ha pass.input pass.readings u) _)
        (bounded_driven (bounded_poised hb pass.input pass.readings u) _) hdriven
      rw [ok_bind, ok_bind, pure_eq_ok, pure_eq_ok]
      dsimp only
      rw [hdriven.regulator.setpoint, hdriven.reference, hnext]

/-- The same passes show the same on loops that are alike. -/
theorem Alike.observe_eq (ha : a.regulator.Bounded) (hb : b.regulator.Bounded) (h : a.Alike b)
    (passes : List Pass) : a.observe passes = b.observe passes := by
  induction passes generalizing a b with
  | nil => rfl
  | cons pass rest ih => exact observe_cons_eq ha hb (h.armed _ _) ih

end HoldLoop

end Autopilot
