import Autopilot.Proofs.Alike
import Autopilot.Proofs.Faults

/-!
# Ticks between two estimates

The control loop may run faster than the estimator.  A tick that comes too early for an estimate
still samples the switches and issues a command, but when it repeats the tick before it, with the
same switches, sensors, sticks and incoming command, nothing is left for it to do: a switch that has
not moved has no edge (`HoldLoop.fed_of_holds`), and neither a second note of the same stick
(`HoldLoop.driven_driven`) nor a second command from it (`HoldLoop.issued_driven`) differs from the
first.

So any number of such ticks holds the last command, and everything that comes after them is as if
they had not been there (`HoldLoop.answers_repeated`).
-/

namespace Autopilot

/-! ### A stick that has not moved -/

section Stick

variable (ref : StickReference) (r : Regulator) (s : Settings) (altitude : Int32) (stick : Stick)

@[simp] theorem StickReference.noted_baseline : (ref.noted s stick).baseline = ref.baseline := by
  unfold noted
  split_ifs <;> rfl

@[simp] theorem StickReference.noted_outside (policy : StickPolicy) (other : Stick) :
    (ref.noted s stick).outside policy other = ref.outside policy other := by
  unfold outside deviation
  rw [noted_baseline]

theorem StickReference.noted_noted : (ref.noted s stick).noted s stick = ref.noted s stick := by
  unfold noted outside deviation
  split_ifs <;> rfl

/-- The second note finds the integral sum empty, the climb rate asked for, or the stick back. -/
theorem Regulator.steered_steered :
    (r.steered s ref altitude stick).steered s (ref.noted s stick) altitude stick =
      r.steered s ref altitude stick := by
  unfold Regulator.steered
  rw [StickReference.noted_outside]
  unfold StickReference.noted
  cases s.airframe with
  | fixedWing => rfl
  | multirotor =>
    cases hout : ref.outside s.stick stick with
    | true => cases s.stick.direct <;> rfl
    | false => cases ref.displaced <;> simp

end Stick

/-! ### Switches that have not moved -/

theorem Engagement.set_holds (e : Engagement) (source : Source) :
    e.set source (e.holds source) = e := by
  cases source <;> rfl

namespace HoldLoop

theorem fed_of_holds (h : HoldLoop) (source : Source) (stick : Stick) :
    h.fed source (h.engagement.holds source) stick = h := by
  have hsteady : Edge.of (h.engagement.holds source) (h.engagement.holds source) ≠ .rising := by
    intro hedge
    obtain ⟨hon, hoff⟩ := Edge.of_eq_rising_iff.mp hedge
    exact Bool.false_ne_true (hoff.symm.trans hon)
  unfold fed
  rw [if_neg hsteady, Engagement.set_holds]

/-- Switches as the loop holds them change nothing. -/
theorem armed_eq_self {h : HoldLoop} {input : PilotInput} {r : Readings}
    (hheld : h.engagement =
      ⟨input.switches.baro && r.has .baro, input.switches.ranger && r.has .ranger⟩) :
    h.armed input r = h := by
  have hbaro : (input.switches.baro && r.has .baro) = h.engagement.holds .baro := by rw [hheld]; rfl
  have hranger : (input.switches.ranger && r.has .ranger) = h.engagement.holds .ranger := by
    rw [hheld]
    rfl
  unfold armed
  rw [hbaro, fed_of_holds, hranger, fed_of_holds]

/-! ### Commands from a stick that has not moved -/

theorem driven_driven (h : HoldLoop) (stick : Stick) :
    (h.driven stick).driven stick = h.driven stick := by
  unfold driven
  by_cases hany : h.engagement.any
  · rw [if_pos hany, if_pos hany]
    dsimp only [altitude]
    rw [StickReference.noted_noted, Regulator.steered_steered]
  · rw [if_neg hany, if_neg hany]

theorem issued_driven (h : HoldLoop) (stick : Stick) (incoming : Command) :
    (h.driven stick).issued stick incoming = h.issued stick incoming := by
  unfold driven
  split_ifs with hany
  · unfold issued outgoing steer StickReference.held StickReference.shifted
      StickReference.deviation
    simp only [StickReference.noted_outside, StickReference.noted_baseline,
      Regulator.steered_correction]
  · rfl

/-! ### Repeated ticks -/

/-- The pass repeats another: the switches and the sticks are where they were, the same sensors are
present, and the same command comes in.  The clock and the readings are free. -/
structure Pass.Repeats (q p : Pass) : Prop where
  switches : q.input.switches = p.input.switches
  stick : q.input.stick = p.input.stick
  present : ∀ source, q.readings.has source = p.readings.has source
  incoming : q.incoming = p.incoming

variable {h : HoldLoop} {p q : Pass} {t : Tick}

/-- An early tick that repeats the tick before it. -/
theorem tick_repeated (hb : h.regulator.Bounded)
    (ht : h.tick p.input p.readings p.incoming = .ok t) (hq : q.Repeats p)
    (hearly : t.loop.fusion.isEarly q.input.now = true) :
    t.loop.tick q.input q.readings q.incoming = .ok ⟨.early, [], t.command, t.loop⟩ := by
  obtain ⟨u, hu, hissued, ht'⟩ := exists_update_of_tick hb ht
  have hloop : t.loop = (h.poised p.input p.readings u).driven p.input.stick :=
    congrArg Tick.loop ht'
  have hheld : t.loop.engagement = ⟨q.input.switches.baro && q.readings.has .baro,
      q.input.switches.ranger && q.readings.has .ranger⟩ := by
    rw [hloop, driven_engagement, hq.switches, hq.present, hq.present]
    exact armed_engagement _ _ _
  have hpoised : t.loop.poised q.input q.readings ⟨.early, t.loop.fusion, []⟩ = t.loop := by
    unfold poised
    rw [armed_eq_self hheld]
    rfl
  have hupdate : t.loop.fusion.update t.loop.settings q.input.now q.readings =
      .ok ⟨.early, t.loop.fusion, []⟩ := by
    unfold Fusion.update
    rw [if_pos hearly, pure_eq_ok]
  rw [tick_eq_of_bounded (bounded_of_tick hb ht), hupdate, ok_bind, hpoised, hq.stick, hq.incoming]
  rw [hloop, issued_driven, hissued, ok_bind, driven_driven, pure_eq_ok]

/-! ### Runs -/

/-- The pass as a call. -/
def Pass.action (p : Pass) : Action :=
  .tick p.input p.readings p.incoming

/-- What a tick answers beside the loop. -/
def Tick.answer (t : Tick) : Answer :=
  { estimate := t.estimate, calls := t.calls, command := t.command }

theorem perform_action (h : HoldLoop) (p : Pass) :
    h.perform p.action =
      (fun t => (t.answer, t.loop)) <$> h.tick p.input p.readings p.incoming := rfl

/-- What calls answer one after the other, each with the loop that it leaves, up to the first
fault. -/
def answers (h : HoldLoop) : List Action → List (Except Fault (Answer × HoldLoop))
  | [] => []
  | action :: rest => h.perform action :: match h.perform action with
    | .ok (_, next) => next.answers rest
    | .error _ => []

theorem answers_cons_of_tick (ht : h.tick p.input p.readings p.incoming = .ok t)
    (rest : List Action) :
    h.answers (p.action :: rest) = .ok (t.answer, t.loop) :: t.loop.answers rest := by
  rw [answers, perform_action, ht, map_ok]

/-- The answers are those of ticks that came too early. -/
def AllEarly (answers : List (Except Fault (Answer × HoldLoop))) : Prop :=
  ∀ answer ∈ answers, (fun a => a.1.estimate) <$> answer = .ok (some .early)

instance (answers : List (Except Fault (Answer × HoldLoop))) : Decidable (AllEarly answers) :=
  inferInstanceAs (Decidable (∀ answer ∈ answers, _ = _))

theorem isEarly_of_answer (hb : h.regulator.Bounded)
    (hearly : (fun a => a.1.estimate) <$> h.perform p.action = .ok (some .early)) :
    h.fusion.isEarly p.input.now = true := by
  rw [perform_action, map_eq_ok_iff] at hearly
  obtain ⟨answer, hperform, hanswer⟩ := hearly
  obtain ⟨t, ht, rfl⟩ := map_eq_ok_iff.mp hperform
  have hestimate := (estimator_of_tick hb ht).1
  exact Fusion.isEarly_of_updated (hestimate.symm.trans (Option.some.inj hanswer))

/-- The answers to early ticks that repeat a tick hold its command, and its loop. -/
theorem answers_append_of_repeats (hb : h.regulator.Bounded)
    (ht : h.tick p.input p.readings p.incoming = .ok t) {repeats : List Pass}
    (hsame : ∀ q ∈ repeats, q.Repeats p)
    (hearly : AllEarly (t.loop.answers (repeats.map Pass.action))) (rest : List Action) :
    t.loop.answers (repeats.map Pass.action ++ rest) =
      List.replicate repeats.length
          (.ok ({ estimate := some .early, calls := [], command := some t.command }, t.loop)) ++
        t.loop.answers rest := by
  have hb' := bounded_of_tick hb ht
  induction repeats with
  | nil => rfl
  | cons q repeats ih =>
    obtain ⟨hq, hsame⟩ := List.forall_mem_cons.mp hsame
    have hnow := isEarly_of_answer hb' (hearly _ List.mem_cons_self)
    have hheld := tick_repeated hb ht hq hnow
    rw [List.map_cons, answers_cons_of_tick hheld] at hearly
    rw [List.map_cons, List.cons_append, answers_cons_of_tick hheld,
      ih hsame (List.forall_mem_cons.mp hearly).2]
    rfl

/-- After any calls, early ticks that repeat the tick before them call no sensor, leave the loop as
it is and issue the same command, so that what comes after them is as without them. -/
theorem answers_repeated {s : Settings} {h : HoldLoop} (hr : Reachable s h) {p : Pass} {t : Tick}
    (ht : h.tick p.input p.readings p.incoming = .ok t) {repeats : List Pass}
    (hsame : ∀ q ∈ repeats, q.Repeats p)
    (hearly : AllEarly (t.loop.answers (repeats.map Pass.action))) (rest : List Action) :
    h.answers (p.action :: (repeats.map Pass.action ++ rest)) =
        .ok (t.answer, t.loop) ::
          (List.replicate repeats.length
              (.ok ({ estimate := some .early, calls := [], command := some t.command }, t.loop)) ++
            t.loop.answers rest) ∧
      h.answers (p.action :: rest) = .ok (t.answer, t.loop) :: t.loop.answers rest := by
  obtain ⟨past, hreached⟩ := hr.reached
  refine ⟨?_, answers_cons_of_tick ht rest⟩
  rw [answers_cons_of_tick ht, answers_append_of_repeats hreached.bounded ht hsame hearly]

/-- Altitude is held at a stick of 1450, and the estimator sees a climb. -/
def climbAt1450 : List Action :=
  [.sense 25000 { baro := some (.ready 250) }, .switch .baro true ⟨1450, 1500⟩,
    .sense 50000 { baro := some (.ready 300) }]

/-- A pass at `now` with the stick displaced and the barometer at `altitude`. -/
def displacedPass (now : UInt32) (altitude : Int32) : Pass :=
  ⟨⟨now, { baro := true }, ⟨1600, 1500⟩⟩, { baro := some (.ready altitude) }, ⟨1700, 20⟩⟩

/-- The first pass displaces the stick and empties the integral sum.  Two more before the next
estimate change nothing, and the stick finds the same loop when it comes back. -/
theorem answers_repeated_displaced :
    ∃ h t, start {} = .ok { settings := {} } ∧ performAll { settings := {} } climbAt1450 = .ok h ∧
      h.tick (displacedPass 75000 350).input (displacedPass 75000 350).readings ⟨1700, 20⟩ = .ok t ∧
      t.loop ≠ h ∧ t.command = ⟨1660, 20⟩ ∧
      AllEarly (t.loop.answers
        ([displacedPass 80000 900, displacedPass 99999 350].map Pass.action)) ∧
      h.answers ((displacedPass 75000 350).action ::
          ([displacedPass 80000 900, displacedPass 99999 350].map Pass.action ++
            [.drive ⟨1450, 1500⟩ ⟨1700, 20⟩])) =
        .ok (t.answer, t.loop) ::
          (List.replicate 2
              (.ok ({ estimate := some .early, calls := [], command := some t.command }, t.loop)) ++
            t.loop.answers [.drive ⟨1450, 1500⟩ ⟨1700, 20⟩]) := by
  have hstart : start {} = .ok { settings := {} } := by decide +kernel
  have hrun : (do
      let h ← performAll { settings := {} } climbAt1450
      let t ← h.tick (displacedPass 75000 350).input (displacedPass 75000 350).readings ⟨1700, 20⟩
      return (decide (t.loop = h), t.command,
        decide (AllEarly (t.loop.answers
          ([displacedPass 80000 900, displacedPass 99999 350].map Pass.action))))) =
      .ok (false, ⟨1660, 20⟩, true) := by decide +kernel
  obtain ⟨h, ha, hrun⟩ := bind_eq_ok_iff.mp hrun
  obtain ⟨t, ht, hrun⟩ := bind_eq_ok_iff.mp hrun
  simp only [pure_eq_ok, Except.ok.injEq, Prod.mk.injEq, decide_eq_true_eq,
    decide_eq_false_iff_not] at hrun
  obtain ⟨hnew, hcommand, hearly⟩ := hrun
  have hsame : ∀ q ∈ [displacedPass 80000 900, displacedPass 99999 350],
      q.Repeats (displacedPass 75000 350) := by
    refine List.forall_mem_cons.mpr ⟨⟨rfl, rfl, fun _ => rfl, rfl⟩, ?_⟩
    exact List.forall_mem_singleton.mpr ⟨rfl, rfl, fun _ => rfl, rfl⟩
  exact ⟨h, t, hstart, ha, ht, hnew, hcommand, hearly,
    (answers_repeated ⟨_, _, hstart, ha⟩ ht hsame hearly _).1⟩

end HoldLoop

end Autopilot
