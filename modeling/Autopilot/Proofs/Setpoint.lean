import Autopilot.Proofs.ScriptedStick

/-!
# The setpoint of a flight

The regulator aims at the altitude that the estimator had when altitude was first held, and nothing
but the stick can give it another aim.  A script whose stick stays where it is keeps this setpoint to
its end, through any motion, noise and bank (`Script.fly_setpoint`): the hold switch rises once, since
it stays on from a time on (`Flown.isSome_engagedAt_iff`), and the stick is never displaced from the
baseline that the hold has taken (`Flown.not_displaced`).

A multirotor has to take off no later than it is held.  Otherwise the hold takes its baseline from a
stick that is down, and the climb displaces it.
-/

namespace Autopilot

/-! ### One tick -/

/-- While one source is requested and the stick is not displaced, only the rising edge gives a new
setpoint. -/
theorem HoldLoop.setpoint_of_requests {h : HoldLoop} {input : PilotInput} {r : Readings}
    {incoming : Command} {t : Tick} {source : Source} (hb : h.regulator.Bounded)
    (hreq : Requests input r source) (hback : h.reference.displaced = false)
    (ht : h.tick input r incoming = .ok t) :
    t.loop.regulator.setpoint =
      if h.engagement.holds source then h.regulator.setpoint else h.altitude := by
  obtain ⟨u, -, -, ht'⟩ := exists_update_of_tick hb ht
  have hkeeps : ¬ (h.poised input r u).Recaptures input.stick := by
    rintro ⟨-, -, -, hdisplaced⟩
    change (h.armed input r).reference.displaced = true at hdisplaced
    rw [armed_of_requests hreq] at hdisplaced
    change (h.fed source true input.stick).reference.displaced = true at hdisplaced
    rw [fed_displaced, hback] at hdisplaced
    cases hdisplaced
  rw [congrArg Tick.loop ht', driven_setpoint, if_neg hkeeps]
  change ((h.armed input r).sensed r u).regulator.setpoint = _
  rw [sensed_setpoint, armed_of_requests hreq]
  change (h.fed source true input.stick).regulator.setpoint = _
  rw [fed_setpoint, switch_eq]
  cases h.engagement.holds source <;> rfl

/-! ### The hold switch -/

namespace Flown

variable {s : Script} {n k : ℕ} {f g : Flight} {t₀ : Float}

/-- After a pass, the source of the script is engaged if the time of the hold has come, and nothing
is engaged before. -/
theorem engagement_eq (hf : Flown s n f) :
    f.loop.engagement =
      if n ≠ 0 ∧ s.holdAt ≤ Flight.timeOf s.pace n then .only s.source else {} := by
  cases hf with
  | launch h =>
    obtain ⟨-, instruments, -, rfl⟩ := Script.launch_eq_ok_iff.mp h
    rfl
  | @pass n f g hf h =>
    obtain ⟨past, hreached⟩ := hf.reached
    obtain ⟨mid, tick, hmid, htick, hloop, -⟩ := Flight.exists_tick_of_pass h
    have hb : mid.loop.regulator.Bounded := hmid ▸ hreached.bounded
    rw [hloop]
    by_cases hon : s.holdAt ≤ Flight.timeOf s.pace (n + 1)
    · rw [if_pos ⟨n.succ_ne_zero, hon⟩]
      exact HoldLoop.engagement_of_requests hb (Flight.requests_source hf.check hon _) htick
    · rw [if_neg fun h => hon h.2]
      exact (HoldLoop.tick_of_off hb (Script.switches_of_off hon) htick).1

/-- Altitude has been held once the time of the hold has come. -/
theorem isSome_engagedAt_iff (hf : Flown s n f) (hn : n ≤ 2 ^ 64) :
    f.engagedAt.isSome = true ↔ n ≠ 0 ∧ s.holdAt ≤ Flight.timeOf s.pace n := by
  induction hf with
  | launch h =>
    obtain ⟨-, instruments, -, rfl⟩ := Script.launch_eq_ok_iff.mp h
    simp [Script.launched]
  | @pass n f g hf h ih =>
    have hengagement := (hf.pass h).engagement_eq
    obtain ⟨mid, tick, -, -, hloop, hat⟩ := Flight.exists_tick_of_pass h
    rw [hloop] at hengagement
    rw [hat, Flight.ticked_engagedAt]
    by_cases hon : s.holdAt ≤ Flight.timeOf s.pace (n + 1)
    · rw [if_pos ⟨n.succ_ne_zero, hon⟩] at hengagement
      rw [hengagement, Engagement.any_only, Bool.true_and]
      cases f.engagedAt <;> simp [hon]
    · -- Altitude has not been held before either, for time does not go back.
      have hwaiting : ¬ f.engagedAt.isSome = true := by
        rw [ih (by omega)]
        rintro ⟨-, hbefore⟩
        exact hon (double_le_trans hbefore (Script.timeOf_mono hf.check n.le_succ hn))
      rw [if_neg fun h => hon h.2] at hengagement
      rw [hengagement]
      simpa [Engagement.any, hon] using hwaiting

theorem holds_source_iff (hf : Flown s n f) (hn : n ≤ 2 ^ 64) :
    f.loop.engagement.holds s.source = true ↔ f.engagedAt.isSome = true := by
  rw [hf.isSome_engagedAt_iff hn, hf.engagement_eq]
  by_cases hon : n ≠ 0 ∧ s.holdAt ≤ Flight.timeOf s.pace n
  · rw [if_pos hon, Engagement.holds_only]
    exact iff_of_true rfl hon
  · rw [if_neg hon]
    refine iff_of_false ?_ hon
    cases s.source <;> decide

end Flown

/-! ### The setpoint -/

/-- Pass `n + 1` is the first in which altitude is held, at the time `t₀`, and the flight was in this
state before. -/
structure Flight.Engages (s : Script) (n : ℕ) (t₀ : Float) (f : Flight) : Prop where
  flown : Flown s n f
  waiting : f.engagedAt = none
  engaged : ∃ g, Flown s (n + 1) g ∧ g.engagedAt = some t₀

namespace Flown

variable {s : Script} {n k : ℕ} {f f₀ : Flight} {t₀ : Float}

theorem exists_engages (hf : Flown s n f) (hat : f.engagedAt = some t₀) :
    ∃ k, ∃ f₀ : Flight, k < n ∧ f₀.Engages s k t₀ := by
  induction hf with
  | launch h =>
    obtain ⟨-, instruments, -, rfl⟩ := Script.launch_eq_ok_iff.mp h
    cases hat
  | @pass n f g hf h ih =>
    cases hbefore : f.engagedAt with
    | none => exact ⟨n, f, n.lt_succ_self, hf, hbefore, g, hf.pass h, hat⟩
    | some t₁ =>
      have hsame := hf.engagedAt_of_le (hf.pass h) n.le_succ hbefore
      obtain ⟨k, f₀, hlt, hengages⟩ := ih (by rw [hbefore, ← hsame, hat])
      exact ⟨k, f₀, hlt.trans n.lt_succ_self, hengages⟩

end Flown

namespace Flight.Engages

variable {s : Script} {n k : ℕ} {f f₀ : Flight} {t₀ : Float}

/-- Altitude is first held at the end of a pass, and no earlier than the script asks for. -/
theorem time_eq (he : f₀.Engages s k t₀) (hk : k + 1 ≤ 2 ^ 64) :
    t₀ = timeOf s.pace (k + 1) ∧ s.holdAt ≤ t₀ := by
  obtain ⟨hflown, hwaiting, g, hg, hat⟩ := he
  have hon := ((hg.isSome_engagedAt_iff hk).mp (by rw [hat]; rfl)).2
  cases hg with
  | @pass _ f₁ _ hf₁ h =>
    obtain rfl := hf₁.unique hflown
    obtain ⟨mid, tick, -, -, -, hat'⟩ := exists_tick_of_pass h
    rw [hat, ticked_engagedAt, hwaiting] at hat'
    split_ifs at hat'
    obtain rfl := Option.some_inj.mp hat'
    exact ⟨rfl, hon⟩

/-- A pass at or after the time of the first hold is not an earlier pass. -/
theorem lt_of_le_timeOf (he : f₀.Engages s k t₀) (hk : k + 1 ≤ 2 ^ 64) (hn : n ≠ 0)
    (hf : Flown s n f) (hle : t₀ ≤ timeOf s.pace n) : k < n := by
  by_contra! hearly
  have hon := double_le_trans (he.time_eq hk).2 hle
  have hsome := (hf.isSome_engagedAt_iff (by omega)).mpr ⟨hn, hon⟩
  obtain ⟨t₁, hat⟩ := Option.isSome_iff_exists.mp hsome
  have hheld := hf.engagedAt_of_le he.flown hearly hat
  rw [he.waiting] at hheld
  cases hheld

end Flight.Engages

namespace Flown

variable {s : Script} {n k : ℕ} {f f₀ : Flight} {t₀ : Float}

/-- Without moves of the script, the stick is never displaced. -/
theorem not_displaced (hf : Flown s n f) (hn : n ≤ 2 ^ 64) (hstill : s.stickMove = none)
    (hair : s.settings.airframe = .fixedWing ∨ s.takeoff ≤ s.holdAt) :
    f.loop.reference.displaced = false := by
  cases hwing : s.settings.airframe with
  | fixedWing =>
    obtain ⟨past, hreached⟩ := hf.reached
    exact hreached.displaced_of_fixedWing hwing
  | multirotor =>
    have hup : s.takeoff ≤ s.holdAt := hair.resolve_left (by rw [hwing]; decide)
    have hunmoved : ∀ t, s.moves t = false := fun t => by
      unfold Script.moves
      rw [hstill]
      rfl
    by_contra hdisplaced
    have hmoves := hf.moves_of_displaced hwing hn (fun t₀ hat => ⟨?_, ?_⟩)
      (eq_true_of_ne_false hdisplaced)
    · rw [hunmoved] at hmoves
      cases hmoves
    · exact double_not_lt_of_le (double_le_trans hup (hf.holds hwing hn hat).on)
    · exact Script.moved_eq_zero (hunmoved t₀)

/-- Since altitude was first held, the setpoint is the altitude of the estimator before that. -/
theorem setpoint_eq (hf : Flown s n f) (hn : n ≤ 2 ^ 64) (hstill : s.stickMove = none)
    (hair : s.settings.airframe = .fixedWing ∨ s.takeoff ≤ s.holdAt) (he : f₀.Engages s k t₀)
    (hk : k < n) : f.loop.regulator.setpoint = f₀.loop.altitude := by
  induction hf with
  | launch h => exact absurd hk (Nat.not_lt_zero k)
  | @pass n f g hf h ih =>
    obtain ⟨past, hreached⟩ := hf.reached
    obtain ⟨mid, tick, hmid, htick, hloop, -⟩ := Flight.exists_tick_of_pass h
    obtain ⟨g₀, hg₀, hat⟩ := he.engaged
    have hheld : g.engagedAt.isSome = true := by
      rw [hg₀.engagedAt_of_le (hf.pass h) hk hat]
      rfl
    have hon := (((hf.pass h).isSome_engagedAt_iff hn).mp hheld).2
    have hback := hf.not_displaced (by omega) hstill hair
    rw [← hmid] at hback
    have hsetpoint := HoldLoop.setpoint_of_requests (hmid ▸ hreached.bounded)
      (Flight.requests_source hf.check hon _) hback htick
    rw [hloop, hsetpoint, hmid, if_congr (hf.holds_source_iff (by omega)) rfl rfl]
    rcases (Nat.le_of_lt_succ hk).lt_or_eq with hlt | rfl
    · rw [hg₀.engagedAt_of_le hf hlt hat, Option.isSome_some, if_pos rfl]
      exact ih (by omega) hlt
    · obtain rfl := hf.unique he.flown
      rw [he.waiting, Option.isSome_none, if_neg Bool.false_ne_true]

end Flown

/-! ### Whole flights -/

/-- A flight whose script does not move the stick has one setpoint from the time at which altitude is
first held, and never has its stick displaced. -/
theorem Script.fly_setpoint {s : Script} {log : FlightLog} (h : s.fly = .ok (.ok log))
    (hstill : s.stickMove = none)
    (hair : s.settings.airframe = .fixedWing ∨ s.takeoff ≤ s.holdAt) :
    (∀ j row, log.trace.sample? j = some row → row.displaced = false) ∧
      ∀ t₀, log.engagedAt = some t₀ → ∃ k, ∃ f₀ : Flight, f₀.Engages s k t₀ ∧
        ∀ j row, log.trace.sample? j = some row → t₀ ≤ row.time →
          row.setpoint = f₀.loop.altitude := by
  obtain ⟨f, hf, hlog⟩ := flown_of_fly h
  have hword : s.pace.passes ≤ 2 ^ 64 := (min_le_right _ _).trans (by decide)
  rw [trace_of_log hlog, engagedAt_of_log hlog]
  constructor
  · intro j row hrow
    obtain ⟨m, g, -, hm, hg, rfl⟩ := hf.exists_of_sample hrow
    exact hg.not_displaced (hm.trans hword) hstill hair
  · intro t₀ hat
    obtain ⟨k, f₀, hk, he⟩ := hf.exists_engages hat
    refine ⟨k, f₀, he, fun j row hrow hlater => ?_⟩
    obtain ⟨m, g, hpos, hm, hg, rfl⟩ := hf.exists_of_sample hrow
    have hlt := he.lt_of_le_timeOf (by omega) hpos hg hlater
    exact hg.setpoint_eq (hm.trans hword) hstill hair he hlt

/-- The brief flight, held from its third pass on. -/
def Script.heldLate : Script :=
  { brief with takeoff := 0.0, holdAt := 0.03 }

/-- The only sample of this flight is taken one pass after that. -/
theorem Script.fly_setpoint_heldLate :
    ∃ log row k, ∃ f₀ : Flight, heldLate.fly = .ok (.ok log) ∧
      log.engagedAt = some (Flight.timeOf heldLate.pace 3) ∧ log.trace.sample? 0 = some row ∧
      row.time = Flight.timeOf heldLate.pace 4 ∧ row.displaced = false ∧
      f₀.Engages heldLate k (Flight.timeOf heldLate.pace 3) ∧
      row.setpoint = f₀.loop.altitude := by
  obtain ⟨f₀, f, hlaunch, hpasses⟩ : ∃ f₀ f, heldLate.launch = .ok f₀ ∧
      Flight.passes heldLate heldLate.pace 4 1 f₀ = .ok f := exists_passes_succ (by decide +kernel)
  have hfour : heldLate.pace.passes = 4 := by decide +kernel
  have hroom : reserve heldLate.pace.samples sampleBytes = .ok () := by decide +kernel
  have hstride : heldLate.stride = 2 := by decide +kernel
  have hwarm : heldLate.warmUp = 1 := by decide +kernel
  obtain ⟨log, hlog⟩ := exists_fly hlaunch hroom (hfour ▸ hpasses)
  obtain ⟨g, hg, hrow⟩ := (trace_of_fly hlog).2 0 (by rw [hfour, hstride, hwarm]; decide)
  obtain ⟨f', hflown, hlog'⟩ := flown_of_fly hlog
  have hat : log.engagedAt = some (Flight.timeOf heldLate.pace 3) := by
    rw [engagedAt_of_log hlog']
    exact Flown.engagedAt_of_passes 3 (by decide +kernel) hflown (by rw [hfour]; decide)
  obtain ⟨hback, hsetpoint⟩ := fly_setpoint hlog rfl (.inr (by decide +kernel))
  obtain ⟨k, f₁, hengages, hkept⟩ := hsetpoint _ hat
  rw [hstride, hwarm] at hrow
  have hlater : Flight.timeOf heldLate.pace 3 ≤ Flight.timeOf heldLate.pace 4 := by decide +kernel
  exact ⟨log, _, k, f₁, hlog, hat, hrow, rfl, hback 0 _ hrow, hengages, hkept 0 _ hrow hlater⟩

end Autopilot
