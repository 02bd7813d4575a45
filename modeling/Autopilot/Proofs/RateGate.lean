import Autopilot.Proofs.SensorCalls
import Mathlib.Data.UInt

/-!
# The gate of the estimator on a true clock

A `Fusion.TimedCall` has a time that counts microseconds without end; the estimator sees it on its
own clock, which wraps around at the end of a word.  As long as the gaps between calls are shorter
than the clock by one period, this makes no difference: a call is taken exactly when one period has
truly passed since the last call that was taken, and the time that the estimate reckons with is the
true one (`Fusion.updateAll_gate`).

Two facts carry this.  The memory after any such run has the true time of the last call that was
taken, up to whole turns of the clock (`Timely.updateAll`).  And the estimator reads its clock only
for differences, so that it does not see when the whole clock is moved (`Fusion.update_ahead`).
-/

namespace Autopilot

namespace Fusion

/-! ### Moved clocks -/

/-- The memory on a clock that is ahead by `d`. -/
def ahead (d : UInt32) (f : Fusion) : Fusion :=
  { f with lastTime := f.lastTime + d }

/-- The answer on a clock that is ahead by `d`. -/
def Update.ahead (d : UInt32) (u : Update) : Update :=
  { u with fusion := u.fusion.ahead d }

section Ahead

variable (d : UInt32) (f : Fusion) (s : Settings) (now : UInt32) (r : Readings)

theorem isEarly_ahead : (f.ahead d).isEarly (now + d) = f.isEarly now := by
  unfold isEarly ahead
  rw [add_sub_add_right_eq_sub]

theorem absorbed_ahead : (f.ahead d).absorbed s r = (f.absorbed s r).ahead d := by
  unfold absorbed
  cases accelWindow r.accel <;> rfl

theorem mixedVelocity_ahead :
    (f.ahead d).mixedVelocity s (now + d) r = f.mixedVelocity s now r := by
  have helapsed : now + d - (f.ahead d).lastTime = now - f.lastTime :=
    add_sub_add_right_eq_sub now f.lastTime d
  unfold mixedVelocity
  rw [absorbed_ahead, helapsed]
  rfl

theorem blendedAltitude_ahead : (f.ahead d).blendedAltitude s r = f.blendedAltitude s r := by
  unfold blendedAltitude
  rw [absorbed_ahead]
  rfl

theorem estimate_ahead :
    (f.ahead d).estimate s (now + d) r =
      (fun (sample, next) => (sample, next.ahead d)) <$> f.estimate s now r := by
  rw [estimate_eq, estimate_eq, blendedAltitude_ahead, mixedVelocity_ahead]
  cases f.blendedAltitude s r with
  | error fault => rfl
  | ok altitude =>
    rw [ok_bind, ok_bind]
    cases deadband (roundEven32 (f.mixedVelocity s now r)) varioBand with
    | error fault => rfl
    | ok vario =>
      simp only [ok_bind, pure_eq_ok, map_ok, estimated, mixedVelocity_ahead, absorbed_ahead]
      rfl

/-- The estimator does not see when its clock and its memory are moved together. -/
theorem update_ahead :
    (f.ahead d).update s (now + d) r = Update.ahead d <$> f.update s now r := by
  unfold update
  rw [isEarly_ahead]
  split_ifs
  · rfl
  · rfl
  · rw [estimate_ahead]
    cases f.estimate s now r <;> rfl

end Ahead

/-! ### Calls on a true clock -/

/-- A call of the estimator at a true time, in microseconds since the clock was at zero. -/
structure TimedCall where
  time : Nat
  readings : Readings
  settings : Settings := {}
deriving DecidableEq, Repr

/-- The call on the clock of the estimator. -/
def TimedCall.call (c : TimedCall) : Call :=
  { now := .ofNat c.time, readings := c.readings, settings := c.settings }

/-- The answer to a call. -/
def answer (f : Fusion) (c : TimedCall) : Except Fault Update :=
  f.update c.settings c.call.now c.readings

/-- One call comes after another, and the gap between them is shorter than the clock by one
period. -/
def TimedCall.Follows (before after : TimedCall) : Prop :=
  before.time ≤ after.time ∧ after.time - before.time ≤ 2 ^ 32 - 25000

instance : DecidableRel TimedCall.Follows := fun _ _ => inferInstanceAs (Decidable (_ ∧ _))

/-- The calls that were not answered as too early. -/
def taken (calls : List TimedCall) (past : List Update) : List TimedCall :=
  ((calls.zip past).filter fun (_, u) => u.estimate ≠ .early).map Prod.fst

/-- The time of the last of some calls, and `before` if there is none. -/
def lastTaken (before : Nat) (calls : List TimedCall) : Nat :=
  (calls.map TimedCall.time).getLast?.getD before

/-- The calls come in order behind the time `last`, and no clock turns between two of them. -/
structure Timely (last : Nat) (calls : List TimedCall) : Prop where
  first : ∀ c ∈ calls.head?, last ≤ c.time ∧ c.time - last < 2 ^ 32
  chain : calls.IsChain TimedCall.Follows

section Calls

variable {f g : Fusion} {c : TimedCall} {calls later : List TimedCall} {past : List Update}
  {u : Update} {last : Nat}

theorem taken_of_early (h : u.estimate = .early) :
    taken (c :: calls) (u :: past) = taken calls past := by
  simp [taken, h]

theorem taken_of_ne_early (h : u.estimate ≠ .early) :
    taken (c :: calls) (u :: past) = c :: taken calls past := by
  simp [taken, h]

theorem lastTaken_cons (before : Nat) (c : TimedCall) (calls : List TimedCall) :
    lastTaken before (c :: calls) = lastTaken c.time calls := by
  unfold lastTaken
  rw [List.map_cons, getD_getLast?_cons]

theorem updateAll_cons_eq_ok_iff :
    f.updateAll ((c :: calls).map TimedCall.call) = .ok (past, g) ↔
      ∃ u rest, f.answer c = .ok u ∧ u.fusion.updateAll (calls.map TimedCall.call) = .ok (rest, g) ∧
        past = u :: rest := by
  constructor
  · intro h
    obtain ⟨u, hu, h⟩ := bind_eq_ok_iff.mp h
    obtain ⟨⟨rest, g'⟩, hrest, h⟩ := bind_eq_ok_iff.mp h
    obtain ⟨rfl, rfl⟩ := Prod.mk.inj (Except.ok.inj h)
    exact ⟨u, rest, hu, hrest, rfl⟩
  · rintro ⟨u, rest, hu, hrest, rfl⟩
    apply bind_eq_ok_iff.mpr
    refine ⟨u, hu, ?_⟩
    dsimp only
    rw [hrest, ok_bind, pure_eq_ok]

/-- A call that is answered as too early changes nothing, and it was too early. -/
theorem isEarly_of_answer (hu : f.answer c = .ok u) (h : u.estimate = .early) :
    f.isEarly c.call.now = true ∧ u.fusion = f := by
  obtain rfl := eq_updated_of_update hu
  have hearly := isEarly_of_updated h
  rw [updated_of_isEarly hearly]
  exact ⟨hearly, rfl⟩

/-- Every other call leaves its time in the memory. -/
theorem lastTime_of_answer (hu : f.answer c = .ok u) (h : u.estimate ≠ .early) :
    ¬ f.isEarly c.call.now = true ∧ u.fusion.lastTime = c.call.now := by
  obtain rfl := eq_updated_of_update hu
  have hdue : ¬ f.isEarly c.call.now = true := by
    intro hearly
    rw [updated_of_isEarly hearly] at h
    exact h rfl
  refine ⟨hdue, ?_⟩
  unfold updated
  rw [if_neg hdue]
  split_ifs <;> rfl

/-- A run takes the same course without the calls that were too early. -/
theorem updateAll_taken (hrun : f.updateAll (calls.map TimedCall.call) = .ok (past, g)) :
    f.updateAll ((taken calls past).map TimedCall.call) =
      .ok (past.filter fun u => u.estimate ≠ .early, g) := by
  induction calls generalizing f past with
  | nil =>
    obtain ⟨rfl, rfl⟩ := Prod.mk.inj (Except.ok.inj hrun)
    rfl
  | cons c calls ih =>
    obtain ⟨u, rest, hu, hrest, rfl⟩ := updateAll_cons_eq_ok_iff.mp hrun
    by_cases hearly : u.estimate = .early
    · rw [taken_of_early hearly, List.filter_cons_of_neg (by simpa using hearly)]
      obtain ⟨-, hsame⟩ := isEarly_of_answer hu hearly
      rw [hsame] at hrest
      exact ih hrest
    · rw [taken_of_ne_early hearly, List.filter_cons_of_pos (by simpa using hearly)]
      exact updateAll_cons_eq_ok_iff.mpr ⟨u, _, hu, ih hrest, rfl⟩

/-! ### The true time -/

section Time

variable (hlast : f.lastTime.toNat = last % 2 ^ 32)

include hlast

/-- The clock tells how long ago the last call was taken. -/
theorem elapsed_call (h : Timely last (c :: later)) :
    (c.call.now - f.lastTime).toNat = c.time - last := by
  obtain ⟨hle, hlt⟩ := h.first c rfl
  have hnow : c.call.now.toNat = c.time % 2 ^ 32 := UInt32.toNat_ofNat'
  exact toNat_sub_of_mod hnow hlast hle hlt

theorem isEarly_call_iff (h : Timely last (c :: later)) :
    f.isEarly c.call.now = true ↔ c.time - last < 25000 := by
  unfold isEarly
  rw [decide_eq_true_iff, UInt32.lt_iff_toNat_lt, elapsed_call hlast h]
  rfl

/-- The memory after a run has the true time of the last call that was taken, and the calls behind
the run are in time for it.  The calls that were taken are at least one period apart. -/
theorem Timely.updateAll (h : Timely last (calls ++ later))
    (hrun : f.updateAll (calls.map TimedCall.call) = .ok (past, g)) :
    g.lastTime.toNat = lastTaken last (taken calls past) % 2 ^ 32 ∧
      Timely (lastTaken last (taken calls past)) later ∧
      (last :: (taken calls past).map TimedCall.time).IsChain (fun a b => a + 25000 ≤ b) := by
  induction calls generalizing f past last with
  | nil =>
    obtain ⟨rfl, rfl⟩ := Prod.mk.inj (Except.ok.inj hrun)
    exact ⟨hlast, h, .singleton last⟩
  | cons c calls ih =>
    obtain ⟨u, rest, hu, hrest, rfl⟩ := updateAll_cons_eq_ok_iff.mp hrun
    rw [List.cons_append] at h
    obtain ⟨hle, hlt⟩ := h.first c rfl
    obtain ⟨hnext, hchain⟩ := List.isChain_cons.mp h.chain
    by_cases hearly : u.estimate = .early
    · rw [taken_of_early hearly]
      obtain ⟨hgate, hsame⟩ := isEarly_of_answer hu hearly
      rw [hsame] at hrest
      rw [isEarly_call_iff hlast h] at hgate
      -- Less than a period has passed, so the gap to the next call fits behind it.
      refine ih hlast ⟨fun c' hc' => ?_, hchain⟩ hrest
      obtain ⟨hle', hgap⟩ := hnext c' hc'
      omega
    · rw [taken_of_ne_early hearly, lastTaken_cons]
      obtain ⟨hgate, htime⟩ := lastTime_of_answer hu hearly
      rw [isEarly_call_iff hlast h] at hgate
      have hlast' : u.fusion.lastTime.toNat = c.time % 2 ^ 32 := by
        rw [htime]
        exact UInt32.toNat_ofNat'
      have htimely : Timely c.time (calls ++ later) := by
        refine ⟨fun c' hc' => ?_, hchain⟩
        obtain ⟨hle', hgap⟩ := hnext c' hc'
        omega
      obtain ⟨hend, hrest', hspaced⟩ := ih hlast' htimely hrest
      refine ⟨hend, hrest', ?_⟩
      rw [List.map_cons]
      exact hspaced.cons_cons (by omega)

end Time

/-! ### The gate -/

/-- The call comes `elapsed` microseconds after the last one that was taken, and the estimator goes
by that. -/
structure Gated (f : Fusion) (c : TimedCall) (elapsed : Nat) : Prop where
  /-- Before one period has passed, nothing changes. -/
  early : elapsed < 25000 → f.answer c = .ok ⟨.early, f, []⟩
  taken_iff : ∀ u, f.answer c = .ok u → (u.estimate ≠ .early ↔ 25000 ≤ elapsed)
  reckoned : (c.call.now - f.lastTime).toNat = elapsed
  /-- The answer is that on a clock which was at zero at the last call that was taken. -/
  unwrapped : f.answer c = Update.ahead f.lastTime <$>
    ({ f with lastTime := 0 } : Fusion).update c.settings (.ofNat elapsed) c.readings

theorem gated_of_timely (hlast : f.lastTime.toNat = last % 2 ^ 32) (h : Timely last [c]) :
    f.Gated c (c.time - last) := by
  have hgate := isEarly_call_iff hlast h
  have helapsed := elapsed_call hlast h
  refine ⟨fun hearly => ?_, fun u hu => ?_, helapsed, ?_⟩
  · unfold answer
    rw [update_eq fun hover => hover.due (hgate.mpr hearly), updated_of_isEarly (hgate.mpr hearly)]
  · constructor
    · intro hne
      have hdue := (lastTime_of_answer hu hne).1
      rw [hgate] at hdue
      omega
    · intro hdue hearly
      have hgate' := hgate.mp (isEarly_of_answer hu hearly).1
      omega
  · have hstart : ({ f with lastTime := 0 } : Fusion).ahead f.lastTime = f := by
      unfold ahead
      rw [UInt32.zero_add]
    have hnow : c.call.now = .ofNat (c.time - last) + f.lastTime := by
      rw [← helapsed, UInt32.ofNat_toNat, UInt32.sub_add_cancel]
    rw [← update_ahead, hstart, ← hnow]
    rfl

/-- Over any run of a fresh estimator whose calls come in order, with gaps that are shorter than the
clock by one period, the gate goes by the true time: the next call is taken exactly when one period
has passed since the last one that was taken, or since zero, and it reckons with just that time.  So
no two calls are taken within one period, and the calls that came too early could be left out. -/
theorem updateAll_gate (hfirst : ∀ c₀ ∈ (calls ++ [c]).head?, c₀.time < 2 ^ 32)
    (hchain : (calls ++ [c]).IsChain TimedCall.Follows)
    (hrun : updateAll {} (calls.map TimedCall.call) = .ok (past, f)) :
    f.Gated c (c.time - lastTaken 0 (taken calls past)) ∧
      (0 :: (taken calls past).map TimedCall.time).IsChain (fun a b => a + 25000 ≤ b) ∧
      updateAll {} ((taken calls past).map TimedCall.call) =
        .ok (past.filter fun u => u.estimate ≠ .early, f) := by
  have htimely : Timely 0 (calls ++ [c]) :=
    ⟨fun c₀ hc₀ => ⟨Nat.zero_le _, hfirst c₀ hc₀⟩, hchain⟩
  obtain ⟨hlast, hnext, hspaced⟩ := htimely.updateAll rfl hrun
  exact ⟨gated_of_timely hlast hnext, hspaced, updateAll_taken hrun⟩

/-- A barometer that is ready and reads this altitude. -/
def atAltitude (altitude : Int32) : Readings :=
  { baro := some (.ready altitude) }

/-- Calls on both sides of the first turn of the clock.  The second and the last come too early. -/
def overTheTurn : List TimedCall :=
  [⟨25000, atAltitude 100, {}⟩, ⟨40000, atAltitude 110, {}⟩, ⟨4294960000, atAltitude 120, {}⟩,
    ⟨4294970000, atAltitude 130, {}⟩]

/-- A call one period after the last one before the turn, when the clock has come to 17704. -/
def behindTheTurn : TimedCall :=
  ⟨4294985000, atAltitude 140, {}⟩

/-- The call behind the turn has just one period behind it. -/
theorem updateAll_gate_overTheTurn :
    (∀ c₀ ∈ (overTheTurn ++ [behindTheTurn]).head?, c₀.time < 2 ^ 32) ∧
      (overTheTurn ++ [behindTheTurn]).IsChain TimedCall.Follows ∧
      ∃ past f, updateAll {} (overTheTurn.map TimedCall.call) = .ok (past, f) ∧
        (taken overTheTurn past).map TimedCall.time = [25000, 4294960000] ∧
        f.Gated behindTheTurn 25000 := by
  have hfirst : ∀ c₀ ∈ (overTheTurn ++ [behindTheTurn]).head?, c₀.time < 2 ^ 32 := by
    intro c₀ hc₀
    obtain rfl := Option.some_inj.mp hc₀
    decide
  have hchain : (overTheTurn ++ [behindTheTurn]).IsChain TimedCall.Follows := by
    decide
  have hrun : (fun run => (taken overTheTurn run.1).map TimedCall.time) <$>
      updateAll {} (overTheTurn.map TimedCall.call) = .ok [25000, 4294960000] := by
    decide +kernel
  obtain ⟨⟨past, f⟩, hpast, htaken⟩ := map_eq_ok_iff.mp hrun
  obtain ⟨hgated, -, -⟩ := updateAll_gate hfirst hchain hpast
  unfold lastTaken at hgated
  rw [htaken] at hgated
  exact ⟨hfirst, hchain, past, f, hpast, htaken, hgated⟩

end Calls

end Fusion

end Autopilot
