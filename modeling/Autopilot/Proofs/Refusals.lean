import Autopilot.Proofs.Objections
import Autopilot.Proofs.SingleArithmetic

/-!
# Grounds for refusing a script

`Script.grounds` lists every ground on which a script is refused, in the order in which they count,
and says of each when it holds: in terms of the values of the numbers in the script, and of what is
no number or infinite, and not of the comparisons that are made in the checks.

A script is refused exactly when one of these grounds holds, with the first one that does, and it is
refused before it is flown.  If none holds, the flight comes to its end
(`Script.fly_eq_error_iff_first`).
-/

namespace Autopilot

open Float.Model Float.Model.UnpackedFloat

/-! ### The first ground -/

/-- A ground for refusing something: when it holds, and what the refusal says. -/
structure Ground (ε : Type) where
  holds : Prop
  error : ε

/-- The same ground, for another kind of refusal. -/
def Ground.map {ε ε' : Type} (f : ε → ε') (g : Ground ε) : Ground ε' :=
  ⟨g.holds, f g.error⟩

/-- The error belongs to a ground that holds, and no earlier one does. -/
inductive First {ε : Type} : List (Ground ε) → ε → Prop where
  | here {g : Ground ε} {gs : List (Ground ε)} (h : g.holds) : First (g :: gs) g.error
  | later {g : Ground ε} {gs : List (Ground ε)} {e : ε} (h : ¬ g.holds) (hlater : First gs e) :
    First (g :: gs) e

section First

variable {ε ε' : Type} {g : Ground ε} {gs hs : List (Ground ε)} {e : ε}

theorem first_nil : ¬ First ([] : List (Ground ε)) e :=
  fun h => nomatch h

theorem first_cons_iff :
    First (g :: gs) e ↔ (g.holds ∧ g.error = e) ∨ (¬ g.holds ∧ First gs e) := by
  constructor
  · intro h
    cases h with
    | here h => exact .inl ⟨h, rfl⟩
    | later h hlater => exact .inr ⟨h, hlater⟩
  · rintro (⟨h, rfl⟩ | ⟨h, hlater⟩)
    · exact .here h
    · exact .later h hlater

/-- The later grounds count only when no earlier one holds. -/
theorem first_append_iff :
    First (gs ++ hs) e ↔ First gs e ∨ (∀ g ∈ gs, ¬ g.holds) ∧ First hs e := by
  induction gs with
  | nil => simp [first_nil]
  | cons g gs ih =>
    rw [List.cons_append, first_cons_iff, first_cons_iff, ih, List.forall_mem_cons]
    tauto

theorem exists_first (hg : g ∈ gs) (h : g.holds) : ∃ e, First gs e := by
  induction gs with
  | nil => cases hg
  | cons g' gs ih =>
    by_cases hholds : g'.holds
    · exact ⟨g'.error, .here hholds⟩
    · rcases List.mem_cons.mp hg with rfl | hg
      · exact absurd h hholds
      · obtain ⟨e, hfirst⟩ := ih hg
        exact ⟨e, .later hholds hfirst⟩

theorem First.exists_mem (h : First gs e) : ∃ g ∈ gs, g.holds := by
  induction h with
  | here h => exact ⟨_, List.mem_cons_self, h⟩
  | later _ _ ih =>
    obtain ⟨g, hg, hholds⟩ := ih
    exact ⟨g, List.mem_cons_of_mem _ hg, hholds⟩

theorem first_map_iff {f : ε → ε'} {e' : ε'} :
    First (gs.map (Ground.map f)) e' ↔ ∃ e, First gs e ∧ f e = e' := by
  induction gs with
  | nil => simp [first_nil]
  | cons g gs ih =>
    rw [List.map_cons, first_cons_iff, ih]
    constructor
    · rintro (⟨h, rfl⟩ | ⟨h, e, hlater, rfl⟩)
      · exact ⟨g.error, .here h, rfl⟩
      · exact ⟨e, .later h hlater, rfl⟩
    · rintro ⟨e, hfirst, rfl⟩
      cases hfirst with
      | here h => exact .inl ⟨h, rfl⟩
      | later h hlater => exact .inr ⟨h, e, hlater, rfl⟩

end First

/-- The first of the errors is that of the first ground. -/
def Grounded {ε : Type} (errors : List ε) (gs : List (Ground ε)) : Prop :=
  ∀ e, errors.head? = some e ↔ First gs e

namespace Grounded

variable {ε ε' α : Type} {es fs : List ε} {gs hs : List (Ground ε)}

theorem nil : Grounded ([] : List ε) [] := by
  intro e
  simp [first_nil]

theorem errorIf {bad holds : Prop} [Decidable bad] (h : bad ↔ holds) (e : ε) :
    Grounded (errorIf bad e) [⟨holds, e⟩] := by
  intro e'
  rw [first_cons_iff, ← h, Autopilot.errorIf]
  split_ifs with hbad <;> simp [hbad, first_nil]

/-- There is nothing to report exactly when no ground holds. -/
theorem eq_nil_iff (h : Grounded es gs) : es = [] ↔ ∀ g ∈ gs, ¬ g.holds := by
  constructor
  · rintro rfl g hg hholds
    obtain ⟨e, hfirst⟩ := exists_first hg hholds
    cases (h e).mpr hfirst
  · intro hnone
    cases es with
    | nil => rfl
    | cons e es =>
      obtain ⟨g, hg, hholds⟩ := ((h e).mp rfl).exists_mem
      exact absurd hholds (hnone g hg)

theorem append (h : Grounded es gs) (h' : Grounded fs hs) : Grounded (es ++ fs) (gs ++ hs) := by
  intro e
  rw [first_append_iff, ← h e, ← h' e, ← h.eq_nil_iff]
  -- The second list is looked at only behind an empty one.
  cases es with
  | nil => simp
  | cons e' es => simp

theorem map (h : Grounded es gs) (f : ε → ε') : Grounded (es.map f) (gs.map (Ground.map f)) := by
  intro e'
  rw [List.head?_map, Option.map_eq_some_iff, first_map_iff]
  exact exists_congr fun e => and_congr_left' (h e)

/-- The errors of the members of a list that are picked, in their order. -/
theorem filter (l : List α) (p : α → Bool) (f : α → ε) :
    Grounded ((l.filter p).map f) (l.map fun a => ⟨p a = true, f a⟩) := by
  induction l with
  | nil => exact nil
  | cons a l ih =>
    have hcons : ((a :: l).filter p).map f =
        Autopilot.errorIf (p a = true) (f a) ++ (l.filter p).map f := by
      rw [List.filter_cons, Autopilot.errorIf]
      split_ifs <;> rfl
    rw [hcons]
    exact (errorIf Iff.rfl (f a)).append ih

end Grounded

/-! ### Values -/

section Values

variable {x : Float32} {q : ℚ}

/-- A weight is a number from zero to one. -/
theorem isWeight_iff : isWeight x = true ↔ ∃ q, HasValue x q ∧ 0 ≤ q ∧ q ≤ 1 := by
  have hzero : HasValue 0.0 0 := @hasValue_singleOfInt 0 (by decide)
  unfold isWeight
  rw [Bool.and_eq_true, Bool.and_eq_true, decide_eq_true_iff, decide_eq_true_iff,
    isFinite_iff_exists_hasValue]
  constructor
  · rintro ⟨⟨⟨q, hx⟩, hlow⟩, hhigh⟩
    exact ⟨q, hx, (hzero.le_iff hx).mp hlow, (hx.le_iff hasValue_one).mp hhigh⟩
  · rintro ⟨q, hx, hlow, hhigh⟩
    exact ⟨⟨⟨q, hx⟩, (hzero.le_iff hx).mpr hlow⟩, (hx.le_iff hasValue_one).mpr hhigh⟩

end Values

section Doubles

variable {x y : Float}

theorem not_lt_iff_rank_le :
    ¬ x < y ↔ x.isNaN = true ∨ y.isNaN = true ∨ rank y ≤ rank x := by
  rw [double_lt_iff, isNumber_iff, isNumber_iff, not_and_or, not_and_or, not_lt,
    Bool.not_eq_false, Bool.not_eq_false]

theorem isNaN_eq_false_of_isFinite (h : x.isFinite = true) : x.isNaN = false := by
  change x.toModel.unpack.isFinite = true at h
  change x.toModel.unpack.isNaN = false
  cases hunpack : x.toModel.unpack with
  | notANumber =>
    rw [hunpack] at h
    cases h
  | infinity s => rfl
  | zero s => rfl
  | finite s m e hm => rfl

/-- A time is after the start when it is finite and its value is positive. -/
theorem not_isFinite_or_le_zero_iff :
    (!x.isFinite || x ≤ 0.0) = true ↔ x.isFinite = false ∨ rank x ≤ 0 := by
  have hzero : rank 0.0 = 0 := rfl
  rw [Bool.or_eq_true, Bool.not_eq_true', decide_eq_true_iff, double_le_iff, isNumber_iff,
    isNumber_iff, hzero]
  constructor
  · rintro (h | ⟨-, -, h⟩)
    · exact .inl h
    · exact .inr h
  · rintro (h | h)
    · exact .inl h
    -- The rank of what is no number says nothing, but that is refused already.
    · cases hfinite : x.isFinite with
      | false => exact .inl rfl
      | true => exact .inr ⟨isNaN_eq_false_of_isFinite hfinite, rfl, h⟩

end Doubles

/-! ### The grounds of a script -/

/-- The grounds for refusing some settings. -/
def Settings.grounds (s : Settings) : List (Ground SettingsError) := [
  ⟨¬ ∃ q, HasValue s.weights.altitude q ∧ 0 ≤ q ∧ q ≤ 1,
    .weightOutOfRange .altitude s.weights.altitude⟩,
  ⟨¬ ∃ q, HasValue s.weights.velocity q ∧ 0 ≤ q ∧ q ≤ 1,
    .weightOutOfRange .velocity s.weights.velocity⟩,
  ⟨s.countsPerGravity.toNat = 0, .noAccelerometerScale⟩,
  ⟨s.pulses.high.toInt ≤ s.pulses.low.toInt, .emptyPulseRange s.pulses.low s.pulses.high⟩]

/-- The ground for refusing the window of a disturbance, if there is one: an end of it is no number,
or it does not end after its start. -/
def windowGrounds (disturbance : Disturbance) (window : Option Window) :
    List (Ground ScriptError) :=
  window.toList.map fun w =>
    ⟨w.start.isNaN = true ∨ w.stop.isNaN = true ∨ rank w.stop ≤ rank w.start,
      .emptyWindow disturbance w⟩

/-- The grounds for refusing the sensors.  They count for a sensor that is not fitted, too. -/
def Fitment.grounds (f : Fitment) : List (Ground ScriptError) := [
  ⟨(f.baroNoise * f.noiseScale).isFinite = false, .noise .barometer⟩,
  ⟨(f.rangerNoise * f.noiseScale).isFinite = false, .noise .ranger⟩,
  ⟨(f.accelNoise * f.noiseScale).isFinite = false, .noise .accelerometer⟩]

/-- The grounds for refusing a script. -/
def Script.grounds (s : Script) : List (Ground ScriptError) :=
  s.settings.grounds.map (Ground.map .settings) ++
  [⟨s.duration.isFinite = false ∨ rank s.duration ≤ 0, .duration s.duration⟩,
    ⟨s.rate.toNat = 0 ∨ 1000000 < s.rate.toNat, .rate s.rate⟩] ++
  windowGrounds .stick (s.stickMove.map (·.window)) ++
  windowGrounds .bank (s.bank.map (·.window)) ++
  [⟨s.source = .baro ∧ s.fitment.hasBaro = false ∨ s.source = .ranger ∧ s.fitment.hasRanger = false,
    .sensorMissing s.source⟩] ++
  s.fitment.grounds

theorem Settings.grounded (s : Settings) : Grounded s.objections s.grounds := by
  have hweight : ∀ x : Float32,
      (!isWeight x) = true ↔ ¬ ∃ q, HasValue x q ∧ 0 ≤ q ∧ q ≤ 1 := by
    intro x
    rw [Bool.not_eq_true', ← isWeight_iff, Bool.not_eq_true]
  have hscale : s.countsPerGravity = 0 ↔ s.countsPerGravity.toNat = 0 := by
    rw [← UInt16.toNat_inj]
    rfl
  exact (((Grounded.errorIf (hweight _) _).append (.errorIf (hweight _) _)).append
    (.errorIf hscale _)).append (.errorIf Int16.le_iff_toInt_le _)

theorem windowObjections_grounded (disturbance : Disturbance) (window : Option Window) :
    Grounded (windowObjections disturbance window) (windowGrounds disturbance window) := by
  cases window with
  | none => exact .nil
  | some w => exact .errorIf not_lt_iff_rank_le _

theorem Fitment.grounded (f : Fitment) :
    Grounded (f.unbounded.map ScriptError.noise) f.grounds := by
  have h := Grounded.filter [Sensor.barometer, .ranger, .accelerometer]
    (fun sensor => !(f.deviation sensor).isFinite) ScriptError.noise
  simp only [Bool.not_eq_true'] at h
  exact h

namespace Script

theorem grounded (s : Script) : Grounded s.objections s.grounds := by
  have hrate : s.rate = 0 ∨ 1000000 < s.rate ↔ s.rate.toNat = 0 ∨ 1000000 < s.rate.toNat := by
    rw [← UInt32.toNat_inj, UInt32.lt_iff_toNat_lt]
    rfl
  have hsensor : (!s.fitment.has s.source) = true ↔
      s.source = .baro ∧ s.fitment.hasBaro = false ∨
        s.source = .ranger ∧ s.fitment.hasRanger = false := by
    cases s.source <;> simp [Fitment.has]
  unfold objections planObjections grounds
  refine Grounded.append (.append (.append (.append ?_ (windowObjections_grounded _ _))
    (windowObjections_grounded _ _)) (.errorIf hsensor _)) s.fitment.grounded
  rw [List.append_assoc]
  exact (s.settings.grounded.map _).append
    ((Grounded.errorIf not_isFinite_or_le_zero_iff _).append (.errorIf hrate _))

/-- A script is refused with the error of the first ground that holds, before anything is flown, and
for no other reason.  If no ground holds, then the flight begins and comes to its end. -/
theorem fly_eq_error_iff_first (s : Script) :
    (∀ e, s.fly = .error e ↔ First s.grounds e) ∧
      (∀ e, s.fly = .error e → s.launch = .error e) ∧
      ((∀ g ∈ s.grounds, ¬ g.holds) →
        ∃ flight, s.launch = .ok flight ∧ s.fly = .ok (s.complete flight)) := by
  have hfails : ∀ e, s.fly = .error e ↔ First s.grounds e :=
    fun e => (s.failsWith_fly e).trans (s.grounded e)
  have hfly : s.fly = s.complete <$> s.launch := rfl
  refine ⟨hfails, ?_, ?_⟩
  · intro e he
    rw [hfly] at he
    cases hlaunch : s.launch with
    | error e' =>
      rw [hlaunch] at he
      exact congrArg Except.error (Except.error.inj he)
    | ok flight =>
      rw [hlaunch] at he
      cases he
  · intro hnone
    cases hlaunch : s.launch with
    | error e =>
      have herror : s.fly = .error e := by
        rw [hfly, hlaunch]
        rfl
      obtain ⟨g, hg, hholds⟩ := ((hfails e).mp herror).exists_mem
      exact absurd hholds (hnone g hg)
    | ok flight =>
      refine ⟨flight, rfl, ?_⟩
      rw [hfly, hlaunch]
      rfl

/-- A script with infinite noise of a ranger that is not fitted. -/
def noisy : Script where
  fitment := { rangerNoise := 1.0 / 0.0 }

/-- The noise of the ranger is the only ground against this script, and a script without it is
flown. -/
theorem fly_eq_error_iff_first_noisy :
    noisy.fly = .error (.noise .ranger) ∧ noisy.launch = .error (.noise .ranger) ∧
      ∃ flight, launch {} = .ok flight ∧ fly {} = .ok (complete {} flight) := by
  have hfirst : First noisy.grounds (.noise .ranger) := (noisy.grounded _).mp (by decide +kernel)
  have hnone : ∀ g ∈ grounds {}, ¬ g.holds := (grounded {}).eq_nil_iff.mp (by decide +kernel)
  obtain ⟨herror, hlaunch, -⟩ := fly_eq_error_iff_first noisy
  obtain ⟨-, -, hflown⟩ := fly_eq_error_iff_first {}
  have hfly := (herror _).mpr hfirst
  exact ⟨hfly, hlaunch _ hfly, hflown hnone⟩

end Script

end Autopilot
