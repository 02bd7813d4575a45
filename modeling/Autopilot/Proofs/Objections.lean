import Autopilot.Cli.Plan
import Autopilot.Proofs.Double
import Autopilot.Proofs.Flights
import Autopilot.Sweep

/-!
# Objections to a flight

`Script.objections` lists everything that stands against a script: what is wrong with its settings,
its times, its windows, its sensor, and the noise of its instruments.  A script is refused with the
first of them, and flown if there is none (`Script.failsWith_fly`).

The flags of a session are checked as well before a script is made from them.  Of the objections to
a script these checks leave only the two windows and a missing ranger (`Flags.objections`): what the
flags and the settings file pass on is inside bounds that are narrower than those of a flight
(`Flags.objections_of_script`).
-/

namespace Autopilot

/-! ### The first of some errors -/

/-- The computation fails with the first of these errors, and has a result if there is none. -/
def FailsWith {ε α : Type} (x : Except ε α) (errors : List ε) : Prop :=
  ∀ e, x = .error e ↔ errors.head? = some e

/-- The error, under its condition. -/
def errorIf {ε : Type} (bad : Prop) [Decidable bad] (e : ε) : List ε :=
  if bad then [e] else []

theorem errorIf_of_not {ε : Type} {bad : Prop} [Decidable bad] (h : ¬ bad) (e : ε) :
    errorIf bad e = [] :=
  if_neg h

theorem eq_of_mem_errorIf {ε : Type} {bad : Prop} [Decidable bad] {e e' : ε}
    (h : e ∈ errorIf bad e') : e = e' := by
  unfold errorIf at h
  split_ifs at h
  · exact List.mem_singleton.mp h
  · cases h

namespace FailsWith

variable {ε ε' α β : Type} {x : Except ε α} {es fs : List ε}

theorem ok (a : α) : FailsWith (.ok a : Except ε α) [] := by
  intro e
  simp

theorem error (e : ε) (es : List ε) : FailsWith (.error e : Except ε α) (e :: es) := by
  intro e'
  simp

theorem eq_nil {a : α} (h : FailsWith (.ok a : Except ε α) es) : es = [] := by
  cases es with
  | nil => rfl
  | cons e es => cases (h e).mpr rfl

theorem exists_cons {e : ε} (h : FailsWith (.error e : Except ε α) es) :
    ∃ rest, es = e :: rest := by
  have hhead := (h e).mp rfl
  cases es with
  | nil => cases hhead
  | cons e' es =>
    obtain rfl := Option.some.inj hhead
    exact ⟨es, rfl⟩

/-- The errors of a second computation come after those of the first.  They count only when the
first one has a result. -/
theorem bind {f : α → Except ε β} (hx : FailsWith x es)
    (hf : ∀ a, x = .ok a → FailsWith (f a) fs) : FailsWith (x >>= f) (es ++ fs) := by
  cases x with
  | ok a =>
    obtain rfl := hx.eq_nil
    exact hf a rfl
  | error e =>
    obtain ⟨rest, rfl⟩ := hx.exists_cons
    exact error e (rest ++ fs)

theorem map (h : FailsWith x es) (g : α → β) : FailsWith (g <$> x) es := by
  intro e
  rw [← h e]
  cases x <;> simp

theorem mapError (h : FailsWith x es) (g : ε → ε') : FailsWith (x.mapError g) (es.map g) := by
  cases x with
  | ok a =>
    obtain rfl := h.eq_nil
    exact ok a
  | error e =>
    obtain ⟨rest, rfl⟩ := h.exists_cons
    exact error (g e) (rest.map g)

theorem ite {bad : Prop} [Decidable bad] (h : FailsWith x es) (e : ε) :
    FailsWith (if bad then .error e else x) (errorIf bad e ++ es) := by
  unfold errorIf
  split_ifs
  · exact error e es
  · exact h

end FailsWith

/-! ### Objections to a script -/

/-- What is wrong with some settings. -/
def Settings.objections (s : Settings) : List SettingsError :=
  errorIf (!isWeight s.weights.altitude)
    (SettingsError.weightOutOfRange .altitude s.weights.altitude) ++
  errorIf (!isWeight s.weights.velocity)
    (SettingsError.weightOutOfRange .velocity s.weights.velocity) ++
  errorIf (s.countsPerGravity = 0) SettingsError.noAccelerometerScale ++
  errorIf (s.pulses.high ≤ s.pulses.low)
    (SettingsError.emptyPulseRange s.pulses.low s.pulses.high)

/-- What is wrong with the window of a disturbance. -/
def windowObjections (disturbance : Disturbance) : Option Window → List ScriptError
  | none => []
  | some w => errorIf (¬ w.start < w.stop) (.emptyWindow disturbance w)

/-- The sensors whose noise has no finite deviation, in the order in which they are made ready.  A
sensor counts also when it is not fitted. -/
def Fitment.unbounded (f : Fitment) : List Sensor :=
  [.barometer, .ranger, .accelerometer].filter fun sensor => !(f.deviation sensor).isFinite

/-- What is wrong with the plan of a script. -/
def Script.planObjections (s : Script) : List ScriptError :=
  s.settings.objections.map ScriptError.settings ++
  errorIf (!s.duration.isFinite || s.duration ≤ 0.0) (ScriptError.duration s.duration) ++
  errorIf (s.rate = 0 ∨ 1000000 < s.rate) (ScriptError.rate s.rate) ++
  windowObjections .stick (s.stickMove.map (·.window)) ++
  windowObjections .bank (s.bank.map (·.window)) ++
  errorIf (!s.fitment.has s.source) (ScriptError.sensorMissing s.source)

/-- What is wrong with a script: the plan comes before the instruments. -/
def Script.objections (s : Script) : List ScriptError :=
  s.planObjections ++ s.fitment.unbounded.map ScriptError.noise

theorem Settings.failsWith_check (s : Settings) : FailsWith s.check s.objections := by
  unfold Settings.check Settings.objections
  simp only [List.append_assoc]
  refine .ite (.ite (.ite ?_ _) _) _
  rw [← List.append_nil (errorIf _ _)]
  exact .ite (.ok ()) _

theorem failsWith_checkWindow (disturbance : Disturbance) (window : Option Window) :
    FailsWith (Script.checkWindow disturbance window) (windowObjections disturbance window) := by
  cases window with
  | none => exact .ok ()
  | some w =>
    unfold Script.checkWindow windowObjections errorIf
    dsimp only
    split_ifs
    · exact .ok ()
    · exact .error _ []

theorem exists_of_mem_windowObjections {disturbance : Disturbance} {window : Option Window}
    {e : ScriptError} (h : e ∈ windowObjections disturbance window) :
    ∃ w, e = .emptyWindow disturbance w := by
  cases window with
  | none => cases h
  | some w => exact ⟨w, eq_of_mem_errorIf h⟩

theorem Fitment.failsWith_noise (f : Fitment) (sensor : Sensor) :
    FailsWith (f.noise sensor) ([sensor].filter fun sensor => !(f.deviation sensor).isFinite) := by
  unfold Fitment.noise
  cases hfinite : (f.deviation sensor).isFinite with
  | true =>
    rw [List.filter_cons_of_neg (by simp [hfinite])]
    exact .ok _
  | false =>
    rw [List.filter_cons_of_pos (by simp [hfinite])]
    exact .error sensor []

theorem Instruments.failsWith_ofFitment (f : Fitment) (countsPerGravity : UInt16) :
    FailsWith (Instruments.ofFitment f countsPerGravity) f.unbounded := by
  have hsplit : f.unbounded =
      [Sensor.barometer].filter (fun sensor => !(f.deviation sensor).isFinite) ++
        ([Sensor.ranger].filter (fun sensor => !(f.deviation sensor).isFinite) ++
          [Sensor.accelerometer].filter fun sensor => !(f.deviation sensor).isFinite) := by
    rw [← List.filter_append, ← List.filter_append]
    rfl
  rw [hsplit]
  refine ((f.failsWith_noise .barometer).map _).bind fun _ _ => ?_
  refine ((f.failsWith_noise .ranger).map _).bind fun _ _ => ?_
  exact ((f.failsWith_noise .accelerometer).map _).map _

namespace Script

theorem failsWith_check (s : Script) : FailsWith s.check s.planObjections := by
  rw [check_eq]
  unfold planObjections
  simp only [List.append_assoc]
  refine (s.settings.failsWith_check.mapError _).bind fun _ _ => .ite (.ite ?_ _) _
  refine (failsWith_checkWindow _ _).bind fun _ _ => (failsWith_checkWindow _ _).bind fun _ _ => ?_
  rw [← List.append_nil (errorIf _ _)]
  exact .ite (.ok ()) _

/-- A script is refused with the first objection to it, and flown if there is none. -/
theorem failsWith_fly (s : Script) : FailsWith s.fly s.objections := by
  have hlaunch : FailsWith s.launch s.objections := by
    refine s.failsWith_check.bind fun _ hcheck => ?_
    -- The settings are checked once more when the hold loop starts.
    have hloop : (HoldLoop.start s.settings).mapError ScriptError.settings =
        .ok { settings := s.settings } := by
      rw [HoldLoop.start_eq_ok_iff.mpr ⟨(settings_and_rate_of_check hcheck).1, rfl⟩]
      rfl
    rw [hloop, ok_bind]
    exact ((Instruments.failsWith_ofFitment _ _).mapError _).map _
  exact hlaunch.map s.complete

/-- A gain is never objected to. -/
theorem objections_withClimbGain (s : Script) (gain : UInt8) :
    (s.withClimbGain gain).objections = s.objections := rfl

end Script

/-! ### Checked flags -/

theorem Bounds.contains_iff {b : Bounds} {x : Float} :
    b.contains x = true ↔ x.isFinite = true ∧ b.low ≤ x ∧ x ≤ b.high := by
  unfold contains
  rw [Bool.and_eq_true, Bool.and_eq_true, decide_eq_true_iff, decide_eq_true_iff, and_assoc]

theorem amounts_sixteen : Amounts (doubleOfInt 16) 16 := by
  have hamounts := @amounts_doubleOfInt 16 (by decide)
  rwa [nearest_natCast (by decide)] at hamounts

/-- Noise of moderate size has a finite deviation at every scale inside the bounds, the negative zero
included. -/
theorem isFinite_mul_noiseScale (noise : Float) {scale : Float} (hfinite : noise.isFinite = true)
    (hlow : 0.0 ≤ noise) (hhigh : noise ≤ doubleOfInt 16)
    (h : Bounds.noiseScale.contains scale = true) : (noise * scale).isFinite = true := by
  obtain ⟨hscale, hscaleLow, hscaleHigh⟩ := Bounds.contains_iff.mp h
  have hten : (10.0 : Float) ≤ doubleOfInt 16 := by decide +kernel
  exact isFinite_mul hfinite hlow amounts_sixteen hhigh hscale hscaleLow amounts_sixteen
    (double_le_trans hscaleHigh hten) (k := 8) (by decide) (by norm_num)

namespace Cli.Flags

variable {flags : Flags} {read : String → Except FileError String} {s : Script}

theorem contains_of_checkValue {bounds : Bounds} {value : Float}
    (h : checkValue bounds value = .ok ()) : bounds.contains value = true := by
  unfold checkValue at h
  split_ifs at h
  assumption

/-- Flags that pass their check ask for a possible duration and a possible scale of the noise. -/
theorem contains_of_check (h : flags.check = .ok ()) :
    Bounds.duration.contains flags.duration = true ∧
      Bounds.noiseScale.contains flags.noiseScale = true := by
  unfold check at h
  obtain ⟨_, hduration, h⟩ := bind_eq_ok_iff.mp h
  obtain ⟨_, -, h⟩ := bind_eq_ok_iff.mp h
  obtain ⟨_, -, h⟩ := bind_eq_ok_iff.mp h
  obtain ⟨_, -, h⟩ := bind_eq_ok_iff.mp h
  obtain ⟨_, -, h⟩ := bind_eq_ok_iff.mp h
  obtain ⟨_, -, h⟩ := bind_eq_ok_iff.mp h
  obtain ⟨_, hnoise, -⟩ := bind_eq_ok_iff.mp h
  exact ⟨contains_of_checkValue hduration, contains_of_checkValue hnoise⟩

theorem script_eq_ok_iff :
    flags.script read = .ok s ↔ flags.check = .ok () ∧ ∃ settings,
      flags.load read = .ok settings ∧ (flags.adjust settings).check = .ok () ∧
      s = flags.scriptWith (flags.adjust settings) := by
  unfold script
  constructor
  · intro h
    obtain ⟨_, hcheck, h⟩ := bind_eq_ok_iff.mp h
    obtain ⟨settings, hload, h⟩ := bind_eq_ok_iff.mp h
    obtain ⟨_, hsettings, h⟩ := bind_eq_ok_iff.mp h
    exact ⟨hcheck, settings, hload, mapError_eq_ok_iff.mp hsettings, (Except.ok.inj h).symm⟩
  · rintro ⟨hcheck, settings, hload, hsettings, rfl⟩
    rw [hcheck, ok_bind, hload, ok_bind]
    dsimp only
    rw [hsettings]
    rfl

/-- What can be wrong with the script of checked flags: a disturbance that ends before it begins, or
a hold on a ranger that is not fitted. -/
def objections (flags : Flags) : List ScriptError :=
  windowObjections .stick (flags.stickMove.map (·.window)) ++
  windowObjections .bank (flags.bank.map (·.window)) ++
  errorIf (flags.source = .ranger ∧ flags.ranger = false) (ScriptError.sensorMissing .ranger)

section ScriptWith

variable (flags) (settings : Settings)

theorem scriptWith_rate : (flags.scriptWith settings).rate = 1000 := by
  unfold scriptWith
  cases settings.airframe <;> rfl

/-- A barometer is always fitted. -/
theorem sensorObjections_scriptWith :
    errorIf (!(flags.scriptWith settings).fitment.has (flags.scriptWith settings).source)
        (ScriptError.sensorMissing (flags.scriptWith settings).source) =
      errorIf (flags.source = .ranger ∧ flags.ranger = false) (.sensorMissing .ranger) := by
  change errorIf (!(flags.scriptWith settings).fitment.has flags.source)
    (ScriptError.sensorMissing flags.source) = _
  cases flags.source with
  | baro => rfl
  | ranger =>
    change errorIf (!flags.ranger) (ScriptError.sensorMissing .ranger) = _
    cases flags.ranger <;> rfl

end ScriptWith

/-- The noise of every sensor has a finite deviation. -/
theorem unbounded_scriptWith (h : Bounds.noiseScale.contains flags.noiseScale = true)
    (settings : Settings) : (flags.scriptWith settings).fitment.unbounded = [] := by
  refine List.filter_eq_nil_iff.mpr fun sensor _ => ?_
  have hfinite : ((flags.scriptWith settings).fitment.deviation sensor).isFinite = true := by
    cases sensor with
    | barometer =>
      exact isFinite_mul_noiseScale 15.0 (by decide +kernel) (by decide +kernel) (by decide +kernel)
        h
    | ranger =>
      exact isFinite_mul_noiseScale 1.0 (by decide +kernel) (by decide +kernel) (by decide +kernel)
        h
    | accelerometer =>
      exact isFinite_mul_noiseScale 0.05 (by decide +kernel) (by decide +kernel) (by decide +kernel)
        h
  rw [hfinite]
  exact Bool.false_ne_true

/-- A duration inside its bounds is finite and positive. -/
theorem durationObjections_scriptWith (h : Bounds.duration.contains flags.duration = true)
    (settings : Settings) :
    errorIf (!(flags.scriptWith settings).duration.isFinite ||
        (flags.scriptWith settings).duration ≤ 0.0)
      (ScriptError.duration (flags.scriptWith settings).duration) = [] := by
  obtain ⟨hfinite, hlow, -⟩ := Bounds.contains_iff.mp h
  have hnot : ¬ flags.duration ≤ 0.0 := by
    intro hle
    have hcontra : (1.0 : Float) ≤ 0.0 := double_le_trans hlow hle
    exact absurd hcontra (by decide +kernel)
  change errorIf (!flags.duration.isFinite || flags.duration ≤ 0.0) _ = []
  rw [hfinite, decide_eq_false hnot]
  rfl

/-- The checks of the flags and of the settings leave no other objection. -/
theorem objections_of_script (hs : flags.script read = .ok s) : s.objections = flags.objections := by
  obtain ⟨hcheck, settings, -, hsettings, rfl⟩ := script_eq_ok_iff.mp hs
  obtain ⟨hduration, hnoise⟩ := contains_of_check hcheck
  have hsound : (flags.adjust settings).objections = [] := by
    have hfails := (flags.adjust settings).failsWith_check
    rw [hsettings] at hfails
    exact hfails.eq_nil
  unfold Script.objections Script.planObjections
  rw [durationObjections_scriptWith hduration, sensorObjections_scriptWith,
    unbounded_scriptWith hnoise, scriptWith_rate, errorIf_of_not (by decide)]
  change (flags.adjust settings).objections.map _ ++ _ ++ _ ++ _ ++ _ ++ _ ++ _ = _
  rw [hsound, List.map_nil, List.map_nil, List.append_nil, List.append_nil]
  rfl

/-- All of them are errors of the plan. -/
theorem message_of_mem_objections {e : ScriptError} (h : e ∈ flags.objections) :
    e.message = "invalid scenario: " ++ e.detail := by
  unfold objections at h
  rcases List.mem_append.mp h with h | h
  · rcases List.mem_append.mp h with h | h
    · obtain ⟨w, rfl⟩ := exists_of_mem_windowObjections h
      rfl
    · obtain ⟨w, rfl⟩ := exists_of_mem_windowObjections h
      rfl
  · obtain rfl := eq_of_mem_errorIf h
    rfl

/-- A script that the flags ask for is refused for an empty window of a disturbance or for a hold on
a ranger that is not fitted, with the first of these reasons, and for nothing else.  It is so with
any other gain, too. -/
theorem fly_script_eq_error_iff (hs : flags.script read = .ok s) (gain : UInt8) (e : ScriptError) :
    (s.fly = .error e ↔ flags.objections.head? = some e) ∧
      ((s.withClimbGain gain).fly = .error e ↔ flags.objections.head? = some e) ∧
      (e ∈ flags.objections → e.message = "invalid scenario: " ++ e.detail) := by
  have hobjections := objections_of_script hs
  refine ⟨?_, ?_, message_of_mem_objections⟩
  · rw [← hobjections]
    exact s.failsWith_fly e
  · rw [← hobjections, ← s.objections_withClimbGain gain]
    exact (s.withClimbGain gain).failsWith_fly e

/-- A hold on a ranger that is not fitted, during which the stick is moved from a time that is no
number on. -/
def timeless : Flags where
  source := .ranger
  stickMove := some ⟨⟨0.0 / 0.0, 20.0⟩, 100⟩

/-- The window is found before the missing ranger. -/
theorem fly_script_timeless :
    timeless.script (fun _ => .error .missing) = .ok (timeless.scriptWith {}) ∧
      (timeless.scriptWith {}).fly = .error (.emptyWindow .stick ⟨0.0 / 0.0, 20.0⟩) ∧
      ((timeless.scriptWith {}).withClimbGain 200).fly =
        .error (.emptyWindow .stick ⟨0.0 / 0.0, 20.0⟩) := by
  have hs : timeless.script (fun _ => .error .missing) = .ok (timeless.scriptWith {}) :=
    script_eq_ok_iff.mpr ⟨rfl, {}, rfl, rfl, rfl⟩
  have hwindow : ¬ (0.0 / 0.0 : Float) < 20.0 := by decide +kernel
  have hhead : timeless.objections.head? =
      some (.emptyWindow .stick ⟨0.0 / 0.0, 20.0⟩) := by
    change (errorIf (¬ (0.0 / 0.0 : Float) < 20.0) _ ++ _ ++ _).head? = _
    unfold errorIf
    rw [if_pos hwindow]
    rfl
  obtain ⟨hbase, hswept, -⟩ := fly_script_eq_error_iff hs 200 (.emptyWindow .stick ⟨0.0 / 0.0, 20.0⟩)
  exact ⟨hs, hbase.mpr hhead, hswept.mpr hhead⟩

end Cli.Flags

end Autopilot
