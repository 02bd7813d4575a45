import Autopilot.Proofs.Fusion

/-!
# What the estimator asks of its sensors

A call of the estimator comes too early (`Fusion.Skips`), goes into the calibration of the barometer
(`Fusion.Calibrates`) or takes an estimate (`Fusion.Measures`), and each of the three says which
sensors are used, how often, and what becomes of the memory.  `Fusion.Obeys` tells them apart by the
time of the call and by the barometer, so that a call does exactly one of them.

A run of calls is `Fusion.updateAll`.  After any run, the next call does what is asked of it unless
the estimate overflows, and then it has no answer (`updateAll_obeys_iff`).  Only a measurement moves
the acceleration that the next one begins with, whatever calls lie in between (`lastAccel_updateAll`).
-/

namespace Autopilot

namespace Fusion

/-! ### The three kinds of calls -/

section Kinds

variable (f : Fusion) (now : UInt32) (r : Readings) (u : Update)

/-- The call comes too early: it changes nothing and uses no sensor. -/
structure Skips : Prop where
  estimate : u.estimate = .early
  fusion : u.fusion = f
  calls : u.calls = []

/-- The call runs one step of the calibration and drops what the accelerometer has collected.  Both
integrals are back at zero, and the rest of the memory stays. -/
structure Calibrates : Prop where
  estimate : u.estimate = .calibrating
  calibrateBaro : u.calls.count .calibrateBaro = 1
  resetAccel : u.calls.count .resetAccel = if r.accel.isSome then 1 else 0
  readBaro : .readBaro ∉ u.calls
  readRanger : ∀ cosTilt, .readRanger cosTilt ∉ u.calls
  fusion : u.fusion = { f with velocity := 0.0, height := 0.0, lastTime := now }

/-- The call takes an estimate, with `accelBefore` for the acceleration of the estimate before.  It
reads every sensor once, the ranger at the tilt of this moment, and then begins a new window. -/
structure Measures (accelBefore : Float32) : Prop where
  estimate : ∃ sample, u.estimate = .fresh sample ∧ sample.accelBefore = accelBefore
  calibrateBaro : .calibrateBaro ∉ u.calls
  readBaro : u.calls.count .readBaro = if r.baro.isSome then 1 else 0
  readRanger : ∀ cosTilt, u.calls.count (.readRanger cosTilt) =
    if r.ranger.isSome ∧ r.attitude.cosTilt = cosTilt then 1 else 0
  readAccel : u.calls.count .readAccel = if r.accel.isSome then 1 else 0
  resetAccel : u.calls.count .resetAccel = if r.accel.isSome then 1 else 0
  /-- The window is read before it is dropped. -/
  inOrder : r.accel.isSome = true → [.readAccel, .resetAccel].Sublist u.calls

/-- The call does what its time and the barometer ask for. -/
structure Obeys (accelBefore : Float32) : Prop where
  early : f.isEarly now = true → f.Skips u
  calibrating : ¬ f.isEarly now = true → r.baro = some .calibrating → f.Calibrates now r u
  calibrated : ¬ f.isEarly now = true → r.baro ≠ some .calibrating → Measures r u accelBefore

end Kinds

section Calls

variable {s : Settings} {now : UInt32} {r : Readings} {f : Fusion} {u : Update}

/-- A use of a sensor that is made if the sensor is present. -/
theorem count_toList_map {α : Type} (sensor : Option α) (use call : SensorCall) :
    (sensor.map fun _ => use).toList.count call = if sensor.isSome ∧ use = call then 1 else 0 := by
  cases sensor <;> simp [List.count_cons]

theorem count_freshCalls (r : Readings) (call : SensorCall) :
    (freshCalls r).count call =
      (if r.baro.isSome ∧ .readBaro = call then 1 else 0) +
        (if r.accel.isSome ∧ .readAccel = call then 1 else 0) +
        (if r.ranger.isSome ∧ .readRanger r.attitude.cosTilt = call then 1 else 0) +
        if r.accel.isSome ∧ .resetAccel = call then 1 else 0 := by
  unfold freshCalls
  simp only [List.count_append, count_toList_map]

theorem readAccel_before_resetAccel (h : r.accel.isSome = true) :
    [.readAccel, .resetAccel].Sublist (freshCalls r) := by
  obtain ⟨reading, hreading⟩ := Option.isSome_iff_exists.mp h
  unfold freshCalls
  rw [hreading]
  have hread : [SensorCall.readAccel].Sublist ((r.baro.map fun _ => .readBaro).toList ++
      [.readAccel] ++ (r.ranger.map fun _ => .readRanger r.attitude.cosTilt).toList) :=
    (List.sublist_append_right _ _).trans (List.sublist_append_left _ _)
  exact hread.append (.refl [SensorCall.resetAccel])

theorem measures_updated (hearly : ¬ f.isEarly now = true) (hbaro : r.baro ≠ some .calibrating) :
    Measures r (f.updated s now r) f.lastAccel := by
  rw [updated_of_calibrated hearly hbaro]
  refine ⟨⟨_, rfl, rfl⟩, ?_, ?_, fun cosTilt => ?_, ?_, ?_, readAccel_before_resetAccel⟩
  · rw [← List.count_eq_zero, count_freshCalls]
    simp
  all_goals
    rw [count_freshCalls]
    simp

theorem calibrates_updated (hearly : ¬ f.isEarly now = true) (hbaro : r.baro = some .calibrating) :
    f.Calibrates now r (f.updated s now r) := by
  rw [updated_of_calibrating hearly hbaro]
  refine ⟨rfl, ?_, ?_, ?_, fun cosTilt => ?_, rfl⟩
  · rw [List.count_cons_self, count_toList_map]
    simp
  · rw [List.count_cons_of_ne (by decide), count_toList_map]
    simp
  all_goals simp

theorem obeys_updated (s : Settings) (now : UInt32) (r : Readings) (f : Fusion) :
    f.Obeys now r (f.updated s now r) f.lastAccel := by
  refine ⟨fun hearly => ?_, calibrates_updated, measures_updated⟩
  rw [updated_of_isEarly hearly]
  exact ⟨rfl, rfl, rfl⟩

/-- The window of the accelerometer is dropped in every call that does not come too early. -/
theorem resetAccel_mem_calls_iff :
    .resetAccel ∈ (f.updated s now r).calls ↔
      ¬ f.isEarly now = true ∧ r.accel.isSome = true := by
  obtain ⟨hskips, hcalibrates, hmeasures⟩ := obeys_updated s now r f
  by_cases hearly : f.isEarly now = true
  · rw [(hskips hearly).calls]
    simp [hearly]
  · have hcount : (f.updated s now r).calls.count .resetAccel =
        if r.accel.isSome then 1 else 0 := by
      by_cases hbaro : r.baro = some .calibrating
      · exact (hcalibrates hearly hbaro).resetAccel
      · exact (hmeasures hearly hbaro).resetAccel
    rw [← List.count_pos_iff, hcount]
    cases r.accel.isSome <;> simp [hearly]

/-- A call either has an answer that does what is asked of it, or overflows. -/
theorem exists_obeys_iff :
    (∃ u, f.update s now r = .ok u ∧ f.Obeys now r u f.lastAccel) ↔ ¬ f.Overflows s now r := by
  constructor
  · rintro ⟨u, hu, -⟩ hover
    rw [update_eq_overflow hover] at hu
    cases hu
  · intro hover
    exact ⟨_, update_eq hover, obeys_updated s now r f⟩

end Calls

/-! ### Runs -/

/-- The acceleration of an answer, if it is an estimate. -/
def Update.accel? (u : Update) : Option Float32 :=
  match u.estimate with
  | .fresh sample => some sample.accel
  | _ => none

/-- The acceleration of the last estimate among some answers, zero if there is none. -/
def lastMeasured (past : List Update) : Float32 :=
  (past.filterMap Update.accel?).getLast?.getD 0.0

/-- A call of the estimator: its time, what the sensors would answer to it, and its settings. -/
structure Call where
  now : UInt32
  readings : Readings
  settings : Settings := {}
deriving DecidableEq, Repr

/-- The answers to a list of calls, and the memory after them. -/
def updateAll (f : Fusion) : List Call → Except Fault (List Update × Fusion)
  | [] => .ok ([], f)
  | call :: rest => do
    let u ← f.update call.settings call.now call.readings
    let (past, f) ← u.fusion.updateAll rest
    return (u :: past, f)

section Runs

variable {f g : Fusion} {calls : List Call} {past : List Update}

/-- Only an estimate replaces the acceleration that is remembered. -/
theorem lastAccel_of_update {s : Settings} {now : UInt32} {r : Readings} {u : Update}
    (hu : f.update s now r = .ok u) : u.fusion.lastAccel = u.accel?.getD f.lastAccel := by
  rw [eq_updated_of_update hu]
  unfold updated Update.accel?
  split_ifs <;> rfl

theorem getD_getLast?_cons {α : Type} (a : α) (l : List α) (default : α) :
    (a :: l).getLast?.getD default = l.getLast?.getD a := by
  rw [List.getLast?_cons, Option.getD_some]

theorem lastAccel_updateAll (h : f.updateAll calls = .ok (past, g)) :
    g.lastAccel = (past.filterMap Update.accel?).getLast?.getD f.lastAccel := by
  induction calls generalizing f past with
  | nil =>
    obtain ⟨rfl, rfl⟩ := Prod.mk.inj (Except.ok.inj h)
    rfl
  | cons call rest ih =>
    obtain ⟨u, hu, h⟩ := bind_eq_ok_iff.mp h
    obtain ⟨⟨later, g'⟩, hrest, h⟩ := bind_eq_ok_iff.mp h
    obtain ⟨rfl, rfl⟩ := Prod.mk.inj (Except.ok.inj h)
    rw [ih hrest, lastAccel_of_update hu]
    cases haccel : u.accel? with
    | none => rw [List.filterMap_cons_none haccel, Option.getD_none]
    | some accel => rw [List.filterMap_cons_some haccel, getD_getLast?_cons, Option.getD_some]

/-- After any run of a fresh estimator, the next call skips, calibrates or measures, as its time and
the barometer ask for, exactly when it does not overflow.  A measurement begins with the acceleration
of the last one. -/
theorem updateAll_obeys_iff (h : updateAll {} calls = .ok (past, f)) (s : Settings)
    (now : UInt32) (r : Readings) :
    (∃ u, f.update s now r = .ok u ∧ f.Obeys now r u (lastMeasured past)) ↔
      ¬ f.Overflows s now r := by
  have hlast : f.lastAccel = lastMeasured past := lastAccel_updateAll h
  rw [← hlast]
  exact exists_obeys_iff

/-- A run with one estimate, a call that comes too early, and a step of the calibration. -/
def interrupted : List Call :=
  [{ now := 25000, readings := { accel := some (.window ⟨512.0, 1, 25000⟩) } },
    { now := 30000, readings := { baro := some (.ready 100) } },
    { now := 60000
      readings := { baro := some .calibrating, accel := some (.window ⟨9.0, 2, 35000⟩) } }]

/-- All three sensors answer. -/
def complete : Readings :=
  { baro := some (.ready 100), ranger := some ⟨150, 100, 200⟩,
    accel := some (.window ⟨-256.0, 1, 30000⟩) }

/-- The estimate behind the interruptions begins with the acceleration before them. -/
theorem updateAll_obeys_iff_interrupted :
    ∃ past f u, updateAll {} interrupted = .ok (past, f) ∧ lastMeasured past = 512.0 ∧
      ¬ f.Overflows {} 90000 complete ∧ f.update {} 90000 complete = .ok u ∧
      f.Obeys 90000 complete u 512.0 := by
  have hrun : (do
      let (past, f) ← updateAll {} interrupted
      let u ← f.update {} 90000 complete
      return (lastMeasured past, u.calls.length)) = .ok (512.0, 4) := by decide +kernel
  obtain ⟨⟨past, f⟩, hpast, hrun⟩ := bind_eq_ok_iff.mp hrun
  obtain ⟨u, hu, hrun⟩ := bind_eq_ok_iff.mp hrun
  obtain ⟨hlast, -⟩ := Prod.mk.inj (Except.ok.inj hrun)
  have hover : ¬ f.Overflows {} 90000 complete := fun hover => by
    rw [update_eq_overflow hover] at hu
    cases hu
  obtain ⟨u', hu', hobeys⟩ := (updateAll_obeys_iff hpast {} 90000 complete).mpr hover
  obtain rfl := Except.ok.inj (hu.symm.trans hu')
  exact ⟨past, f, u, hpast, hlast, hover, hu, hlast ▸ hobeys⟩

/-- A ranger in a band that is wider than a word, with a barometer that agrees with it. -/
def wideBand : Readings :=
  { baro := some (.ready 100), ranger := some ⟨100, Int32.minValue, Int32.maxValue⟩ }

/-- A call of a fresh estimator is due and its barometer is calibrated, and it has no answer. -/
theorem update_wideBand :
    ({} : Fusion).isEarly 25000 = false ∧ wideBand.baro = some (.ready 100) ∧
      update {} 25000 wideBand {} = .error .overflow ∧
      ¬ ∃ u, update {} 25000 wideBand {} = .ok u ∧ Obeys {} 25000 wideBand u 0.0 := by
  have hfault : update {} 25000 wideBand {} = .error .overflow := by decide +kernel
  refine ⟨by decide, rfl, hfault, ?_⟩
  rintro ⟨u, hu, -⟩
  rw [hfault] at hu
  cases hu

end Runs

end Fusion

end Autopilot
