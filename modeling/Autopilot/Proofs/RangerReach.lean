import Autopilot.Proofs.SensorCalls

/-!
# How far the ranger reaches

What the ranger reads goes into the altitude of one estimate and into nothing else.  Two runs of the
estimator that differ only in the ranger and in the tilt it is read at have the same answers, and the
same memory but for the altitude (`updateAll_sameButAltitude`).

The altitude does not see a ranger whose reading is outside of its band, if there is a barometer or
an accelerometer to take it from: it is the altitude of the filter then (`Fusion.filterAltitude`),
whatever the ranger has read before (`altitude_offBand`).  An estimate with neither of them keeps the
altitude of the estimate before, and that one may come from the ranger (`altitude_outlivesBand`).
-/

namespace Autopilot

/-! ### The band of the ranger -/

/-- The reading is an echo inside of its band. -/
structure RangerReading.InBand (reading : RangerReading) : Prop where
  echo : 0 < reading.range
  near_le : reading.near ≤ reading.range
  le_far : reading.range ≤ reading.far

/-- There is a ranger, and it reads an altitude inside of its band. -/
def Readings.Ranges (r : Readings) : Prop :=
  ∃ reading, r.ranger = some reading ∧ reading.InBand

namespace RangerReading

variable {reading : RangerReading}

theorem inBand_iff :
    reading.InBand ↔ 0 < reading.range.toInt ∧ reading.near.toInt ≤ reading.range.toInt ∧
      reading.range.toInt ≤ reading.far.toInt := by
  rw [← Int32.le_iff_toInt_le, ← Int32.le_iff_toInt_le]
  exact ⟨fun h => ⟨Int32.lt_iff_toInt_lt.mp h.echo, h.near_le, h.le_far⟩,
    fun h => ⟨Int32.lt_iff_toInt_lt.mpr h.1, h.2.1, h.2.2⟩⟩

/-- The checks of the blend refuse the readings outside of the band. -/
theorem refused_iff :
    (reading.range ≤ 0 ∨ reading.range < reading.near ∨ reading.far < reading.range) ↔
      ¬ reading.InBand := by
  rw [inBand_iff]
  simp only [Int32.lt_iff_toInt_lt, Int32.le_iff_toInt_le, Int32.toInt_zero]
  omega

theorem blended_eq_none (h : ¬ reading.InBand) (baro : Int32) : reading.blended baro = none :=
  if_pos (refused_iff.mpr h)

theorem InBand.not_refused (h : reading.InBand) :
    ¬ (reading.range ≤ 0 ∨ reading.range < reading.near ∨ reading.far < reading.range) :=
  fun hout => refused_iff.mp hout h

/-- In a band of one point nothing is mixed. -/
theorem InBand.blended_of_point (h : reading.InBand) (hpoint : reading.far = reading.near)
    (baro : Int32) : reading.blended baro = some reading.range := by
  unfold blended
  rw [if_neg h.not_refused, if_pos hpoint]

end RangerReading

namespace Fusion

/-! ### The altitude of the filter -/

/-- The altitude that the barometer and the accelerometer give: the integrated one if there is a
window, else that of the barometer. -/
def filterAltitude (r : Readings) (f : Fusion) : Option Int32 :=
  match accelWindow r.accel, r.baro with
  | some _, _ => some (truncate32 f.height)
  | none, some _ => some (baroAltitude r.baro)
  | none, none => none

section Filter

variable {s : Settings} {now : UInt32} {r : Readings} {f : Fusion}

theorem coarseAltitude_eq (r : Readings) (f : Fusion) :
    f.coarseAltitude r = (f.filterAltitude r).getD f.altitude := by
  unfold coarseAltitude filterAltitude
  cases accelWindow r.accel <;> cases r.baro <;> rfl

theorem isSome_filterAltitude_iff :
    (f.filterAltitude r).isSome = true ↔
      r.baro.isSome = true ∨ (accelWindow r.accel).isSome = true := by
  unfold filterAltitude
  cases accelWindow r.accel <;> cases r.baro <;> simp

/-- Integrating the acceleration does not move the altitude. -/
theorem absorbed_altitude (s : Settings) (r : Readings) (f : Fusion) :
    (f.absorbed s r).altitude = f.altitude := by
  unfold absorbed
  cases accelWindow r.accel <;> rfl

theorem fusedAltitude_of_not_ranges (h : ¬ r.Ranges) :
    f.fusedAltitude s r = ((f.absorbed s r).filterAltitude r).getD f.altitude := by
  have hnone : (r.ranger.bind fun reading => reading.blended (baroAltitude r.baro)) = none := by
    rw [Option.bind_eq_none_iff]
    intro reading hreading
    exact RangerReading.blended_eq_none (fun hin => h ⟨reading, hreading, hin⟩) _
  unfold fusedAltitude
  rw [hnone, Option.getD_none, coarseAltitude_eq, absorbed_altitude]

/-- Without a reading inside of the band, an estimate has the altitude of the filter after it, and
the altitude before it if the filter has none. -/
theorem altitude_updated (h : ¬ r.Ranges) {sample : ClimbSample}
    (hfresh : (f.updated s now r).estimate = .fresh sample) :
    (f.updated s now r).fusion.altitude =
      ((f.updated s now r).fusion.filterAltitude r).getD f.altitude := by
  obtain ⟨-, hestimated⟩ := estimated_of_fresh hfresh
  have hfusion : (f.updated s now r).fusion = (f.estimated s now r).2 :=
    congrArg Prod.snd hestimated
  rw [hfusion]
  exact fusedAltitude_of_not_ranges h

end Filter

/-! ### What differs in two runs -/

/-- The calls are the same but for the ranger and the attitude. -/
structure Call.SameButRanger (call call' : Call) : Prop where
  now : call.now = call'.now
  settings : call.settings = call'.settings
  baro : call.readings.baro = call'.readings.baro
  accel : call.readings.accel = call'.readings.accel

/-- The memories are the same but for the altitude. -/
structure SameButAltitude (f f' : Fusion) : Prop where
  velocity : f.velocity = f'.velocity
  height : f.height = f'.height
  lastBaro : f.lastBaro = f'.lastBaro
  lastTime : f.lastTime = f'.lastTime
  lastAccel : f.lastAccel = f'.lastAccel
  vario : f.vario = f'.vario
  telemetry : f.telemetry = f'.telemetry

/-- A use of the ranger. -/
def readsRanger : SensorCall → Bool
  | .readRanger _ => true
  | _ => false

/-- The answers are the same but for the altitude, and so are the uses of all sensors but the
ranger. -/
structure Update.SameButAltitude (u u' : Update) : Prop where
  estimate : u.estimate = u'.estimate
  fusion : u.fusion.SameButAltitude u'.fusion
  calls : u.calls.filter (!readsRanger ·) = u'.calls.filter (!readsRanger ·)

theorem SameButAltitude.refl (f : Fusion) : f.SameButAltitude f :=
  ⟨rfl, rfl, rfl, rfl, rfl, rfl, rfl⟩

section TwoRuns

variable {f f' : Fusion} {call call' : Call} {u u' : Update}

theorem SameButAltitude.isEarly (hf : f.SameButAltitude f') (now : UInt32) :
    f.isEarly now = f'.isEarly now := by
  unfold Fusion.isEarly
  rw [hf.lastTime]

theorem SameButAltitude.absorbed (hf : f.SameButAltitude f') (hcall : call.SameButRanger call') :
    (f.absorbed call.settings call.readings).SameButAltitude
      (f'.absorbed call'.settings call'.readings) := by
  unfold Fusion.absorbed
  rw [hcall.accel, hcall.baro, hcall.settings]
  cases accelWindow call'.readings.accel with
  | none => exact hf
  | some w =>
    dsimp only
    refine ⟨?_, ?_, hf.lastBaro, hf.lastTime, hf.lastAccel, hf.vario, hf.telemetry⟩
    · unfold integrate
      dsimp only
      rw [hf.velocity]
    · unfold integrate
      dsimp only
      rw [hf.velocity, hf.height]

theorem SameButAltitude.mixedVelocity (hf : f.SameButAltitude f')
    (hcall : call.SameButRanger call') :
    f.mixedVelocity call.settings call.now call.readings =
      f'.mixedVelocity call'.settings call'.now call'.readings := by
  unfold Fusion.mixedVelocity
  rw [(hf.absorbed hcall).velocity, hcall.baro, hcall.now, hcall.settings, hf.lastBaro, hf.lastTime]

theorem meanAccel_congr (hcall : call.SameButRanger call') :
    meanAccel call.readings = meanAccel call'.readings := by
  unfold meanAccel
  rw [hcall.accel]

/-- The ranger reaches nothing of an estimate but its altitude. -/
theorem SameButAltitude.estimated (hf : f.SameButAltitude f') (hcall : call.SameButRanger call') :
    (f.estimated call.settings call.now call.readings).1 =
        (f'.estimated call'.settings call'.now call'.readings).1 ∧
      (f.estimated call.settings call.now call.readings).2.SameButAltitude
        (f'.estimated call'.settings call'.now call'.readings).2 := by
  have habsorbed := hf.absorbed hcall
  have hmixed := hf.mixedVelocity hcall
  have haccel := meanAccel_congr hcall
  unfold Fusion.estimated
  dsimp only
  rw [hmixed, haccel, hf.lastAccel]
  refine ⟨rfl, rfl, habsorbed.height, ?_, hcall.now, rfl, rfl, ?_⟩
  · dsimp only
    rw [hcall.baro, hf.lastBaro]
  · dsimp only
    rw [habsorbed.velocity, habsorbed.height]

theorem filter_freshCalls (hcall : call.SameButRanger call') :
    (freshCalls call.readings).filter (!readsRanger ·) =
      (freshCalls call'.readings).filter (!readsRanger ·) := by
  unfold freshCalls
  rw [hcall.baro, hcall.accel]
  cases call.readings.ranger <;> cases call'.readings.ranger <;> simp [readsRanger]

/-- Calls that are the same but for the ranger keep two memories the same but for the altitude. -/
theorem SameButAltitude.updated (hf : f.SameButAltitude f') (hcall : call.SameButRanger call') :
    (f.updated call.settings call.now call.readings).SameButAltitude
      (f'.updated call'.settings call'.now call'.readings) := by
  have hearly : f.isEarly call.now = f'.isEarly call'.now := by rw [hf.isEarly, hcall.now]
  by_cases h : f.isEarly call.now = true
  · rw [updated_of_isEarly h, updated_of_isEarly (hearly ▸ h)]
    exact ⟨rfl, hf, rfl⟩
  have h' : ¬ f'.isEarly call'.now = true := hearly ▸ h
  by_cases hbaro : call.readings.baro = some .calibrating
  · rw [updated_of_calibrating h hbaro, updated_of_calibrating h' (hcall.baro ▸ hbaro), hcall.now,
      hcall.accel]
    exact ⟨rfl, ⟨rfl, rfl, hf.lastBaro, rfl, hf.lastAccel, hf.vario, hf.telemetry⟩, rfl⟩
  · obtain ⟨hsample, hfusion⟩ := hf.estimated hcall
    rw [updated_of_calibrated h hbaro, updated_of_calibrated h' (hcall.baro ▸ hbaro), hsample]
    exact ⟨rfl, hfusion, filter_freshCalls hcall⟩

theorem SameButAltitude.of_update (hf : f.SameButAltitude f') (hcall : call.SameButRanger call')
    (hu : f.update call.settings call.now call.readings = .ok u)
    (hu' : f'.update call'.settings call'.now call'.readings = .ok u') : u.SameButAltitude u' := by
  rw [eq_updated_of_update hu, eq_updated_of_update hu']
  exact hf.updated hcall

end TwoRuns

/-! ### Runs -/

section Runs

variable {f f' g g' : Fusion} {calls calls' : List Call} {past past' : List Update}

theorem SameButAltitude.updateAll (hf : f.SameButAltitude f')
    (hcalls : List.Forall₂ Call.SameButRanger calls calls') (h : f.updateAll calls = .ok (past, g))
    (h' : f'.updateAll calls' = .ok (past', g')) :
    List.Forall₂ Update.SameButAltitude past past' ∧ g.SameButAltitude g' := by
  induction hcalls generalizing f f' past past' with
  | nil =>
    obtain ⟨rfl, rfl⟩ := Prod.mk.inj (Except.ok.inj h)
    obtain ⟨rfl, rfl⟩ := Prod.mk.inj (Except.ok.inj h')
    exact ⟨.nil, hf⟩
  | cons hcall _ ih =>
    obtain ⟨u, hu, h⟩ := bind_eq_ok_iff.mp h
    obtain ⟨⟨later, _⟩, hrest, h⟩ := bind_eq_ok_iff.mp h
    obtain ⟨rfl, rfl⟩ := Prod.mk.inj (Except.ok.inj h)
    obtain ⟨u', hu', h'⟩ := bind_eq_ok_iff.mp h'
    obtain ⟨⟨later', _⟩, hrest', h'⟩ := bind_eq_ok_iff.mp h'
    obtain ⟨rfl, rfl⟩ := Prod.mk.inj (Except.ok.inj h')
    have hstep := hf.of_update hcall hu hu'
    obtain ⟨hlater, hlast⟩ := ih hstep.fusion hrest hrest'
    exact ⟨.cons hstep hlater, hlast⟩

/-- Two runs of a fresh estimator whose calls are the same but for the ranger have answers that are
the same but for the altitude. -/
theorem updateAll_sameButAltitude (hcalls : List.Forall₂ Call.SameButRanger calls calls')
    (h : Fusion.updateAll {} calls = .ok (past, f))
    (h' : Fusion.updateAll {} calls' = .ok (past', f')) :
    List.Forall₂ Update.SameButAltitude past past' :=
  ((SameButAltitude.refl {}).updateAll hcalls h h').1

/-- Two estimates on the way down, the second one without a barometer, with these readings of the
ranger at this tilt. -/
def descent (first second : Option RangerReading) (tilt : Attitude) : List Call :=
  [{ now := 25000
     readings := { baro := some (.ready 180), ranger := first, attitude := tilt,
                   accel := some (.window ⟨-256.0, 1, 25000⟩) } },
    { now := 60000
      readings := { ranger := second, attitude := tilt,
                    accel := some (.window ⟨512.0, 2, 35000⟩) } }]

/-- The altitudes among some answers. -/
def altitudes (past : List Update) : List Int32 :=
  past.map fun u => u.fusion.altitude

theorem sameButRanger_descent (first first' second second' : Option RangerReading)
    (tilt tilt' : Attitude) :
    List.Forall₂ Call.SameButRanger (descent first second tilt) (descent first' second' tilt') :=
  .cons ⟨rfl, rfl, rfl, rfl⟩ (.cons ⟨rfl, rfl, rfl, rfl⟩ .nil)

/-- With another ranger, the same descent has other altitudes and otherwise the same answers. -/
theorem updateAll_sameButAltitude_descent :
    ∃ past f past' f',
      Fusion.updateAll {} (descent (some ⟨150, 100, 200⟩) (some ⟨120, 100, 200⟩) {}) =
        .ok (past, f) ∧
      Fusion.updateAll {} (descent none (some ⟨900, 100, 200⟩) { cosTilt := 0.5 }) =
        .ok (past', f') ∧
      altitudes past = [165, 96] ∧ altitudes past' = [6, 6] ∧
      List.Forall₂ Update.SameButAltitude past past' := by
  have hrun : (fun run => altitudes run.1) <$>
      Fusion.updateAll {} (descent (some ⟨150, 100, 200⟩) (some ⟨120, 100, 200⟩) {}) =
        .ok [165, 96] := by decide +kernel
  have hrun' : (fun run => altitudes run.1) <$>
      Fusion.updateAll {} (descent none (some ⟨900, 100, 200⟩) { cosTilt := 0.5 }) =
        .ok [6, 6] := by decide +kernel
  obtain ⟨⟨past, f⟩, h, haltitudes⟩ := map_eq_ok_iff.mp hrun
  obtain ⟨⟨past', f'⟩, h', haltitudes'⟩ := map_eq_ok_iff.mp hrun'
  exact ⟨past, f, past', f', h, h', haltitudes, haltitudes',
    updateAll_sameButAltitude (sameButRanger_descent _ _ _ _ _ _) h h'⟩

/-- Behind two runs whose calls are the same but for the ranger, an estimate without a reading inside
of the band has the altitude of the filter, which is the same in both runs, if there is a barometer
or an accelerometer; and else it keeps the altitude. -/
theorem altitude_offBand {call call' : Call} {u u' : Update} {sample : ClimbSample}
    (hcalls : List.Forall₂ Call.SameButRanger calls calls')
    (h : Fusion.updateAll {} calls = .ok (past, f))
    (h' : Fusion.updateAll {} calls' = .ok (past', f')) (hcall : call.SameButRanger call')
    (hu : f.update call.settings call.now call.readings = .ok u)
    (hu' : f'.update call'.settings call'.now call'.readings = .ok u')
    (hfresh : u.estimate = .fresh sample) (hoff : ¬ call.readings.Ranges) :
    (call.readings.baro.isSome = true ∨ (accelWindow call.readings.accel).isSome = true →
      u.fusion.filterAltitude call.readings = some u.fusion.altitude ∧
        (¬ call'.readings.Ranges → u'.fusion.altitude = u.fusion.altitude)) ∧
    (¬ (call.readings.baro.isSome = true ∨ (accelWindow call.readings.accel).isSome = true) →
      u.fusion.altitude = f.altitude) := by
  have hsame := ((SameButAltitude.refl {}).updateAll hcalls h h').2.of_update hcall hu hu'
  have haltitude : u.fusion.altitude =
      (u.fusion.filterAltitude call.readings).getD f.altitude := by
    obtain rfl := eq_updated_of_update hu
    exact altitude_updated hoff hfresh
  constructor
  · intro hsource
    obtain ⟨altitude, hfilter⟩ :=
      Option.isSome_iff_exists.mp (isSome_filterAltitude_iff (f := u.fusion).mpr hsource)
    rw [hfilter, Option.getD_some] at haltitude
    refine ⟨by rw [hfilter, haltitude], fun hoff' => ?_⟩
    have hfilter' : u'.fusion.filterAltitude call'.readings = some altitude := by
      rw [← hfilter]
      unfold filterAltitude
      rw [hcall.accel, hcall.baro, hsame.fusion.height]
    have hfresh' : u'.estimate = .fresh sample := hsame.estimate ▸ hfresh
    obtain rfl := eq_updated_of_update hu'
    rw [altitude_updated hoff' hfresh', hfilter', haltitude]
    rfl
  · intro hnone
    rw [← isSome_filterAltitude_iff (f := u.fusion), Option.not_isSome_iff_eq_none] at hnone
    rw [haltitude, hnone, Option.getD_none]

/-- The end of the descent, with this ranger. -/
def touchdown (ranger : Option RangerReading) : Call :=
  { now := 90000
    readings := { baro := some (.ready 20), ranger, accel := some (.window ⟨2560.0, 10, 30000⟩) } }

/-- Both descents end at the same altitude: the ranger is below its band in one of them and has failed
in the other. -/
theorem altitude_offBand_touchdown :
    ∃ past f past' f' u u' sample,
      Fusion.updateAll {} (descent (some ⟨150, 100, 200⟩) (some ⟨120, 100, 200⟩) {}) =
        .ok (past, f) ∧
      Fusion.updateAll {} (descent none none {}) = .ok (past', f') ∧
      f.altitude = 96 ∧ f'.altitude = 6 ∧
      f.update {} 90000 (touchdown (some ⟨40, 100, 200⟩)).readings = .ok u ∧
      f'.update {} 90000 (touchdown none).readings = .ok u' ∧
      u.estimate = .fresh sample ∧ u.fusion.altitude = 8 ∧
      ¬ (touchdown (some ⟨40, 100, 200⟩)).readings.Ranges ∧ ¬ (touchdown none).readings.Ranges ∧
      u.fusion.filterAltitude (touchdown none).readings = some u.fusion.altitude ∧
      u'.fusion.altitude = u.fusion.altitude := by
  have hrun : (do
      let run ← Fusion.updateAll {} (descent (some ⟨150, 100, 200⟩) (some ⟨120, 100, 200⟩) {})
      let u ← run.2.update {} 90000 (touchdown (some ⟨40, 100, 200⟩)).readings
      return (run.2.altitude, u.fusion.altitude, u.accel?)) = .ok (96, 8, some 256.0) := by
    decide +kernel
  have hrun' : (do
      let run ← Fusion.updateAll {} (descent none none {})
      let u ← run.2.update {} 90000 (touchdown none).readings
      return (run.2.altitude, u.accel?)) = .ok (6, some 256.0) := by decide +kernel
  obtain ⟨⟨past, f⟩, h, hrun⟩ := bind_eq_ok_iff.mp hrun
  obtain ⟨u, hu, hrun⟩ := bind_eq_ok_iff.mp hrun
  simp only [pure_eq_ok, Except.ok.injEq, Prod.mk.injEq] at hrun
  obtain ⟨hbefore, hafter, haccel⟩ := hrun
  obtain ⟨⟨past', f'⟩, h', hrun'⟩ := bind_eq_ok_iff.mp hrun'
  obtain ⟨u', hu', hrun'⟩ := bind_eq_ok_iff.mp hrun'
  simp only [pure_eq_ok, Except.ok.injEq, Prod.mk.injEq] at hrun'
  obtain ⟨sample, hfresh⟩ : ∃ sample, u.estimate = .fresh sample := by
    unfold Update.accel? at haccel
    cases hestimate : u.estimate with
    | fresh sample => exact ⟨sample, rfl⟩
    | early => rw [hestimate] at haccel; cases haccel
    | calibrating => rw [hestimate] at haccel; cases haccel
  have hbelow : ¬ (touchdown (some ⟨40, 100, 200⟩)).readings.Ranges := by
    rintro ⟨reading, hreading, -, hnear, -⟩
    obtain rfl := Option.some_inj.mp hreading
    exact absurd hnear (by decide)
  have hfailed : ¬ (touchdown none).readings.Ranges := by
    rintro ⟨reading, hreading, -⟩
    cases hreading
  have hcall : (touchdown (some ⟨40, 100, 200⟩)).SameButRanger (touchdown none) :=
    ⟨rfl, rfl, rfl, rfl⟩
  have hlaw := (altitude_offBand (sameButRanger_descent _ _ _ _ _ _) h h' hcall hu hu' hfresh
    hbelow).1 (.inl rfl)
  exact ⟨past, f, past', f', u, u', sample, h, h', hbefore, hrun'.1, hu, hu', hfresh, hafter, hbelow,
    hfailed, hlaw.1, hlaw.2 hfailed⟩

/-- One estimate from the ranger alone, or without any sensor. -/
def glimpse (ranger : Option RangerReading) : List Call :=
  [{ now := 25000, readings := { ranger } }]

/-- The ranger has left its band, and there is no other sensor. -/
def beyond : Call :=
  { now := 50000, readings := { ranger := some ⟨400, 100, 250⟩ } }

/-- A reading of the ranger is still the altitude after the ranger has left its band, if there is
neither a barometer nor an accelerometer. -/
theorem altitude_outlivesBand :
    List.Forall₂ Call.SameButRanger (glimpse (some ⟨100, 100, 250⟩)) (glimpse none) ∧
      ¬ beyond.readings.Ranges ∧ ∃ past f past' f' u u' sample,
        Fusion.updateAll {} (glimpse (some ⟨100, 100, 250⟩)) = .ok (past, f) ∧
        Fusion.updateAll {} (glimpse none) = .ok (past', f') ∧
        f.update {} 50000 beyond.readings = .ok u ∧ f'.update {} 50000 beyond.readings = .ok u' ∧
        u.estimate = .fresh sample ∧ u'.estimate = .fresh sample ∧
        u.fusion.altitude = 100 ∧ u'.fusion.altitude = 0 := by
  refine ⟨.cons ⟨rfl, rfl, rfl, rfl⟩ .nil, ?_, ?_⟩
  · rintro ⟨reading, hreading, -, -, hfar⟩
    obtain rfl := Option.some_inj.mp hreading
    exact absurd hfar (by decide)
  · have hrun : (do
        let run ← Fusion.updateAll {} (glimpse (some ⟨100, 100, 250⟩))
        let run' ← Fusion.updateAll {} (glimpse none)
        let u ← run.2.update {} 50000 beyond.readings
        let u' ← run'.2.update {} 50000 beyond.readings
        return (u.estimate, u'.estimate, u.fusion.altitude, u'.fusion.altitude)) =
          .ok (.fresh ⟨0, 0.0, 0.0⟩, .fresh ⟨0, 0.0, 0.0⟩, 100, 0) := by decide +kernel
    obtain ⟨⟨past, f⟩, h, hrun⟩ := bind_eq_ok_iff.mp hrun
    obtain ⟨⟨past', f'⟩, h', hrun⟩ := bind_eq_ok_iff.mp hrun
    obtain ⟨u, hu, hrun⟩ := bind_eq_ok_iff.mp hrun
    obtain ⟨u', hu', hrun⟩ := bind_eq_ok_iff.mp hrun
    simp only [pure_eq_ok, Except.ok.injEq, Prod.mk.injEq] at hrun
    obtain ⟨hestimate, hestimate', haltitude, haltitude'⟩ := hrun
    exact ⟨past, f, past', f', u, u', _, h, h', hu, hu', hestimate, hestimate', haltitude,
      haltitude'⟩

end Runs

end Fusion

end Autopilot
