import Autopilot.Proofs.Cadence
import Autopilot.Proofs.Double
import Autopilot.Proofs.Provenance
import Autopilot.Proofs.TickCommand

/-!
# The scripted stick

A script moves the stick away from where the hold has found it.  It gives the distance from hover,
though, and leaves the baseline to the hold loop, which takes it from the stick when altitude is
first held (`Flight.Holds`).  So the distance is the scripted one if the vehicle has taken off by
then and the stick is not already moved (`Flown.stick_asScripted`), and `strays_early` shows a
flight for each of the two conditions.

The hold never ends, because the switch stays on from a time on, and time does not go back: the time
of a pass is a rounded product with a rounded length, and rounding is monotone
(`Script.timeOf_mono`).
-/

namespace Autopilot

/-! ### Time -/

namespace Script

variable {s : Script} {m n : ℕ}

/-- The length of a pass, as a number of seconds. -/
def passSeconds (s : Script) : ℚ :=
  nearest .binary64 (1 / s.rate.toNat)

theorem amounts_dt (h : s.check = .ok ()) :
    Amounts s.pace.dt s.passSeconds ∧ s.passSeconds ≤ 1 := by
  obtain ⟨-, hpos, hle⟩ := settings_and_rate_of_check h
  have hpos' : (0 : ℚ) < s.rate.toNat := by exact_mod_cast hpos
  have hle' : (s.rate.toNat : ℚ) ≤ 2 ^ 20 := by exact_mod_cast hle.trans (by decide)
  have hupper : (1 : ℚ) / s.rate.toNat ≤ 2 ^ 0 := by
    rw [pow_zero, div_le_one hpos']
    exact_mod_cast hpos
  have hlower : (2 : ℚ) ^ (-1074 : ℤ) ≤ 1 / s.rate.toNat :=
    calc (2 : ℚ) ^ (-1074 : ℤ) ≤ 2 ^ (-20 : ℤ) := zpow_le_zpow_right₀ one_le_two (by decide)
      _ = 1 / 2 ^ 20 := by norm_num
      _ ≤ 1 / s.rate.toNat := one_div_le_one_div_of_le hpos' hle'
  obtain ⟨hone, hlt⟩ := nearest_le_two_pow (by decide) (by positivity) hupper
  rw [pow_zero] at hone
  exact ⟨amounts_one.div (amounts_toFloat s.rate) hpos' hlower hlt, hone⟩

theorem amounts_timeOf (h : s.check = .ok ()) (hn : n ≤ 2 ^ 64) :
    Amounts (Flight.timeOf s.pace n) (nearest .binary64 (nearest .binary64 n * s.passSeconds)) := by
  obtain ⟨hdt, hone⟩ := amounts_dt h
  have hcount := amounts_doubleOfInt hn
  have hle : (n : ℚ) ≤ 2 ^ 64 := by exact_mod_cast hn
  have hbound : nearest .binary64 n * s.passSeconds ≤ 2 ^ 64 :=
    calc nearest .binary64 n * s.passSeconds ≤ nearest .binary64 n * 1 :=
          mul_le_mul_of_nonneg_left hone hcount.nonneg
      _ ≤ 2 ^ 64 := by
          rw [mul_one]
          exact (nearest_le_two_pow (by decide) n.cast_nonneg hle).1
  exact hcount.mul hdt
    (nearest_le_two_pow (by decide) (mul_nonneg hcount.nonneg hdt.nonneg) hbound).2

/-- Time does not go back. -/
theorem timeOf_mono (h : s.check = .ok ()) (hmn : m ≤ n) (hn : n ≤ 2 ^ 64) :
    Flight.timeOf s.pace m ≤ Flight.timeOf s.pace n := by
  have hdt := (amounts_dt h).1.nonneg
  have hcount := (amounts_doubleOfInt (hmn.trans hn)).nonneg
  rw [(amounts_timeOf h (hmn.trans hn)).le_iff (amounts_timeOf h hn)]
  refine nearest_mono (mul_nonneg hcount hdt) (mul_le_mul_of_nonneg_right ?_ hdt)
  exact nearest_mono m.cast_nonneg (by exact_mod_cast hmn)

/-! ### The pilot -/

variable {t : Float}

/-- The script moves the stick at a time. -/
def moves (s : Script) (t : Float) : Bool :=
  s.stickMove.any fun m => m.window.contains t

/-- The distance by which the script moves the stick at a time. -/
def moved (s : Script) (t : Float) : Int16 :=
  match s.stickMove with
  | some m => if m.window.contains t then m.offset else 0
  | none => 0

theorem moved_eq_zero (h : s.moves t = false) : s.moved t = 0 := by
  unfold moves at h
  unfold moved
  cases hmove : s.stickMove with
  | none => rfl
  | some m =>
    rw [hmove, Option.any_some] at h
    dsimp only
    rw [h]
    rfl

/-- Once the hold switch is on, the stick is at its bias and the move. -/
theorem throttle_of_hold (hair : s.settings.airframe = .multirotor) (htakeoff : ¬ t < s.takeoff)
    (hon : s.holdAt ≤ t) (hover : Int16) :
    (s.stick t hover).throttle.toInt =
      saturate16 (hover.toInt + saturate16 (s.stickBias.toInt + (s.moved t).toInt)) := by
  have hoffset : s.offset t = some (.ofIntClamp (s.stickBias.toInt + (s.moved t).toInt)) := by
    unfold offset
    dsimp only
    rw [if_neg htakeoff, if_neg (double_not_lt_of_le hon)]
    rfl
  unfold stick
  rw [hair]
  dsimp only
  rw [hoffset]
  dsimp only
  rw [toInt_ofIntClamp_eq_saturate16, toInt_ofIntClamp_eq_saturate16]

theorem switches_of_on (hon : s.holdAt ≤ t) (source : Source) :
    (s.switches t).position source = decide (s.source = source) := by
  have hswitch : decide (s.holdAt ≤ t) = true := decide_eq_true hon
  cases source <;> exact (congrArg (· && _) hswitch).trans (Bool.true_and _)

theorem switches_of_off (hoff : ¬ s.holdAt ≤ t) : s.switches t = {} := by
  unfold switches
  rw [decide_eq_false hoff]
  rfl

end Script

/-! ### One tick -/

/-- The engagement of one source alone. -/
def Engagement.only (source : Source) : Engagement :=
  ({} : Engagement).set source true

theorem Engagement.any_only (source : Source) : (only source).any = true := by
  cases source <;> rfl

theorem Engagement.holds_only (source : Source) : (only source).holds source = true := by
  cases source <;> rfl

namespace HoldLoop

variable {h : HoldLoop} {input : PilotInput} {r : Readings} {incoming : Command} {t : Tick}
  {source : Source}

/-- The switch of this source is on with its sensor present, and the other one counts as off. -/
def Requests (input : PilotInput) (r : Readings) (source : Source) : Prop :=
  ∀ other, (input.switches.position other && r.has other) = decide (source = other)

/-- Only the switch of this source can have an edge that changes more than the engagement. -/
theorem armed_of_requests (hreq : Requests input r source) :
    h.armed input r =
      { h.fed source true input.stick with engagement := .only source } := by
  have hbaro : (input.switches.baro && r.has .baro) = decide (source = .baro) := hreq .baro
  have hranger : (input.switches.ranger && r.has .ranger) = decide (source = .ranger) :=
    hreq .ranger
  unfold armed
  rw [hbaro, hranger]
  cases source with
  | baro =>
    change (h.fed .baro true input.stick).fed .ranger false input.stick = _
    rw [fed_false, fed_engagement]
    rfl
  | ranger =>
    change (h.fed .baro false input.stick).fed .ranger true input.stick = _
    rw [fed_comm, fed_false, fed_engagement]
    rfl

theorem poised_engagement_of_requests (hreq : Requests input r source) (u : Fusion.Update) :
    (h.poised input r u).engagement = .only source := by
  change (h.armed input r).engagement = _
  rw [armed_of_requests hreq]

theorem engagement_of_requests (hb : h.regulator.Bounded) (hreq : Requests input r source)
    (ht : h.tick input r incoming = .ok t) : t.loop.engagement = .only source := by
  obtain ⟨u, -, -, ht'⟩ := exists_update_of_tick hb ht
  rw [congrArg Tick.loop ht', driven_engagement, poised_engagement_of_requests hreq]

/-- While one source is requested it is engaged, from a rising edge on that takes the stick for the
baseline. -/
theorem tick_of_requests (hb : h.regulator.Bounded) (hair : h.settings.airframe = .multirotor)
    (hreq : Requests input r source) (ht : h.tick input r incoming = .ok t) :
    t.loop.engagement = .only source ∧
      t.loop.reference.baseline =
        (if h.engagement.holds source then h.reference.baseline else input.stick.throttle) ∧
      t.loop.reference.displaced = t.loop.reference.outside h.settings.stick input.stick := by
  have hengaged := engagement_of_requests hb hreq ht
  obtain ⟨u, -, -, ht'⟩ := exists_update_of_tick hb ht
  have hany : (h.poised input r u).engagement.any = true := by
    rw [poised_engagement_of_requests hreq, Engagement.any_only]
  have hbaseline : (h.poised input r u).reference.baseline =
      if h.engagement.holds source then h.reference.baseline else input.stick.throttle := by
    change (h.armed input r).reference.baseline = _
    rw [armed_of_requests hreq]
    change (h.fed source true input.stick).reference.baseline = _
    rw [fed_baseline, switch_eq]
    cases h.engagement.holds source <;> rfl
  have hair' : (h.poised input r u).settings.airframe ≠ .fixedWing := by
    rw [poised_settings, hair]
    decide
  refine ⟨hengaged, ?_, ?_⟩ <;> rw [congrArg Tick.loop ht']
  · rw [driven_baseline, hbaseline]
  · unfold driven StickReference.noted
    rw [if_pos hany, if_neg hair', poised_settings]
    rfl

theorem tick_of_off (hb : h.regulator.Bounded) (hoff : input.switches = {})
    (ht : h.tick input r incoming = .ok t) :
    t.loop.engagement = {} ∧ t.loop.reference = h.reference := by
  obtain ⟨u, -, -, ht'⟩ := exists_update_of_tick hb ht
  have hengagement : (h.armed input r).engagement = {} := by
    rw [armed_engagement, hoff]
    rfl
  have hidle : (h.armed input r).engagement.any = false := by
    rw [hengagement]
    rfl
  have hany : ¬ (h.poised input r u).engagement.any = true := ne_true_of_eq_false hidle
  have hreference : (h.poised input r u).reference = h.reference := by
    change (h.armed input r).reference = _
    rw [armed_of_idle hidle]
  rw [congrArg Tick.loop ht']
  refine ⟨?_, ?_⟩
  · rw [driven_engagement]
    exact hengagement
  · unfold driven
    rw [if_neg hany, hreference]

end HoldLoop

/-! ### One pass -/

namespace Flight

variable {s : Script} {n : ℕ} {f g : Flight} {t t₀ : Float}

theorem requests_source (hcheck : s.check = .ok ()) (hon : s.holdAt ≤ t) (clock : UInt32) :
    HoldLoop.Requests (pilotInput s s.pace t clock) (f.readings s t) s.source := by
  intro other
  change ((s.switches t).position other && _) = _
  rw [has_readings, Script.switches_of_on hon]
  by_cases hother : s.source = other
  · rw [← hother, Script.has_source_of_check hcheck, Bool.and_true]
  · rw [decide_eq_false hother, Bool.false_and]

/-- Altitude has not been held. -/
structure Waits (f : Flight) : Prop where
  at_none : f.engagedAt = none
  engagement : f.loop.engagement = {}
  displaced : f.loop.reference.displaced = false

/-- Altitude has been held since the time `t₀`, around the stick of that time. -/
structure Holds (s : Script) (n : ℕ) (t₀ : Float) (f : Flight) : Prop where
  on : s.holdAt ≤ t₀
  since : t₀ ≤ timeOf s.pace n
  engagement : f.loop.engagement = .only s.source
  baseline : f.loop.reference.baseline = (s.stick t₀ s.pace.hover).throttle
  displaced : f.loop.reference.displaced =
    f.loop.reference.outside s.settings.stick (s.stick (timeOf s.pace n) s.pace.hover)

/-- A flight of `n` passes waits for its hold or is in it. -/
def OnCourse (s : Script) (n : ℕ) (f : Flight) : Prop :=
  f.Waits ∨ ∃ t₀, f.engagedAt = some t₀ ∧ f.Holds s n t₀

/-- A pass that is before the time of the hold goes on waiting; one that is not holds altitude, and
is the first to do so or one more. -/
theorem OnCourse.pass (hf : f.OnCourse s n) (hcheck : s.check = .ok ())
    (hair : s.settings.airframe = .multirotor) (hn : n + 1 ≤ 2 ^ 64)
    (hr : ∃ past, HoldLoop.Reached s.settings past f.loop)
    (h : pass s s.pace (n + 1) f = .ok g) : g.OnCourse s (n + 1) := by
  obtain ⟨past, hreached⟩ := hr
  obtain ⟨mid, tick, hmid, htick, hloop, hengagedAt⟩ := exists_tick_of_pass h
  rw [← hmid] at hreached
  have hlater := Script.timeOf_mono hcheck n.le_succ hn
  have hsettings := hreached.settings
  by_cases hon : s.holdAt ≤ timeOf s.pace (n + 1)
  · obtain ⟨hengaged, hbaseline, hdisplaced⟩ := HoldLoop.tick_of_requests hreached.bounded
      (hsettings ▸ hair) (requests_source hcheck hon _) htick
    rw [hmid] at hbaseline
    rw [hsettings] at hdisplaced
    rw [← hloop] at hengaged hbaseline hdisplaced
    rcases hf with ⟨hat, hidle, -⟩ | ⟨t₀, hat, hholds⟩
    · have hrising : ¬ f.loop.engagement.holds s.source = true := by
        rw [hidle]
        cases s.source <;> decide
      refine .inr ⟨timeOf s.pace (n + 1), ?_, hon, Script.timeOf_mono hcheck le_rfl hn, hengaged,
        hbaseline.trans (if_neg hrising), hdisplaced⟩
      rw [hengagedAt, ticked_engagedAt, ← hloop, hengaged, Engagement.any_only, hat]
      rfl
    · have hsteady : f.loop.engagement.holds s.source = true := by
        rw [hholds.engagement, Engagement.holds_only]
      refine .inr ⟨t₀, ?_, hholds.on, double_le_trans hholds.since hlater, hengaged, ?_, hdisplaced⟩
      · rw [hengagedAt]
        exact ticked_engagedAt_of_some hat _ _
      · exact hbaseline.trans ((if_pos hsteady).trans hholds.baseline)
  · obtain ⟨hidle', hreference⟩ :=
      HoldLoop.tick_of_off hreached.bounded (Script.switches_of_off hon) htick
    rw [hmid] at hreference
    rw [← hloop] at hidle' hreference
    rcases hf with ⟨hat, -, hback⟩ | ⟨t₀, -, hholds⟩
    · refine .inl ⟨?_, hidle', (congrArg StickReference.displaced hreference).trans hback⟩
      rw [hengagedAt, ticked_engagedAt, ← hloop, hidle', hat]
      rfl
    · -- The hold switch would have been turned off again.
      exact absurd (double_le_trans hholds.on (double_le_trans hholds.since hlater)) hon

end Flight

/-! ### All passes -/

/-- Altitude is held at the time `t`, and the stick is as far from the baseline of the hold as the
script moves it. -/
structure Flight.AsScripted (s : Script) (t : Float) (f : Flight) : Prop where
  engaged : f.loop.engagement.any = true
  /-- The positions of the stick are words, and so is the distance from hover. -/
  deviation : f.loop.reference.deviation (s.stick t s.pace.hover) =
    saturate16 (s.pace.hover.toInt + saturate16 (s.stickBias.toInt + (s.moved t).toInt)) -
      saturate16 (s.pace.hover.toInt + s.stickBias.toInt)
  moved : let sum := s.stickBias.toInt + (s.moved t).toInt
    saturate16 sum = sum →
    saturate16 (s.pace.hover.toInt + sum) = s.pace.hover.toInt + sum →
    saturate16 (s.pace.hover.toInt + s.stickBias.toInt) = s.pace.hover.toInt + s.stickBias.toInt →
      f.loop.reference.deviation (s.stick t s.pace.hover) = (s.moved t).toInt
  still : s.moves t = false → f.loop.reference.deviation (s.stick t s.pace.hover) = 0

theorem saturate16_toInt (w : Int16) : saturate16 w.toInt = w.toInt := by
  obtain ⟨hlo, hhi⟩ := toInt16_bounds w
  unfold saturate16
  omega

namespace Flown

variable {s : Script} {n : ℕ} {f : Flight} {t₀ : Float}

theorem onCourse (hf : Flown s n f) (hair : s.settings.airframe = .multirotor) (hn : n ≤ 2 ^ 64) :
    f.OnCourse s n := by
  induction hf with
  | launch h =>
    obtain ⟨-, instruments, -, rfl⟩ := Script.launch_eq_ok_iff.mp h
    exact .inl ⟨rfl, rfl, rfl⟩
  | pass hf h ih => exact (ih (by omega)).pass hf.check hair hn hf.reached h

theorem holds (hf : Flown s n f) (hair : s.settings.airframe = .multirotor) (hn : n ≤ 2 ^ 64)
    (hat : f.engagedAt = some t₀) : f.Holds s n t₀ := by
  rcases hf.onCourse hair hn with ⟨hnone, -, -⟩ | ⟨t₁, hat', hholds⟩
  · rw [hat] at hnone
    cases hnone
  · obtain rfl := Option.some_inj.mp (hat.symm.trans hat')
    exact hholds

theorem asScripted (hf : Flown s n f) (hair : s.settings.airframe = .multirotor) (hn : n ≤ 2 ^ 64)
    (hat : f.engagedAt = some t₀) (htakeoff : ¬ t₀ < s.takeoff) (hstill : s.moved t₀ = 0) :
    f.AsScripted s (Flight.timeOf s.pace n) := by
  obtain ⟨hon, hsince, hengaged, hbaseline, -⟩ := hf.holds hair hn hat
  have hstart := Script.throttle_of_hold hair htakeoff hon s.pace.hover
  have hflying : ¬ Flight.timeOf s.pace n < s.takeoff := fun hlt =>
    htakeoff (double_lt_of_le_of_lt hsince hlt)
  have hnow := Script.throttle_of_hold hair hflying (double_le_trans hon hsince) s.pace.hover
  rw [hstill, Int16.toInt_zero, add_zero, saturate16_toInt] at hstart
  have hdeviation : f.loop.reference.deviation (s.stick (Flight.timeOf s.pace n) s.pace.hover) =
      saturate16 (s.pace.hover.toInt +
          saturate16 (s.stickBias.toInt + (s.moved (Flight.timeOf s.pace n)).toInt)) -
        saturate16 (s.pace.hover.toInt + s.stickBias.toInt) := by
    unfold StickReference.deviation
    rw [hnow, hbaseline, hstart]
  refine ⟨?_, hdeviation, fun hsum hnow hbase => ?_, fun hstill' => ?_⟩
  · rw [hengaged, Engagement.any_only]
  · rw [hdeviation, hsum, hnow, hbase]
    ring
  · rw [hdeviation, Script.moved_eq_zero hstill', Int16.toInt_zero, add_zero, saturate16_toInt,
      sub_self]

theorem moves_of_displaced (hf : Flown s n f) (hair : s.settings.airframe = .multirotor)
    (hn : n ≤ 2 ^ 64)
    (hquiet : ∀ t₀, f.engagedAt = some t₀ → ¬ t₀ < s.takeoff ∧ s.moved t₀ = 0)
    (hdisplaced : f.loop.reference.displaced = true) : s.moves (Flight.timeOf s.pace n) = true := by
  rcases hf.onCourse hair hn with ⟨-, -, hback⟩ | ⟨t₀, hat, hholds⟩
  · rw [hback] at hdisplaced
    cases hdisplaced
  · obtain ⟨htakeoff, hstill⟩ := hquiet t₀ hat
    by_contra hstill'
    have hzero := (hf.asScripted hair hn hat htakeoff hstill).still (eq_false_of_ne_true hstill')
    -- No deadband is so narrow that a stick at the baseline is outside of it.
    rw [hholds.displaced] at hdisplaced
    unfold StickReference.outside at hdisplaced
    rw [hzero, decide_eq_true_iff] at hdisplaced
    exact Nat.not_lt_zero _ hdisplaced

/-- If the hold of a multirotor begins after takeoff and with the stick where the script does not
move it, then it goes on with the stick as far from its baseline as the script moves it, and only
samples from the time of the move have the stick displaced. -/
theorem stick_asScripted (hf : Flown s n f) (hn : n ≤ s.pace.passes)
    (hair : s.settings.airframe = .multirotor)
    (hquiet : ∀ t₀, f.engagedAt = some t₀ → ¬ t₀ < s.takeoff ∧ s.moved t₀ = 0) :
    (f.engagedAt.isSome = true → f.AsScripted s (Flight.timeOf s.pace n)) ∧
      ∀ j row, f.trace.sample? j = some row → row.displaced = true → s.moves row.time = true := by
  have hword : n ≤ 2 ^ 64 := hn.trans ((min_le_right _ _).trans (by decide))
  refine ⟨fun hsome => ?_, fun j row hrow hdisplaced => ?_⟩
  · obtain ⟨t₀, hat⟩ := Option.isSome_iff_exists.mp hsome
    obtain ⟨htakeoff, hstill⟩ := hquiet t₀ hat
    exact hf.asScripted hair hword hat htakeoff hstill
  · obtain ⟨hlengths, hsamples⟩ := hf.trace_eq
    have hj : j < n / s.stride - s.warmUp := by
      by_contra hj
      rw [Trace.sample?_eq_none hlengths (not_lt.mp hj)] at hrow
      cases hrow
    obtain ⟨g, hg, hsample⟩ := hsamples j hj
    have hpass : (s.warmUp + j + 1) * s.stride ≤ n :=
      (Nat.mul_le_mul_right _ (by omega)).trans (Nat.div_mul_le_self n s.stride)
    obtain rfl := Option.some_inj.mp (hrow.symm.trans hsample)
    exact hg.moves_of_displaced hair (hpass.trans hword)
      (fun t₀ hat => hquiet t₀ (hg.engagedAt_of_le hf hpass hat)) hdisplaced

end Flown

/-! ### Short flights -/

/-- The hold of a flight begins in one of its first passes. -/
theorem Flown.engagedAt_of_passes {s : Script} {f : Flight} {t₀ : Float} {n : ℕ} (first : ℕ)
    (hfirst : (match s.launch with
      | .ok f₀ => Flight.engagedAt <$> Flight.passes s s.pace first 1 f₀
      | .error _ => .error .overflow) = Except.ok (some t₀))
    (hf : Flown s n f) (hle : first ≤ n) : f.engagedAt = some t₀ := by
  cases hlaunch : s.launch with
  | error e => rw [hlaunch] at hfirst; cases hfirst
  | ok f₀ =>
    rw [hlaunch] at hfirst
    obtain ⟨g, hpasses, hat⟩ := map_eq_ok_iff.mp hfirst
    have hg := (Flown.launch hlaunch).passes hpasses
    exact hg.engagedAt_of_le hf (by omega) hat

theorem Flown.exists_of_first {s : Script} {t₀ : Float} {count : ℕ}
    (hfirst : (match s.launch with
      | .ok f₀ => Flight.engagedAt <$> Flight.passes s s.pace 1 1 f₀
      | .error _ => .error .overflow) = Except.ok (some t₀))
    (hall : ∃ f₀ f, s.launch = .ok f₀ ∧ Flight.passes s s.pace (count + 1) 1 f₀ = .ok f) :
    ∃ f, Flown s (count + 1) f ∧ f.engagedAt = some t₀ := by
  obtain ⟨f₀, f, hlaunch, hpasses⟩ := hall
  have hf := (Flown.launch hlaunch).passes hpasses
  rw [Nat.zero_add] at hf
  exact ⟨f, hf, Flown.engagedAt_of_passes 1 hfirst hf (by omega)⟩

namespace Script

/-- Altitude is held from the first pass on, and the stick is moved later. -/
def nudged : Script :=
  { brief with takeoff := 0.0, holdAt := 0.0, stickMove := some ⟨⟨0.02, 0.1⟩, 100⟩ }

/-- The hold takes the baseline from a stick that is moved. -/
def heldWhileMoved : Script :=
  { brief with takeoff := 0.0, holdAt := 0.0, stickMove := some ⟨⟨0.0, 0.02⟩, 100⟩ }

/-- The hold takes the baseline from a stick that is down. -/
def heldOnGround : Script :=
  { brief with takeoff := 0.02, holdAt := 0.0 }

/-- A multirotor ends its flight with the stick at this distance from the baseline of its hold, and
has it displaced in its first sample, while the script moves the stick at neither time. -/
def Strays (s : Script) (deviation : Int) : Prop :=
  s.settings.airframe = .multirotor ∧ ∃ f row, Flown s s.pace.passes f ∧
    f.engagedAt.isSome = true ∧ s.moves (Flight.timeOf s.pace s.pace.passes) = false ∧
    f.loop.reference.deviation (s.stick (Flight.timeOf s.pace s.pace.passes) s.pace.hover) =
      deviation ∧
    f.trace.sample? 0 = some row ∧ row.displaced = true ∧ s.moves row.time = false

end Script

theorem Flown.stick_asScripted_nudged :
    ∃ f, Flown .nudged 4 f ∧ f.AsScripted .nudged (Flight.timeOf Script.nudged.pace 4) ∧
      f.loop.reference.deviation
        (Script.nudged.stick (Flight.timeOf Script.nudged.pace 4) Script.nudged.pace.hover) = 100 ∧
      f.trace.lengths = List.replicate 14 1 ∧
      ∀ j row, f.trace.sample? j = some row → row.displaced = true →
        Script.nudged.moves row.time = true := by
  obtain ⟨f, hf, hat⟩ : ∃ f, Flown .nudged 4 f ∧ f.engagedAt = some 0.0125 :=
    Flown.exists_of_first (by decide +kernel) (Script.exists_passes_succ (by decide +kernel))
  have hpasses : 4 ≤ Script.nudged.pace.passes := by decide +kernel
  have hcount : 4 / Script.nudged.stride - Script.nudged.warmUp = 1 := by decide +kernel
  have hmoved : Script.nudged.moved (Flight.timeOf Script.nudged.pace 4) = 100 := by decide +kernel
  have hhover : Script.nudged.pace.hover = 1500 := by decide +kernel
  obtain ⟨hscripted, hrows⟩ := hf.stick_asScripted hpasses rfl fun t₀ ht => by
    obtain rfl := Option.some_inj.mp (hat.symm.trans ht)
    exact ⟨by decide +kernel, by decide +kernel⟩
  have hscripted := hscripted (by rw [hat]; rfl)
  have hdeviation := hscripted.moved
  rw [hmoved, hhover] at hdeviation
  have hlengths := hf.trace_eq.1
  rw [hcount] at hlengths
  refine ⟨f, hf, hscripted, ?_, hlengths, hrows⟩
  rw [hhover]
  exact hdeviation (by decide) (by decide) (by decide)

/-- A brief flight that is held from its first pass on ends with the stick as far from its baseline
as it is from where it was then. -/
theorem Script.strays_of_first {s : Script} (t₀ : Float) {deviation : Int}
    (hair : s.settings.airframe = .multirotor)
    (hcounts : s.pace.passes = 4 ∧ s.stride = 2 ∧ s.warmUp = 1)
    (hfirst : (match s.launch with
      | .ok f₀ => Flight.engagedAt <$> Flight.passes s s.pace 1 1 f₀
      | .error _ => .error .overflow) = Except.ok (some t₀))
    (hall : ∃ f₀ f, s.launch = .ok f₀ ∧ Flight.passes s s.pace 4 1 f₀ = .ok f)
    (hstill : s.moves (Flight.timeOf s.pace 4) = false)
    (hdeviation : (s.stick (Flight.timeOf s.pace 4) s.pace.hover).throttle.toInt -
      (s.stick t₀ s.pace.hover).throttle.toInt = deviation)
    (hwide : s.settings.stick.deadband.toNat < deviation.natAbs) : s.Strays deviation := by
  obtain ⟨hpasses, hstride, hwarm⟩ := hcounts
  obtain ⟨f, hf, hat⟩ := Flown.exists_of_first hfirst hall
  obtain ⟨-, -, -, hbaseline, hdisplaced⟩ := hf.holds hair (by decide) hat
  have hreference : f.loop.reference.deviation
      (s.stick (Flight.timeOf s.pace 4) s.pace.hover) = deviation := by
    unfold StickReference.deviation
    rw [hbaseline, hdeviation]
  have hout : f.loop.reference.displaced = true := by
    rw [hdisplaced]
    unfold StickReference.outside
    rw [hreference]
    exact decide_eq_true hwide
  obtain ⟨g, hg, hsample⟩ := hf.trace_eq.2 0 (by rw [hstride, hwarm]; decide)
  rw [hstride, hwarm] at hg hsample
  obtain rfl := hg.unique hf
  refine ⟨hair, g, _, ?_, ?_, ?_, ?_, hsample, hout, hstill⟩
  · rw [hpasses]
    exact hf
  · rw [hat]
    rfl
  · rw [hpasses]
    exact hstill
  · rw [hpasses]
    exact hreference

/-- Neither condition on the begin of the hold can be left out. -/
theorem strays_early :
    Script.heldWhileMoved.Strays (-100) ∧ Script.heldOnGround.Strays 520 := by
  constructor
  · exact Script.strays_of_first 0.0125 rfl (by decide +kernel) (by decide +kernel)
      (Script.exists_passes_succ (by decide +kernel)) (by decide +kernel) (by decide +kernel)
      (by decide)
  · exact Script.strays_of_first 0.0125 rfl (by decide +kernel) (by decide +kernel)
      (Script.exists_passes_succ (by decide +kernel)) (by decide +kernel) (by decide +kernel)
      (by decide)

end Autopilot
