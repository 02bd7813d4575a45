import Autopilot.Proofs.Provenance

/-!
# The climb rate that the stick asks for

Two memories tell that the stick of a multirotor is displaced: `StickReference.displaced` and, with
the climb rate that it asks for, `Regulator.followsStick`.  They are set and cleared in different
places, and a new baseline or a source that is disengaged changes neither.

An `Excursion` is a command that finds the stick outside the deadband while altitude is held.  Unless
the stick drives the throttle itself, the two memories always agree, and the climb rate that is
followed comes from the last excursion of the run (`performAll_stickClimb`).  In the other modes the
regulator never follows the stick.
-/

namespace Autopilot

/-! ### The regulator after a command -/

section Steered

variable {r : Regulator} {s : Settings} {ref : StickReference} {altitude : Int32} {stick : Stick}

theorem Regulator.steered_stickClimb :
    (r.steered s ref altitude stick).stickClimb =
      if s.airframe = .multirotor ∧ ref.outside s.stick stick ∧ s.stick.direct = false then
        .ofIntClamp ((ref.deviation stick).tdiv 2)
      else r.stickClimb := by
  unfold Regulator.steered
  cases s.airframe with
  | fixedWing => simp
  | multirotor => split_ifs <;> simp_all

theorem Regulator.outside_or_followsStick
    (hfollows : (r.steered s ref altitude stick).followsStick = true) :
    s.airframe = .multirotor ∧ ref.outside s.stick stick ∨ r.followsStick = true := by
  unfold Regulator.steered at hfollows
  cases hair : s.airframe with
  | fixedWing => exact .inr (by rwa [if_pos hair] at hfollows)
  | multirotor =>
    cases hout : ref.outside s.stick stick with
    | true => exact .inl ⟨rfl, rfl⟩
    | false =>
      right
      split_ifs at hfollows <;> simp_all

/-- A half of a distance of the stick is a word. -/
theorem toInt_ofIntClamp_half_deviation :
    (Int32.ofIntClamp ((ref.deviation stick).tdiv 2)).toInt = (ref.deviation stick).tdiv 2 := by
  obtain ⟨hs1, hs2⟩ := toInt16_bounds stick.throttle
  obtain ⟨hb1, hb2⟩ := toInt16_bounds ref.baseline
  have hhalf : ((ref.deviation stick).tdiv 2).natAbs = (ref.deviation stick).natAbs / 2 :=
    Int.natAbs_tdiv _ 2
  have hword : IsWord ((ref.deviation stick).tdiv 2) := by
    refine isWord_of_natAbs_le ?_
    unfold StickReference.deviation at hhalf ⊢
    omega
  rw [toInt_ofIntClamp, saturate_eq_self hword]

end Steered

namespace HoldLoop

/-! ### Excursions -/

/-- A command finds the stick of a multirotor outside the deadband while altitude is held. -/
def Excurses (h : HoldLoop) (stick : Stick) : Prop :=
  h.engagement.any ∧ h.settings.airframe = .multirotor ∧ h.reference.outside h.settings.stick stick

instance (h : HoldLoop) (stick : Stick) : Decidable (h.Excurses stick) :=
  inferInstanceAs (Decidable (_ ∧ _ ∧ _))

/-- Where the stick was on an excursion, and where it would have been centred. -/
structure Excursion where
  throttle : Int16
  baseline : Int16
deriving DecidableEq, Repr

/-- The distance of the stick from the baseline. -/
def Excursion.deviation (x : Excursion) : Int :=
  x.throttle.toInt - x.baseline.toInt

/-- The excursion that a moment shows. -/
def Moment.excursion : Moment → Option Excursion
  | ⟨h, .drive stick _⟩ =>
    if h.Excurses stick then some ⟨stick.throttle, h.reference.baseline⟩ else none
  | _ => none

/-- The excursions that calls show, the last one at the end. -/
def excursions (h : HoldLoop) (actions : List Action) : List Excursion :=
  (h.trail (actions.flatMap Action.stages)).filterMap Moment.excursion

/-! ### The climb rate, stage by stage -/

section Stages

variable (h : HoldLoop) (stick : Stick)

@[simp] theorem fed_stickClimb (source : Source) (on : Bool) :
    (h.fed source on stick).regulator.stickClimb = h.regulator.stickClimb := by
  unfold fed
  split_ifs <;> rfl

theorem driven_stickClimb :
    (h.driven stick).regulator.stickClimb =
      if h.Excurses stick ∧ h.settings.stick.direct = false then
        .ofIntClamp ((h.reference.deviation stick).tdiv 2)
      else h.regulator.stickClimb := by
  unfold driven Excurses
  by_cases hany : h.engagement.any
  · rw [if_pos hany]
    dsimp only
    rw [Regulator.steered_stickClimb]
    exact if_congr ⟨fun ⟨hair, hout, hslow⟩ => ⟨⟨hany, hair, hout⟩, hslow⟩,
      fun ⟨⟨_, hair, hout⟩, hslow⟩ => ⟨hair, hout, hslow⟩⟩ rfl rfl
  · rw [if_neg hany, if_neg fun hcase => hany hcase.1.1]

/-- Only an excursion makes the regulator follow the stick. -/
theorem excurses_or_followsStick (hfollows : (h.driven stick).regulator.followsStick = true) :
    h.Excurses stick ∨ h.regulator.followsStick = true := by
  unfold driven at hfollows
  split_ifs at hfollows with hany
  · rcases Regulator.outside_or_followsStick hfollows with ⟨hair, hout⟩ | hbefore
    · exact .inl ⟨hany, hair, hout⟩
    · exact .inr hbefore
  · exact .inr hfollows

end Stages

/-! ### The climb rate after a history -/

section History

variable {s : Settings} {past : List Moment} {h : HoldLoop}

/-- While the regulator follows the stick, it follows the last excursion of the history. -/
theorem Reached.exists_excursion (hr : Reached s past h) (hslow : s.stick.direct = false)
    (hfollows : h.regulator.followsStick = true) :
    ∃ x, (past.filterMap Moment.excursion).getLast? = some x ∧
      s.stick.deadband.toNat < x.deviation.natAbs ∧
      h.regulator.stickClimb.toInt = x.deviation.tdiv 2 := by
  -- Only a command that finds an excursion adds to the list, and it sets the climb rate as well.
  induction hr with
  | start => exact absurd hfollows Bool.false_ne_true
  | @fed past h _ source on stick ih =>
    rw [fed_followsStick] at hfollows
    obtain ⟨x, hx⟩ := ih hfollows
    rw [List.filterMap_append, fed_stickClimb]
    exact ⟨x, by simpa [Moment.excursion] using hx⟩
  | @sensed past h _ now r _ _ ih =>
    rw [sensed_followsStick] at hfollows
    obtain ⟨x, hx⟩ := ih hfollows
    rw [List.filterMap_append, sensed_stickClimb]
    exact ⟨x, by simpa [Moment.excursion] using hx⟩
  | @driven past h hr stick incoming ih =>
    have hdirect : h.settings.stick.direct = false := hr.settings ▸ hslow
    rw [List.filterMap_append, driven_stickClimb]
    by_cases hx : h.Excurses stick
    · refine ⟨⟨stick.throttle, h.reference.baseline⟩, by simp [Moment.excursion, hx], ?_, ?_⟩
      · have houtside := of_decide_eq_true hx.2.2
        rw [hr.settings] at houtside
        exact houtside
      · rw [if_pos ⟨hx, hdirect⟩, toInt_ofIntClamp_half_deviation]
        rfl
    · have hbefore := (h.excurses_or_followsStick stick hfollows).resolve_left hx
      obtain ⟨x, hlast⟩ := ih hbefore
      rw [if_neg fun hcase => hx hcase.1]
      exact ⟨x, by simpa [Moment.excursion, hx] using hlast⟩

/-- A stick that drives the throttle or nothing at all asks for no climb rate. -/
theorem Reached.stickClimb_eq_zero (hr : Reached s past h)
    (hmode : s.stick.direct = true ∨ s.airframe = .fixedWing) : h.regulator.stickClimb = 0 := by
  induction hr with
  | start => rfl
  | fed _ source on stick ih => rw [fed_stickClimb, ih]
  | sensed _ now r _ ih => rw [sensed_stickClimb, ih]
  | @driven past h hr stick incoming ih =>
    rw [driven_stickClimb, if_neg, ih]
    rintro ⟨⟨-, hair, -⟩, hslow⟩
    rw [hr.settings] at hair hslow
    rcases hmode with hdirect | hwing
    · exact absurd (hdirect.symm.trans hslow) Bool.false_ne_true.symm
    · cases hwing.symm.trans hair

theorem Reached.followsStick_eq_false (hr : Reached s past h)
    (hmode : s.stick.direct = true ∨ s.airframe = .fixedWing) :
    h.regulator.followsStick = false := by
  rw [hr.followsStick_eq]
  rcases hmode with hdirect | hwing
  · rw [hdirect, Bool.not_true, Bool.and_false]
  · rw [hr.displaced_of_fixedWing hwing, Bool.false_and]

end History

/-- Unless it follows the stick, the outer loop asks for no more than 300 centimetres per second. -/
theorem exists_climbTarget {r : Regulator} (hfollows : r.followsStick = false) (gains : AxisGains)
    (altitude : Int32) :
    ∃ target, r.climbTarget gains altitude = .ok target ∧ target.toInt.natAbs ≤ 300 := by
  refine ⟨_, r.climbTarget_eq gains altitude, ?_⟩
  rw [toInt_ofInt_of_isWord (r.isWord_target gains altitude)]
  unfold Regulator.target
  rw [hfollows, if_neg Bool.false_ne_true]
  exact natAbs_confine_le rfl _

/-- After any calls, the regulator of a multirotor whose stick asks for climb rates follows the stick
exactly while the stick is displaced, and then at half the deviation of the last excursion.  In direct
mode and on a fixed wing it never follows the stick, and the outer loop keeps its bound. -/
theorem performAll_stickClimb {s : Settings} {h₀ h : HoldLoop} {actions : List Action}
    (hs : start s = .ok h₀) (ha : h₀.performAll actions = .ok h) :
    (s.airframe = .multirotor → s.stick.direct = false →
      h.regulator.followsStick = h.reference.displaced ∧
      (h.regulator.followsStick = true → ∃ x, (h₀.excursions actions).getLast? = some x ∧
        s.stick.deadband.toNat < x.deviation.natAbs ∧
        h.regulator.stickClimb.toInt = x.deviation.tdiv 2)) ∧
    (s.stick.direct = true ∨ s.airframe = .fixedWing →
      h.regulator.followsStick = false ∧ h.regulator.stickClimb = 0 ∧
      ∀ gains altitude, ∃ target,
        h.regulator.climbTarget gains altitude = .ok target ∧ target.toInt.natAbs ≤ 300) := by
  have hr := reached_performAll hs ha
  refine ⟨fun _ hslow => ⟨?_, hr.exists_excursion hslow⟩, fun hmode => ?_⟩
  · rw [hr.followsStick_eq, hslow, Bool.not_false, Bool.and_true]
  · have hfollows := hr.followsStick_eq_false hmode
    exact ⟨hfollows, hr.stickClimb_eq_zero hmode, exists_climbTarget hfollows⟩

/-- The stick asks for climb rates. -/
def climbingStick : Settings :=
  { stick := { direct := false } }

/-- The stick is displaced once.  Then the second source takes a new baseline, both are disengaged,
and the stick moves on. -/
def leftDisplaced : List Action :=
  [.switch .baro true ⟨1450, 1500⟩, .drive ⟨1601, 1500⟩ ⟨1500, 0⟩,
    .switch .ranger true ⟨1700, 1500⟩, .switch .baro false ⟨1700, 1500⟩,
    .switch .ranger false ⟨1700, 1500⟩, .drive ⟨1300, 1500⟩ ⟨1500, 0⟩]

/-- Neither the new baseline nor the last command, which finds no source engaged, changes the climb
rate.  A fixed wing does not even notice the stick. -/
theorem performAll_stickClimb_leftDisplaced :
    (∃ h, start climbingStick = .ok { settings := climbingStick } ∧
      performAll { settings := climbingStick } leftDisplaced = .ok h ∧
      excursions { settings := climbingStick } leftDisplaced = [⟨1601, 1450⟩] ∧
      h.reference = ⟨1700, true⟩ ∧ h.regulator.followsStick = true ∧
      ∃ x : Excursion, [⟨1601, 1450⟩].getLast? = some x ∧ 40 < x.deviation.natAbs ∧
        x.deviation.tdiv 2 = 75 ∧ h.regulator.stickClimb.toInt = x.deviation.tdiv 2) ∧
    ∃ h, start { airframe := .fixedWing } = .ok { settings := { airframe := .fixedWing } } ∧
      performAll { settings := { airframe := .fixedWing } } leftDisplaced = .ok h ∧
      h.regulator.followsStick = false ∧ h.regulator.stickClimb = 0 ∧
      ∃ target, h.regulator.climbTarget {} 100000 = .ok target ∧ target.toInt.natAbs ≤ 300 := by
  constructor
  · have hstart : start climbingStick = .ok { settings := climbingStick } := by decide +kernel
    have hexcursions : excursions { settings := climbingStick } leftDisplaced =
        [⟨1601, 1450⟩] := by decide +kernel
    have hrun : (performAll { settings := climbingStick } leftDisplaced).map HoldLoop.reference =
        .ok ⟨1700, true⟩ := by decide +kernel
    obtain ⟨h, ha, href⟩ := map_eq_ok_iff.mp hrun
    obtain ⟨hfollows, htracks⟩ := (performAll_stickClimb hstart ha).1 rfl rfl
    rw [href] at hfollows
    obtain ⟨x, hlast, hout, hclimb⟩ := htracks hfollows
    rw [hexcursions] at hlast
    have hhalf : x.deviation.tdiv 2 = 75 := by
      obtain rfl := Option.some.inj hlast
      rfl
    exact ⟨h, hstart, ha, hexcursions, href, hfollows, x, hlast, hout, hhalf, hclimb⟩
  · have hstart : start { airframe := .fixedWing } =
        .ok { settings := { airframe := .fixedWing } } := by decide +kernel
    have hends : (performAll { settings := { airframe := .fixedWing } } leftDisplaced).isOk =
        true := by decide +kernel
    cases ha : performAll { settings := { airframe := .fixedWing } } leftDisplaced with
    | error fault => rw [ha] at hends; cases hends
    | ok h =>
      obtain ⟨hfollows, hclimb, hbound⟩ := (performAll_stickClimb hstart ha).2 (.inr rfl)
      exact ⟨h, hstart, rfl, hfollows, hclimb, hbound {} 100000⟩

end HoldLoop

end Autopilot
