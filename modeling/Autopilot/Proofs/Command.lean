import Autopilot.Command
import Autopilot.Proofs.Regulator

/-!
# What a command leaves behind

`command` does three things that have nothing to do with each other: it notes where the stick is
(`StickReference.noted`), it tells the regulator (`Regulator.steered`), and it issues a command
(`outgoing`).  `command_eq` takes it apart into these.  The first two always succeed; the third does
while the correction is inside its bound and the range of pulses is not empty (`outgoing_eq_ok`).
-/

namespace Autopilot

/-! ### The three parts -/

/-- The stick reference after a command: a multirotor remembers whether the stick is outside. -/
def StickReference.noted (ref : StickReference) (s : Settings) (stick : Stick) : StickReference :=
  if s.airframe = .fixedWing then ref else { ref with displaced := ref.outside s.stick stick }

/-- The regulator after a command. -/
def Regulator.steered (r : Regulator) (s : Settings) (ref : StickReference) (altitude : Int32)
    (stick : Stick) : Regulator :=
  if s.airframe = .fixedWing then r
  else if ref.outside s.stick stick then
    if s.stick.direct then { r with integral := 0 }
    else { r with stickClimb := .ofIntClamp ((ref.deviation stick).tdiv 2), followsStick := true }
  else if ref.displaced then
    if s.stick.direct then { r with setpoint := altitude }
    else { r with setpoint := altitude, followsStick := false }
  else r

/-- The throttle of a stick that drives it itself. -/
def StickReference.shifted (ref : StickReference) (policy : StickPolicy) (stick : Stick)
    (incoming : Command) : Command :=
  let shift : Int :=
    if 0 < ref.deviation stick then -policy.deadband.toNat else policy.deadband.toNat
  { incoming with throttle := .ofIntClamp (incoming.throttle.toInt + shift) }

/-- The command that is issued. -/
def outgoing (s : Settings) (ref : StickReference) (r : Regulator) (stick : Stick)
    (incoming : Command) : Except Fault Command :=
  if s.airframe = .fixedWing then steer s.pitchReversed r incoming
  else if s.stick.direct ∧ ref.outside s.stick stick then
    .ok (ref.shifted s.stick stick incoming)
  else ref.held s.pulses r incoming

theorem command_eq (s : Settings) (ref : StickReference) (r : Regulator) (altitude : Int32)
    (stick : Stick) (incoming : Command) :
    command s ref r altitude stick incoming =
      (fun out => (ref.noted s stick, r.steered s ref altitude stick, out)) <$>
        outgoing s ref r stick incoming := by
  unfold command StickReference.noted Regulator.steered outgoing
  cases hair : s.airframe with
  | fixedWing => cases steer s.pitchReversed r incoming <;> rfl
  | multirotor =>
    cases hdir : s.stick.direct with
    | true =>
      unfold StickReference.direct
      cases hout : ref.outside s.stick stick with
      | true => rfl
      | false =>
        -- The held throttle reads the baseline and the correction, which no branch changes.
        cases hdis : ref.displaced <;>
          change (ref.held s.pulses r incoming >>= fun out => Except.ok (_, _, out)) = _ <;>
          cases ref.held s.pulses r incoming <;> simp
    | false =>
      unfold StickReference.rate
      cases hout : ref.outside s.stick stick <;> cases hdis : ref.displaced <;>
        change (ref.held s.pulses r incoming >>= fun out => Except.ok (_, _, out)) = _ <;>
        cases ref.held s.pulses r incoming <;> simp

/-! ### The regulator after a command -/

section Steered

variable (r : Regulator) (s : Settings) (ref : StickReference) (altitude : Int32) (stick : Stick)

@[simp] theorem Regulator.steered_correction :
    (r.steered s ref altitude stick).correction = r.correction := by
  unfold Regulator.steered
  split_ifs <;> rfl

theorem Regulator.steered_setpoint :
    (r.steered s ref altitude stick).setpoint =
      if s.airframe = .multirotor ∧ ¬ ref.outside s.stick stick ∧ ref.displaced then altitude
      else r.setpoint := by
  unfold Regulator.steered
  cases s.airframe with
  | fixedWing => simp
  | multirotor => split_ifs <;> simp_all

theorem Regulator.steered_integral :
    (r.steered s ref altitude stick).integral =
      if s.airframe = .multirotor ∧ ref.outside s.stick stick ∧ s.stick.direct then 0
      else r.integral := by
  unfold Regulator.steered
  cases s.airframe with
  | fixedWing => simp
  | multirotor => split_ifs <;> simp_all

variable {r}

/-- Outside of direct mode the regulator follows the stick exactly while it is displaced. -/
theorem Regulator.steered_followsStick
    (h : r.followsStick = (ref.displaced && !s.stick.direct)) :
    (r.steered s ref altitude stick).followsStick =
      ((ref.noted s stick).displaced && !s.stick.direct) := by
  unfold Regulator.steered StickReference.noted
  cases s.airframe with
  | fixedWing => exact h
  | multirotor =>
    cases hdirect : s.stick.direct <;> cases hout : ref.outside s.stick stick <;>
      cases hdis : ref.displaced <;> simp_all

theorem Regulator.Bounded.steered (h : r.Bounded) : (r.steered s ref altitude stick).Bounded where
  integral := by
    rw [Regulator.steered_integral]
    split_ifs
    · decide
    · exact h.integral
  correction := by
    rw [Regulator.steered_correction]
    exact h.correction

end Steered

/-! ### Pulses -/

theorem toInt16_bounds (w : Int16) : -32768 ≤ w.toInt ∧ w.toInt ≤ 32767 := by
  have hlo := w.le_toInt
  have hhi := w.toInt_lt
  constructor <;> omega

theorem toInt_ofIntClamp16 (w : Int16) : (Int32.ofIntClamp w.toInt).toInt = w.toInt := by
  obtain ⟨hlo, hhi⟩ := toInt16_bounds w
  rw [toInt_ofIntClamp]
  exact saturate_eq_self ⟨by omega, by omega⟩

/-- The value of a 16-bit word nearest to an integer. -/
def saturate16 (n : Int) : Int :=
  max (-32768) (min n 32767)

theorem toInt_ofIntClamp_eq_saturate16 (n : Int) : (Int16.ofIntClamp n).toInt = saturate16 n := by
  have hmin : Int16.minValue.toInt = -32768 := rfl
  have hmax : Int16.maxValue.toInt = 32767 := rfl
  unfold Int16.ofIntClamp saturate16
  split_ifs with hlo hhi
  · rw [Int16.toInt_ofIntLE]
    omega
  · rw [hmax]
    omega
  · rw [hmin]
    omega

/-- A pulse between two 16-bit words is one. -/
theorem toInt_ofInt_clamp (low high : Int16) (n : Int) (h : low ≤ high) :
    (Int16.ofInt (max low.toInt (min n high.toInt))).toInt =
      max low.toInt (min n high.toInt) := by
  have hends := Int16.le_iff_toInt_le.mp h
  obtain ⟨hlo, -⟩ := toInt16_bounds low
  obtain ⟨-, hhi⟩ := toInt16_bounds high
  exact Int16.toInt_ofInt_of_le (by omega) (by omega)

/-- A range with its ends the right way round takes every pulse inside. -/
theorem PulseRange.clamp_eq {range : PulseRange} (h : range.low ≤ range.high) (pulse : Int32) :
    range.clamp pulse =
      .ok (.ofInt (max range.low.toInt (min pulse.toInt range.high.toInt))) := by
  have hends : range.low.toInt ≤ range.high.toInt := Int16.le_iff_toInt_le.mp h
  -- The ends are pulses, so what is between them is one as well.
  have ofInt_eq : ∀ n : Int, -32768 ≤ n → n ≤ 32767 → Int16.ofIntClamp n = .ofInt n :=
    fun n h1 h2 => by
      rw [← Int16.ofIntLE_eq_ofInt (by exact h1) (by exact h2), Int16.ofIntLE_eq_ofIntClamp]
  obtain ⟨hl1, hl2⟩ := toInt16_bounds range.low
  obtain ⟨hh1, hh2⟩ := toInt16_bounds range.high
  unfold PulseRange.clamp between
  simp only [Int32.lt_iff_toInt_lt, toInt_ofIntClamp16]
  split_ifs with h1 h2 h3
  · omega
  · rw [ok_bind, pure_eq_ok, toInt_ofIntClamp16, ofInt_eq _ hl1 hl2, max_eq_left (by omega)]
  · rw [ok_bind, pure_eq_ok, toInt_ofIntClamp16, ofInt_eq _ hh1 hh2, min_eq_right (by omega),
      max_eq_right hends]
  · rw [ok_bind, pure_eq_ok, ofInt_eq _ (by omega) (by omega), min_eq_left (by omega),
      max_eq_right (by omega)]

/-! ### The command that is issued -/

variable {s : Settings} {ref : StickReference} {r : Regulator}

theorem held_eq (hr : r.Bounded) (hp : s.pulses.low ≤ s.pulses.high) (incoming : Command) :
    ref.held s.pulses r incoming =
      .ok { incoming with
        throttle := .ofInt (max s.pulses.low.toInt
          (min (ref.baseline.toInt + r.correction.toInt) s.pulses.high.toInt)) } := by
  have hcorr := hr.correction
  obtain ⟨hb1, hb2⟩ := toInt16_bounds ref.baseline
  have hword : IsWord (ref.baseline.toInt + r.correction.toInt) :=
    isWord_of_natAbs_le (by omega)
  unfold StickReference.held
  rw [exact_eq hword, ok_bind, PulseRange.clamp_eq hp, ok_bind, pure_eq_ok,
    toInt_ofInt_of_isWord hword]

theorem steer_eq (hr : r.Bounded) (reversed : Bool) (incoming : Command) :
    steer reversed r incoming =
      .ok { incoming with
        pitch := .ofIntClamp
          (incoming.pitch.toInt + r.correction.toInt * if reversed then -1 else 1) } := by
  have hcorr := hr.correction
  obtain ⟨hb1, hb2⟩ := toInt16_bounds incoming.pitch
  have hturn : (r.correction.toInt * if reversed then -1 else 1).natAbs ≤ 650 := by
    cases reversed <;> simp <;> omega
  have hword : IsWord (r.correction.toInt * if reversed then -1 else 1) :=
    isWord_of_natAbs_le (by omega)
  have hpitch : IsWord (incoming.pitch.toInt + r.correction.toInt * if reversed then -1 else 1) :=
    isWord_of_natAbs_le (by omega)
  unfold steer
  rw [exact_eq hword, ok_bind, toInt_ofInt_of_isWord hword, exact_eq hpitch, ok_bind, pure_eq_ok,
    toInt_ofInt_of_isWord hpitch]

/-- Of the regulator, only the correction goes into the command. -/
theorem outgoing_congr {r' : Regulator} (h : r.correction = r'.correction) (stick : Stick)
    (incoming : Command) : outgoing s ref r stick incoming = outgoing s ref r' stick incoming := by
  unfold outgoing steer StickReference.held
  rw [h]

theorem outgoing_eq_ok (hr : r.Bounded) (hp : s.pulses.low ≤ s.pulses.high) (stick : Stick)
    (incoming : Command) : ∃ out, outgoing s ref r stick incoming = .ok out := by
  unfold outgoing
  split_ifs
  · exact ⟨_, steer_eq hr _ _⟩
  · exact ⟨_, rfl⟩
  · exact ⟨_, held_eq hr hp _⟩

end Autopilot
