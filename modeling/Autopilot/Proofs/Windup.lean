import Autopilot.Proofs.ExactResponse
import Mathlib.Algebra.Order.BigOperators.Group.List

/-!
# The integral sum under a one-sided error

Each run of the regulator pushes its integral sum by the error of the climb rate times the gain
(`Regulator.push`), and then bounds the sum.  While all pushes go to the same side, bounding the sum
after each of them is the same as adding them all up and bounding the result once
(`confine_confine_add`), however large a single push is.  So the sum after any number of runs is known
from the pushes alone (`Regulator.respondAll_oneSided`).

It is at its bound exactly when the unbounded sum has reached it, and nothing of what lies beyond
the bound is remembered: the first push to the other side takes its full amount off.
-/

namespace Autopilot

/-! ### Bounded sums -/

theorem confine_eq_self {bound n : ℤ} (h : n.natAbs ≤ bound) : confine bound n = n := by
  unfold confine
  omega

/-- Two pushes to the same side, one of them already bounded. -/
theorem confine_confine_add {bound start m n : ℤ} (hstart : start.natAbs ≤ bound)
    (hside : 0 ≤ m ∧ 0 ≤ n ∨ m ≤ 0 ∧ n ≤ 0) :
    confine bound (confine bound (start + m) + n) = confine bound (start + m + n) := by
  unfold confine
  omega

theorem confine_eq_bound_iff {bound : ℤ} (h : 0 < bound) (n : ℤ) :
    confine bound n = bound ↔ bound ≤ n := by
  unfold confine
  omega

theorem confine_eq_neg_bound_iff {bound : ℤ} (h : 0 < bound) (n : ℤ) :
    confine bound n = -bound ↔ n ≤ -bound := by
  unfold confine
  omega

namespace Regulator

/-! ### Pushes -/

/-- What a run adds to the integral sum before it is bounded: the error of the climb rate times the
gain, as an integer of any size. -/
def push (r : Regulator) (gains : AxisGains) (seen : Sighting) : ℤ :=
  gains.climb.integral.toNat * r.climbError gains seen.altitude seen.sample

/-- All pushes of some runs go up, or all of them go down. -/
def OneSided (r : Regulator) (gains : AxisGains) (seen : List Sighting) : Prop :=
  (∀ s ∈ seen, 0 ≤ r.push gains s) ∨ ∀ s ∈ seen, r.push gains s ≤ 0

/-- The sum of the pushes of some runs. -/
def pushes (r : Regulator) (gains : AxisGains) (seen : List Sighting) : ℤ :=
  (seen.map (r.push gains)).sum

section Runs

variable {r : Regulator} {gains : AxisGains}

/-- A run changes neither the setpoint nor the demand of the stick, so that the pushes of later runs
stay the same. -/
theorem push_answered (s : Sighting) :
    (r.answered gains s.altitude s.sample s.attitude).push gains = r.push gains := by
  funext seen
  unfold answered
  split_ifs <;> rfl

theorem toInt_integral_answered {s : Sighting} (hopen : s.attitude.thrustPointsDown = true) :
    (r.answered gains s.altitude s.sample s.attitude).integral.toInt =
      confine (8192 * 200) (r.integral.toInt + r.push gains s) := by
  have hword : IsWord (r.nextIntegral gains s.altitude s.sample) :=
    isWord_of_natAbs_le ((r.natAbs_nextIntegral_le gains s.altitude s.sample).trans (by decide))
  unfold answered
  rw [if_pos hopen]
  exact toInt_ofInt_of_isWord hword

theorem OneSided.tail {s : Sighting} {rest : List Sighting} (h : r.OneSided gains (s :: rest)) :
    r.OneSided gains rest := by
  rcases h with h | h
  · exact .inl fun s' hs' => h s' (List.mem_cons_of_mem s hs')
  · exact .inr fun s' hs' => h s' (List.mem_cons_of_mem s hs')

/-- The first push and any number of those behind it go to the same side. -/
theorem OneSided.push_pushes {s : Sighting} {rest : List Sighting}
    (h : r.OneSided gains (s :: rest)) (n : ℕ) :
    0 ≤ r.push gains s ∧ 0 ≤ r.pushes gains (rest.take n) ∨
      r.push gains s ≤ 0 ∧ r.pushes gains (rest.take n) ≤ 0 := by
  rcases h with h | h
  · refine .inl ⟨h s List.mem_cons_self, List.sum_nonneg fun m hm => ?_⟩
    obtain ⟨s', hs', rfl⟩ := List.mem_map.mp hm
    exact h s' (List.mem_cons_of_mem s (List.mem_of_mem_take hs'))
  · refine .inr ⟨h s List.mem_cons_self, ?_⟩
    refine (List.sum_le_card_nsmul _ 0 fun m hm => ?_).trans (nsmul_zero _).le
    obtain ⟨s', hs', rfl⟩ := List.mem_map.mp hm
    exact h s' (List.mem_cons_of_mem s (List.mem_of_mem_take hs'))

/-- Before the first run nothing has been pushed. -/
theorem integral_eq_of_no_pushes (hstart : r.integral.toInt.natAbs ≤ 8192 * 200) :
    r.integral.toInt = confine (8192 * 200) (r.integral.toInt + r.pushes gains []) := by
  have hnone : r.integral.toInt + r.pushes gains [] = r.integral.toInt := add_zero _
  rw [hnone, confine_eq_self (by omega)]

/-- The runs all have an answer, and after each of them the integral sum is all pushes so far, bounded
once. -/
theorem exists_respondAll_pushes {seen : List Sighting}
    (hstart : r.integral.toInt.natAbs ≤ 8192 * 200)
    (hopen : ∀ s ∈ seen, s.attitude.thrustPointsDown = true) (hside : r.OneSided gains seen) :
    ∃ memories, r.respondAll gains seen = .ok memories ∧ memories.length = seen.length ∧
      ∀ n memory, (r :: memories)[n]? = some memory →
        memory.push gains = r.push gains ∧
          memory.integral.toInt =
            confine (8192 * 200) (r.integral.toInt + r.pushes gains (seen.take n)) := by
  induction seen generalizing r with
  | nil =>
    refine ⟨[], rfl, rfl, fun n memory hmemory => ?_⟩
    cases n with
    | zero =>
      obtain rfl := Option.some_inj.mp hmemory
      exact ⟨rfl, integral_eq_of_no_pushes hstart⟩
    | succ n => cases hmemory
  | cons s rest ih =>
    have hpush := @push_answered r gains s
    have hintegral := @toInt_integral_answered r gains s
      (hopen s List.mem_cons_self)
    have hrun := respond_eq gains s.altitude s.sample s.attitude hstart
    generalize r.answered gains s.altitude s.sample s.attitude = next at hpush hintegral hrun
    have hnext : next.integral.toInt.natAbs ≤ 8192 * 200 := by
      rw [hintegral]
      exact natAbs_confine_le rfl _
    have hside' : next.OneSided gains rest := by
      unfold OneSided
      rw [hpush]
      exact hside.tail
    obtain ⟨memories, hall, hlength, hsums⟩ :=
      ih hnext (fun s' hs' => hopen s' (List.mem_cons_of_mem s hs')) hside'
    refine ⟨next :: memories, respondAll_cons hrun hall, congrArg (· + 1) hlength,
      fun n memory hmemory => ?_⟩
    cases n with
    | zero =>
      obtain rfl := Option.some_inj.mp hmemory
      exact ⟨rfl, integral_eq_of_no_pushes hstart⟩
    | succ n =>
      obtain ⟨hsame, hsum⟩ := hsums n memory hmemory
      have htotal : r.pushes gains ((s :: rest).take (n + 1)) =
          r.push gains s + r.pushes gains (rest.take n) := List.sum_cons
      refine ⟨hsame.trans hpush, ?_⟩
      rw [hsum, hintegral, htotal, ← add_assoc,
        ← confine_confine_add (by omega) (hside.push_pushes n)]
      unfold pushes
      rw [hpush]

/-! ### The integral sum -/

/-- The integral sum of a regulator that has come from `r` by pushes with the sum `total`: it is this
sum, bounded once, and nothing beyond the bound delays a push to the other side. -/
structure SumsUp (r : Regulator) (gains : AxisGains) (total : ℤ) (memory : Regulator) : Prop where
  integral_eq : memory.integral.toInt = confine (8192 * 200) (r.integral.toInt + total)
  atTop : memory.integral.toInt = 8192 * 200 ↔ 8192 * 200 ≤ r.integral.toInt + total
  atBottom : memory.integral.toInt = -(8192 * 200) ↔ r.integral.toInt + total ≤ -(8192 * 200)
  leavesTop : memory.integral.toInt = 8192 * 200 → ∀ s : Sighting,
    s.attitude.thrustPointsDown = true → r.push gains s ≤ 0 →
      ∃ after, memory.respond gains s.attitude s.altitude s.sample = .ok after ∧
        after.integral.toInt = max (8192 * 200 + r.push gains s) (-(8192 * 200))
  leavesBottom : memory.integral.toInt = -(8192 * 200) → ∀ s : Sighting,
    s.attitude.thrustPointsDown = true → 0 ≤ r.push gains s →
      ∃ after, memory.respond gains s.attitude s.altitude s.sample = .ok after ∧
        after.integral.toInt = min (-(8192 * 200) + r.push gains s) (8192 * 200)

/-- While thrust points down and all errors of the climb rate are on one side, the integral sum after
any number of runs is the start and all pushes so far, added up without bounds and then bounded
once. -/
theorem respondAll_oneSided {seen : List Sighting}
    (hstart : r.integral.toInt.natAbs ≤ 8192 * 200)
    (hopen : ∀ s ∈ seen, s.attitude.thrustPointsDown = true) (hside : r.OneSided gains seen) :
    ∃ memories, r.respondAll gains seen = .ok memories ∧ memories.length = seen.length ∧
      ∀ n memory, (r :: memories)[n]? = some memory →
        r.SumsUp gains (r.pushes gains (seen.take n)) memory := by
  obtain ⟨memories, hall, hlength, hsums⟩ := exists_respondAll_pushes hstart hopen hside
  refine ⟨memories, hall, hlength, fun n memory hmemory => ?_⟩
  obtain ⟨hpush, hsum⟩ := hsums n memory hmemory
  have hinside : memory.integral.toInt.natAbs ≤ 8192 * 200 := by
    rw [hsum]
    exact natAbs_confine_le rfl _
  have hnext : ∀ s : Sighting, s.attitude.thrustPointsDown = true →
      ∃ after, memory.respond gains s.attitude s.altitude s.sample = .ok after ∧
        after.integral.toInt =
          confine (8192 * 200) (memory.integral.toInt + r.push gains s) := by
    intro s hs
    refine ⟨_, respond_eq gains s.altitude s.sample s.attitude hinside, ?_⟩
    rw [toInt_integral_answered hs, hpush]
  refine ⟨hsum, ?_, ?_, fun hfull s hs hdown => ?_, fun hfull s hs hup => ?_⟩
  · rw [hsum]
    exact confine_eq_bound_iff (by decide) _
  · rw [hsum]
    exact confine_eq_neg_bound_iff (by decide) _
  · obtain ⟨after, hrun, hafter⟩ := hnext s hs
    refine ⟨after, hrun, ?_⟩
    rw [hafter, hfull]
    unfold confine
    omega
  · obtain ⟨after, hrun, hafter⟩ := hnext s hs
    refine ⟨after, hrun, ?_⟩
    rw [hafter, hfull]
    unfold confine
    omega

end Runs

/-- A regulator that has to climb at 300 cm/s, with a sum that is not yet at its bound. -/
def climber : Regulator :=
  { integral := 1000000, followsStick := true, stickClimb := 300 }

/-- A vehicle that climbs at this speed, banked as far as thrust still points down. -/
def climbing (velocity : Int32) : Sighting :=
  ⟨{ roll := 799, pitch := -799 }, 0, ⟨velocity, 0, 0⟩⟩

/-- An error of zero, one that is larger than a word and a small one: the sum stays, reaches its
bound and stays there.  A speed that is 1 cm/s too large then takes 255 off, and the greatest speed
of all brings the sum to its other bound. -/
theorem respondAll_oneSided_plunge :
    let seen := [climbing 300, climbing Int32.minValue, climbing 299]
    climber.integral.toInt.natAbs ≤ 8192 * 200 ∧
      (∀ s ∈ seen, s.attitude.thrustPointsDown = true) ∧ climber.OneSided fullGains seen ∧
      ∃ memories, climber.respondAll fullGains seen = .ok memories ∧
        memories.map (·.integral.toInt) = [1000000, 1638400, 1638400] ∧
        ∀ memory ∈ memories[2]?, ∀ velocity ∈ [301, Int32.maxValue], ∃ after,
          memory.respond fullGains (climbing velocity).attitude (climbing velocity).altitude
            (climbing velocity).sample = .ok after ∧
          after.integral.toInt = if velocity = 301 then 1638400 - 255 else -1638400 := by
  intro seen
  have hstart : climber.integral.toInt.natAbs ≤ 8192 * 200 := by decide
  have hopen : ∀ s ∈ seen, s.attitude.thrustPointsDown = true := by decide
  have hside : climber.OneSided fullGains seen := .inl (by decide)
  obtain ⟨memories, hall, -, hsums⟩ := respondAll_oneSided hstart hopen hside
  refine ⟨hstart, hopen, hside, memories, hall, ?_, fun memory hmemory velocity hvelocity => ?_⟩
  · have heval : (climber.respondAll fullGains seen).map (·.map (·.integral.toInt)) =
        .ok [1000000, 1638400, 1638400] := by decide +kernel
    rw [hall] at heval
    exact Except.ok.inj heval
  · have hsum := hsums 3 memory hmemory
    have hfull : memory.integral.toInt = 8192 * 200 := hsum.atTop.mpr (by decide)
    simp only [List.mem_cons, List.not_mem_nil, or_false] at hvelocity
    rcases hvelocity with rfl | rfl
    · exact hsum.leavesTop hfull (climbing 301) (by decide) (by decide)
    · exact hsum.leavesTop hfull (climbing Int32.maxValue) (by decide) (by decide)

end Regulator

end Autopilot
