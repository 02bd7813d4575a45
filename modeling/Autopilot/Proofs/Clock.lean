import Autopilot.Proofs.Cadence
import Mathlib.Algebra.Order.Field.Basic
import Mathlib.Data.Rat.Cast.Order
import Mathlib.Tactic.FieldSimp
import Mathlib.Tactic.Linarith
import Mathlib.Tactic.Ring

/-!
# The clock of a flight

A pass lasts for a fraction of a second that need not be a whole number of microseconds, and the
clock of the hold loop drops the rest of it.  So the clock falls behind in every pass, and the
microseconds that it has lost add up (`Script.elapsed_eq`).  It is right to within a microsecond for
as long as the lost ones are no more than that (`Midway.tells_iff`), which is for ever only at the
rates that divide a second into whole microseconds.

What the clock tells is a time up to whole turns of its word (`Tells`).
-/

namespace Autopilot

/-- A clock tells a time in microseconds, to within one, apart from the turns of its word. -/
def Tells (clock : UInt32) (time : ℚ) : Prop :=
  ∃ turns : ℤ, |clock.toNat + turns * 2 ^ 32 - time| ≤ 1

/-- A clock that has counted too few microseconds tells the time while it lacks at most one. -/
theorem tells_add_iff {clock : UInt32} {count : ℕ} {lost : ℚ}
    (hclock : clock.toNat = count % 2 ^ 32) (hpos : 0 ≤ lost) (hle : lost ≤ 2) :
    Tells clock (count + lost) ↔ lost ≤ 1 := by
  obtain ⟨whole, hcount⟩ : ∃ whole : ℕ, count = clock.toNat + whole * 2 ^ 32 :=
    ⟨count / 2 ^ 32, hclock ▸ (Nat.mod_add_div' count (2 ^ 32)).symm⟩
  have hcount' : (count : ℚ) = clock.toNat + whole * 2 ^ 32 := by exact_mod_cast hcount
  constructor
  · rintro ⟨turns, hturns⟩
    obtain ⟨hlo, hhi⟩ := abs_le.mp hturns
    by_contra! hlate
    -- Any other number of turns is wrong by much more than what is lost.
    have hlt : (turns : ℚ) < whole + 1 := by linarith
    have hgt : (whole : ℚ) < turns + 1 := by linarith
    have hlt' : turns < whole + 1 := by exact_mod_cast hlt
    have hgt' : (whole : ℤ) < turns + 1 := by exact_mod_cast hgt
    obtain rfl : turns = whole := by omega
    rw [Int.cast_natCast] at hlo
    linarith
  · intro hle
    refine ⟨whole, abs_le.mpr ?_⟩
    rw [Int.cast_natCast]
    constructor <;> linarith

namespace Script

variable {s : Script}

/-- The time after a number of passes, in microseconds. -/
def elapsed (s : Script) (n : ℕ) : ℚ :=
  n * 1000000 / s.rate.toNat

/-- The microseconds that a clock loses in a number of passes. -/
def lost (s : Script) (n : ℕ) : ℚ :=
  (n * (1000000 % s.rate.toNat) : ℕ) / s.rate.toNat

theorem elapsed_eq (h : s.check = .ok ()) (n : ℕ) :
    s.elapsed n = (n * s.pace.ticks.toNat : ℕ) + s.lost n := by
  obtain ⟨-, hpos, -⟩ := settings_and_rate_of_check h
  have hrate : (s.rate.toNat : ℚ) ≠ 0 := by exact_mod_cast hpos.ne'
  have hticks : s.pace.ticks.toNat = 1000000 / s.rate.toNat := UInt32.toNat_div _ _
  have hsecond : (1000000 : ℚ) =
      (1000000 / s.rate.toNat : ℕ) * s.rate.toNat + (1000000 % s.rate.toNat : ℕ) := by
    exact_mod_cast (Nat.div_add_mod' 1000000 s.rate.toNat).symm
  unfold elapsed lost
  rw [hticks, hsecond]
  push_cast
  field_simp

theorem lost_nonneg (s : Script) (n : ℕ) : 0 ≤ s.lost n :=
  div_nonneg (Nat.cast_nonneg _) (Nat.cast_nonneg _)

theorem lost_le_iff (h : s.check = .ok ()) (n k : ℕ) :
    s.lost n ≤ k ↔ n * (1000000 % s.rate.toNat) ≤ k * s.rate.toNat := by
  obtain ⟨-, hpos, -⟩ := settings_and_rate_of_check h
  have hrate : (0 : ℚ) < s.rate.toNat := by exact_mod_cast hpos
  unfold lost
  rw [div_le_iff₀ hrate]
  exact_mod_cast Iff.rfl

end Script

/-- Small steps do not jump over what lies between a bound and its double. -/
theorem exists_multiple_between {bound step n : ℕ} (hstep : step ≤ bound) (hlt : bound < n * step) :
    ∃ m ≤ n, bound < m * step ∧ m * step ≤ 2 * bound := by
  have hpos : 0 < step := Nat.pos_of_ne_zero (by rintro rfl; omega)
  refine ⟨bound / step + 1, ?_, ?_, ?_⟩
  · exact Nat.div_lt_of_lt_mul (by rwa [Nat.mul_comm])
  · rw [Nat.add_one_mul]
    exact Nat.lt_div_mul_add hpos
  · have hfloor := Nat.div_mul_le_self bound step
    rw [Nat.add_one_mul]
    omega

namespace Midway

variable {s : Script} {n : ℕ} {f : Flight}

theorem tells_iff_of_lost (hf : Midway s n f) (hlost : s.lost n ≤ 2) :
    Tells f.clock (s.elapsed n) ↔ s.lost n ≤ 1 := by
  cases n with
  | zero => cases hf
  | succ n =>
    rw [Script.elapsed_eq hf.check]
    exact tells_add_iff hf.paced.clock (s.lost_nonneg _) hlost

/-- The hold loop is given the right time, to within a microsecond, in all passes so far exactly when
the microseconds that a pass drops have not added up to more than one. -/
theorem tells_iff (hf : Midway s n f) :
    (∀ m ≤ n, ∀ g, Midway s m g →
        Tells (Flight.pilotInput s s.pace (Flight.timeOf s.pace m) g.clock).now (s.elapsed m)) ↔
      n * (1000000 % s.rate.toNat) ≤ s.rate.toNat := by
  have hcheck := hf.check
  constructor
  · intro htells
    by_contra! hlate
    obtain ⟨-, hrate, -⟩ := Script.settings_and_rate_of_check hcheck
    obtain ⟨m, hm, hfirst, htwo⟩ := exists_multiple_between (Nat.mod_lt _ hrate).le hlate
    have hpos : 0 < m := Nat.pos_of_ne_zero (by rintro rfl; omega)
    obtain ⟨g, hg⟩ := hf.exists_of_le hpos hm
    have hlost := (hg.tells_iff_of_lost ((Script.lost_le_iff hcheck m 2).mpr htwo)).mp
      (htells m hm g hg)
    have hfew := (Script.lost_le_iff hcheck m 1).mp (by rwa [Nat.cast_one])
    omega
  · intro hfew m hm g hg
    have hlost : s.lost m ≤ (1 : ℕ) := by
      rw [Script.lost_le_iff hcheck, Nat.one_mul]
      exact (Nat.mul_le_mul_right _ hm).trans hfew
    rw [Nat.cast_one] at hlost
    exact (hg.tells_iff_of_lost (hlost.trans one_le_two)).mpr hlost

end Midway

/-- A short flight at a rate at which a pass drops the greater part of a microsecond. -/
def Script.uneven : Script where
  duration := 0.025
  rate := 1159
  fitment := { noiseScale := 0.0, calibrationSteps := 0, hasAccel := false }

theorem Script.exists_midway_uneven {m : ℕ} (hpos : 0 < m) (hle : m ≤ 2) :
    ∃ g, Midway uneven m g := by
  obtain ⟨f₀, f, hlaunch, hpasses⟩ : ∃ f₀ f, uneven.launch = .ok f₀ ∧
      Flight.passes uneven uneven.pace 2 1 f₀ = .ok f := exists_passes_succ (by decide +kernel)
  obtain ⟨g, -, hg, -⟩ := ((Flown.launch hlaunch).passes hpasses).exists_midway hpos hle
  exact ⟨g, hg⟩

namespace Midway

/-- In the first pass, the clock is still right. -/
theorem tells_iff_uneven :
    ∃ g, Midway .uneven 1 g ∧ 1 * (1000000 % Script.uneven.rate.toNat) ≤ Script.uneven.rate.toNat ∧
      Tells (Flight.pilotInput .uneven Script.uneven.pace (Flight.timeOf Script.uneven.pace 1)
        g.clock).now (Script.uneven.elapsed 1) := by
  obtain ⟨g, hg⟩ := Script.exists_midway_uneven one_pos one_le_two
  have hfew : 1 * (1000000 % Script.uneven.rate.toNat) ≤ Script.uneven.rate.toNat := by decide
  exact ⟨g, hg, hfew, hg.tells_iff.mpr hfew 1 le_rfl g hg⟩

/-- In the second pass it is not. -/
theorem not_tells_uneven :
    ∃ g, Midway .uneven 2 g ∧
      ¬ Tells (Flight.pilotInput .uneven Script.uneven.pace (Flight.timeOf Script.uneven.pace 2)
        g.clock).now (Script.uneven.elapsed 2) := by
  obtain ⟨g, hg⟩ := Script.exists_midway_uneven two_pos le_rfl
  have hlost : Script.uneven.lost 2 = 1884 / 1159 := by
    have hdrop : 1000000 % Script.uneven.rate.toNat = 942 := by decide
    have hrate : Script.uneven.rate.toNat = 1159 := by decide
    unfold Script.lost
    rw [hdrop, hrate]
    norm_num
  refine ⟨g, hg, fun htells => ?_⟩
  have hone := (hg.tells_iff_of_lost (by rw [hlost]; norm_num)).mp htells
  rw [hlost] at hone
  norm_num at hone

end Midway

end Autopilot
