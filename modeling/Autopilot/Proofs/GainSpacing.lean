import Autopilot.Proofs.DoubleArithmetic
import Autopilot.Sweep

/-!
# The spacing of swept gains

The gains of a sweep are evenly spaced (`EvenlySpaced`): each of them is the exact gain at its index
(`exactGain`), rounded to the nearest integer with the halves upwards.  They are computed with
doubles, though, and rounded there twice before they are rounded to integers.

That never changes a gain, for up to `2^32` of them.  A double has a half behind the point, so what
is not below a half remains so: rounding is monotone.  And what is below a half remains below it,
because the exact gains have a small denominator, so that they miss the half by more than all
rounding errors together (`round_computedGain`).

From then on all is said about exact gains: they begin and end where they should, they go one way,
and the same gains come back in the other direction.
-/

namespace Autopilot

open Float.Model

/-! ### Exact gains -/

/-- The gain at `index`, `steps` steps before the last one, without any rounding. -/
def exactGain (first last : UInt8) (steps index : ℕ) : ℚ :=
  first.toNat + ((last.toNat : ℚ) - first.toNat) * index / steps

section Exact

variable {first last : UInt8} {steps index : ℕ}

theorem exactGain_zero (first last : UInt8) (steps : ℕ) :
    exactGain first last steps 0 = first.toNat := by
  unfold exactGain
  rw [Nat.cast_zero, mul_zero, zero_div, add_zero]

theorem exactGain_steps (first last : UInt8) (hsteps : 0 < steps) :
    exactGain first last steps steps = last.toNat := by
  have hpos : (steps : ℚ) ≠ 0 := by exact_mod_cast hsteps.ne'
  unfold exactGain
  rw [mul_div_cancel_right₀ _ hpos]
  ring

/-- From the other end, the same gain has the opposite index. -/
theorem exactGain_sub (first last : UInt8) (hsteps : 0 < steps) (hindex : index ≤ steps) :
    exactGain last first steps (steps - index) = exactGain first last steps index := by
  have hpos : (steps : ℚ) ≠ 0 := by exact_mod_cast hsteps.ne'
  unfold exactGain
  rw [Nat.cast_sub hindex]
  field_simp
  ring

theorem exactGain_mono (h : first.toNat ≤ last.toNat) {index' : ℕ} (hindex : index ≤ index') :
    exactGain first last steps index ≤ exactGain first last steps index' := by
  have hrise : (0 : ℚ) ≤ (last.toNat : ℚ) - first.toNat := by
    have hle : (first.toNat : ℚ) ≤ last.toNat := by exact_mod_cast h
    linarith
  have hcast : (index : ℚ) ≤ index' := by exact_mod_cast hindex
  unfold exactGain
  gcongr

/-- No exact gain leaves the interval between the two ends. -/
theorem exactGain_mem (first last : UInt8) (hsteps : 0 < steps) (hindex : index ≤ steps) :
    (min first.toNat last.toNat : ℕ) ≤ exactGain first last steps index ∧
      exactGain first last steps index ≤ (max first.toNat last.toNat : ℕ) := by
  have hrising : ∀ {first last : UInt8} {index : ℕ}, first.toNat ≤ last.toNat → index ≤ steps →
      (first.toNat : ℚ) ≤ exactGain first last steps index ∧
        exactGain first last steps index ≤ last.toNat := by
    intro first last index h hindex
    rw [← exactGain_zero first last steps, ← exactGain_steps first last hsteps]
    exact ⟨exactGain_mono h (Nat.zero_le _), exactGain_mono h hindex⟩
  rcases Nat.le_total first.toNat last.toNat with h | h
  · rw [min_eq_left h, max_eq_right h]
    exact hrising h hindex
  · rw [min_eq_right h, max_eq_left h, ← exactGain_sub first last hsteps hindex]
    exact hrising h (Nat.sub_le _ _)

end Exact

/-! ### Computed gains -/

/-- A double can have a half behind the point. -/
theorem rounded_sub_half {n : ℤ} (hn : |n| ≤ 2 ^ 51) :
    rounded .binary64 (n - 1 / 2) = n - 1 / 2 := by
  have hdigits : |2 * n - 1| < 2 ^ Format.mantissaBits .binary64 := by
    change |2 * n - 1| < 2 ^ 53
    rw [abs_le] at hn
    rw [abs_lt]
    omega
  have hvalue : ((2 * n - 1 : ℤ) : ℚ) * 2 ^ (-1 : ℤ) = n - 1 / 2 := by
    push_cast
    rw [zpow_neg_one]
    ring
  rw [← hvalue]
  exact rounded_intCast_mul hdigits (by decide)

/-- The gain at an index as it is computed: the step is rounded, and so is the sum. -/
def computedGain (first last : UInt8) (steps index : ℕ) : ℚ :=
  rounded .binary64
    (first.toNat + rounded .binary64 (((last.toNat : ℚ) - first.toNat) * index / steps))

section Computed

theorem toNat_cast_le (gain : UInt8) : (gain.toNat : ℚ) ≤ 255 := by
  have hlt := gain.toNat_lt
  exact_mod_cast (by omega : gain.toNat ≤ 255)

theorem abs_gain_sub_le (first last : UInt8) : |(last.toNat : ℤ) - first.toNat| ≤ 255 := by
  have hfirst := first.toNat_lt
  have hlast := last.toNat_lt
  rw [abs_le]
  omega

variable (first last : UInt8) {steps index : ℕ} (hsteps : 0 < steps) (hindex : index ≤ steps)

include hsteps hindex

theorem abs_step_le : |((last.toNat : ℚ) - first.toNat) * index / steps| ≤ 255 := by
  have hpos : (0 : ℚ) < steps := by exact_mod_cast hsteps
  have hcast : (index : ℚ) ≤ steps := by exact_mod_cast hindex
  have hspan : |(last.toNat : ℚ) - first.toNat| ≤ 255 := by
    exact_mod_cast abs_gain_sub_le first last
  rw [abs_div, abs_mul, Nat.abs_cast, Nat.abs_cast, div_le_iff₀ hpos]
  exact mul_le_mul hspan hcast index.cast_nonneg (by norm_num)

theorem abs_rounded_step_le :
    |rounded .binary64 (((last.toNat : ℚ) - first.toNat) * index / steps)| ≤ 255 := by
  obtain ⟨hlow, hhigh⟩ := abs_le.mp (abs_step_le first last hsteps hindex)
  have h255 : rounded .binary64 (255 : ℤ) = (255 : ℤ) := rounded_intCast (by decide)
  have hbelow := rounded_mono .binary64 hlow
  have habove := rounded_mono .binary64 hhigh
  push_cast at h255
  rw [rounded_neg, h255] at hbelow
  rw [h255] at habove
  exact abs_le.mpr ⟨hbelow, habove⟩

/-- The gain that is rounded to an integer is the computed one. -/
theorem hasDoubleValue_gain (hmany : steps < 2 ^ 32) :
    HasDoubleValue
      (doubleOfInt first.toNat + (doubleOfInt last.toNat - doubleOfInt first.toNat) *
        doubleOfInt index / doubleOfInt steps) (computedGain first last steps index) := by
  have hfirst := first.toNat_lt
  have hlast := last.toNat_lt
  have hgap := abs_gain_sub_le first last
  have hstart : HasDoubleValue (doubleOfInt first.toNat) (first.toNat : ℤ) :=
    hasDoubleValue_doubleOfInt (by omega)
  have hstop : HasDoubleValue (doubleOfInt last.toNat) (last.toNat : ℤ) :=
    hasDoubleValue_doubleOfInt (by omega)
  have hplace : HasDoubleValue (doubleOfInt index) (index : ℤ) :=
    hasDoubleValue_doubleOfInt (by omega)
  have hcount : HasDoubleValue (doubleOfInt steps) steps := hasDoubleValue_doubleOfInt (by omega)
  -- The difference and the product are integers that a double has.
  have hrise : |((last.toNat : ℤ) - first.toNat) * index| ≤ 2 ^ 53 := by
    rw [abs_mul, Nat.abs_cast]
    calc |(last.toNat : ℤ) - first.toNat| * index ≤ 255 * 2 ^ 32 :=
          mul_le_mul hgap (by omega) (by omega) (by omega)
      _ ≤ 2 ^ 53 := by norm_num
  have hproduct := (hstop.sub_intCast hstart (by omega)).mul_intCast hplace hrise
  have hquotient := hproduct.div_natCast hcount hrise hsteps (by omega)
  push_cast at hstart hquotient
  refine hstart.add hquotient ((abs_add_le _ _).trans ?_)
  have hstep := abs_rounded_step_le first last hsteps hindex
  have hbyte := toNat_cast_le first
  rw [← Nat.abs_cast] at hbyte
  calc |(first.toNat : ℚ)| + |rounded .binary64 (((last.toNat : ℚ) - first.toNat) * index / steps)|
      ≤ 2 ^ 9 := by linarith
    _ ≤ 2 ^ 1023 := pow_le_pow_right₀ one_le_two (by decide)

theorem round_exactGain_mem :
    (min first.toNat last.toNat : ℕ) ≤ round (exactGain first last steps index) ∧
      round (exactGain first last steps index) ≤ (max first.toNat last.toNat : ℕ) := by
  obtain ⟨hlow, hhigh⟩ := exactGain_mem first last hsteps hindex
  rw [round_eq, Int.le_floor, ← Int.lt_add_one_iff, Int.floor_lt]
  push_cast at hlow hhigh ⊢
  constructor <;> linarith

omit hsteps hindex in
/-- A gain is not computed to be less than the half below it, since there is a double for that
half. -/
theorem sub_half_le_computedGain {n : ℤ} (hn : |n| ≤ 255)
    (h : n - 1 / 2 ≤ exactGain first last steps index) :
    n - 1 / 2 ≤ computedGain first last steps index := by
  have hbyte := first.toNat_lt
  rw [abs_le] at hn
  have hstep : ((n - first.toNat : ℤ) : ℚ) - 1 / 2 ≤
      ((last.toNat : ℚ) - first.toNat) * index / steps := by
    unfold exactGain at h
    push_cast
    linarith
  have hrounded := rounded_mono .binary64 hstep
  rw [rounded_sub_half (by rw [abs_le]; omega)] at hrounded
  push_cast at hrounded
  unfold computedGain
  rw [← rounded_sub_half (by rw [abs_le]; omega)]
  exact rounded_mono .binary64 (by linarith)

omit hindex in
/-- An exact gain below a half is a part in `2^33` or more below it. -/
theorem exactGain_add_le (hmany : steps < 2 ^ 32) {n : ℤ}
    (h : exactGain first last steps index < n + 1 / 2) :
    exactGain first last steps index + 1 / 2 ^ 33 ≤ n + 1 / 2 := by
  have hpos : (0 : ℚ) < steps := by exact_mod_cast hsteps
  have hfew : (steps : ℚ) ≤ 2 ^ 32 := by exact_mod_cast hmany.le
  -- Twice the gain and the half are integers after a multiplication by the number of steps.
  have hbelow : ((last.toNat : ℚ) - first.toNat) * index < (n + 1 / 2 - first.toNat) * steps := by
    rw [← div_lt_iff₀ hpos]
    unfold exactGain at h
    linarith
  have hwhole : 2 * (((last.toNat : ℤ) - first.toNat) * index) + 1 ≤
      (2 * n + 1 - 2 * first.toNat) * steps := by
    rw [Int.add_one_le_iff]
    have htwice : (2 : ℚ) * (((last.toNat : ℚ) - first.toNat) * index) <
        (2 * n + 1 - 2 * first.toNat) * steps := by linarith
    exact_mod_cast htwice
  have hwhole' : (2 : ℚ) * (((last.toNat : ℚ) - first.toNat) * index) + 1 ≤
      (2 * n + 1 - 2 * first.toNat) * steps := by exact_mod_cast hwhole
  have hstep : ((last.toNat : ℚ) - first.toNat) * index / steps + 1 / 2 ^ 33 ≤
      n + 1 / 2 - first.toNat := by
    rw [← le_sub_iff_add_le, div_le_iff₀ hpos]
    linarith
  unfold exactGain
  linarith

/-- Nor is it computed to be as much as the half above it, since there is no exact gain so close to
that half. -/
theorem computedGain_lt_add_half (hmany : steps < 2 ^ 32) {n : ℤ}
    (h : exactGain first last steps index < n + 1 / 2) :
    computedGain first last steps index < n + 1 / 2 := by
  have hmargin := exactGain_add_le first last hsteps hmany h
  have hstep := abs_step_le first last hsteps hindex
  have hstep' := abs_rounded_step_le first last hsteps hindex
  have hbyte := toNat_cast_le first
  unfold computedGain
  unfold exactGain at hmargin
  generalize ((last.toNat : ℚ) - first.toNat) * index / steps = step at *
  -- Both errors together are less than the margin.
  have herror : |rounded .binary64 step - step| ≤ 2 ^ (8 - 53 : ℤ) / 2 :=
    abs_rounded_sub_le_of_abs_lt .binary64 (hstep.trans_lt (by norm_num)) (by decide)
  generalize rounded .binary64 step = step' at *
  have hsum : |(first.toNat : ℚ) + step'| < 2 ^ (9 : ℤ) := by
    rw [abs_lt]
    rw [abs_le] at hstep'
    have hnonneg : (0 : ℚ) ≤ first.toNat := first.toNat.cast_nonneg
    norm_num
    constructor <;> linarith
  have herror' : |rounded .binary64 (first.toNat + step') - (first.toNat + step')| ≤
      2 ^ (9 - 53 : ℤ) / 2 := abs_rounded_sub_le_of_abs_lt .binary64 hsum (by decide)
  rw [abs_le] at herror herror'
  norm_num at herror herror' hmargin ⊢
  linarith

theorem computedGain_nonneg : 0 ≤ computedGain first last steps index := by
  have hbyte := first.toNat_lt
  have hexact := (exactGain_mem first last hsteps hindex).1
  have hstep : ((-first.toNat : ℤ) : ℚ) ≤ ((last.toNat : ℚ) - first.toNat) * index / steps := by
    have hnonneg : (0 : ℚ) ≤ exactGain first last steps index := le_trans (Nat.cast_nonneg _) hexact
    unfold exactGain at hnonneg
    push_cast
    linarith
  have hfirst : rounded .binary64 (-first.toNat : ℤ) = (-first.toNat : ℤ) :=
    rounded_intCast (by
      change |(-first.toNat : ℤ)| ≤ 2 ^ 53
      rw [abs_neg, Nat.abs_cast]
      omega)
  have hrounded := rounded_mono .binary64 hstep
  rw [hfirst] at hrounded
  push_cast at hrounded
  exact rounded_nonneg (by linarith)

/-- No rounding of a double changes a gain. -/
theorem round_computedGain (hmany : steps < 2 ^ 32) :
    round (computedGain first last steps index) = round (exactGain first last steps index) := by
  obtain ⟨hlow, hhigh⟩ := round_exactGain_mem first last hsteps hindex
  have hfirst := first.toNat_lt
  have hlast := last.toNat_lt
  obtain ⟨hbelow, habove⟩ := Int.floor_eq_iff.mp (round_eq (exactGain first last steps index)).symm
  generalize round (exactGain first last steps index) = n at *
  have hleast : n - 1 / 2 ≤ computedGain first last steps index :=
    sub_half_le_computedGain first last (by rw [abs_le]; omega) (by linarith)
  have hmost : computedGain first last steps index < n + 1 / 2 :=
    computedGain_lt_add_half first last hsteps hindex hmany (by linarith)
  rw [round_eq, Int.floor_eq_iff]
  constructor <;> linarith

theorem toNat_sweepGain (hmany : steps < 2 ^ 32) :
    ((sweepGain first last steps index).toNat : ℤ) = round (exactGain first last steps index) := by
  obtain ⟨hlow, hhigh⟩ := round_exactGain_mem first last hsteps hindex
  have hfirst := first.toNat_lt
  have hlast := last.toNat_lt
  have hround := round_computedGain first last hsteps hindex hmany
  have hlt : computedGain first last steps index < 2 ^ 53 := by
    have hfloor := Int.lt_floor_add_one (computedGain first last steps index + 1 / 2)
    rw [← round_eq, hround] at hfloor
    have hsmall : (round (exactGain first last steps index) : ℚ) ≤ 255 := by
      exact_mod_cast (by omega : round (exactGain first last steps index) ≤ 255)
    linarith
  have hrounded := (hasDoubleValue_gain first last hsteps hindex hmany).roundAway_eq
    (computedGain_nonneg first last hsteps hindex) hlt
  unfold sweepGain
  dsimp only
  rw [hrounded, hround, Nat.toUInt8_eq, UInt8.toNat_ofNat']
  omega

end Computed

/-! ### Lists of gains -/

theorem length_sweepGains (first last : UInt8) (count : ℕ) :
    (sweepGains first last count).length = count := by
  match count with
  | 0 => rfl
  | 1 => rfl
  | count + 2 =>
    unfold sweepGains
    rw [List.length_map, List.length_range]

/-- There is room for this many gains. -/
theorem listGains_eq {first last : UInt8} {count : ℕ} (hcount : count ≤ 2 ^ 32) :
    listGains first last count = .ok (sweepGains first last count) := by
  have hsize : ¬ UInt64.size ≤ count := by
    change ¬ 2 ^ 64 ≤ count
    omega
  have hbytes : ¬ Int64.maxValue.toInt < (count * 1 : ℕ) := by
    change ¬ (2 ^ 63 - 1 : ℤ) < (count * 1 : ℕ)
    omega
  unfold listGains reserve
  rw [if_neg hsize, if_neg hbytes]
  rfl

/-- Integers that rise by one at most miss none on the way. -/
theorem exists_eq_of_le_add_one {f : ℕ → ℤ} {steps : ℕ} (target : ℤ)
    (hstep : ∀ i < steps, f (i + 1) ≤ f i + 1) (hlow : f 0 ≤ target) (hhigh : target ≤ f steps) :
    ∃ i ≤ steps, f i = target := by
  induction steps with
  | zero => exact ⟨0, le_rfl, by omega⟩
  | succ steps ih =>
    rcases hhigh.eq_or_lt with heq | hlt
    · exact ⟨steps + 1, le_rfl, heq.symm⟩
    · have hlast := hstep steps (Nat.lt_succ_self steps)
      obtain ⟨i, hi, heq⟩ := ih (fun i hi => hstep i (by omega)) (by omega)
      exact ⟨i, by omega, heq⟩

section Gains

variable {first last : UInt8} {steps : ℕ} (hsteps : 0 < steps) (hmany : steps < 2 ^ 32)

include hsteps

theorem sweepGains_succ :
    sweepGains first last (steps + 1) =
      (List.range (steps + 1)).map (sweepGain first last steps) := by
  obtain ⟨count, rfl⟩ : ∃ count, steps = count + 1 := ⟨steps - 1, by omega⟩
  rfl

theorem getElem?_sweepGains {i : ℕ} {gain : UInt8} :
    (sweepGains first last (steps + 1))[i]? = some gain ↔
      i ≤ steps ∧ sweepGain first last steps i = gain := by
  rw [sweepGains_succ hsteps, List.getElem?_map, Option.map_eq_some_iff]
  constructor
  · rintro ⟨j, hj, rfl⟩
    obtain ⟨hlt, rfl⟩ := List.getElem?_eq_some_iff.mp hj
    rw [List.length_range] at hlt
    rw [List.getElem_range]
    exact ⟨by omega, rfl⟩
  · rintro ⟨hi, rfl⟩
    exact ⟨i, List.getElem?_range (by omega), rfl⟩

theorem mem_sweepGains_iff {gain : UInt8} :
    gain ∈ sweepGains first last (steps + 1) ↔
      ∃ i ≤ steps, sweepGain first last steps i = gain := by
  rw [List.mem_iff_getElem?]
  exact exists_congr fun i => getElem?_sweepGains hsteps

include hmany

/-- Equal exact gains make equal gains. -/
theorem sweepGain_congr {first' last' : UInt8} {i j : ℕ} (hi : i ≤ steps) (hj : j ≤ steps)
    (h : exactGain first last steps i = exactGain first' last' steps j) :
    sweepGain first last steps i = sweepGain first' last' steps j := by
  have hleft := toNat_sweepGain first last hsteps hi hmany
  have hright := toNat_sweepGain first' last' hsteps hj hmany
  rw [h, ← hright] at hleft
  exact UInt8.toNat_inj.mp (by exact_mod_cast hleft)

/-- The gains in the other direction. -/
theorem sweepGains_reverse :
    sweepGains last first (steps + 1) = (sweepGains first last (steps + 1)).reverse := by
  refine List.ext_getElem? fun i => Option.ext fun gain => ?_
  have hlength := length_sweepGains first last (steps + 1)
  rw [getElem?_sweepGains hsteps]
  by_cases hi : i ≤ steps
  -- At an index that there is, both lists have the gain that is exact there.
  · rw [List.getElem?_reverse (by omega), getElem?_sweepGains hsteps, hlength,
      show steps + 1 - 1 - i = steps - i by omega,
      sweepGain_congr hsteps hmany hi (Nat.sub_le steps i)
        (by rw [exactGain_sub _ _ hsteps hi])]
    exact and_congr_left' (iff_of_true hi (Nat.sub_le _ _))
  · rw [List.getElem?_eq_none (by rw [List.length_reverse]; omega)]
    simp [hi]

theorem sweepGain_mono (h : first.toNat ≤ last.toNat) {i j : ℕ} (hij : i ≤ j) (hj : j ≤ steps) :
    sweepGain first last steps i ≤ sweepGain first last steps j := by
  have hleft := toNat_sweepGain first last hsteps (hij.trans hj) hmany
  have hright := toNat_sweepGain first last hsteps hj hmany
  have hmono : exactGain first last steps i ≤ exactGain first last steps j := exactGain_mono h hij
  have hround : round (exactGain first last steps i) ≤ round (exactGain first last steps j) := by
    rw [round_eq, round_eq]
    exact Int.floor_mono (by linarith)
  rw [UInt8.le_iff_toNat_le]
  omega

theorem sweepGains_ascending (h : first.toNat ≤ last.toNat) :
    (sweepGains first last (steps + 1)).Pairwise (· ≤ ·) := by
  rw [sweepGains_succ hsteps, List.pairwise_map]
  refine List.pairwise_lt_range.imp_of_mem fun _ hj hij => ?_
  have hj' := List.mem_range.mp hj
  exact sweepGain_mono hsteps hmany h hij.le (by omega)

/-- With steps that are not above one, no gain is left out. -/
theorem mem_sweepGains_of_le (h : first.toNat ≤ last.toNat)
    (hdense : last.toNat - first.toNat ≤ steps) {gain : UInt8} (hlow : first.toNat ≤ gain.toNat)
    (hhigh : gain.toNat ≤ last.toNat) : gain ∈ sweepGains first last (steps + 1) := by
  have hpos : (0 : ℚ) < steps := by exact_mod_cast hsteps
  have hstep : ∀ i < steps, round (exactGain first last steps (i + 1)) ≤
      round (exactGain first last steps i) + 1 := by
    intro i _
    have hrise : ((last.toNat : ℚ) - first.toNat) / steps ≤ 1 := by
      rw [div_le_one hpos, sub_le_iff_le_add]
      exact_mod_cast (by omega : last.toNat ≤ steps + first.toNat)
    have hnext : exactGain first last steps (i + 1) =
        exactGain first last steps i + ((last.toNat : ℚ) - first.toNat) / steps := by
      unfold exactGain
      push_cast
      ring
    rw [round_eq, round_eq, ← Int.floor_add_one, hnext]
    -- An exact gain rises by one at most, so the integer next to it does as well.
    exact Int.floor_mono (by linarith)
  obtain ⟨i, hi, heq⟩ := exists_eq_of_le_add_one gain.toNat hstep
    (by rw [exactGain_zero, round_natCast]; exact_mod_cast hlow)
    (by rw [exactGain_steps _ _ hsteps, round_natCast]; exact_mod_cast hhigh)
  refine (mem_sweepGains_iff hsteps).mpr ⟨i, hi, UInt8.toNat_inj.mp ?_⟩
  rw [← toNat_sweepGain first last hsteps hi hmany] at heq
  exact_mod_cast heq

end Gains

theorem sweepGain_zero (first last : UInt8) {steps : ℕ} (hsteps : 0 < steps)
    (hmany : steps < 2 ^ 32) : sweepGain first last steps 0 = first := by
  have hvalue := toNat_sweepGain first last hsteps (Nat.zero_le _) hmany
  rw [exactGain_zero, round_natCast] at hvalue
  exact UInt8.toNat_inj.mp (by exact_mod_cast hvalue)

theorem sweepGain_steps (first last : UInt8) {steps : ℕ} (hsteps : 0 < steps)
    (hmany : steps < 2 ^ 32) : sweepGain first last steps steps = last := by
  have hvalue := toNat_sweepGain first last hsteps le_rfl hmany
  rw [exactGain_steps _ _ hsteps, round_natCast] at hvalue
  exact UInt8.toNat_inj.mp (by exact_mod_cast hvalue)

/-! ### Even spacing -/

/-- The gains of a sweep are evenly spaced. -/
structure EvenlySpaced (first last : UInt8) (count : ℕ) (gains : List UInt8) : Prop where
  length : gains.length = count
  /-- Every gain is the exact one, rounded to the nearest integer, with the halves upwards. -/
  entry : ∀ i gain, gains[i]? = some gain →
    (gain.toNat : ℤ) = ⌊exactGain first last (count - 1) i + 1 / 2⌋
  starts : gains.head? = some first
  ends : gains.getLast? = some last
  ascending : first ≤ last → gains.Pairwise (· ≤ ·)
  descending : last ≤ first → gains.Pairwise (· ≥ ·)
  within : ∀ gain ∈ gains,
    min first.toNat last.toNat ≤ gain.toNat ∧ gain.toNat ≤ max first.toNat last.toNat
  /-- Enough gains leave none out. -/
  complete : |(last.toNat : ℤ) - first.toNat| ≤ count - 1 → ∀ gain : UInt8,
    min first.toNat last.toNat ≤ gain.toNat → gain.toNat ≤ max first.toNat last.toNat → gain ∈ gains
  reverse : listGains last first count = .ok gains.reverse

theorem evenlySpaced_sweepGains (first last : UInt8) {steps : ℕ} (hsteps : 0 < steps)
    (hmany : steps < 2 ^ 32) :
    EvenlySpaced first last (steps + 1) (sweepGains first last (steps + 1)) where
  length := length_sweepGains _ _ _
  entry := by
    intro i gain hgain
    obtain ⟨hi, rfl⟩ := (getElem?_sweepGains hsteps).mp hgain
    rw [toNat_sweepGain first last hsteps hi hmany, round_eq, Nat.add_sub_cancel]
  starts := by
    rw [List.head?_eq_getElem?, getElem?_sweepGains hsteps]
    exact ⟨Nat.zero_le _, sweepGain_zero first last hsteps hmany⟩
  ends := by
    rw [List.getLast?_eq_getElem?, length_sweepGains, getElem?_sweepGains hsteps]
    exact ⟨le_rfl, sweepGain_steps first last hsteps hmany⟩
  ascending h := sweepGains_ascending hsteps hmany (UInt8.le_iff_toNat_le.mp h)
  descending := by
    intro h
    have hascending := sweepGains_ascending hsteps hmany (UInt8.le_iff_toNat_le.mp h)
    rw [sweepGains_reverse hsteps hmany, List.pairwise_reverse] at hascending
    exact hascending
  within := by
    intro gain hgain
    obtain ⟨i, hi, rfl⟩ := (mem_sweepGains_iff hsteps).mp hgain
    have hmem := round_exactGain_mem first last hsteps hi
    rw [← toNat_sweepGain first last hsteps hi hmany] at hmem
    exact ⟨by exact_mod_cast hmem.1, by exact_mod_cast hmem.2⟩
  complete := by
    intro hdense gain hlow hhigh
    rw [abs_le] at hdense
    rcases Nat.le_total first.toNat last.toNat with h | h
    · exact mem_sweepGains_of_le hsteps hmany h (by omega) (by omega) (by omega)
    · have hmem : gain ∈ sweepGains last first (steps + 1) :=
        mem_sweepGains_of_le hsteps hmany h (by omega) (by omega) (by omega)
      rwa [sweepGains_reverse hsteps hmany, List.mem_reverse] at hmem
  reverse := by rw [listGains_eq (by omega), sweepGains_reverse hsteps hmany]

/-- A list of two up to `2^32` gains is evenly spaced. -/
theorem listGains_evenlySpaced (first last : UInt8) {count : ℕ} (hcount : 2 ≤ count)
    (hmany : count ≤ 2 ^ 32) :
    ∃ gains, listGains first last count = .ok gains ∧ EvenlySpaced first last count gains := by
  obtain ⟨steps, rfl⟩ : ∃ steps, count = steps + 1 := ⟨count - 1, by omega⟩
  exact ⟨_, listGains_eq hmany, evenlySpaced_sweepGains first last (by omega) (by omega)⟩

/-- Halves are rounded upwards in both directions. -/
theorem listGains_evenlySpaced_halves :
    listGains 0 255 3 = .ok [0, 128, 255] ∧ EvenlySpaced 0 255 3 [0, 128, 255] ∧
      listGains 255 0 3 = .ok [255, 128, 0] := by
  have hlist : listGains 0 255 3 = .ok [0, 128, 255] := by decide +kernel
  obtain ⟨gains, hgains, hspaced⟩ := @listGains_evenlySpaced 0 255 3 (by decide) (by decide)
  rw [hlist] at hgains
  obtain rfl := Except.ok.inj hgains
  exact ⟨hlist, hspaced, hspaced.reverse⟩

end Autopilot
