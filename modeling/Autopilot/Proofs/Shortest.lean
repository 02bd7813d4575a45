import Autopilot.Decimal.Scaled
import Autopilot.Proofs.Narrowing
import Autopilot.Proofs.Numerals

/-!
# The shortest digits

`shortest` looks for a float on decimal grids.  A point that it finds lies between the ends of the
interval of the float, and no further from the float than one step of the grid (`Stands`).  A grid
whose step is smaller than the distance to the upper end always has such a point
(`exists_onGrid`), so that a single-precision float below one is found with ten digits at most
(`exists_shortest`).

The digits are written so that the numeral names them again with their power of ten, and not as an
integer (`Layout.numeral_leading`).
-/

namespace Autopilot

/-! ### Decimals -/

namespace Decimal

/-- The number that a decimal stands for. -/
def value (d : Decimal) : ℚ :=
  d.digits * 10 ^ d.exponent

/-- Moving trailing zeros into the exponent changes neither the value nor its sign, and there are not
more digits after it. -/
theorem trim_spec (d : Decimal) (fuel : ℕ) :
    (d.trim fuel).value = d.value ∧ (d.trim fuel).digits ≤ d.digits ∧
      d.exponent ≤ (d.trim fuel).exponent ∧ (0 < d.digits → 0 < (d.trim fuel).digits) := by
  induction fuel generalizing d with
  | zero => exact ⟨rfl, le_rfl, le_rfl, id⟩
  | succ fuel ih =>
    rw [trim]
    split_ifs with hzero
    · obtain ⟨hvalue, hdigits, hexponent, hpos⟩ := ih ⟨d.digits / 10, d.exponent + 1⟩
      obtain ⟨q, hq⟩ := Nat.dvd_of_mod_eq_zero hzero.1
      have hquotient : d.digits / 10 = q := by omega
      rw [hquotient] at hvalue hdigits hexponent hpos ⊢
      refine ⟨hvalue.trans ?_, by dsimp only at hdigits; omega,
        (Int.le_add_one le_rfl).trans hexponent, fun _ => hpos (by dsimp only; omega)⟩
      unfold value
      dsimp only
      rw [hq, zpow_add_one₀ (by norm_num)]
      push_cast
      ring
    · exact ⟨rfl, le_rfl, le_rfl, id⟩

end Decimal

/-- Of two points that are equally near one is taken. -/
theorem TieRule.choose_eq (ties : TieRule) (point : ℕ) :
    ties.choose point = point ∨ ties.choose point = point + 1 := by
  cases ties with
  | even =>
    change point + point % 2 = point ∨ point + point % 2 = point + 1
    omega
  | up => exact .inr rfl

/-! ### Points of a grid -/

namespace RoundingInterval

variable {i : RoundingInterval} {ties : TieRule} {grid : ℤ} {point : ℕ}

/-- The float itself. -/
def middle (i : RoundingInterval) : ℚ :=
  i.value * 2 ^ i.exponent

/-- A point of a grid can stand for the float. -/
structure Stands (i : RoundingInterval) (d : Decimal) : Prop where
  pos : 0 < d.digits
  low : i.lowest ≤ d.value
  high : d.value ≤ i.highest
  near : |d.value - i.middle| ≤ 10 ^ d.exponent

theorem zpow_eq_div {a : ℚ} (ha : a ≠ 0) (k : ℤ) : a ^ k = a ^ k.toNat / a ^ (-k).toNat := by
  rw [← zpow_natCast, ← zpow_natCast, ← zpow_sub₀ ha]
  congr 1
  omega

/-- The two parts of a grid factor are positive, and their quotient is that of the two powers. -/
theorem gridFactor_spec (i : RoundingInterval) (grid : ℤ) :
    0 < (i.gridFactor grid).2 ∧
      ((i.gridFactor grid).1 : ℚ) * 10 ^ grid = (i.gridFactor grid).2 * 2 ^ i.exponent := by
  unfold gridFactor
  dsimp only
  rw [Nat.pow_eq, Nat.pow_eq, Nat.pow_eq, Nat.pow_eq]
  refine ⟨by positivity, ?_⟩
  rw [zpow_eq_div (by norm_num : (10 : ℚ) ≠ 0) grid, zpow_eq_div two_ne_zero i.exponent]
  push_cast
  have h2 : (2 : ℚ) ^ (-i.exponent).toNat ≠ 0 := by positivity
  have h10 : (10 : ℚ) ^ (-grid).toNat ≠ 0 := by positivity
  field_simp

/-- A multiple of the power of two over the denominator that it has in common with the grid. -/
theorem scaled_float (i : RoundingInterval) (grid : ℤ) (n : ℕ) :
    ((n * (i.gridFactor grid).1 : ℕ) : ℚ) * 10 ^ grid =
      (i.gridFactor grid).2 * (n * 2 ^ i.exponent) := by
  push_cast
  rw [mul_assoc, (i.gridFactor_spec grid).2]
  ring

/-- A point of the grid over the same denominator. -/
theorem scaled_point (i : RoundingInterval) (grid : ℤ) (point : ℕ) :
    ((point * (i.gridFactor grid).2 : ℕ) : ℚ) * 10 ^ grid =
      (i.gridFactor grid).2 * (point * 10 ^ grid) := by
  push_cast
  ring

theorem le_point_iff (n point : ℕ) :
    n * (i.gridFactor grid).1 ≤ point * (i.gridFactor grid).2 ↔
      (n : ℚ) * 2 ^ i.exponent ≤ point * 10 ^ grid := by
  have hdown : (0 : ℚ) < (i.gridFactor grid).2 := by exact_mod_cast (i.gridFactor_spec grid).1
  have hten : (0 : ℚ) < 10 ^ grid := by positivity
  rw [← Nat.cast_le (α := ℚ), ← mul_le_mul_iff_left₀ hten, scaled_float, scaled_point,
    mul_le_mul_iff_right₀ hdown]

theorem point_le_iff (n point : ℕ) :
    point * (i.gridFactor grid).2 ≤ n * (i.gridFactor grid).1 ↔
      (point : ℚ) * 10 ^ grid ≤ n * 2 ^ i.exponent := by
  have hdown : (0 : ℚ) < (i.gridFactor grid).2 := by exact_mod_cast (i.gridFactor_spec grid).1
  have hten : (0 : ℚ) < 10 ^ grid := by positivity
  rw [← Nat.cast_le (α := ℚ), ← mul_le_mul_iff_left₀ hten, scaled_float, scaled_point,
    mul_le_mul_iff_right₀ hdown]

/-- The point of the grid just below the float, if it is not the float itself. -/
def below (i : RoundingInterval) (grid : ℤ) : ℕ :=
  i.value * (i.gridFactor grid).1 / (i.gridFactor grid).2

theorem below_le (i : RoundingInterval) (grid : ℤ) : i.below grid * 10 ^ grid ≤ i.middle :=
  (point_le_iff _ _).mp (Nat.div_mul_le_self _ _)

theorem middle_lt (i : RoundingInterval) (grid : ℤ) :
    i.middle < (i.below grid + 1 : ℕ) * 10 ^ grid := by
  refine lt_of_not_ge fun hle => ?_
  have hquotient := (point_le_iff _ _).mpr hle
  rw [← Nat.le_div_iff_mul_le (i.gridFactor_spec grid).1] at hquotient
  exact absurd hquotient (Nat.not_succ_le_self _)

/-- A point lies between the ends of the interval. -/
def inside (i : RoundingInterval) (grid : ℤ) (point : ℕ) : Bool :=
  if i.closed then
    i.low * (i.gridFactor grid).1 ≤ point * (i.gridFactor grid).2 &&
      point * (i.gridFactor grid).2 ≤ i.high * (i.gridFactor grid).1
  else
    i.low * (i.gridFactor grid).1 < point * (i.gridFactor grid).2 &&
      point * (i.gridFactor grid).2 < i.high * (i.gridFactor grid).1

theorem bounds_of_inside (h : i.inside grid point = true) :
    i.lowest ≤ point * 10 ^ grid ∧ point * 10 ^ grid ≤ i.highest := by
  unfold lowest highest
  rw [← le_point_iff, ← point_le_iff]
  unfold inside at h
  split_ifs at h
  · simpa using h
  · simp only [Bool.and_eq_true, decide_eq_true_eq] at h
    exact ⟨h.1.le, h.2.le⟩

theorem inside_of_bounds (hlow : i.lowest < point * 10 ^ grid)
    (hhigh : point * 10 ^ grid < i.highest) : i.inside grid point = true := by
  have hlow' := not_le.mp fun hle => hlow.not_ge ((point_le_iff _ _).mp hle)
  have hhigh' := not_le.mp fun hle => hhigh.not_ge ((le_point_iff _ _).mp hle)
  unfold inside
  split_ifs
  · simpa using ⟨hlow'.le, hhigh'.le⟩
  · simpa using ⟨hlow', hhigh'⟩

theorem onGrid_eq (i : RoundingInterval) (ties : TieRule) (grid : ℤ) :
    i.onGrid ties grid =
      match 0 < i.below grid && i.inside grid (i.below grid), i.inside grid (i.below grid + 1) with
      | true, true =>
        match compare (2 * (i.value * (i.gridFactor grid).1))
            ((i.below grid + (i.below grid + 1)) * (i.gridFactor grid).2) with
        | .lt => some (i.below grid)
        | .gt => some (i.below grid + 1)
        | .eq => some (ties.choose (i.below grid))
      | true, false => some (i.below grid)
      | false, true => some (i.below grid + 1)
      | false, false => none := rfl

theorem stands_below (hpos : 0 < i.below grid) (h : i.inside grid (i.below grid) = true) :
    i.Stands ⟨i.below grid, grid⟩ := by
  have hlow := i.below_le grid
  have hhigh := i.middle_lt grid
  obtain ⟨hlowest, hhighest⟩ := bounds_of_inside h
  refine ⟨hpos, hlowest, hhighest, ?_⟩
  change |(i.below grid : ℚ) * 10 ^ grid - i.middle| ≤ 10 ^ grid
  push_cast at hhigh
  rw [abs_le]
  constructor <;> linarith

theorem stands_above (h : i.inside grid (i.below grid + 1) = true) :
    i.Stands ⟨i.below grid + 1, grid⟩ := by
  have hlow := i.below_le grid
  have hhigh := i.middle_lt grid
  obtain ⟨hlowest, hhighest⟩ := bounds_of_inside h
  refine ⟨Nat.succ_pos _, hlowest, hhighest, ?_⟩
  change |((i.below grid + 1 : ℕ) : ℚ) * 10 ^ grid - i.middle| ≤ 10 ^ grid
  push_cast at hhigh ⊢
  rw [abs_le]
  constructor <;> linarith

theorem stands_of_onGrid (h : i.onGrid ties grid = some point) : i.Stands ⟨point, grid⟩ := by
  rw [onGrid_eq] at h
  split at h
  · rename_i hbelow habove
    simp only [Bool.and_eq_true, decide_eq_true_eq] at hbelow
    have hstands := stands_below hbelow.1 hbelow.2
    have hstands' := stands_above habove
    split at h
    · exact Option.some_inj.mp h ▸ hstands
    · exact Option.some_inj.mp h ▸ hstands'
    · rcases TieRule.choose_eq ties (i.below grid) with heq | heq
      · rw [heq] at h
        exact Option.some_inj.mp h ▸ hstands
      · rw [heq] at h
        exact Option.some_inj.mp h ▸ hstands'
  · rename_i hbelow _
    simp only [Bool.and_eq_true, decide_eq_true_eq] at hbelow
    exact Option.some_inj.mp h ▸ stands_below hbelow.1 hbelow.2
  · rename_i habove
    exact Option.some_inj.mp h ▸ stands_above habove
  · cases h

/-- A grid with a step smaller than the distance to the upper end has a point in the interval. -/
theorem exists_onGrid (hlow : i.lowest ≤ i.middle) (hgrid : i.middle + 10 ^ grid < i.highest) :
    ∃ point, i.onGrid ties grid = some point := by
  have hbelow := i.below_le grid
  have hlt := i.middle_lt grid
  have habove : i.inside grid (i.below grid + 1) = true := by
    refine inside_of_bounds (hlow.trans_lt hlt) ?_
    push_cast
    linarith
  rw [onGrid_eq, habove]
  split
  · split <;> exact ⟨_, rfl⟩
  · exact ⟨_, rfl⟩
  · exact ⟨_, rfl⟩
  · rename_i heq
    cases heq

/-- The search ends at the first grid with a point, which comes no later than any other. -/
theorem exists_search {count step : ℕ} (hstep : step < count)
    (h : ∃ point, i.onGrid ties (grid - step) = some point) :
    ∃ d, i.search ties count grid = some d ∧ i.Stands d ∧ grid - step ≤ d.exponent ∧
      d.exponent ≤ grid := by
  induction count generalizing grid step with
  | zero => exact absurd hstep (Nat.not_lt_zero _)
  | succ count ih =>
    rw [search]
    cases hfirst : i.onGrid ties grid with
    | some point => exact ⟨⟨point, grid⟩, rfl, stands_of_onGrid hfirst, by dsimp only; omega, le_rfl⟩
    | none =>
      obtain ⟨point, hpoint⟩ := h
      cases step with
      | zero =>
        rw [Nat.cast_zero, sub_zero, hfirst] at hpoint
        cases hpoint
      | succ step =>
        have hnext : grid - (step + 1 : ℕ) = grid - 1 - step := by
          push_cast
          ring
        rw [hnext] at hpoint ⊢
        obtain ⟨d, hsearch, hstands, hle, hge⟩ := ih (by omega) ⟨point, hpoint⟩
        exact ⟨d, hsearch, hstands, hle, by omega⟩

end RoundingInterval

/-! ### Single-precision floats below one -/

section Single

variable {m : ℕ} {e : ℤ}

/-- The first digit of a number below one stands at this power of ten. -/
theorem magnitude_spec (hm : 0 < m) (he : e ≤ 0) (hone : (m : ℚ) * 2 ^ e < 1) :
    (10 : ℚ) ^ (magnitude m e - 1) < m * 2 ^ e ∧ (m : ℚ) * 2 ^ e ≤ 10 ^ magnitude m e := by
  obtain ⟨k, rfl⟩ : ∃ k : ℕ, e = -k := ⟨(-e).toNat, by omega⟩
  have hpow : (m : ℚ) * 2 ^ (-k : ℤ) = m / (2 ^ k : ℕ) := by
    rw [zpow_neg, zpow_natCast]
    push_cast
    rfl
  have hpos : (0 : ℚ) < (2 ^ k : ℕ) := by positivity
  rw [hpow, div_lt_one hpos, Nat.cast_lt] at hone
  have hmagnitude : magnitude m (-k) = 1 - ((Nat.toDigits 10 (2 ^ k / m)).length : ℤ) := by
    have hwhole : m * 2 ^ (-k : ℤ).toNat / 2 ^ (-(-k : ℤ)).toNat = 0 := by
      rw [neg_neg, Int.toNat_natCast, Int.toNat_neg_natCast, pow_zero, mul_one,
        Nat.div_eq_of_lt hone]
    unfold magnitude
    simp only [Nat.pow_eq]
    rw [hwhole, if_neg (lt_irrefl 0), neg_neg, Int.toNat_natCast]
  have hquotient : 0 < 2 ^ k / m := Nat.div_pos hone.le hm
  have hlow := pow_length_le hquotient
  have hhigh := lt_pow_length (2 ^ k / m)
  have hlength : 0 < (Nat.toDigits 10 (2 ^ k / m)).length := Nat.length_toDigits_pos
  generalize (Nat.toDigits 10 (2 ^ k / m)).length = length at hmagnitude hlow hhigh hlength
  rw [Nat.le_div_iff_mul_le hm] at hlow
  rw [Nat.div_lt_iff_lt_mul hm] at hhigh
  rw [hpow, hmagnitude]
  constructor
  · have hexponent : (1 : ℤ) - length - 1 = -length := by ring
    rw [hexponent, zpow_neg, zpow_natCast, inv_lt_iff_one_lt_mul₀ (by positivity), div_mul_eq_mul_div,
      one_lt_div hpos, mul_comm]
    exact_mod_cast hhigh
  · have hexponent : (1 : ℤ) - length = -(length - 1 : ℕ) := by omega
    rw [hexponent, zpow_neg, zpow_natCast, div_le_iff₀ hpos, ← div_eq_inv_mul,
      le_div_iff₀ (by positivity), mul_comm]
    exact_mod_cast hlow

namespace RoundingInterval

theorem ofFloat_middle (precision : ℕ) (least : ℤ) (m : ℕ) (e : ℤ) :
    (ofFloat precision least m e).middle = m * 2 ^ e := by
  change ((4 * m : ℕ) : ℚ) * 2 ^ (e - 2) = _
  rw [zpow_sub₀ two_ne_zero]
  push_cast
  ring

theorem ofFloat_highest (precision : ℕ) (least : ℤ) (m : ℕ) (e : ℤ) :
    (ofFloat precision least m e).highest = m * 2 ^ e + 2 ^ e / 2 := by
  change ((4 * m + 2 : ℕ) : ℚ) * 2 ^ (e - 2) = _
  rw [zpow_sub₀ two_ne_zero]
  push_cast
  ring

theorem ofFloat_lowest_le (precision : ℕ) (least : ℤ) (m : ℕ) (e : ℤ) :
    (ofFloat precision least m e).lowest ≤ (ofFloat precision least m e).middle := by
  have hle : (ofFloat precision least m e).low ≤ (ofFloat precision least m e).value := by
    unfold ofFloat
    dsimp only
    split_ifs <;> omega
  exact mul_le_mul_of_nonneg_right (by exact_mod_cast hle) (zpow_pos two_pos _).le

end RoundingInterval

/-- A float below one has an exponent below zero. -/
theorem Canonical.exponent_neg {spec : Float.Model.Format} (h : Canonical spec m e)
    (hone : (m : ℚ) * 2 ^ e < 1) : e < 0 := by
  have hunit : (0 : ℚ) < 2 ^ e := zpow_pos two_pos e
  have hm : (1 : ℚ) ≤ m := by exact_mod_cast h.pos
  have hlt : (2 : ℚ) ^ e < 2 ^ (0 : ℤ) := by
    rw [zpow_zero]
    exact (le_mul_of_one_le_left hunit.le hm).trans_lt hone
  exact (zpow_lt_zpow_iff_right₀ one_lt_two).mp hlt

/-- A single-precision float below one is found on one of the first nine grids. -/
theorem exists_shortest (h : Canonical .binary32 m e) (hone : (m : ℚ) * 2 ^ e < 1)
    (ties : TieRule) :
    ∃ d, (RoundingInterval.ofFloat 24 (-149) m e).Stands d ∧ d.digits ≤ 10 ^ 9 + 1 ∧
      -53 ≤ d.exponent ∧ d.exponent < 0 ∧
      shortest ties 24 (-149) m e = d.trim (mostDigits + 1) := by
  have hunit : (0 : ℚ) < 2 ^ e := zpow_pos two_pos e
  have hm : (1 : ℚ) ≤ m := by exact_mod_cast h.pos
  obtain ⟨hlow, hhigh⟩ := magnitude_spec h.pos (h.exponent_neg hone).le hone
  generalize hstart : magnitude m e = start at hlow hhigh
  have hmiddle := RoundingInterval.ofFloat_middle 24 (-149) m e
  -- The step of the ninth grid is smaller than one half of the last place.
  have hstep : (10 : ℚ) ^ (start - 1 - (8 : ℕ)) < 2 ^ e / 2 := by
    have hdigits : (m : ℚ) ≤ 2 ^ 24 := by exact_mod_cast h.digits.le
    rw [zpow_sub₀ (by norm_num), zpow_natCast, div_lt_iff₀ (by positivity)]
    calc (10 : ℚ) ^ (start - 1) < m * 2 ^ e := hlow
      _ ≤ 2 ^ 24 * 2 ^ e := mul_le_mul_of_nonneg_right hdigits hunit.le
      _ ≤ 2 ^ e / 2 * 10 ^ 8 := by linarith
  have hgrid : ∃ point, (RoundingInterval.ofFloat 24 (-149) m e).onGrid ties
      (start - 1 - (8 : ℕ)) = some point := by
    refine RoundingInterval.exists_onGrid (RoundingInterval.ofFloat_lowest_le _ _ _ _) ?_
    rw [hmiddle, RoundingInterval.ofFloat_highest]
    linarith
  obtain ⟨d, hsearch, hstands, hleast, hmost⟩ :=
    RoundingInterval.exists_search (by decide : 8 < mostDigits) hgrid
  have hnear := hstands.near
  rw [hmiddle] at hnear
  refine ⟨d, hstands, ?_, ?_, ?_, ?_⟩
  -- The first grid has at most one digit, and each of the eight grids after it at most one more.
  · have hten : (0 : ℚ) < 10 ^ d.exponent := by positivity
    have hpow : (10 : ℚ) ^ start ≤ 10 ^ 9 * 10 ^ d.exponent := by
      rw [← zpow_natCast, ← zpow_add₀ (by norm_num)]
      exact zpow_le_zpow_right₀ (by norm_num) (by push_cast; omega)
    have hle : (d.digits : ℚ) * 10 ^ d.exponent ≤ (10 ^ 9 + 1) * 10 ^ d.exponent := by
      have := (abs_le.mp hnear).2
      unfold Decimal.value at this
      linarith
    exact_mod_cast (mul_le_mul_iff_left₀ hten).mp hle
  -- The smallest float of all has its first digit at `10^-45`.
  · have hsmall : (10 : ℚ) ^ (-45 : ℤ) < 10 ^ start := by
      calc (10 : ℚ) ^ (-45 : ℤ) < 2 ^ (-149 : ℤ) := by norm_num
        _ ≤ 2 ^ e := zpow_le_zpow_right₀ one_le_two h.least
        _ ≤ m * 2 ^ e := le_mul_of_one_le_left hunit.le hm
        _ ≤ 10 ^ start := hhigh
    have := (zpow_lt_zpow_iff_right₀ (by norm_num)).mp hsmall
    push_cast at hleast
    omega
  · have hsmall : (10 : ℚ) ^ (start - 1) < 10 ^ (0 : ℤ) := by
      rw [zpow_zero]
      exact hlow.trans hone
    have := (zpow_lt_zpow_iff_right₀ (by norm_num)).mp hsmall
    omega
  · unfold shortest
    rw [hstart, hsearch]
    rfl

end Single

/-! ### Written digits -/

/-- All digits are kept if the number that they name is small enough. -/
theorem appendDigits_eq {bound before : ℕ} {cs : List Char}
    (h : before * 10 ^ cs.length + digitsValue cs < bound) :
    appendDigits bound before cs = (before * 10 ^ cs.length + digitsValue cs, []) := by
  induction cs generalizing before with
  | nil =>
    rw [appendDigits]
    exact congrArg (·, []) (Nat.mul_one before).symm
  | cons c cs ih =>
    have hvalue : before * 10 ^ (c :: cs).length + digitsValue (c :: cs) =
        (10 * before + (c.toNat - '0'.toNat)) * 10 ^ cs.length + digitsValue cs := by
      rw [← foldl_digits, ← foldl_digits, List.foldl_cons]
    rw [hvalue] at h ⊢
    have hle : 10 * before + (c.toNat - '0'.toNat) < bound := by
      have := Nat.le_mul_of_pos_right (10 * before + (c.toNat - '0'.toNat))
        (Nat.pow_pos (n := cs.length) (by decide : 0 < 10))
      omega
    rw [appendDigits, if_pos hle, ih h]

/-- A number that fits a word keeps all its digits. -/
theorem Numeral.leading_eq {n : Numeral} (h : n.significand < UInt64.size) :
    n.leading = ⟨n.significand, n.scale⟩ := by
  have hvalue : n.significand =
      digitsValue n.whole * 10 ^ (n.fraction.getD []).length + digitsValue (n.fraction.getD []) :=
    digitsValue_append _ _
  have hwhole : appendDigits UInt64.size 0 n.whole = (digitsValue n.whole, []) := by
    have hle := Nat.le_mul_of_pos_right (digitsValue n.whole)
      (Nat.pow_pos (n := (n.fraction.getD []).length) (by decide : 0 < 10))
    rw [appendDigits_eq, Nat.zero_mul, Nat.zero_add]
    rw [Nat.zero_mul, Nat.zero_add]
    omega
  have hfraction := appendDigits_eq (hvalue ▸ h)
  unfold Numeral.leading
  dsimp only
  rw [hwhole]
  dsimp only
  rw [hfraction, hvalue]
  unfold Numeral.scale
  simp

namespace Layout

/-- The numeral names these digits with this power of ten, and is not written as an integer. -/
structure Names (n : Numeral) (negative : Bool) (d : Decimal) : Prop where
  wellFormed : n.WellFormed
  negative : n.negative = negative
  significand : n.significand = d.digits
  scale : n.scale = d.exponent
  not_integer : n.toInt? = none

theorem areDigits_append {cs ds : List Char} (hcs : ∀ c ∈ cs, c.isDigit = true)
    (hds : AreDigits ds) : AreDigits (cs ++ ds) := by
  refine ⟨List.append_ne_nil_of_right_ne_nil cs hds.ne_nil, fun c hc => ?_⟩
  rcases List.mem_append.mp hc with hc | hc
  · exact hcs c hc
  · exact hds.isDigit c hc

/-- Zeros behind the point, and then the digits. -/
theorem names_positional (negative : Bool) (digits count : ℕ) :
    Names { negative, whole := ['0'], fraction := some (zeros count ++ Nat.toDigits 10 digits) }
      negative ⟨digits, -((Nat.toDigits 10 digits).length + count)⟩ where
  wellFormed := by
    refine ⟨.inl rfl, fun fraction hfraction => ?_⟩
    obtain rfl := Option.some_inj.mp hfraction
    refine areDigits_append (fun c hc => ?_) (areDigits_toDigits digits)
    rw [List.eq_of_mem_replicate hc]
    rfl
  negative := rfl
  significand := by
    change digitsValue (['0'] ++ (zeros count ++ Nat.toDigits 10 digits)) = digits
    have hzero : digitsValue ['0'] = 0 := rfl
    rw [digitsValue_append, digitsValue_append, digitsValue_zeros, digitsValue_toDigits, hzero]
    omega
  scale := by
    change 0 - ((zeros count ++ Nat.toDigits 10 digits).length : ℤ) = _
    rw [List.length_append, zeros, List.length_replicate]
    push_cast
    ring
  not_integer := rfl

/-- The first digit before the point and all others behind it, if there are any. -/
theorem names_scientific (negative : Bool) {digits : ℕ} (hpos : 0 < digits) (power : ℤ) :
    Names
      { negative
        whole := (Nat.toDigits 10 digits).take 1
        fraction :=
          if (Nat.toDigits 10 digits).length = 1 then none
          else some ((Nat.toDigits 10 digits).drop 1)
        exponent := some power }
      negative ⟨digits, power - ((Nat.toDigits 10 digits).length - 1 : ℕ)⟩ := by
  have hdigits := areDigits_toDigits digits
  have hhead := head_toDigits_ne_zero hpos.ne'
  have hvalue := digitsValue_toDigits digits
  cases hcs : Nat.toDigits 10 digits with
  | nil => exact absurd hcs hdigits.ne_nil
  | cons c cs =>
    rw [hcs] at hdigits hhead hvalue
    have hrest : ((if (c :: cs).length = 1 then none else some cs : Option (List Char)).getD []) =
        cs := by
      split_ifs with hlength
      · exact (List.eq_nil_of_length_eq_zero (by simpa using hlength)).symm
      · rfl
    refine ⟨⟨.inr ⟨⟨List.cons_ne_nil _ _, fun c' hc' => ?_⟩, hhead⟩, fun fraction hfraction => ?_⟩,
      rfl, ?_, ?_, ?_⟩
    · rw [List.mem_singleton.mp hc']
      exact hdigits.isDigit c List.mem_cons_self
    · dsimp only at hfraction
      split_ifs at hfraction with hlength
      obtain rfl := Option.some_inj.mp hfraction
      refine ⟨fun hnil => hlength ?_, fun c' hc' => hdigits.isDigit c' (List.mem_cons_of_mem _ hc')⟩
      rw [List.drop_one, List.tail_cons] at hnil
      rw [hnil]
      rfl
    · change digitsValue
        ([c] ++ (if (c :: cs).length = 1 then none else some cs : Option (List Char)).getD []) = digits
      rw [hrest]
      exact hvalue
    · change power -
        (((if (c :: cs).length = 1 then none else some cs : Option (List Char)).getD []).length : ℤ) =
          _
      rw [hrest]
      rfl
    · unfold Numeral.toInt?
      dsimp only
      split_ifs <;> rfl

/-- A number below one, with or without an exponent. -/
theorem names_numeral (l : Layout) (negative : Bool) {d : Decimal} (hpos : 0 < d.digits)
    (hsmall : (Nat.toDigits 10 d.digits).length + d.exponent ≤ 0) :
    Names (l.numeral negative d) negative d := by
  have hlength : 0 < (Nat.toDigits 10 d.digits).length := Nat.length_toDigits_pos
  unfold numeral
  dsimp only
  split
  · rw [if_neg (by omega), if_neg (by omega)]
    have hnames := names_positional negative d.digits
      (-((Nat.toDigits 10 d.digits).length + d.exponent)).toNat
    have hexponent : -(((Nat.toDigits 10 d.digits).length : ℤ) +
        (-((Nat.toDigits 10 d.digits).length + d.exponent)).toNat) = d.exponent := by
      omega
    rwa [hexponent] at hnames
  · have hnames := names_scientific negative hpos
      ((Nat.toDigits 10 d.digits).length - 1 + d.exponent)
    have hexponent : (Nat.toDigits 10 d.digits).length - 1 + d.exponent -
        ((Nat.toDigits 10 d.digits).length - 1 : ℕ) = d.exponent := by
      omega
    rwa [hexponent] at hnames

end Layout

end Autopilot
