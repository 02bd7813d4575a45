import Autopilot.Decimal.Scaled
import Autopilot.Proofs.Double

/-!
# Scaling a number and narrowing it

A number is read from a file in three roundings: a power of ten becomes a double, the digits are
divided by it, and the quotient becomes a single-precision float.  The first two leave the double
within `2^-51` of the exact number (`amounts_scaled`), where the nearest double is as well
(`amounts_ofScientific`).  If the double then lies strictly between the ends of the interval that
rounds to a single-precision float (`nearest_eq_of_inside`), it becomes this float (`narrow_eq`).
-/

namespace Autopilot

open Float.Model Float.Model.UnpackedFloat

/-! ### Errors of rounding -/

theorem abs_nearestEven_sub_le (x : ℚ) : |nearestEven x - x| ≤ 1 / 2 := by
  have hfract : x = ⌊x⌋ + Int.fract x := (Int.floor_add_fract x).symm
  have hnonneg := Int.fract_nonneg x
  have hlt := Int.fract_lt_one x
  unfold nearestEven
  rw [abs_le]
  split_ifs with hup
  · have hhalf : 1 / 2 ≤ Int.fract x := by
      rcases hup with hgt | ⟨heq, -⟩
      · exact hgt.le
      · exact heq.ge
    push_cast
    constructor <;> linarith
  · have hhalf : Int.fract x ≤ 1 / 2 := not_lt.mp fun hgt => hup (.inl hgt)
    constructor <;> linarith

/-- What lies within one half of an integer is rounded to it. -/
theorem nearestEven_eq {x : ℚ} {n : ℤ} (h : |x - n| < 1 / 2) : nearestEven x = n := by
  have hle := abs_nearestEven_sub_le x
  have hlt : |((nearestEven x - n : ℤ) : ℚ)| < ((1 : ℤ) : ℚ) := by
    push_cast
    calc |(nearestEven x : ℚ) - n| = |((nearestEven x : ℚ) - x) + (x - n)| := by
          rw [sub_add_sub_cancel]
      _ ≤ |(nearestEven x : ℚ) - x| + |x - n| := abs_add_le _ _
      _ < 1 := by linarith
  have hzero : |nearestEven x - n| < 1 := by exact_mod_cast hlt
  have := Int.abs_lt_one_iff.mp hzero
  omega

section Format

variable {spec : Format} {x : ℚ}

/-- The error of rounding is at most one half of the last place. -/
theorem abs_nearest_sub_le (spec : Format) (x : ℚ) :
    |nearest spec x - x| ≤ 2 ^ lastPlace spec x / 2 := by
  have hpos : (0 : ℚ) < 2 ^ lastPlace spec x := zpow_pos two_pos _
  have hscaled := abs_nearestEven_sub_le (x / 2 ^ lastPlace spec x)
  have heq : nearest spec x - x =
      (nearestEven (x / 2 ^ lastPlace spec x) - x / 2 ^ lastPlace spec x) *
        2 ^ lastPlace spec x := by
    rw [sub_mul, div_mul_cancel₀ _ hpos.ne']
    rfl
  rw [heq, abs_mul, abs_of_pos hpos]
  calc _ ≤ 1 / 2 * (2 : ℚ) ^ lastPlace spec x := mul_le_mul_of_nonneg_right hscaled hpos.le
    _ = _ := by ring

/-- A number with all digits of the format is rounded by a small part of itself. -/
theorem abs_nearest_sub_le_div (hx : 2 ^ (spec.minExponent + spec.mantissaBits) ≤ x) :
    |nearest spec x - x| ≤ x / 2 ^ spec.mantissaBits := by
  have hpos : 0 < x := (zpow_pos two_pos _).trans_le hx
  have hplace : spec.minExponent < lastPlace spec x := by
    have hlog := (Int.zpow_le_iff_le_log one_lt_two hpos).mp (by exact_mod_cast hx)
    unfold lastPlace Format.targetExponent
    omega
  have hdigits := le_div_lastPlace hpos hplace
  have hunit : (0 : ℚ) < 2 ^ lastPlace spec x := zpow_pos two_pos _
  have hbits : (2 : ℚ) ^ spec.mantissaBits = 2 ^ (spec.mantissaBits - 1) * 2 := by
    rw [← pow_succ, Nat.sub_add_cancel (mantissaBits_pos spec)]
  rw [le_div_iff₀ hunit] at hdigits
  refine (abs_nearest_sub_le spec x).trans ?_
  rw [hbits, div_mul_eq_div_div, div_le_div_iff_of_pos_right two_pos, le_div_iff₀ (by positivity),
    mul_comm]
  exact hdigits

end Format

/-! ### Scaling -/

theorem ten_pow_le (k : ℕ) : (10 : ℚ) ^ k ≤ 2 ^ (4 * k) := by
  rw [pow_mul]
  exact pow_le_pow_left₀ (by norm_num) (by norm_num) k

/-- A power of ten is rounded once. -/
theorem sized_powerOfTen {k : ℕ} (hk : k ≤ 255) :
    Sized .binary64 .positive (nearest .binary64 (10 ^ k))
      (UnpackedFloat.ofScientific .binary64 1 k) := by
  have hpos : 0 < 1 <<< 53 * 10 ^ k := Nat.mul_pos (by decide) (Nat.pow_pos (by decide))
  have hvalue : ((1 <<< 53 * 10 ^ k : ℕ) : ℚ) * 2 ^ (-53 + 0 : ℤ) = 10 ^ k := by
    rw [Nat.shiftLeft_eq]
    push_cast
    norm_num
    ring
  have hplace : (-53 + 0 : ℤ) ≤
      lastPlace .binary64 (((1 <<< 53 * 10 ^ k : ℕ) : ℚ) * 2 ^ (-53 + 0 : ℤ)) := by
    have hmono := lastPlace_mono .binary64 one_pos
      (one_le_pow₀ (n := k) (by norm_num : (1 : ℚ) ≤ 10))
    have hone : lastPlace .binary64 1 = -52 := by
      unfold lastPlace
      rw [Int.log_one_right]
      rfl
    rw [hvalue]
    omega
  have hscientific : UnpackedFloat.ofScientific .binary64 1 k =
      roundWithAccuracy .binary64 .positive (1 <<< 53 * 10 ^ k) (-53 + 0) .exact := by
    have hbits : (2 : ℤ) ^ Format.exponentBits .binary64 = 2048 := by rfl
    unfold UnpackedFloat.ofScientific
    rw [dif_neg one_ne_zero, if_neg, if_neg, if_pos (Int.natCast_nonneg k)]
    · rfl
    · rw [hbits]
      omega
    · rw [hbits]
      omega
  rw [hscientific, ← hvalue]
  exact sized_roundWithAccuracy hpos (shows_exact _) hplace

theorem amounts_powerOfTen {k : ℕ} (hk : k ≤ 255) :
    Amounts (powerOfTen k) (nearest .binary64 (10 ^ k)) :=
  amounts_pack (sized_powerOfTen hk)
    (nearest_le_two_pow (by omega) (by positivity) (ten_pow_le k)).2

/-- Dividing by a number close to `t` is dividing by `t`, up to a small part of the quotient. -/
theorem div_near {d t p : ℚ} (hd : 0 ≤ d) (ht : 0 < t) (hp : |p - t| ≤ t / 2 ^ 53) :
    0 < p ∧ d / p ≤ 2 * (d / t) ∧ |d / p - d / t| ≤ d / p / 2 ^ 53 := by
  have hlow : t / 2 ≤ p := by
    have := (abs_le.mp hp).1
    linarith
  have hpos : 0 < p := (half_pos ht).trans_le hlow
  refine ⟨hpos, ?_, ?_⟩
  · rw [← mul_div_assoc, div_le_div_iff₀ hpos ht, mul_comm 2 d, mul_assoc]
    exact mul_le_mul_of_nonneg_left (by linarith) hd
  · have hdiff : d / p - d / t = d / p * ((t - p) / t) := by
      field_simp
    rw [hdiff, abs_mul, abs_of_nonneg (div_nonneg hd hpos.le), abs_div, abs_of_pos ht, abs_sub_comm,
      div_eq_mul_one_div (d / p) (2 ^ 53)]
    refine mul_le_mul_of_nonneg_left ?_ (div_nonneg hd hpos.le)
    rw [div_le_iff₀ ht, one_div_mul_eq_div]
    exact hp

/-- Up to 200 places behind the point leave a number far from the smallest doubles. -/
theorem two_zpow_le_quotient {d k : ℕ} {p : ℚ} (hd : 0 < d) (hk : k ≤ 200) (hp : 0 < p)
    (hle : p ≤ 2 ^ (4 * k)) : (2 : ℚ) ^ (-800 : ℤ) ≤ d / p := by
  have hone : (1 : ℚ) ≤ d := by exact_mod_cast hd
  rw [le_div_iff₀ hp, zpow_neg]
  refine le_trans ?_ hone
  rw [inv_mul_le_iff₀ (by positivity), mul_one]
  refine hle.trans ?_
  rw [← zpow_natCast]
  exact zpow_le_zpow_right₀ one_le_two (by omega)

/-- The quotient of a number that is a double and a power of ten: both roundings together are wrong
by a small part of the exact quotient. -/
theorem amounts_scaled {d k : ℕ} (hd : 0 < d) (hd' : d < 2 ^ 53) (hk : k ≤ 200) :
    ∃ q, Amounts (doubleOfInt d / powerOfTen k) q ∧
      |q - d / 10 ^ k| ≤ d / 10 ^ k / 2 ^ 51 := by
  have hten : (1 : ℚ) ≤ 10 ^ k := one_le_pow₀ (by norm_num)
  have hdigits := amounts_doubleOfInt (hd'.le.trans (by decide : 2 ^ 53 ≤ 2 ^ 64))
  rw [nearest_natCast hd'] at hdigits
  have hpower := amounts_powerOfTen (hk.trans (by decide : 200 ≤ 255))
  have hpower_error : |nearest .binary64 (10 ^ k) - 10 ^ k| ≤ (10 : ℚ) ^ k / 2 ^ 53 := by
    refine @abs_nearest_sub_le_div .binary64 _ (le_trans ?_ hten)
    exact zpow_le_one_of_nonpos₀ one_le_two (by decide)
  have hpower_le := (nearest_le_two_pow (k := 4 * k) (by omega) (by positivity) (ten_pow_le k)).1
  generalize nearest .binary64 (10 ^ k) = p at hpower hpower_error hpower_le
  have hone : (1 : ℚ) ≤ d := by exact_mod_cast hd
  have hbound : (d : ℚ) ≤ 2 ^ 53 := by exact_mod_cast hd'.le
  obtain ⟨hp, hquotient, herror⟩ := div_near (d := d) (by linarith) (by linarith) hpower_error
  have hlarge : (2 : ℚ) ^ (-800 : ℤ) ≤ d / p := two_zpow_le_quotient hd hk hp hpower_le
  have hround : |nearest .binary64 (d / p) - d / p| ≤ d / p / 2 ^ 53 :=
    @abs_nearest_sub_le_div .binary64 _
      (le_trans (zpow_le_zpow_right₀ one_le_two (by decide)) hlarge)
  have hsmall : d / (10 : ℚ) ^ k ≤ d := div_le_self (by linarith) hten
  refine ⟨nearest .binary64 (d / p), hdigits.div hpower hp ?_ ?_, ?_⟩
  · exact le_trans (zpow_le_zpow_right₀ one_le_two (by decide)) hlarge
  · refine (nearest_le_two_pow (k := 54) (by decide) (by positivity) ?_).2
    calc (d : ℚ) / p ≤ 2 * (d / 10 ^ k) := hquotient
      _ ≤ 2 * 2 ^ 53 := by linarith
      _ = 2 ^ 54 := by norm_num
  · calc |nearest .binary64 (d / p) - d / 10 ^ k|
        ≤ |nearest .binary64 (d / p) - d / p| + |d / p - d / 10 ^ k| := abs_sub_le _ _ _
      _ ≤ d / p / 2 ^ 53 + d / p / 2 ^ 53 := add_le_add hround herror
      _ = d / p / 2 ^ 52 := by ring
      _ ≤ 2 * (d / 10 ^ k) / 2 ^ 52 := div_le_div_of_nonneg_right hquotient (by positivity)
      _ = d / 10 ^ k / 2 ^ 51 := by ring

/-- Digits with places behind the point are rounded once, as a quotient of two integers. -/
theorem sized_ofScientific {d k : ℕ} (hd : 0 < d) (hk : 0 < k) (hk' : k ≤ 255)
    (hlarge : (2 : ℚ) ^ Format.minExponent .binary64 ≤ d / 10 ^ k) :
    Sized .binary64 .positive (nearest .binary64 (d / 10 ^ k))
      (UnpackedFloat.ofScientific .binary64 d (-k)) := by
  have hten : 0 < 10 ^ k := Nat.pow_pos (by decide)
  have hbits : (2 : ℤ) ^ Format.exponentBits .binary64 = 2048 := by rfl
  have hscientific : UnpackedFloat.ofScientific .binary64 d (-k) =
      UnpackedFloat.div .binary64 (.finite .positive d 0 hd) (.finite .positive (10 ^ k) 0 hten) := by
    unfold UnpackedFloat.ofScientific
    rw [dif_neg hd.ne', if_neg (by omega), if_neg (by omega), if_neg (by omega)]
    congr 2
    rw [neg_neg, Int.toNat_natCast]
  have hvalue : (d : ℚ) * 2 ^ (0 : ℤ) / ((10 ^ k : ℕ) * 2 ^ (0 : ℤ)) = d / 10 ^ k := by
    push_cast
    ring
  have hsized := @sized_div_finite .binary64 .positive .positive _ _ hd hten 0 0
    (by rw [hvalue]; exact hlarge)
  rw [hvalue] at hsized
  rw [hscientific]
  exact hsized

/-- The double nearest to digits with places behind the point. -/
theorem amounts_ofScientific {d k : ℕ} (hd : 0 < d) (hd' : d < 2 ^ 53) (hk : 0 < k)
    (hk' : k ≤ 200) :
    ∃ q, Amounts (.ofModel (.ofScientific d (-k))) q ∧
      |q - d / 10 ^ k| ≤ d / 10 ^ k / 2 ^ 51 := by
  have hten : (1 : ℚ) ≤ 10 ^ k := one_le_pow₀ (by norm_num)
  have hlarge : (2 : ℚ) ^ (-800 : ℤ) ≤ d / 10 ^ k :=
    two_zpow_le_quotient hd hk' (by linarith) (ten_pow_le k)
  have hbound : (d : ℚ) / 10 ^ k ≤ 2 ^ 53 :=
    (div_le_self d.cast_nonneg hten).trans (by exact_mod_cast hd'.le)
  have hround : |nearest .binary64 (d / 10 ^ k) - d / 10 ^ k| ≤ d / 10 ^ k / 2 ^ 53 :=
    @abs_nearest_sub_le_div .binary64 _
      (le_trans (zpow_le_zpow_right₀ one_le_two (by decide)) hlarge)
  refine ⟨nearest .binary64 (d / 10 ^ k), amounts_pack (sized_ofScientific hd hk (by omega) ?_) ?_,
    hround.trans ?_⟩
  · exact le_trans (zpow_le_zpow_right₀ one_le_two (by decide)) hlarge
  · exact (nearest_le_two_pow (k := 53) (by decide) (by positivity) hbound).2
  · exact div_le_div_of_nonneg_left (by positivity) (by norm_num) (by norm_num)

/-! ### The interval of a float -/

namespace RoundingInterval

/-- The lower end of the interval. -/
def lowest (i : RoundingInterval) : ℚ :=
  i.low * 2 ^ i.exponent

/-- The upper end of the interval. -/
def highest (i : RoundingInterval) : ℚ :=
  i.high * 2 ^ i.exponent

end RoundingInterval

section Inside

variable {spec : Format} {m : ℕ} {e : ℤ} {y : ℚ}

theorem lastPlace_of_bounds (hy : 0 < y) (hmin : spec.minExponent ≤ e)
    (hhigh : y < 2 ^ spec.mantissaBits * 2 ^ e)
    (hlow : 2 ^ (spec.mantissaBits - 1) * 2 ^ e ≤ y ∨ e = spec.minExponent) :
    lastPlace spec y = e := by
  have hbits := mantissaBits_pos spec
  rw [← zpow_natCast, ← zpow_add₀ two_ne_zero] at hhigh
  have hlog := (Int.lt_zpow_iff_log_lt one_lt_two hy).mp (by exact_mod_cast hhigh)
  unfold lastPlace Format.targetExponent
  rcases hlow with hlow | rfl
  · rw [← zpow_natCast, ← zpow_add₀ two_ne_zero] at hlow
    have hlog' := (Int.zpow_le_iff_le_log one_lt_two hy).mp (by exact_mod_cast hlow)
    omega
  · omega

theorem nearest_eq_of_near (hplace : lastPlace spec y = e) (hhigh : y < (m + 1 / 2) * 2 ^ e)
    (hlow : (m - 1 / 2) * 2 ^ e < y) : nearest spec y = m * 2 ^ e := by
  have hpos : (0 : ℚ) < 2 ^ e := zpow_pos two_pos e
  have hnear : |y / 2 ^ e - (m : ℤ)| < 1 / 2 := by
    rw [← div_lt_iff₀ hpos] at hhigh
    rw [← lt_div_iff₀ hpos] at hlow
    rw [abs_lt]
    push_cast
    constructor <;> linarith
  unfold nearest
  rw [hplace, nearestEven_eq hnear, Int.cast_natCast]

/-- What lies strictly between the ends of the interval of a float rounds to it.  Just below a power
of two the digits go one place further. -/
theorem Canonical.nearest_eq_of_inside (h : Canonical spec m e)
    (hlow : (RoundingInterval.ofFloat spec.mantissaBits spec.minExponent m e).lowest < y)
    (hhigh : y < (RoundingInterval.ofFloat spec.mantissaBits spec.minExponent m e).highest) :
    nearest spec y = m * 2 ^ e := by
  have hpos : (0 : ℚ) < 2 ^ e := zpow_pos two_pos e
  have hm : (1 : ℚ) ≤ m := by exact_mod_cast h.pos
  have hquarter : (2 : ℚ) ^ (e - 2) = 2 ^ e / 4 := by
    rw [zpow_sub₀ two_ne_zero]
    norm_num
  have hdigits : (m : ℚ) + 1 ≤ 2 ^ spec.mantissaBits := by exact_mod_cast h.digits
  unfold RoundingInterval.lowest RoundingInterval.ofFloat at hlow
  unfold RoundingInterval.highest RoundingInterval.ofFloat at hhigh
  dsimp only at hlow hhigh
  rw [hquarter] at hlow hhigh
  push_cast at hhigh
  have hhigh' : y < (m + 1 / 2) * 2 ^ e := by linarith
  have hbound : y < 2 ^ spec.mantissaBits * 2 ^ e :=
    hhigh'.trans (mul_lt_mul_of_pos_right (by linarith) hpos)
  split_ifs at hlow with hpower
  · obtain ⟨hpower, hleast⟩ := hpower
    rw [Nat.pow_eq] at hpower
    have hpower' : (m : ℚ) = 2 ^ (spec.mantissaBits - 1) := by
      rw [hpower]
      push_cast
      rfl
    rw [Nat.cast_sub (by have := h.pos; omega)] at hlow
    push_cast at hlow
    have hy : 0 < y := lt_trans (mul_pos (by linarith) (by positivity)) hlow
    rcases le_or_gt ((m : ℚ) * 2 ^ e) y with hge | hlt
    · exact nearest_eq_of_near
        (lastPlace_of_bounds hy h.least hbound (.inl (by rw [← hpower']; exact hge))) hhigh'
        (lt_of_lt_of_le (mul_lt_mul_of_pos_right (by linarith) hpos) hge)
    · have htwice : (2 : ℚ) ^ e = 2 * 2 ^ (e - 1) := by
        rw [zpow_sub_one₀ two_ne_zero]
        ring
      have hhalf : (0 : ℚ) < 2 ^ (e - 1) := zpow_pos two_pos _
      have hbits : (2 : ℚ) ^ spec.mantissaBits = 2 * m := by
        rw [hpower', ← pow_succ', Nat.sub_add_cancel (mantissaBits_pos spec)]
      rw [htwice] at hlow hlt
      have hplace : lastPlace spec y = e - 1 := by
        refine lastPlace_of_bounds hy (by omega) ?_ (.inl ?_)
        · rw [hbits]
          linarith
        · rw [← hpower']
          have hle : (m : ℚ) * 2 ^ (e - 1) ≤ (2 * m - 1 / 2) * 2 ^ (e - 1) :=
            mul_le_mul_of_nonneg_right (by linarith) hhalf.le
          linarith
      rw [htwice]
      have hnear := nearest_eq_of_near (m := 2 * m) hplace (by push_cast; linarith)
        (by push_cast; linarith)
      rw [hnear]
      push_cast
      ring
  · rw [Nat.cast_sub (by have := h.pos; omega)] at hlow
    push_cast at hlow
    have hlow' : (m - 1 / 2) * 2 ^ e < y := by linarith
    have hy : 0 < y := lt_trans (mul_pos (by linarith) hpos) hlow'
    refine nearest_eq_of_near (lastPlace_of_bounds hy h.least hbound ?_) hhigh' hlow'
    rcases h.least.eq_or_lt with heq | hlt
    · exact .inr heq.symm
    · -- The mantissa is not the least one, so that the one below has all digits as well.
      have hnormal : 2 ^ (spec.mantissaBits - 1) ≤ m := h.normal.resolve_right hlt.ne'
      have hne : m ≠ 2 ^ (spec.mantissaBits - 1) := fun heq => hpower ⟨heq, hlt⟩
      have hgt : (2 : ℚ) ^ (spec.mantissaBits - 1) + 1 ≤ m := by
        have : 2 ^ (spec.mantissaBits - 1) + 1 ≤ m := by omega
        exact_mod_cast this
      have hle : (2 : ℚ) ^ (spec.mantissaBits - 1) * 2 ^ e ≤ (m - 1 / 2) * 2 ^ e :=
        mul_le_mul_of_nonneg_right (by linarith) hpos.le
      exact .inl (hle.trans hlow'.le)

end Inside

/-! ### Single-precision floats -/

/-- Two canonical floats of one size are one float. -/
theorem Sized.eq {spec : Format} {s : Sign} {x : ℚ} {u v : UnpackedFloat} (hu : Sized spec s x u)
    (hv : Sized spec s x v) : u = v := by
  cases hu with
  | zero =>
    generalize hx : (0 : ℚ) = x at hv
    cases hv with
    | zero => rfl
    | finite h' => exact absurd hx h'.size_pos.ne
  | @finite m e h =>
    generalize hx : (m : ℚ) * 2 ^ e = x at hv
    cases hv with
    | zero => exact absurd hx h.size_pos.ne'
    | @finite n d h' =>
      have hexponent : e = d := by
        have hlast := h.lastPlace_eq
        rw [hx, h'.lastPlace_eq] at hlast
        exact hlast.symm
      subst hexponent
      have hmantissa := mul_right_cancel₀ (zpow_pos two_pos e).ne' hx
      obtain rfl : m = n := by exact_mod_cast hmantissa
      rfl

section Patterns

variable {spec : Format}

theorem toBitVec_ofBitVec (b : BitVec 1) : (Sign.ofBitVec b).toBitVec = b := by
  revert b
  decide

/-- The three parts of a pattern make it up. -/
theorem packComponents_unpack (b : BitVec spec.numBits) :
    packComponents spec (Sign.ofBitVec (unpackSign b)) (unpackExponent b) (unpackMantissa b) =
      b := by
  have hmantissa := spec.hm
  have hexponent := spec.he
  unfold packComponents
  rw [toBitVec_ofBitVec]
  refine BitVec.eq_of_getLsbD_eq fun i hi => ?_
  have hi' : i < 1 + spec.exponentBits + spec.mantissaBitsWithoutImplicit := hi
  simp only [unpackSign, unpackExponent, unpackMantissa, BitVec.getLsbD_append, BitVec.getLsbD_cast,
    BitVec.getLsbD_extractLsb]
  split_ifs with h1 h2
  · simp
    omega
  · rw [Nat.add_sub_cancel' (not_lt.mp h1)]
    simp
    omega
  · rw [Nat.sub_sub, Nat.add_sub_cancel' (by omega)]
    simp
    omega

/-- Unpacking and packing again gives the same pattern, unless it stands for no number. -/
theorem pack_unpack (hspec : 2 ≤ spec.exponentBits) {b : BitVec spec.numBits}
    (hb : UnpackedFloat.unpack spec b ≠ .notANumber) :
    UnpackedFloat.pack spec (UnpackedFloat.unpack spec b) = b := by
  have hpattern := packComponents_unpack b
  obtain ⟨htwo, hpow⟩ := two_le_exponentRange hspec
  have hbias := exponentBias_eq spec
  have hmin := minExponent_eq spec
  have hbits : spec.mantissaBits = spec.mantissaBitsWithoutImplicit + 1 := Nat.add_comm _ _
  have hmantissa := (unpackMantissa b).isLt
  have hexponent := (unpackExponent b).isLt
  have hsucc := pow_succ 2 spec.mantissaBitsWithoutImplicit
  revert hb
  unfold UnpackedFloat.unpack
  dsimp only
  split_ifs with hones hzero hexp hzero
  · intro _
    rw [hones, hzero] at hpattern
    exact hpattern
  · intro hb
    exact absurd rfl hb
  · intro _
    rw [hexp, hzero] at hpattern
    exact hpattern
  · intro _
    unfold UnpackedFloat.pack
    dsimp only
    rw [hexp, BitVec.toNat_ofNat, Nat.zero_mod, Nat.cast_zero, if_neg (by omega), if_neg,
      BitVec.ofNat_toNat, BitVec.setWidth_eq, ← hexp, hpattern]
    have hne : (unpackMantissa b).toNat ≠ 0 := fun heq => hzero (BitVec.eq_of_toNat_eq heq)
    have hlog := (Nat.log2_lt hne).mpr hmantissa
    omega
  · intro _
    have hpos : (unpackExponent b).toNat ≠ 0 := fun heq => hexp (BitVec.eq_of_toNat_eq heq)
    rw [eq_neg_one_iff] at hones
    have hlog : (1#1 ++ unpackMantissa b).toNat.log2 + 1 = spec.mantissaBits := by
      rw [hbits, toNat_one_append, Nat.add_right_cancel_iff, Nat.log2_eq_iff (by positivity)]
      omega
    have hbiased : ((unpackExponent b).toNat -
        ((spec.exponentBias : ℤ) + spec.mantissaBitsWithoutImplicit) + spec.exponentBias +
          spec.mantissaBitsWithoutImplicit).toNat = (unpackExponent b).toNat := by
      omega
    have hrest : BitVec.ofNat spec.mantissaBitsWithoutImplicit (1#1 ++ unpackMantissa b).toNat =
        unpackMantissa b := by
      refine BitVec.eq_of_toNat_eq ?_
      rw [BitVec.toNat_ofNat, toNat_one_append, Nat.add_mod_left, Nat.mod_eq_of_lt hmantissa]
    unfold UnpackedFloat.pack
    dsimp only
    rw [hbiased, if_neg (by omega), if_pos hlog, hrest, BitVec.ofNat_toNat, BitVec.setWidth_eq,
      hpattern]

/-- A float has only one pattern for what is no number, so that packing what was unpacked gives every
pattern of a float again. -/
theorem pack_unpack_of_valid (hspec : 2 ≤ spec.exponentBits) {b : BitVec spec.numBits}
    (hvalid : spec.Valid b) :
    UnpackedFloat.pack spec (UnpackedFloat.unpack spec b) = b := by
  by_cases hb : UnpackedFloat.unpack spec b = .notANumber
  · have hparts : unpackExponent b = -1#_ ∧ unpackMantissa b ≠ 0#_ := by
      unfold UnpackedFloat.unpack at hb
      dsimp only at hb
      split_ifs at hb with hones hzero
      exact ⟨hones, hzero⟩
    rw [hb]
    exact (hvalid.eq_packedNaN hparts.1 hparts.2).symm
  · exact pack_unpack hspec hb

end Patterns

/-- A single-precision float is what its parts are packed to. -/
theorem ofModel_pack_unpack (x : Float32) : Float32.ofModel (.pack x.toModel.unpack) = x := by
  obtain ⟨⟨bits, hvalid⟩⟩ := x
  have hpattern := @pack_unpack_of_valid .binary32 (by decide) _ hvalid
  change Float32.ofModel ⟨⟨UnpackedFloat.pack .binary32
    (UnpackedFloat.unpack .binary32 bits.toBitVec)⟩, _⟩ = _
  congr 2
  exact congrArg UInt32.ofBitVec hpattern

/-- So is a double. -/
theorem double_ofModel_pack_unpack (x : Float) : Float.ofModel (.pack x.toModel.unpack) = x := by
  obtain ⟨⟨bits, hvalid⟩⟩ := x
  have hpattern := @pack_unpack_of_valid .binary64 (by decide) _ hvalid
  change Float.ofModel ⟨⟨UnpackedFloat.pack .binary64
    (UnpackedFloat.unpack .binary64 bits.toBitVec)⟩, _⟩ = _
  congr 2
  exact congrArg UInt64.ofBitVec hpattern

/-- A single-precision float is what any other way to compute it is packed to. -/
theorem eq_of_sized {x : Float32} {s : Sign} {q : ℚ} {u : UnpackedFloat}
    (hx : Sized .binary32 s q x.toModel.unpack) (hu : Sized .binary32 s q u) :
    Float32.ofModel (.pack u) = x := by
  rw [hu.eq hx]
  exact ofModel_pack_unpack x

/-- A double strictly between the ends of the interval of a single-precision float is narrowed to
it. -/
theorem narrow_eq {x : Float32} {m : ℕ} {e : ℤ} {hm : 0 < m}
    (hx : x.toModel.unpack = .finite .positive m e hm) (hcanonical : Canonical .binary32 m e)
    {y : Float} {q : ℚ} (hy : Amounts y q)
    (hlow : (RoundingInterval.ofFloat 24 (-149) m e).lowest < q)
    (hhigh : q < (RoundingInterval.ofFloat 24 (-149) m e).highest) : narrow y = x := by
  have hnearest : nearest .binary32 q = m * 2 ^ e := hcanonical.nearest_eq_of_inside hlow hhigh
  have hsized : Sized .binary32 .positive (m * 2 ^ e) x.toModel.unpack := by
    rw [hx]
    exact .finite hcanonical
  obtain ⟨hsize, -⟩ := hy
  unfold narrow
  generalize y.toModel.unpack = u at hsize
  cases hsize with
  | zero =>
    rw [nearest_zero] at hnearest
    exact absurd hnearest hcanonical.size_pos.ne
  | @finite n d h =>
    refine eq_of_sized hsized ?_
    rw [← hnearest]
    exact sized_round .positive h.pos d

end Autopilot
