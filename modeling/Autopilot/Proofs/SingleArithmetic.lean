import Autopilot.Proofs.Narrowing
import Autopilot.Proofs.Opposite

/-!
# Exact values of single-precision floats

`HasValue x q` says that the single-precision float `x` is finite and exactly the rational number `q`.
The value of a sum, a difference, a product or a quotient is the exact one, `rounded` to the numbers
of the format (`HasValue.add` and so on); the value of an integer is the integer itself up to `2^24`
(`hasValue_singleOfInt`); and the integer part of a float is that of its value
(`HasValue.toInt_truncate32`).

Rounding is monotone and odd (`rounded_mono`, `rounded_neg`), and its error is at most one half of the
last place (`abs_rounded_sub_le`).
-/

namespace Autopilot

open Float.Model Float.Model.UnpackedFloat

/-! ### Rounding on both sides of zero -/

section Rounded

variable {spec : Format} {x y : ℚ}

/-- The number of the format nearest to `x`, if its exponents went on without end. -/
def rounded (spec : Format) (x : ℚ) : ℚ :=
  if 0 ≤ x then nearest spec x else -nearest spec (-x)

theorem rounded_of_nonneg (h : 0 ≤ x) : rounded spec x = nearest spec x :=
  if_pos h

@[simp] theorem rounded_zero (spec : Format) : rounded spec 0 = 0 := by
  rw [rounded_of_nonneg le_rfl, nearest_zero]

theorem rounded_neg (spec : Format) (x : ℚ) : rounded spec (-x) = -rounded spec x := by
  unfold rounded
  rcases lt_trichotomy x 0 with hx | rfl | hx
  · rw [if_pos (by linarith), if_neg hx.not_ge, neg_neg]
  · simp
  · rw [if_neg (by linarith), if_pos hx.le, neg_neg]

theorem rounded_nonneg (h : 0 ≤ x) : 0 ≤ rounded spec x := by
  rw [rounded_of_nonneg h]
  exact nearest_nonneg h

theorem rounded_nonpos (h : x ≤ 0) : rounded spec x ≤ 0 := by
  have hneg : 0 ≤ rounded spec (-x) := rounded_nonneg (neg_nonneg.mpr h)
  rw [rounded_neg] at hneg
  linarith

theorem rounded_mono (spec : Format) : Monotone (rounded spec) := by
  intro x y hxy
  rcases le_or_gt 0 x with hx | hx
  · rw [rounded_of_nonneg hx, rounded_of_nonneg (hx.trans hxy)]
    exact nearest_mono hx hxy
  · rcases le_or_gt 0 y with hy | hy
    · exact (rounded_nonpos hx.le).trans (rounded_nonneg hy)
    · have hneg : nearest spec (-y) ≤ nearest spec (-x) :=
        nearest_mono (by linarith) (neg_le_neg hxy)
      unfold rounded
      rw [if_neg hx.not_ge, if_neg hy.not_ge]
      linarith

theorem abs_signed (s : Sign) (hx : 0 ≤ x) : |signed s x| = x := by
  cases s with
  | positive => exact abs_of_nonneg hx
  | negative => exact (abs_neg x).trans (abs_of_nonneg hx)

theorem rounded_signed (s : Sign) (hx : 0 ≤ x) :
    rounded spec (signed s x) = signed s (nearest spec x) := by
  cases s with
  | positive => exact rounded_of_nonneg hx
  | negative =>
    change rounded spec (-x) = -_
    rw [rounded_neg, rounded_of_nonneg hx]

/-- A number is its size with a sign, and so is what it is rounded to. -/
theorem exists_signed (spec : Format) (x : ℚ) :
    ∃ s, x = signed s |x| ∧ rounded spec x = signed s (nearest spec |x|) := by
  have hsign : ∃ s, x = signed s |x| := by
    rcases le_or_gt 0 x with hx | hx
    · exact ⟨.positive, (abs_of_nonneg hx).symm⟩
    · exact ⟨.negative, by rw [abs_of_neg hx]; exact (neg_neg x).symm⟩
  obtain ⟨s, hs⟩ := hsign
  refine ⟨s, hs, ?_⟩
  nth_rewrite 1 [hs]
  exact rounded_signed s (abs_nonneg x)

theorem signed_sub_signed (s : Sign) (x y : ℚ) : signed s x - signed s y = signed s (x - y) := by
  cases s with
  | positive => rfl
  | negative =>
    change -x - -y = -(x - y)
    ring

theorem abs_signed_eq (s : Sign) (x : ℚ) : |signed s x| = |x| := by
  cases s with
  | positive => rfl
  | negative => exact abs_neg x

theorem abs_rounded (spec : Format) (x : ℚ) : |rounded spec x| = rounded spec |x| := by
  obtain ⟨s, -, hrounded⟩ := exists_signed spec x
  rw [hrounded, abs_signed s (nearest_nonneg (abs_nonneg x)), rounded_of_nonneg (abs_nonneg x)]

/-- The error of rounding is at most one half of the last place. -/
theorem abs_rounded_sub_le (spec : Format) (x : ℚ) :
    |rounded spec x - x| ≤ 2 ^ lastPlace spec |x| / 2 := by
  obtain ⟨s, hx, hrounded⟩ := exists_signed spec x
  rw [hrounded]
  nth_rewrite 2 [hx]
  rw [signed_sub_signed, abs_signed_eq]
  exact abs_nearest_sub_le spec |x|

/-- A number with all digits of the format is rounded by a small part of itself. -/
theorem abs_rounded_sub_le_div (hx : 2 ^ (spec.minExponent + spec.mantissaBits) ≤ |x|) :
    |rounded spec x - x| ≤ |x| / 2 ^ spec.mantissaBits := by
  obtain ⟨s, hs, hrounded⟩ := exists_signed spec x
  rw [hrounded]
  nth_rewrite 2 [hs]
  rw [signed_sub_signed, abs_signed_eq]
  exact abs_nearest_sub_le_div hx

theorem nearest_two_pow (spec : Format) {k : ℕ} (hk : 0 < k) : nearest spec (2 ^ k) = 2 ^ k := by
  have hbits : spec.mantissaBits = spec.mantissaBitsWithoutImplicit + 1 := Nat.add_comm _ _
  have hrange : 0 < exponentRange spec := Nat.two_pow_pos _
  have hmin := minExponent_eq spec
  have hcanonical : Canonical spec (2 ^ spec.mantissaBitsWithoutImplicit)
      (k - spec.mantissaBitsWithoutImplicit) := by
    refine ⟨Nat.two_pow_pos _, ?_, by omega, .inl ?_⟩
    · exact Nat.pow_lt_pow_right (by decide) (by omega)
    · rw [hbits, Nat.add_sub_cancel]
  have hvalue : ((2 ^ spec.mantissaBitsWithoutImplicit : ℕ) : ℚ) *
      2 ^ ((k : ℤ) - spec.mantissaBitsWithoutImplicit) = 2 ^ k := by
    rw [Nat.cast_pow, Nat.cast_ofNat, ← zpow_natCast, ← zpow_add₀ two_ne_zero, add_sub_cancel,
      zpow_natCast]
  rw [← hvalue, hcanonical.nearest_eq]

/-- An integer with no more digits than the format has is not rounded. -/
theorem rounded_intCast {n : ℤ} (hn : |n| ≤ 2 ^ spec.mantissaBits) : rounded spec n = n := by
  obtain ⟨s, hs, hrounded⟩ := exists_signed spec n
  have hsize : |(n : ℚ)| = n.natAbs := by
    rw [← Int.cast_abs, Int.abs_eq_natAbs, Int.cast_natCast]
  have hle : n.natAbs ≤ 2 ^ spec.mantissaBits := by
    rw [Int.abs_eq_natAbs] at hn
    exact_mod_cast hn
  have hnearest : nearest spec |(n : ℚ)| = |(n : ℚ)| := by
    rw [hsize]
    rcases hle.lt_or_eq with hlt | heq
    · exact nearest_natCast hlt
    · rw [heq, Nat.cast_pow, Nat.cast_ofNat]
      exact nearest_two_pow spec (mantissaBits_pos spec)
  rw [hrounded, hnearest]
  exact hs.symm

/-- An integer with fewer digits than the format has can have any place that the format has. -/
theorem rounded_intCast_mul {n : ℤ} (hn : |n| < 2 ^ spec.mantissaBits) {e : ℤ}
    (he : spec.minExponent ≤ e) : rounded spec (n * 2 ^ e) = n * 2 ^ e := by
  have hsize : |(n : ℚ) * 2 ^ e| = n.natAbs * 2 ^ e := by
    have hpos : (0 : ℚ) < 2 ^ e := zpow_pos two_pos e
    rw [abs_mul, abs_of_pos hpos, ← Int.cast_abs, Int.abs_eq_natAbs, Int.cast_natCast]
  have hlt : n.natAbs < 2 ^ spec.mantissaBits := by
    rw [Int.abs_eq_natAbs] at hn
    exact_mod_cast hn
  obtain ⟨s, hs, hrounded⟩ := exists_signed spec (n * 2 ^ e)
  rw [hrounded, hsize, nearest_natCast_mul hlt he, ← hsize]
  exact hs.symm

/-- Below a power of two, the last place is that of the numbers just below it. -/
theorem lastPlace_le_of_lt {k : ℤ} (hx : 0 < x) (hlt : x < 2 ^ k)
    (hk : spec.minExponent + spec.mantissaBits ≤ k) : lastPlace spec x ≤ k - spec.mantissaBits := by
  have hlog := (Int.lt_zpow_iff_log_lt one_lt_two hx).mp (by exact_mod_cast hlt)
  change max (Int.log 2 x + 1 - spec.mantissaBits) spec.minExponent ≤ k - spec.mantissaBits
  omega

/-- What is smaller than a power of two is rounded by at most one half of the last place there. -/
theorem abs_rounded_sub_le_of_abs_lt (spec : Format) {k : ℤ} (hlt : |x| < 2 ^ k)
    (hk : spec.minExponent + spec.mantissaBits ≤ k) :
    |rounded spec x - x| ≤ 2 ^ (k - spec.mantissaBits) / 2 := by
  rcases (abs_nonneg x).eq_or_lt with hzero | hpos
  · rw [abs_eq_zero.mp hzero.symm, rounded_zero, sub_zero, abs_zero]
    positivity
  · refine (abs_rounded_sub_le spec x).trans ?_
    have hplace := lastPlace_le_of_lt hpos hlt hk
    gcongr
    exact one_le_two

/-- Up to a power of two below the limit, rounding does not leave the finite numbers. -/
theorem abs_rounded_lt_sizeLimit {k : ℕ} (hpos : 0 < k) (hk : k < exponentRange spec)
    (h : |x| ≤ 2 ^ k) : |rounded spec x| < sizeLimit spec := by
  obtain ⟨s, -, hrounded⟩ := exists_signed spec x
  rw [hrounded, abs_signed s (nearest_nonneg (abs_nonneg x))]
  calc nearest spec |x| ≤ nearest spec (2 ^ k) := nearest_mono (abs_nonneg x) h
    _ = 2 ^ k := nearest_two_pow spec hpos
    _ < 2 ^ exponentRange spec := pow_lt_pow_right₀ one_lt_two hk

end Rounded

/-! ### The values of unpacked floats -/

section Valued

variable {spec : Format} {u v : UnpackedFloat} {p q : ℚ}

/-- The unpacked float is finite, a number of the format, and exactly `q`. -/
def Valued (spec : Format) (u : UnpackedFloat) (q : ℚ) : Prop :=
  ∃ s, ∃ p, Sized spec s p u ∧ q = signed s p

@[simp] theorem signed_zero (s : Sign) : signed s 0 = 0 := by
  cases s with
  | positive => rfl
  | negative => exact neg_zero

theorem signed_natCast (s : Sign) (m : ℕ) : signed s m = s.apply m := by
  cases s with
  | positive => rfl
  | negative => exact (Int.cast_neg _).symm

theorem signed_mul (s : Sign) (x y : ℚ) : signed s (x * y) = signed s x * y := by
  cases s with
  | positive => rfl
  | negative => exact (neg_mul x y).symm

theorem signed_neg (s : Sign) (x : ℚ) : signed (-s) x = -signed s x := by
  cases s with
  | positive => rfl
  | negative => exact (neg_neg x).symm

theorem Valued.rounded_eq (h : Valued spec u q) : rounded spec q = q := by
  obtain ⟨s, p, hsized, rfl⟩ := h
  rw [rounded_signed s hsized.nonneg]
  cases hsized with
  | zero => rw [nearest_zero]
  | finite h => rw [h.nearest_eq]

/-- A sum or a difference is rounded once, whatever its sign is. -/
theorem valued_normalize (n e : ℤ) :
    Valued spec (UnpackedFloat.normalize spec n e .positive) (rounded spec (n * 2 ^ e)) := by
  have hpos : (0 : ℚ) < 2 ^ e := zpow_pos two_pos e
  unfold UnpackedFloat.normalize
  rcases lt_trichotomy n 0 with hn | rfl | hn
  · rw [compare_lt_iff_lt.mpr hn]
    have hsize : (n : ℚ) * 2 ^ e = signed .negative ((-n).toNat * 2 ^ e) := by
      have hcast : (((-n).toNat : ℤ) : ℚ) = -n := by
        rw [Int.toNat_of_nonneg (by omega)]
        exact Int.cast_neg n
      rw [signed_mul, ← Int.cast_natCast, hcast]
      exact congrArg (· * (2 : ℚ) ^ e) (neg_neg (n : ℚ)).symm
    rw [hsize, rounded_signed _ (by positivity)]
    exact ⟨_, _, sized_round .negative (by omega) e, rfl⟩
  · rw [compare_eq_iff_eq.mpr rfl, Int.cast_zero, zero_mul, rounded_zero]
    exact ⟨.positive, 0, .zero, rfl⟩
  · rw [compare_gt_iff_gt.mpr hn]
    have hsize : (n : ℚ) * 2 ^ e = n.toNat * 2 ^ e := by
      rw [← Int.cast_natCast, Int.toNat_of_nonneg hn.le]
    rw [hsize, rounded_of_nonneg (by positivity)]
    exact ⟨_, _, sized_round .positive (by omega) e, rfl⟩

/-- Two numbers at the smaller one of their exponents. -/
theorem decreaseExponent_eq {m : ℕ} {d e : ℤ} (h : e ≤ d) :
    (((decreaseExponent m d e).1 : ℕ) : ℚ) * 2 ^ e = m * 2 ^ d := by
  obtain ⟨k, hk⟩ := Int.le.dest h
  change ((m <<< (d - e).toNat : ℕ) : ℚ) * 2 ^ e = _
  rw [← hk, add_sub_cancel_left, Int.toNat_natCast, Nat.shiftLeft_eq, zpow_add₀ two_ne_zero,
    zpow_natCast]
  push_cast
  ring

theorem Valued.add (hu : Valued spec u p) (hv : Valued spec v q) :
    Valued spec (UnpackedFloat.add spec u v) (rounded spec (p + q)) := by
  have hp := hu.rounded_eq
  have hq := hv.rounded_eq
  obtain ⟨s, x, hx, rfl⟩ := hu
  obtain ⟨t, y, hy, rfl⟩ := hv
  cases hx with
  | zero =>
    rw [signed_zero, zero_add, hq]
    cases hy with
    | zero =>
      unfold UnpackedFloat.add
      dsimp only
      split_ifs
      · exact ⟨s, 0, .zero, by rw [signed_zero, signed_zero]⟩
      · exact ⟨.positive, 0, .zero, by rw [signed_zero, signed_zero]⟩
    | finite h' => exact ⟨t, _, .finite h', rfl⟩
  | @finite m d h =>
    cases hy with
    | zero =>
      rw [signed_zero, add_zero, hp]
      exact ⟨s, _, .finite h, rfl⟩
    | @finite n e h' =>
      have hsum : signed s (m * 2 ^ d) + signed t (n * 2 ^ e) =
          ((s.apply (decreaseExponent m d (min d e)).1 +
            t.apply (decreaseExponent n e (min d e)).1 : ℤ) : ℚ) * 2 ^ min d e := by
        rw [← decreaseExponent_eq (min_le_left d e), ← decreaseExponent_eq (min_le_right d e),
          signed_mul, signed_mul, signed_natCast, signed_natCast]
        push_cast
        ring
      rw [hsum]
      exact valued_normalize _ _

theorem Valued.neg (h : Valued spec u q) : Valued spec u.neg (-q) := by
  obtain ⟨s, p, hsized, rfl⟩ := h
  rw [← signed_neg]
  cases hsized with
  | zero => exact ⟨-s, 0, .zero, rfl⟩
  | finite h => exact ⟨-s, _, .finite h, rfl⟩

theorem sub_eq_add_negated (u v : UnpackedFloat) :
    UnpackedFloat.sub spec u v = UnpackedFloat.add spec u v.neg := by
  cases u with
  | notANumber => rfl
  | infinity s => cases v <;> rfl
  | zero s => cases v <;> rfl
  | finite s m d hm =>
    cases v with
    | notANumber => rfl
    | infinity t => rfl
    | zero t => rfl
    | finite t n e hn =>
      unfold UnpackedFloat.sub UnpackedFloat.add UnpackedFloat.neg
      dsimp only
      rw [apply_neg, ← Int.sub_eq_add_neg]

theorem Valued.sub (hu : Valued spec u p) (hv : Valued spec v q) :
    Valued spec (UnpackedFloat.sub spec u v) (rounded spec (p - q)) := by
  rw [sub_eq_add_negated, Rat.sub_eq_add_neg]
  exact hu.add hv.neg

theorem signed_mul_signed (s t : Sign) (x y : ℚ) :
    signed s x * signed t y = signed (s * t) (x * y) := by
  cases s with
  | positive =>
    cases t with
    | positive => rfl
    | negative => exact mul_neg x y
  | negative =>
    cases t with
    | positive => exact neg_mul x y
    | negative => exact neg_mul_neg x y

theorem signed_div_signed (s t : Sign) (x y : ℚ) :
    signed s x / signed t y = signed (s / t) (x / y) := by
  cases s with
  | positive =>
    cases t with
    | positive => rfl
    | negative => exact div_neg x
  | negative =>
    cases t with
    | positive => exact neg_div y x
    | negative => exact neg_div_neg_eq x y

theorem Valued.mul (hu : Valued spec u p) (hv : Valued spec v q) :
    Valued spec (UnpackedFloat.mul spec u v) (rounded spec (p * q)) := by
  obtain ⟨s, x, hx, rfl⟩ := hu
  obtain ⟨t, y, hy, rfl⟩ := hv
  rw [signed_mul_signed, rounded_signed _ (mul_nonneg hx.nonneg hy.nonneg)]
  exact ⟨_, _, hx.mul hy, rfl⟩

/-- A quotient is rounded once, if it is zero or not smaller than all numbers of the format. -/
theorem Valued.div (hu : Valued spec u p) (hv : Valued spec v q) (hq : q ≠ 0)
    (hlarge : p = 0 ∨ 2 ^ spec.minExponent ≤ |p / q|) :
    Valued spec (UnpackedFloat.div spec u v) (rounded spec (p / q)) := by
  obtain ⟨s, x, hx, rfl⟩ := hu
  obtain ⟨t, y, hy, rfl⟩ := hv
  have hnonneg := div_nonneg hx.nonneg hy.nonneg
  have hpos : 0 < y := by
    refine lt_of_le_of_ne hy.nonneg fun heq => hq ?_
    rw [← heq, signed_zero]
  rw [signed_div_signed, abs_signed _ hnonneg] at hlarge
  rw [signed_div_signed, rounded_signed _ hnonneg]
  rcases hlarge with hzero | hlarge
  · cases hx with
    | zero =>
      cases hy with
      | zero => exact absurd rfl hpos.ne
      | finite h' =>
        rw [zero_div, nearest_zero]
        exact ⟨_, _, .zero, rfl⟩
    | finite h =>
      have hsize := abs_signed s h.size_pos.le
      rw [hzero, abs_zero] at hsize
      exact absurd hsize h.size_pos.ne
  · exact ⟨_, _, hx.div hy hpos hlarge, rfl⟩

/-- Packing keeps the value of a float that is not too large. -/
theorem Valued.unpack_pack (hspec : 2 ≤ spec.exponentBits) (h : Valued spec u q)
    (hlt : |q| < sizeLimit spec) : Valued spec (.unpack spec (UnpackedFloat.pack spec u)) q := by
  obtain ⟨s, p, hsized, rfl⟩ := h
  rw [abs_signed s hsized.nonneg] at hlt
  rw [Autopilot.unpack_pack hspec hsized, if_pos hlt]
  exact ⟨s, p, hsized, rfl⟩

end Valued

/-! ### The values of single-precision floats -/

/-- The single-precision float is finite, and exactly `q`. -/
structure HasValue (x : Float32) (q : ℚ) : Prop where
  valued : Valued .binary32 x.toModel.unpack q
  lt : |q| < sizeLimit .binary32

section Singles

variable {x y : Float32} {p q : ℚ} {u : UnpackedFloat}

theorem hasValue_pack (h : Valued .binary32 u q) (hlt : |q| < sizeLimit .binary32) :
    HasValue (.ofModel (.pack u)) q :=
  ⟨h.unpack_pack (by decide) hlt, hlt⟩

/-- Up to here, rounding does not leave the finite numbers. -/
theorem abs_rounded_lt (h : |q| ≤ 2 ^ 127) : |rounded .binary32 q| < sizeLimit .binary32 :=
  abs_rounded_lt_sizeLimit (by decide) (by decide) h

theorem HasValue.rounded_eq (h : HasValue x q) : rounded .binary32 q = q :=
  h.valued.rounded_eq

theorem HasValue.add (hx : HasValue x p) (hy : HasValue y q) (h : |p + q| ≤ 2 ^ 127) :
    HasValue (x + y) (rounded .binary32 (p + q)) :=
  hasValue_pack (hx.valued.add hy.valued) (abs_rounded_lt h)

theorem HasValue.sub (hx : HasValue x p) (hy : HasValue y q) (h : |p - q| ≤ 2 ^ 127) :
    HasValue (x - y) (rounded .binary32 (p - q)) :=
  hasValue_pack (hx.valued.sub hy.valued) (abs_rounded_lt h)

theorem HasValue.mul (hx : HasValue x p) (hy : HasValue y q) (h : |p * q| ≤ 2 ^ 127) :
    HasValue (x * y) (rounded .binary32 (p * q)) :=
  hasValue_pack (hx.valued.mul hy.valued) (abs_rounded_lt h)

theorem HasValue.div (hx : HasValue x p) (hy : HasValue y q) (hq : q ≠ 0)
    (hlarge : p = 0 ∨ 2 ^ Format.minExponent .binary32 ≤ |p / q|) (h : |p / q| ≤ 2 ^ 127) :
    HasValue (x / y) (rounded .binary32 (p / q)) :=
  hasValue_pack (hx.valued.div hy.valued hq hlarge) (abs_rounded_lt h)

/-- A difference that is no larger than the float it is taken from is finite. -/
theorem HasValue.sub_of_abs_le (hx : HasValue x p) (hy : HasValue y q) (h : |p - q| ≤ |p|) :
    HasValue (x - y) (rounded .binary32 (p - q)) := by
  refine hasValue_pack (hx.valued.sub hy.valued) ?_
  calc |rounded .binary32 (p - q)| = rounded .binary32 |p - q| := abs_rounded _ _
    _ ≤ rounded .binary32 |p| := rounded_mono _ h
    _ = |p| := by rw [← abs_rounded, hx.rounded_eq]
    _ < sizeLimit .binary32 := hx.lt

theorem HasValue.neg (h : HasValue x q) : HasValue (-x) (-q) :=
  hasValue_pack h.valued.neg (by rw [abs_neg]; exact h.lt)

/-- An integer is rounded once. -/
theorem hasValue_singleOfInt_rounded {n : ℤ} (hn : |n| ≤ 2 ^ 127) :
    HasValue (singleOfInt n) (rounded .binary32 n) := by
  have hvalued := @valued_normalize .binary32 n 0
  rw [zpow_zero, mul_one] at hvalued
  rw [singleOfInt_eq]
  exact hasValue_pack hvalued (abs_rounded_lt (by exact_mod_cast hn))

theorem hasValue_singleOfInt {n : ℤ} (hn : |n| ≤ 2 ^ 24) : HasValue (singleOfInt n) n := by
  have hvalue := hasValue_singleOfInt_rounded (hn.trans (by norm_num))
  rwa [rounded_intCast hn] at hvalue

theorem hasValue_one : HasValue 1.0 1 := by
  have h := @hasValue_singleOfInt 1 (by decide)
  rw [Int.cast_one] at h
  exact h

theorem hasValue_half : HasValue 0.5 (1 / 2) := by
  have hunpack : (0.5 : Float32).toModel.unpack = .finite .positive (2 ^ 23) (-24) (by decide) := rfl
  have hcanonical : Canonical .binary32 (2 ^ 23) (-24) :=
    ⟨by decide, by decide, by decide, .inl le_rfl⟩
  have hvalue : (1 / 2 : ℚ) = ((2 ^ 23 : ℕ) : ℚ) * 2 ^ (-24 : ℤ) := by norm_num
  have hlt : |(1 / 2 : ℚ)| < 2 ^ 128 := by
    rw [abs_of_pos one_half_pos]
    exact one_half_lt_one.trans (one_lt_pow₀ one_lt_two (by decide))
  refine ⟨⟨.positive, 1 / 2, ?_, rfl⟩, hlt⟩
  rw [hunpack, hvalue]
  exact .finite hcanonical

/-! ### The order of values -/

theorem HasValue.isNumber (h : HasValue x q) : IsNumber .binary32 x.toModel.unpack := by
  obtain ⟨⟨s, p, hsized, rfl⟩, hlt⟩ := h
  rw [abs_signed s hsized.nonneg] at hlt
  exact .sized hsized hlt

theorem HasValue.place_eq (h : HasValue x q) : place .binary32 x.toModel.unpack = q := by
  obtain ⟨⟨s, p, hsized, rfl⟩, -⟩ := h
  exact hsized.place_eq

theorem HasValue.le_iff (hx : HasValue x p) (hy : HasValue y q) : x ≤ y ↔ p ≤ q := by
  rw [Autopilot.le_iff, le_iff_place_le hx.isNumber hy.isNumber, hx.place_eq, hy.place_eq]

theorem HasValue.lt_iff (hx : HasValue x p) (hy : HasValue y q) : x < y ↔ p < q := by
  rw [Autopilot.lt_iff, lt_iff_place_lt hx.isNumber hy.isNumber, hx.place_eq, hy.place_eq]

theorem HasValue.beq_iff (hx : HasValue x p) (hy : HasValue y q) : (x == y) = true ↔ p = q := by
  change x.toModel.unpack.beq y.toModel.unpack = true ↔ _
  unfold UnpackedFloat.beq
  rw [compare_eq hx.isNumber hy.isNumber, hx.place_eq, hy.place_eq, beq_iff_eq, Option.some.injEq,
    compare_eq_iff_eq]

theorem isFinite_iff_exists_hasValue : x.isFinite = true ↔ ∃ q, HasValue x q := by
  change x.toModel.unpack.isFinite = true ↔ _
  constructor
  · intro h
    have hnumber : IsNumber .binary32 x.toModel.unpack := by
      refine isNumber_unpack (by decide) fun hnot => ?_
      change x.toModel.unpack = .notANumber at hnot
      rw [hnot] at h
      cases h
    generalize hu : x.toModel.unpack = u at h hnumber
    cases hnumber with
    | infinity s => cases h
    | sized hsized hlt =>
      rw [← hu] at hsized
      exact ⟨_, ⟨_, _, hsized, rfl⟩, by rwa [abs_signed _ hsized.nonneg]⟩
  · rintro ⟨q, ⟨s, p, hsized, rfl⟩, -⟩
    generalize x.toModel.unpack = u at hsized
    cases hsized <;> rfl

/-! ### Integer parts -/

/-- The integer part of a number, on the side of zero. -/
def truncated (q : ℚ) : ℤ :=
  if 0 ≤ q then ⌊q⌋ else ⌈q⌉

theorem truncated_of_nonneg (h : 0 ≤ q) : truncated q = ⌊q⌋ :=
  if_pos h

theorem truncated_neg (q : ℚ) : truncated (-q) = -truncated q := by
  unfold truncated
  rcases lt_trichotomy q 0 with hq | rfl | hq
  · rw [if_pos (by linarith), if_neg hq.not_ge, Int.floor_neg]
  · simp
  · rw [if_neg (by linarith), if_pos hq.le, Int.ceil_neg]

theorem truncated_of_nonpos (h : q ≤ 0) : truncated q = -⌊-q⌋ := by
  rw [← truncated_of_nonneg (neg_nonneg.mpr h), truncated_neg, neg_neg]

@[simp] theorem truncated_intCast (n : ℤ) : truncated n = n := by
  unfold truncated
  rw [Int.floor_intCast, Int.ceil_intCast, ite_self]

theorem truncated_mono : Monotone truncated := by
  intro p q hpq
  unfold truncated
  split_ifs with hp hq hq
  · exact Int.floor_mono hpq
  · exact absurd (hp.trans hpq) hq
  · exact (Int.ceil_nonpos.mpr (not_le.mp hp).le).trans (Int.floor_nonneg.mpr hq)
  · exact Int.ceil_mono hpq

theorem truncated_signed (s : Sign) (h : 0 ≤ q) : truncated (signed s q) = s.apply ⌊q⌋ := by
  cases s with
  | positive => exact truncated_of_nonneg h
  | negative =>
    change truncated (-q) = -⌊q⌋
    rw [truncated_neg, truncated_of_nonneg h]

theorem roundToInt_eq (s : Sign) (m : ℕ) (e : ℤ) :
    roundToInt s m e = truncated (signed s (m * 2 ^ e)) := by
  rw [truncated_signed s (by positivity)]
  unfold roundToInt decreaseExponent shiftToExponent
  dsimp only
  generalize hk : (e - 0).toNat = k
  generalize hd : (0 - (e - (k : ℤ))).toNat = d
  -- One of the two shifts is by nothing.
  have hexp : e = k - d := by omega
  have hvalue : (m : ℚ) * 2 ^ e = ((m <<< k : ℕ) : ℚ) / 2 ^ d := by
    rw [hexp, zpow_sub₀ two_ne_zero, zpow_natCast, zpow_natCast, Nat.shiftLeft_eq]
    push_cast
    ring
  rw [hvalue, ((shows_exact (m <<< k)).shiftRight d).floor_eq]

/-- The integer part of a float is that of its value. -/
theorem Valued.toInt_eq {spec : Format} (h : Valued spec u q) (least greatest : ℤ) :
    u.toInt least greatest = truncated q := by
  obtain ⟨s, p, hsized, rfl⟩ := h
  cases hsized with
  | zero =>
    rw [signed_zero]
    exact (truncated_intCast 0).symm
  | finite h => exact roundToInt_eq s _ _

theorem HasValue.toInt_truncate32 (h : HasValue x q) :
    (truncate32 x).toInt = saturate (truncated q) := by
  rw [Autopilot.toInt_truncate32, h.valued.toInt_eq]

end Singles

/-! ### Errors of rounding -/

section Errors

variable {x : ℚ}

/-- What is smaller than a power of two is rounded by at most one half of the last place there. -/
theorem abs_rounded_sub_le_of_lt {k : ℤ} (hx : 0 ≤ x) (hlt : x < 2 ^ k) (hk : -125 ≤ k) :
    |rounded .binary32 x - x| ≤ 2 ^ (k - 24) / 2 :=
  abs_rounded_sub_le_of_abs_lt .binary32 (by rwa [abs_of_nonneg hx]) hk

/-- What is zero or not too small is rounded by a small part of itself. -/
theorem abs_rounded_sub_le_mul (hx : x = 0 ∨ 2 ^ (-125 : ℤ) ≤ |x|) :
    |rounded .binary32 x - x| ≤ |x| / 2 ^ 24 := by
  rcases hx with rfl | hx
  · rw [rounded_zero, sub_zero, abs_zero, zero_div]
  · exact abs_rounded_sub_le_div hx

/-- Numbers of 24 binary places before the point and none behind it are rounded to integers. -/
theorem rounded_eq_nearestEven (hlow : 2 ^ 23 ≤ x) (hhigh : x < 2 ^ 24) :
    rounded .binary32 x = nearestEven x := by
  have hlog : Int.log 2 x = 23 := log_eq (by exact_mod_cast hlow) (by exact_mod_cast hhigh)
  have hplace : lastPlace .binary32 x = 0 := by
    unfold lastPlace
    rw [hlog]
    rfl
  rw [rounded_of_nonneg (by linarith)]
  unfold nearest
  rw [hplace, zpow_zero, div_one, mul_one]

/-- Beyond 24 binary places the odd integers are missing. -/
theorem rounded_two_pow_add_one : rounded .binary32 (2 ^ 24 + 1) = 2 ^ 24 := by
  have hlog : Int.log 2 (2 ^ 24 + 1 : ℚ) = 24 := log_eq (by norm_num) (by norm_num)
  have hplace : lastPlace .binary32 (2 ^ 24 + 1) = 1 := by
    unfold lastPlace
    rw [hlog]
    rfl
  have hfloor : ⌊((2 ^ 24 + 1) / 2 ^ (1 : ℤ) : ℚ)⌋ = 8388608 := by
    rw [Int.floor_eq_iff]
    norm_num
  have hdown : ¬ RoundsUp ((2 ^ 24 + 1) / 2 ^ (1 : ℤ)) := by
    unfold RoundsUp Int.fract
    rw [hfloor]
    norm_num
  have hhalf : nearestEven ((2 ^ 24 + 1) / 2 ^ (1 : ℤ)) = 8388608 :=
    (if_neg hdown).trans hfloor
  rw [rounded_of_nonneg (by norm_num)]
  unfold nearest
  rw [hplace, hhalf]
  norm_num

/-- A power of two as a factor changes the exponent only. -/
theorem rounded_two_pow_mul (k : ℕ) (hx : 2 ^ (-125 : ℤ) ≤ x) :
    rounded .binary32 (2 ^ k * x) = 2 ^ k * rounded .binary32 x := by
  have hpos : 0 < x := (zpow_pos two_pos _).trans_le hx
  have hlog : Int.log 2 (2 ^ k * x) = k + Int.log 2 x := by
    refine log_eq ?_ ?_
    · rw [zpow_add₀ two_ne_zero, zpow_natCast]
      exact mul_le_mul_of_nonneg_left (by exact_mod_cast Int.zpow_log_le_self one_lt_two hpos)
        (by positivity)
    · rw [add_assoc, zpow_add₀ two_ne_zero, zpow_natCast]
      exact mul_lt_mul_of_pos_left (by exact_mod_cast Int.lt_zpow_succ_log_self one_lt_two x)
        (by positivity)
  have hleast : -125 ≤ Int.log 2 x :=
    (Int.zpow_le_iff_le_log one_lt_two hpos).mp (by exact_mod_cast hx)
  have hplace : lastPlace .binary32 (2 ^ k * x) = k + lastPlace .binary32 x := by
    change max (Int.log 2 (2 ^ k * x) + 1 - 24) (-149) = k + max (Int.log 2 x + 1 - 24) (-149)
    omega
  have hunit : (2 : ℚ) ^ lastPlace .binary32 x ≠ 0 := (zpow_pos two_pos _).ne'
  rw [rounded_of_nonneg (by positivity), rounded_of_nonneg hpos.le]
  unfold nearest
  rw [hplace, zpow_add₀ two_ne_zero, zpow_natCast, mul_div_mul_left _ _ (by positivity)]
  ring

end Errors

end Autopilot
