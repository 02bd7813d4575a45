import Autopilot.Proofs.Double
import Autopilot.Proofs.SingleArithmetic

/-!
# Exact values of doubles

`HasDoubleValue x q` says that the double `x` is finite and exactly the rational number `q`,
whatever its sign is.  The value of a sum, a difference, a product or a quotient is the exact one,
`rounded` to the doubles (`HasDoubleValue.add` and so on).

What a double has behind the point needs no more digits than the double, so taking the whole part
away from it loses nothing.  That is why `roundAway` rounds to the nearest integer, with the halves
upwards, for every double from zero on that is not too large (`HasDoubleValue.roundAway_eq`).
-/

namespace Autopilot

open Float.Model Float.Model.UnpackedFloat

/-- The double is finite, and exactly `q`. -/
structure HasDoubleValue (x : Float) (q : ℚ) : Prop where
  valued : Valued .binary64 x.toModel.unpack q
  lt : |q| < sizeLimit .binary64

section Doubles

variable {x y : Float} {p q : ℚ} {u : UnpackedFloat}

theorem Amounts.hasDoubleValue (h : Amounts x q) : HasDoubleValue x q :=
  ⟨⟨.positive, q, h.sized, rfl⟩, by rw [abs_of_nonneg h.nonneg]; exact h.lt⟩

/-! ### Operations -/

theorem hasDoubleValue_pack (h : Valued .binary64 u q) (hlt : |q| < sizeLimit .binary64) :
    HasDoubleValue (.ofModel (.pack u)) q :=
  ⟨h.unpack_pack (by decide) hlt, hlt⟩

/-- Up to here, rounding does not leave the finite doubles. -/
theorem abs_rounded_lt_double (h : |q| ≤ 2 ^ 1023) : |rounded .binary64 q| < sizeLimit .binary64 :=
  abs_rounded_lt_sizeLimit (by decide) (by decide) h

namespace HasDoubleValue

theorem add (hx : HasDoubleValue x p) (hy : HasDoubleValue y q) (h : |p + q| ≤ 2 ^ 1023) :
    HasDoubleValue (x + y) (rounded .binary64 (p + q)) :=
  hasDoubleValue_pack (hx.valued.add hy.valued) (abs_rounded_lt_double h)

theorem sub (hx : HasDoubleValue x p) (hy : HasDoubleValue y q) (h : |p - q| ≤ 2 ^ 1023) :
    HasDoubleValue (x - y) (rounded .binary64 (p - q)) :=
  hasDoubleValue_pack (hx.valued.sub hy.valued) (abs_rounded_lt_double h)

theorem mul (hx : HasDoubleValue x p) (hy : HasDoubleValue y q) (h : |p * q| ≤ 2 ^ 1023) :
    HasDoubleValue (x * y) (rounded .binary64 (p * q)) :=
  hasDoubleValue_pack (hx.valued.mul hy.valued) (abs_rounded_lt_double h)

theorem div (hx : HasDoubleValue x p) (hy : HasDoubleValue y q) (hq : q ≠ 0)
    (hlarge : p = 0 ∨ 2 ^ Format.minExponent .binary64 ≤ |p / q|) (h : |p / q| ≤ 2 ^ 1023) :
    HasDoubleValue (x / y) (rounded .binary64 (p / q)) :=
  hasDoubleValue_pack (hx.valued.div hy.valued hq hlarge) (abs_rounded_lt_double h)

theorem abs (h : HasDoubleValue x q) : HasDoubleValue x.abs |q| := by
  obtain ⟨⟨s, p, hsized, rfl⟩, hlt⟩ := h
  rw [abs_signed s hsized.nonneg] at hlt ⊢
  have hvalued : Valued .binary64 x.toModel.unpack.abs p := ⟨.positive, p, hsized.abs, rfl⟩
  exact hasDoubleValue_pack hvalued (by rwa [abs_of_nonneg hsized.nonneg])

theorem isNumber (h : HasDoubleValue x q) : IsNumber .binary64 x.toModel.unpack := by
  obtain ⟨⟨s, p, hsized, rfl⟩, hlt⟩ := h
  rw [abs_signed s hsized.nonneg] at hlt
  exact .sized hsized hlt

theorem rank_eq (h : HasDoubleValue x q) : rank x = q := by
  obtain ⟨⟨s, p, hsized, rfl⟩, -⟩ := h
  exact hsized.place_eq

theorem le_iff (hx : HasDoubleValue x p) (hy : HasDoubleValue y q) : x ≤ y ↔ p ≤ q := by
  rw [double_le_iff, hx.rank_eq, hy.rank_eq]
  exact ⟨fun h => h.2.2, fun h => ⟨hx.isNumber, hy.isNumber, h⟩⟩

theorem lt_iff (hx : HasDoubleValue x p) (hy : HasDoubleValue y q) : x < y ↔ p < q := by
  rw [double_lt_iff, hx.rank_eq, hy.rank_eq]
  exact ⟨fun h => h.2.2, fun h => ⟨hx.isNumber, hy.isNumber, h⟩⟩

end HasDoubleValue

theorem hasDoubleValue_doubleOfInt {n : ℕ} (hn : n < 2 ^ 53) :
    HasDoubleValue (doubleOfInt n) n := by
  have hamounts := amounts_doubleOfInt (hn.le.trans (by decide) : n ≤ 2 ^ 64)
  rw [nearest_natCast hn] at hamounts
  exact hamounts.hasDoubleValue

theorem abs_intCast_le {n : ℤ} (h : |n| ≤ 2 ^ 53) : |(n : ℚ)| ≤ 2 ^ 1023 :=
  calc |(n : ℚ)| ≤ 2 ^ 53 := by exact_mod_cast h
    _ ≤ 2 ^ 1023 := pow_le_pow_right₀ one_le_two (by decide)

/-- A difference of integers is exact up to `2^53`. -/
theorem HasDoubleValue.sub_intCast {m n : ℤ} (hx : HasDoubleValue x m) (hy : HasDoubleValue y n)
    (h : |m - n| ≤ 2 ^ 53) : HasDoubleValue (x - y) (m - n : ℤ) := by
  have hexact : rounded .binary64 (m - n : ℤ) = (m - n : ℤ) := rounded_intCast h
  have hsmall := abs_intCast_le h
  rw [Int.cast_sub] at hsmall
  rw [← hexact, Int.cast_sub]
  exact hx.sub hy hsmall

/-- So is a product of integers. -/
theorem HasDoubleValue.mul_intCast {m n : ℤ} (hx : HasDoubleValue x m) (hy : HasDoubleValue y n)
    (h : |m * n| ≤ 2 ^ 53) : HasDoubleValue (x * y) (m * n : ℤ) := by
  have hexact : rounded .binary64 (m * n : ℤ) = (m * n : ℤ) := rounded_intCast h
  have hsmall := abs_intCast_le h
  rw [Int.cast_mul] at hsmall
  rw [← hexact, Int.cast_mul]
  exact hx.mul hy hsmall

/-- A quotient of integers of this size is rounded once, and is not too small for that. -/
theorem HasDoubleValue.div_natCast {n : ℤ} {d : ℕ} (hx : HasDoubleValue x n)
    (hy : HasDoubleValue y d) (hn : |n| ≤ 2 ^ 53) (hpos : 0 < d) (hd : d ≤ 2 ^ 53) :
    HasDoubleValue (x / y) (rounded .binary64 (n / d)) := by
  have hone : (1 : ℚ) ≤ d := by exact_mod_cast hpos
  have hd' : (d : ℚ) ≤ 2 ^ 53 := by exact_mod_cast hd
  have hsize : |(n / d : ℚ)| = |(n : ℚ)| / d := by rw [abs_div, Nat.abs_cast]
  refine hx.div hy (by linarith) ?_ ?_
  · rcases eq_or_ne n 0 with rfl | hne
    · exact .inl Int.cast_zero
    · right
      have hstep : (1 : ℚ) ≤ |(n : ℚ)| := by exact_mod_cast Int.one_le_abs hne
      rw [hsize]
      -- No quotient but zero is below the least places of the doubles.
      calc (2 : ℚ) ^ (-1074 : ℤ) ≤ 2 ^ (-53 : ℤ) := zpow_le_zpow_right₀ one_le_two (by decide)
        _ = 1 / 2 ^ 53 := by norm_num
        _ ≤ |(n : ℚ)| / d := by gcongr
  · rw [hsize]
    exact (div_le_self (abs_nonneg _) hone).trans (abs_intCast_le hn)

theorem hasDoubleValue_half : HasDoubleValue 0.5 (1 / 2) := by
  have hunpack : (0.5 : Float).toModel.unpack = .finite .positive (2 ^ 52) (-53) (by decide) := rfl
  have hcanonical : Canonical .binary64 (2 ^ 52) (-53) :=
    ⟨by decide, by decide, by decide, .inl le_rfl⟩
  have hvalue : (1 / 2 : ℚ) = ((2 ^ 52 : ℕ) : ℚ) * 2 ^ (-53 : ℤ) := by norm_num
  have hlt : |(1 / 2 : ℚ)| < 2 ^ 1024 := by
    rw [abs_of_pos one_half_pos]
    exact one_half_lt_one.trans (one_lt_pow₀ one_lt_two (by decide))
  refine ⟨⟨.positive, 1 / 2, ?_, rfl⟩, hlt⟩
  rw [hunpack, hvalue]
  exact .finite hcanonical

theorem isFinite_iff_exists_hasDoubleValue : x.isFinite = true ↔ ∃ q, HasDoubleValue x q := by
  constructor
  · intro h
    obtain ⟨s, p, hsized⟩ := exists_sized h
    have hself := (double_ofModel_pack_unpack x).symm
    have hunpack : x.toModel.unpack = if p < sizeLimit .binary64 then x.toModel.unpack
        else .infinity s := by
      nth_rewrite 1 [hself]
      exact unpack_pack (by decide) hsized
    have hlt : p < sizeLimit .binary64 := by
      by_contra hge
      rw [if_neg hge] at hunpack
      rw [hunpack] at hsized
      cases hsized
    exact ⟨signed s p, ⟨s, p, hsized, rfl⟩, by rwa [abs_signed s hsized.nonneg]⟩
  · rintro ⟨q, ⟨s, p, hsized, rfl⟩, -⟩
    exact isFinite_of_sized hsized

/-! ### Rounding to an integer -/

/-- A number whose last digit stands before the point is an integer. -/
theorem natCast_mul_two_zpow (m d : ℕ) : (m : ℚ) * 2 ^ (d : ℤ) = ((m * 2 ^ d : ℕ) : ℚ) := by
  rw [zpow_natCast]
  push_cast
  rfl

/-- What stands behind the point has no more digits than the whole number. -/
theorem Valued.rounded_fract {spec : Format} (h : Valued spec u q) (hq : 0 ≤ q) :
    rounded spec (Int.fract q) = Int.fract q := by
  obtain ⟨s, p, hsized, rfl⟩ := h
  cases hsized with
  | zero => rw [signed_zero, Int.fract_zero, rounded_zero]
  | @finite m e h =>
    cases s with
    | negative => exact absurd hq (neg_neg_of_pos h.size_pos).not_ge
    | positive =>
      change rounded spec (Int.fract ((m : ℚ) * 2 ^ e)) = Int.fract ((m : ℚ) * 2 ^ e)
      rcases le_or_gt 0 e with he | he
      -- The last digit stands before the point, and nothing stands behind it.
      · obtain ⟨d, rfl⟩ := Int.eq_ofNat_of_zero_le he
        rw [natCast_mul_two_zpow, Int.fract_natCast, rounded_zero]
      -- The last `d` digits stand behind the point.
      · obtain ⟨d, hd⟩ := Int.eq_ofNat_of_zero_le (neg_nonneg.mpr he.le)
        have hplaces : ∀ n : ℕ, (n : ℚ) / (2 ^ d : ℕ) = ((n : ℤ) : ℚ) * 2 ^ e := by
          intro n
          rw [show e = -d by omega, zpow_neg, zpow_natCast, div_eq_mul_inv]
          push_cast
          rfl
        have hdigits : |((m % 2 ^ d : ℕ) : ℤ)| < 2 ^ spec.mantissaBits := by
          rw [abs_of_nonneg (by positivity)]
          exact_mod_cast (Nat.mod_le _ _).trans_lt h.digits
        rw [← Int.cast_natCast, ← hplaces, Int.fract_div_natCast_eq_div_natCast_mod, hplaces]
        exact rounded_intCast_mul hdigits h.least

theorem HasDoubleValue.toNat_toUInt64 (h : HasDoubleValue x q) (hq : 0 ≤ q) (hlt : q < 2 ^ 64) :
    (x.toUInt64.toNat : ℤ) = ⌊q⌋ := by
  change ((UInt64.ofNatClamp (x.toModel.unpack.toInt 0 (UInt64.size - 1)).toNat).toNat : ℤ) = _
  rw [h.valued.toInt_eq, truncated_of_nonneg hq]
  have hnonneg : 0 ≤ ⌊q⌋ := Int.floor_nonneg.mpr hq
  have hword : ⌊q⌋ < 2 ^ 64 := Int.floor_lt.mpr (by exact_mod_cast hlt)
  have hsize : ⌊q⌋.toNat < UInt64.size := by
    change _ < 2 ^ 64
    omega
  unfold UInt64.ofNatClamp
  rw [dif_pos hsize, UInt64.toNat_ofNatLT, Int.toNat_of_nonneg hnonneg]

theorem toFloat_eq (n : UInt64) : n.toFloat = doubleOfInt n.toNat := by
  rw [doubleOfInt_eq]
  rfl

/-- From zero on, rounding is to the nearest integer, with the halves upwards. -/
theorem HasDoubleValue.roundAway_eq (h : HasDoubleValue x q) (hq : 0 ≤ q) (hlt : q < 2 ^ 53) :
    roundAway x = round q := by
  have hsize : HasDoubleValue x.abs q := by
    have habs := h.abs
    rwa [abs_of_nonneg hq] at habs
  -- Both the whole part and the rest are taken without an error, so that the half is met exactly.
  have hnat := hsize.toNat_toUInt64 hq (hlt.trans (by norm_num))
  generalize hword : x.abs.toUInt64 = word at hnat
  have hbound : word.toNat < 2 ^ 53 := by
    have hfloor : ⌊q⌋ < 2 ^ 53 := Int.floor_lt.mpr (by exact_mod_cast hlt)
    omega
  have hwhole : HasDoubleValue word.toFloat ⌊q⌋ := by
    rw [toFloat_eq, ← hnat]
    exact hasDoubleValue_doubleOfInt hbound
  have hrest : HasDoubleValue (x.abs - word.toFloat) (Int.fract q) := by
    have hdifference := hsize.sub hwhole (by
      change |Int.fract q| ≤ 2 ^ 1023
      rw [abs_of_nonneg (Int.fract_nonneg q)]
      exact (Int.fract_lt_one q).le.trans (one_le_pow₀ one_le_two))
    change HasDoubleValue _ (rounded .binary64 (Int.fract q)) at hdifference
    rwa [h.valued.rounded_fract hq] at hdifference
  have hzero : HasDoubleValue 0 0 := hasDoubleValue_doubleOfInt (n := 0) (by decide)
  have hnonneg : ¬ x < 0 := by
    rw [h.lt_iff hzero]
    exact hq.not_gt
  unfold roundAway
  dsimp only
  have hup : x.abs - word.toFloat ≥ 0.5 ↔ 1 / 2 ≤ Int.fract q := hasDoubleValue_half.le_iff hrest
  have hsum := Int.floor_add_fract q
  have hfract := Int.fract_nonneg q
  have hfract' := Int.fract_lt_one q
  rw [hword, if_neg hnonneg, round_eq, eq_comm, Int.floor_eq_iff]
  split_ifs with h
  · rw [hup] at h
    rw [hnat]
    push_cast
    constructor <;> linarith
  · rw [hup, not_le] at h
    rw [hnat]
    constructor <;> linarith

end Doubles

end Autopilot
