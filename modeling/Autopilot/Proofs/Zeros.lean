import Autopilot.Proofs.DoubleArithmetic

/-!
# The zeros of the doubles

There are two doubles of value zero.  A product with one of them is one of them
(`HasDoubleValue.mul_left_zero`), so is the sum of two (`HasDoubleValue.add_zeros`), and a sum with the
positive one is the positive one (`HasDoubleValue.positive_add`).

Which of the two zeros it is shows in no comparison: `SameOrZeros` relates doubles that are the same
otherwise, and further differences and quotients with the same double keep it.
-/

namespace Autopilot

open Float.Model Float.Model.UnpackedFloat

variable {x y z : Float} {q : ℚ}

/-! ### Doubles of value zero -/

theorem HasDoubleValue.exists_unpack_zero (h : HasDoubleValue x 0) :
    ∃ s, x.toModel.unpack = .zero s := by
  obtain ⟨⟨s, p, hsized, hzero⟩, -⟩ := h
  generalize x.toModel.unpack = u at hsized
  cases hsized with
  | zero => exact ⟨s, rfl⟩
  | finite h =>
    have hsize := abs_signed s h.size_pos.le
    rw [← hzero, abs_zero] at hsize
    exact absurd hsize h.size_pos.ne

theorem hasDoubleValue_of_unpack_zero {s : Sign} (h : x.toModel.unpack = .zero s) :
    HasDoubleValue x 0 := by
  refine ⟨⟨s, 0, ?_, (signed_zero s).symm⟩, ?_⟩
  · rw [h]
    exact .zero
  · rw [abs_zero]
    exact sizeLimit_pos _

theorem hasDoubleValue_zero : HasDoubleValue 0 0 :=
  hasDoubleValue_of_unpack_zero (s := .positive) rfl

/-- A sum with the positive zero is not the negative one. -/
theorem HasDoubleValue.positive_add (h : HasDoubleValue z 0) : 0 + z = 0 := by
  obtain ⟨s, hs⟩ := h.exists_unpack_zero
  change Float.ofModel (.pack (.add .binary64 (.zero .positive) z.toModel.unpack)) = 0
  rw [hs]
  cases s <;> rfl

theorem HasDoubleValue.add_zeros (hx : HasDoubleValue x 0) (hy : HasDoubleValue y 0) :
    HasDoubleValue (x + y) 0 := by
  have hsum := hx.add hy (by rw [add_zero, abs_zero]; positivity)
  rwa [add_zero, rounded_zero] at hsum

theorem HasDoubleValue.sub_zeros (hx : HasDoubleValue x 0) (hy : HasDoubleValue y 0) :
    HasDoubleValue (x - y) 0 := by
  have hdifference := hx.sub hy (by rw [sub_zero, abs_zero]; positivity)
  rwa [sub_zero, rounded_zero] at hdifference

theorem HasDoubleValue.mul_left_zero (hz : HasDoubleValue z 0) (hx : HasDoubleValue x q) :
    HasDoubleValue (z * x) 0 := by
  have hproduct := hz.mul hx (by rw [zero_mul, abs_zero]; positivity)
  rwa [zero_mul, rounded_zero] at hproduct

theorem HasDoubleValue.mul_right_zero (hx : HasDoubleValue x q) (hz : HasDoubleValue z 0) :
    HasDoubleValue (x * z) 0 := by
  have hproduct := hx.mul hz (by rw [mul_zero, abs_zero]; positivity)
  rwa [mul_zero, rounded_zero] at hproduct

/-- A number at the place of zero is a zero. -/
theorem hasDoubleValue_of_rank_zero (hx : IsNumber .binary64 x.toModel.unpack)
    (hrank : rank x = 0) : HasDoubleValue x 0 := by
  unfold rank at hrank
  generalize hu : x.toModel.unpack = u at hx hrank
  cases hx with
  | infinity s =>
    have hsize := abs_signed s (sizeLimit_pos .binary64).le
    rw [show signed s (sizeLimit .binary64) = 0 from hrank, abs_zero] at hsize
    exact absurd hsize (sizeLimit_pos _).ne
  | @sized s p _ hsized hlt =>
    rw [hsized.place_eq] at hrank
    rw [← hu] at hsized
    have hsize := abs_signed s hsized.nonneg
    rw [← hrank]
    exact ⟨⟨s, p, hsized, rfl⟩, by rwa [hsize]⟩

/-- What is at most zero and not below it is a zero. -/
theorem hasDoubleValue_of_le_zero (hle : x ≤ 0) (hlt : ¬ x < 0) : HasDoubleValue x 0 := by
  obtain ⟨hx, hzero, hrank⟩ := double_le_iff.mp hle
  refine hasDoubleValue_of_rank_zero hx (le_antisymm hrank ?_)
  by_contra hbelow
  exact hlt (double_lt_iff.mpr ⟨hx, hzero, not_le.mp hbelow⟩)

/-- The positive zero stays what it is when it is divided by a time. -/
theorem zero_div_of_pos (hpos : 0 < x) (hfinite : x.isFinite = true) : 0 / x = 0 := by
  obtain ⟨q, hx⟩ := isFinite_iff_exists_hasDoubleValue.mp hfinite
  have hq : 0 < q := (hasDoubleValue_zero.lt_iff hx).mp hpos
  obtain ⟨⟨s, p, hsized, rfl⟩, -⟩ := hx
  have hsign : s = .positive := by
    cases s with
    | positive => rfl
    | negative => exact absurd hq (neg_nonpos.mpr hsized.nonneg).not_gt
  subst hsign
  change Float.ofModel (.pack (.div .binary64 (.zero .positive) x.toModel.unpack)) = 0
  generalize x.toModel.unpack = u at hsized
  cases hsized with
  | zero => exact absurd hq (signed_zero _).not_gt
  | finite h => rfl

/-! ### Doubles that differ at most in the sign of zero -/

/-- The doubles are the same, or both are zero. -/
def SameOrZeros (x y : Float) : Prop :=
  x = y ∨ HasDoubleValue x 0 ∧ HasDoubleValue y 0

namespace SameOrZeros

theorem of_sub (x : Float) (hz : HasDoubleValue z 0) : SameOrZeros (x - z) x := by
  obtain ⟨s, hs⟩ := hz.exists_unpack_zero
  by_cases hx : HasDoubleValue x 0
  · exact .inr ⟨hx.sub_zeros hz, hx⟩
  · left
    have hself := double_ofModel_pack_unpack x
    have hsame : UnpackedFloat.sub .binary64 x.toModel.unpack (.zero s) = x.toModel.unpack := by
      cases hu : x.toModel.unpack with
      | zero t => exact absurd (hasDoubleValue_of_unpack_zero hu) hx
      | notANumber => rfl
      | infinity t => rfl
      | finite t m e hm => rfl
    change Float.ofModel (.pack (.sub .binary64 x.toModel.unpack z.toModel.unpack)) = x
    rw [hs, hsame, hself]

theorem div_right (h : SameOrZeros x y) (w : Float) : SameOrZeros (x / w) (y / w) := by
  rcases h with rfl | ⟨hx, hy⟩
  · exact .inl rfl
  obtain ⟨s, hs⟩ := hx.exists_unpack_zero
  obtain ⟨t, ht⟩ := hy.exists_unpack_zero
  change SameOrZeros (.ofModel (.pack (.div .binary64 x.toModel.unpack w.toModel.unpack)))
    (.ofModel (.pack (.div .binary64 y.toModel.unpack w.toModel.unpack)))
  rw [hs, ht]
  have hzeros : ∀ r : Sign, HasDoubleValue (.ofModel (.pack (.zero r))) 0 := fun r =>
    hasDoubleValue_of_unpack_zero (s := r) unpack_packedZero
  cases w.toModel.unpack with
  | notANumber => exact .inl rfl
  | zero r => exact .inl rfl
  | infinity r => exact .inr ⟨hzeros _, hzeros _⟩
  | finite r m e hm => exact .inr ⟨hzeros _, hzeros _⟩

theorem sub_right (h : SameOrZeros x y) (w : Float) : SameOrZeros (x - w) (y - w) := by
  rcases h with rfl | ⟨hx, hy⟩
  · exact .inl rfl
  obtain ⟨s, hs⟩ := hx.exists_unpack_zero
  obtain ⟨t, ht⟩ := hy.exists_unpack_zero
  by_cases hw : HasDoubleValue w 0
  · exact .inr ⟨hx.sub_zeros hw, hy.sub_zeros hw⟩
  · left
    change Float.ofModel (.pack (.sub .binary64 x.toModel.unpack w.toModel.unpack)) =
      .ofModel (.pack (.sub .binary64 y.toModel.unpack w.toModel.unpack))
    rw [hs, ht]
    cases hu : w.toModel.unpack with
    | notANumber => rfl
    | zero r => exact absurd (hasDoubleValue_of_unpack_zero hu) hw
    | infinity r => rfl
    | finite r m e hm => rfl

theorem le_iff (h : SameOrZeros x y) (w : Float) : x ≤ w ↔ y ≤ w := by
  rcases h with rfl | ⟨hx, hy⟩
  · rfl
  · rw [double_le_iff, double_le_iff, hx.rank_eq, hy.rank_eq]
    exact and_congr_left fun _ => iff_of_true hx.isNumber hy.isNumber

end SameOrZeros

end Autopilot
