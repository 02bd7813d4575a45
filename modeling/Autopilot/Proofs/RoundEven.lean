import Autopilot.Proofs.DoubleArithmetic

/-!
# Rounding to words

`IsNearestEven q n` says that `n` is the integer nearest to the number `q`, and the even one if two are
equally near.  There is exactly one (`isNearestEven_iff`).

`roundEven32` takes the whole part of a float away from it and looks at what is left.  Neither the
conversion back to a float nor the subtraction loses anything (`HasValue.sub_truncated`), up to the
ends of the words, where the whole part is saturated and the greatest word is no float.  So the result
is the nearest even integer, saturated (`toInt_roundEven32`); it is monotone, and none of its steps
leaves a word (`roundEven32_nearest`).
-/

namespace Autopilot

open Float.Model Float.Model.UnpackedFloat

/-! ### The nearest integer -/

section Nearest

variable {q : ℚ} {m n : ℤ}

/-- `n` is the integer nearest to `q`, and the even one if another integer is equally near. -/
structure IsNearestEven (q : ℚ) (n : ℤ) : Prop where
  nearest : ∀ k : ℤ, |q - n| ≤ |q - k|
  even : ∀ k : ℤ, k ≠ n → |q - k| = |q - n| → Even n

/-- A number is not closer than one half to two integers. -/
theorem one_le_abs_sub_add_abs_sub (h : m ≠ n) : 1 ≤ |q - m| + |q - n| := by
  have hstep : (1 : ℚ) ≤ |(m : ℚ) - n| := by
    exact_mod_cast Int.one_le_abs (sub_ne_zero.mpr h)
  calc (1 : ℚ) ≤ |(m : ℚ) - n| := hstep
    _ ≤ |(m : ℚ) - q| + |q - n| := abs_sub_le _ _ _
    _ = |q - m| + |q - n| := by rw [abs_sub_comm]

/-- Half way between two integers, the even one is taken. -/
theorem even_nearestEven (h : |q - nearestEven q| = 1 / 2) : Even (nearestEven q) := by
  have hfract := Int.floor_add_fract q
  have hnonneg := Int.fract_nonneg q
  have hlt := Int.fract_lt_one q
  rw [Int.even_iff]
  by_cases hup : RoundsUp q
  · have hnext : nearestEven q = ⌊q⌋ + 1 := if_pos hup
    rw [hnext] at h ⊢
    push_cast at h
    rw [abs_of_nonpos (by linarith)] at h
    rcases hup with hgt | ⟨-, hodd⟩
    · linarith
    · omega
  · have hfloor : nearestEven q = ⌊q⌋ := if_neg hup
    rw [hfloor] at h ⊢
    rw [abs_of_nonneg (by linarith)] at h
    have heven : ¬ ⌊q⌋ % 2 = 1 := fun hodd => hup (.inr ⟨by linarith, hodd⟩)
    omega

theorem isNearestEven_nearestEven (q : ℚ) : IsNearestEven q (nearestEven q) := by
  have hhalf := abs_nearestEven_sub_le q
  rw [abs_sub_comm] at hhalf
  constructor
  · intro k
    rcases eq_or_ne k (nearestEven q) with rfl | hne
    · exact le_rfl
    · have hapart := one_le_abs_sub_add_abs_sub (q := q) hne
      linarith
  · intro k hne heq
    have hapart := one_le_abs_sub_add_abs_sub (q := q) hne
    exact even_nearestEven (by linarith)

theorem isNearestEven_iff : IsNearestEven q n ↔ n = nearestEven q := by
  constructor
  · intro h
    have hq := isNearestEven_nearestEven q
    by_contra hne
    have heq : |q - n| = |q - nearestEven q| := le_antisymm (h.nearest _) (hq.nearest _)
    obtain ⟨i, hi⟩ := h.even _ (Ne.symm hne) heq.symm
    obtain ⟨j, hj⟩ := hq.even _ hne heq
    -- Two even integers are too far apart to have one of them within one half.
    have hapart : (2 : ℚ) ≤ |(n : ℚ) - nearestEven q| := by
      have hgap : 2 ≤ |n - nearestEven q| := by
        rw [le_abs]
        omega
      exact_mod_cast hgap
    have htriangle := abs_sub_le (n : ℚ) q (nearestEven q)
    have hhalf := abs_nearestEven_sub_le q
    rw [abs_sub_comm] at hhalf
    rw [abs_sub_comm (n : ℚ) q] at htriangle
    linarith
  · rintro rfl
    exact isNearestEven_nearestEven q

theorem nearestEven_neg (q : ℚ) : nearestEven (-q) = -nearestEven q := by
  have hq := isNearestEven_nearestEven q
  have hmirror : ∀ k : ℤ, |-q - k| = |q - (-k : ℤ)| := by
    intro k
    rw [← abs_neg]
    push_cast
    congr 1
    ring
  refine (isNearestEven_iff.mp ⟨fun k => ?_, fun k hne heq => ?_⟩).symm
  · rw [hmirror, hmirror, neg_neg]
    exact hq.nearest (-k)
  · rw [hmirror, hmirror, neg_neg] at heq
    exact (hq.even (-k) (fun h => hne (by omega)) heq).neg

theorem sub_truncated_of_nonneg (hq : 0 ≤ q) : q - truncated q = Int.fract q := by
  rw [truncated_of_nonneg hq]
  rfl

theorem sub_truncated_of_nonpos (hq : q ≤ 0) : q - truncated q = -Int.fract (-q) := by
  rw [truncated_of_nonpos hq]
  unfold Int.fract
  push_cast
  ring

theorem sub_truncated_nonneg (hq : 0 ≤ q) : 0 ≤ q - truncated q := by
  rw [sub_truncated_of_nonneg hq]
  exact Int.fract_nonneg q

theorem roundsUp_iff_truncated (hq : 0 ≤ q) :
    RoundsUp q ↔ 1 / 2 < q - truncated q ∨ q - truncated q = 1 / 2 ∧ truncated q % 2 ≠ 0 := by
  rw [truncated_of_nonneg hq]
  exact or_congr Iff.rfl (and_congr_right fun _ => Int.emod_two_ne_zero.symm)

/-- The integer part, moved away from zero when what is left of the number is more than one half, or one
half and the integer part is odd. -/
theorem nearestEven_eq_truncated (q : ℚ) :
    nearestEven q =
      if 1 / 2 < q - truncated q ∨ q - truncated q = 1 / 2 ∧ truncated q % 2 ≠ 0 then
        truncated q + 1
      else if q - truncated q < -1 / 2 ∨ q - truncated q = -1 / 2 ∧ truncated q % 2 ≠ 0 then
        truncated q - 1
      else truncated q := by
  rcases le_or_gt 0 q with hq | hq
  · have hrest := sub_truncated_nonneg hq
    have hdown : ¬ (q - truncated q < -1 / 2 ∨ q - truncated q = -1 / 2 ∧ truncated q % 2 ≠ 0) := by
      rintro (hlt | ⟨heq, -⟩) <;> linarith
    simp only [if_neg hdown, ← roundsUp_iff_truncated hq]
    rw [truncated_of_nonneg hq]
    rfl
  · obtain ⟨p, rfl⟩ : ∃ p, q = -p := ⟨-q, (neg_neg q).symm⟩
    have hp : 0 ≤ p := by linarith
    have hrest := sub_truncated_nonneg hp
    have hup : ¬ (1 / 2 < -p - truncated (-p) ∨
        -p - truncated (-p) = 1 / 2 ∧ truncated (-p) % 2 ≠ 0) := by
      rw [truncated_neg]
      push_cast
      rintro (hlt | ⟨heq, -⟩) <;> linarith
    have hdown : (-p - truncated (-p) < -1 / 2 ∨
        -p - truncated (-p) = -1 / 2 ∧ truncated (-p) % 2 ≠ 0) ↔ RoundsUp p := by
      rw [roundsUp_iff_truncated hp, truncated_neg]
      push_cast
      refine or_congr ⟨fun h => by linarith, fun h => by linarith⟩ (and_congr ?_ (by omega))
      exact ⟨fun h => by linarith, fun h => by linarith⟩
    simp only [if_neg hup, hdown]
    rw [nearestEven_neg, truncated_neg, truncated_of_nonneg hp]
    unfold nearestEven
    split_ifs
    · exact neg_add' _ _
    · rfl

end Nearest

/-! ### Integer parts of floats -/

section Parts

variable {spec : Format} {u : UnpackedFloat} {x y : Float32} {p q : ℚ}

/-- The integer part of a float needs no more digits than the float: either the float has no place
behind the point, or its integer part is below all integers that the format lacks. -/
theorem Valued.rounded_floor (h : Valued spec u q) (hq : 0 ≤ q) : rounded spec ⌊q⌋ = ⌊q⌋ := by
  have hself := h.rounded_eq
  obtain ⟨s, p, hsized, rfl⟩ := h
  cases hsized with
  | zero => rw [signed_zero, Int.floor_zero, Int.cast_zero, rounded_zero]
  | @finite m e h =>
    cases s with
    | negative => exact absurd hq (neg_neg_of_pos h.size_pos).not_ge
    | positive =>
      change rounded spec (⌊(m : ℚ) * 2 ^ e⌋ : ℤ) = (⌊(m : ℚ) * 2 ^ e⌋ : ℤ)
      change rounded spec ((m : ℚ) * 2 ^ e) = (m : ℚ) * 2 ^ e at hself
      rcases le_or_gt 0 e with he | he
      · obtain ⟨d, rfl⟩ := Int.eq_ofNat_of_zero_le he
        rw [natCast_mul_two_zpow] at hself ⊢
        rw [Int.floor_natCast]
        exact hself
      · have hle : (m : ℚ) * 2 ^ e ≤ m :=
          mul_le_of_le_one_right m.cast_nonneg (zpow_le_one_of_nonpos₀ one_le_two he.le)
        have hfloor : ⌊(m : ℚ) * 2 ^ e⌋ ≤ m := Int.floor_le_iff.mpr (by push_cast; linarith)
        have hdigits : (m : ℤ) ≤ 2 ^ spec.mantissaBits := by exact_mod_cast h.digits.le
        refine rounded_intCast ?_
        rw [abs_of_nonneg (Int.floor_nonneg.mpr h.size_pos.le)]
        exact hfloor.trans hdigits

theorem Valued.rounded_truncated (h : Valued spec u q) :
    rounded spec (truncated q) = truncated q := by
  rcases le_or_gt 0 q with hq | hq
  · rw [truncated_of_nonneg hq]
    exact h.rounded_floor hq
  · rw [truncated_of_nonpos hq.le, Int.cast_neg, rounded_neg,
      h.neg.rounded_floor (neg_nonneg.mpr hq.le)]

theorem Valued.rounded_sub_truncated (h : Valued spec u q) :
    rounded spec (q - truncated q) = q - truncated q := by
  rcases le_or_gt 0 q with hq | hq
  · rw [sub_truncated_of_nonneg hq]
    exact h.rounded_fract hq
  · rw [sub_truncated_of_nonpos hq.le, rounded_neg, h.neg.rounded_fract (neg_nonneg.mpr hq.le)]

theorem abs_sub_truncated_lt_one (q : ℚ) : |q - truncated q| < 1 := by
  rcases le_or_gt 0 q with hq | hq
  · rw [sub_truncated_of_nonneg hq, abs_of_nonneg (Int.fract_nonneg _)]
    exact Int.fract_lt_one _
  · rw [sub_truncated_of_nonpos hq.le, abs_neg, abs_of_nonneg (Int.fract_nonneg _)]
    exact Int.fract_lt_one _

/-- Inside the words, taking the integer part away from a float leaves the rest of it, without any
error. -/
theorem HasValue.sub_truncated (h : HasValue x q) (hword : IsWord (truncated q)) :
    HasValue (x - singleOfInt (truncate32 x).toInt) (q - truncated q) := by
  obtain ⟨hlow, hhigh⟩ := hword
  have hsize : |truncated q| ≤ 2 ^ 127 := by
    rw [abs_le]
    omega
  have hwhole := hasValue_singleOfInt_rounded hsize
  rw [h.valued.rounded_truncated] at hwhole
  have hrest := h.sub hwhole ((abs_sub_truncated_lt_one q).le.trans (one_le_pow₀ one_le_two))
  rw [h.toInt_truncate32, saturate_eq_self ⟨hlow, hhigh⟩]
  rwa [h.valued.rounded_sub_truncated] at hrest

/-- Outside of the words as well, what is left is finite, and it does not have the other sign. -/
theorem HasValue.exists_sub_truncate32 (h : HasValue x q) :
    ∃ r, HasValue (x - singleOfInt (truncate32 x).toInt) r ∧ (0 ≤ q → 0 ≤ r) ∧
      (q ≤ 0 → r ≤ 0) := by
  obtain ⟨hlow, hhigh⟩ := isWord_toInt (truncate32 x)
  have hsize : |(truncate32 x).toInt| ≤ 2 ^ 127 := by
    rw [abs_le]
    omega
  have hwhole := hasValue_singleOfInt_rounded hsize
  have htruncate := h.toInt_truncate32
  generalize (truncate32 x).toInt = n at hwhole htruncate
  unfold saturate at htruncate
  have hself := h.rounded_eq
  -- The word lies between zero and the number, and so does the float that it becomes.
  rcases le_total 0 q with hq | hq
  · have hfloor : 0 ≤ ⌊q⌋ := Int.floor_nonneg.mpr hq
    rw [truncated_of_nonneg hq] at htruncate
    have hle : (n : ℚ) ≤ q := Int.le_floor.mp (by omega)
    have hzero : (0 : ℚ) ≤ n := by exact_mod_cast (by omega : 0 ≤ n)
    have hword : rounded .binary32 n ≤ q := (rounded_mono _ hle).trans_eq hself
    have hword' : 0 ≤ rounded .binary32 n := rounded_nonneg hzero
    refine ⟨_, h.sub_of_abs_le hwhole ?_, fun _ => rounded_nonneg (by linarith), fun hneg => ?_⟩
    · rw [abs_of_nonneg hq, abs_of_nonneg (by linarith)]
      linarith
    · exact rounded_nonpos (by linarith)
  · have hneg : 0 ≤ -q := by linarith
    have hfloor : 0 ≤ ⌊-q⌋ := Int.floor_nonneg.mpr hneg
    rw [truncated_of_nonpos hq] at htruncate
    have hle : q ≤ n := by
      have hfloor_le : ((-n : ℤ) : ℚ) ≤ -q := Int.le_floor.mp (by omega)
      push_cast at hfloor_le
      linarith
    have hzero : (n : ℚ) ≤ 0 := by exact_mod_cast (by omega : n ≤ 0)
    have hword : q ≤ rounded .binary32 n := hself.symm.trans_le (rounded_mono _ hle)
    have hword' : rounded .binary32 n ≤ 0 := rounded_nonpos hzero
    refine ⟨_, h.sub_of_abs_le hwhole ?_, fun hpos => ?_, fun _ => rounded_nonpos (by linarith)⟩
    · rw [abs_of_nonpos hq, abs_of_nonpos (by linarith)]
      linarith
    · exact rounded_nonneg (by linarith)

end Parts

/-! ### Rounding -/

section Rounding

variable {x y : Float32} {q : ℚ}

theorem toInt_roundEven32_of_isWord (h : HasValue x q) (hword : IsWord (truncated q)) :
    (roundEven32 x).toInt = saturate (nearestEven q) := by
  have hwhole : (truncate32 x).toInt = truncated q := by
    rw [h.toInt_truncate32, saturate_eq_self hword]
  have hrest := h.sub_truncated hword
  have hminus : HasValue (-0.5) (-1 / 2) := by
    rw [neg_div]
    exact hasValue_half.neg
  rw [hwhole] at hrest
  have hup : (x - singleOfInt (truncated q) > 0.5 ∨
      (x - singleOfInt (truncated q) == 0.5) = true ∧ truncated q % 2 ≠ 0) ↔
        1 / 2 < q - truncated q ∨ q - truncated q = 1 / 2 ∧ truncated q % 2 ≠ 0 :=
    or_congr (hasValue_half.lt_iff hrest)
      (and_congr_left fun _ => hrest.beq_iff hasValue_half)
  have hdown : (x - singleOfInt (truncated q) < -0.5 ∨
      (x - singleOfInt (truncated q) == -0.5) = true ∧ truncated q % 2 ≠ 0) ↔
        q - truncated q < -1 / 2 ∨ q - truncated q = -1 / 2 ∧ truncated q % 2 ≠ 0 :=
    or_congr (hrest.lt_iff hminus) (and_congr_left fun _ => hrest.beq_iff hminus)
  unfold roundEven32
  rw [nearestEven_eq_truncated]
  simp only [hwhole, hup, hdown]
  split_ifs
  · exact toInt_ofIntClamp _
  · exact toInt_ofIntClamp _
  · rw [hwhole, saturate_eq_self hword]

/-- Above the words, the integer part is the greatest word, which becomes `2^31` as a float.  What is
left of the number is not negative, and the step upwards stays at the greatest word. -/
theorem roundEven32_of_large (h : HasValue x q) (hlarge : 2147483647 < truncated q) :
    roundEven32 x = Int32.maxValue := by
  have hnonneg : 0 ≤ q := by
    by_contra hneg
    have hmono := truncated_mono (not_le.mp hneg).le
    rw [show truncated 0 = 0 from truncated_intCast 0] at hmono
    omega
  have hwhole : truncate32 x = Int32.maxValue := by
    apply Int32.toInt_inj.mp
    rw [h.toInt_truncate32]
    unfold saturate
    change _ = 2147483647
    omega
  obtain ⟨r, hrest, hr, -⟩ := h.exists_sub_truncate32
  have hup : ¬ (x - singleOfInt (truncate32 x).toInt < -0.5 ∨
      (x - singleOfInt (truncate32 x).toInt == -0.5) = true ∧ (truncate32 x).toInt % 2 ≠ 0) := by
    have hr := hr hnonneg
    rw [hrest.lt_iff hasValue_half.neg, hrest.beq_iff hasValue_half.neg]
    rintro (hlt | ⟨heq, -⟩) <;> linarith
  unfold roundEven32
  dsimp only
  rw [if_neg hup, hwhole]
  split_ifs <;> rfl

theorem roundEven32_of_small (h : HasValue x q) (hsmall : truncated q < -2147483648) :
    roundEven32 x = Int32.minValue := by
  refine roundEven32_eq_minValue_iff.mpr (le_least_of_truncate32_le ?_)
  rw [h.toInt_truncate32]
  unfold saturate
  omega

/-- A finite float is rounded to the integer nearest to its value, saturated. -/
theorem HasValue.toInt_roundEven32 (h : HasValue x q) :
    (roundEven32 x).toInt = saturate (nearestEven q) := by
  have hnear : truncated q - 1 ≤ nearestEven q ∧ nearestEven q ≤ truncated q + 1 := by
    rw [nearestEven_eq_truncated]
    split_ifs <;> omega
  rcases lt_or_ge (truncated q) (-2147483648) with hsmall | hlow
  · rw [roundEven32_of_small h hsmall, Int32.toInt_minValue]
    unfold saturate
    omega
  rcases lt_or_ge 2147483647 (truncated q) with hlarge | hhigh
  · rw [roundEven32_of_large h hlarge, Int32.toInt_maxValue]
    unfold saturate
    omega
  · exact toInt_roundEven32_of_isWord h ⟨hlow, hhigh⟩

/-- An infinite float is rounded to the last word on its side. -/
theorem toInt_roundEven32_of_infinity {s : Sign} (h : x.toModel.unpack = .infinity s) :
    (roundEven32 x).toInt = saturate (nearestEven (place .binary32 (.infinity s))) := by
  have hx : x = .ofModel (.pack (.infinity s)) := by
    rw [← h]
    exact (ofModel_pack_unpack x).symm
  have hplace : place .binary32 (.infinity s) = ((s.apply (2 ^ 128 : ℕ) : ℤ) : ℚ) := by
    rw [← signed_natCast]
    push_cast
    rfl
  rw [hplace, nearestEven_intCast, hx]
  cases s with
  | positive => decide
  | negative => decide

/-- Infinities included, a float is rounded to the integer nearest to its place, saturated. -/
theorem toInt_roundEven32 (h : IsNumber .binary32 x.toModel.unpack) :
    (roundEven32 x).toInt = saturate (nearestEven (place .binary32 x.toModel.unpack)) := by
  generalize hu : x.toModel.unpack = u at h
  cases h with
  | infinity s => exact toInt_roundEven32_of_infinity hu
  | @sized s p _ hsized hlt =>
    rw [← hu] at hsized ⊢
    have hvalue : HasValue x (signed s p) :=
      ⟨⟨s, p, hsized, rfl⟩, by rwa [abs_signed s hsized.nonneg]⟩
    rw [hvalue.toInt_roundEven32, hvalue.place_eq]

theorem roundEven32_mono (h : x ≤ y) : roundEven32 x ≤ roundEven32 y := by
  obtain ⟨hx, hy, hplace⟩ := (unpack_le_iff (by decide)).mp (Autopilot.le_iff.mp h)
  rw [Int32.le_iff_toInt_le, toInt_roundEven32 hx, toInt_roundEven32 hy]
  exact saturate_mono (nearestEven_mono hplace)

/-- The rounding in words: the remainder has to be a word, and the steps to the next word stay inside
the words. -/
def roundInWords (x : Float32) : Except Fault Int32 := do
  let whole := truncate32 x
  let fraction := x - singleOfInt whole.toInt
  let last ← exact (whole.toInt.tmod 2)
  if fraction > 0.5 ∨ (fraction == 0.5 ∧ last ≠ 0) then
    return .ofIntClamp (whole.toInt + 1)
  else if fraction < -0.5 ∨ (fraction == -0.5 ∧ last ≠ 0) then
    return .ofIntClamp (whole.toInt - 1)
  else
    return whole

theorem roundInWords_eq (x : Float32) : roundInWords x = .ok (roundEven32 x) := by
  have hsmall : ((truncate32 x).toInt.tmod 2).natAbs = (truncate32 x).toInt.natAbs % 2 :=
    Int.natAbs_tmod _ _
  have hlast : IsWord ((truncate32 x).toInt.tmod 2) := isWord_of_natAbs_le (by omega)
  have hodd : Int32.ofInt ((truncate32 x).toInt.tmod 2) ≠ 0 ↔ (truncate32 x).toInt % 2 ≠ 0 := by
    rw [← Int32.toInt_inj.ne, toInt_ofInt_of_isWord hlast, Int32.toInt_zero]
    omega
  unfold roundInWords roundEven32
  simp only [exact_eq hlast, ok_bind, hodd]
  split_ifs <;> rfl

/-- The rounding gives the integer nearest to a number, the even one of two, saturated; zero for what is
no number, and the last words for the infinities.  It is monotone, and no step of it overflows: the one
step that could leave the words does not, and what is left of a finite float is finite. -/
theorem roundEven32_nearest :
    (∀ x : Float32, x.isFinite = true →
      ∃ q n, HasValue x q ∧ IsNearestEven q n ∧ (roundEven32 x).toInt = saturate n) ∧
    (∀ x : Float32, x.isNaN = true → roundEven32 x = 0) ∧
    roundEven32 (1.0 / 0.0) = Int32.maxValue ∧ roundEven32 (-1.0 / 0.0) = Int32.minValue ∧
    (∀ x y : Float32, x ≤ y → roundEven32 x ≤ roundEven32 y) ∧
    (∀ x : Float32, roundInWords x = .ok (roundEven32 x)) ∧
    ∀ x : Float32, x.isFinite = true →
      (x - singleOfInt (truncate32 x).toInt).isFinite = true := by
  refine ⟨fun x hx => ?_, fun x => roundEven32_of_isNaN, by decide, by decide,
    fun x y => roundEven32_mono, roundInWords_eq, fun x hx => ?_⟩
  · obtain ⟨q, hq⟩ := isFinite_iff_exists_hasValue.mp hx
    exact ⟨q, nearestEven q, hq, isNearestEven_nearestEven q, hq.toInt_roundEven32⟩
  · obtain ⟨q, hq⟩ := isFinite_iff_exists_hasValue.mp hx
    obtain ⟨r, hr, -⟩ := hq.exists_sub_truncate32
    exact isFinite_iff_exists_hasValue.mpr ⟨r, hr⟩

/-- Two and a half below zero lies between two integers and goes to the upper one, which is even.
What is too large for a word is saturated. -/
theorem roundEven32_nearest_tie :
    (-2.5 : Float32).isFinite = true ∧
      (∃ q n, HasValue (-2.5) q ∧ IsNearestEven q n ∧
        (roundEven32 (-2.5)).toInt = saturate n) ∧
      roundEven32 (-2.5) = -2 ∧
      (1e20 : Float32).isFinite = true ∧
      (∃ q n, HasValue 1e20 q ∧ IsNearestEven q n ∧ (roundEven32 1e20).toInt = saturate n) ∧
      roundEven32 1e20 = Int32.maxValue ∧
      (0.0 / 0.0 : Float32).isNaN = true ∧ roundEven32 (0.0 / 0.0) = 0 ∧
      (-2.5 : Float32) ≤ 1e20 ∧ roundEven32 (-2.5) ≤ roundEven32 1e20 ∧
      (-2.5 - singleOfInt (truncate32 (-2.5)).toInt).isFinite = true := by
  obtain ⟨hnearest, hnan, -, -, hmono, -, hrest⟩ := roundEven32_nearest
  have htie : (-2.5 : Float32).isFinite = true := by decide +kernel
  have hlarge : (1e20 : Float32).isFinite = true := by decide +kernel
  have hnot : (0.0 / 0.0 : Float32).isNaN = true := by decide +kernel
  have hle : (-2.5 : Float32) ≤ 1e20 := by decide +kernel
  exact ⟨htie, hnearest _ htie, by decide +kernel, hlarge, hnearest _ hlarge, by decide +kernel,
    hnot, hnan _ hnot, hle, hmono _ _ hle, hrest _ htie⟩

end Rounding

end Autopilot
