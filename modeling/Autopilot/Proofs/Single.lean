import Autopilot.Proofs.FloatOrder
import Autopilot.Proofs.Word
import Autopilot.Scalar

/-!
# Single-precision floats

Two facts about single-precision floats, both read off their sign, mantissa and exponent.

What is no number makes every result that depends on it no number either (`isNaN_add_left` and so
on), and rounds to zero (`roundEven32_of_isNaN`).

A number rounds to the least word when it is at most as large as that word, and only then
(`roundEven32_eq_minValue_iff`).  There are no fractions at this size, so the rounding has nothing
to decide.
-/

namespace Autopilot

open Float.Model Float.Model.UnpackedFloat

/-! ### Comparisons -/

section Comparisons

variable {x y : Float32}

theorem lt_iff : x < y ↔ x.toModel.unpack.lt y.toModel.unpack = true := by
  change decide (x.toModel < y.toModel) = true ↔ _
  rw [decide_eq_true_iff]
  rfl

theorem le_iff : x ≤ y ↔ x.toModel.unpack.le y.toModel.unpack = true := by
  change decide (x.toModel ≤ y.toModel) = true ↔ _
  rw [decide_eq_true_iff]
  rfl

theorem isNaN_iff : x.isNaN = true ↔ x.toModel.unpack = .notANumber := by
  change x.toModel.unpack.isNaN = true ↔ _
  exact UnpackedFloat.isNaN_iff

end Comparisons

/-! ### What is no number -/

/-- Packing keeps what is no number. -/
theorem isNaN_pack_notANumber : (Float32.ofModel (.pack .notANumber)).isNaN = true := by
  decide

section NotANumber

variable {x : Float32} (h : x.isNaN = true) (y : Float32)

include h

theorem isNaN_add_left : (x + y).isNaN = true := by
  change (Float32.ofModel (.pack (.add .binary32 x.toModel.unpack y.toModel.unpack))).isNaN = true
  rw [isNaN_iff.mp h]
  exact isNaN_pack_notANumber

theorem isNaN_add_right : (y + x).isNaN = true := by
  change (Float32.ofModel (.pack (.add .binary32 y.toModel.unpack x.toModel.unpack))).isNaN = true
  rw [isNaN_iff.mp h]
  cases y.toModel.unpack <;> exact isNaN_pack_notANumber

theorem isNaN_sub_left : (x - y).isNaN = true := by
  change (Float32.ofModel (.pack (.sub .binary32 x.toModel.unpack y.toModel.unpack))).isNaN = true
  rw [isNaN_iff.mp h]
  exact isNaN_pack_notANumber

theorem isNaN_mul_left : (x * y).isNaN = true := by
  change (Float32.ofModel (.pack (.mul .binary32 x.toModel.unpack y.toModel.unpack))).isNaN = true
  rw [isNaN_iff.mp h]
  exact isNaN_pack_notANumber

/-- What is no number compares with nothing. -/
theorem not_lt_of_isNaN : ¬ x < y ∧ ¬ y < x := by
  rw [lt_iff, lt_iff, isNaN_iff.mp h]
  cases y.toModel.unpack <;> exact ⟨Bool.false_ne_true, Bool.false_ne_true⟩

theorem beq_eq_false_of_isNaN : (x == y) = false := by
  change x.toModel.unpack.beq y.toModel.unpack = false
  rw [isNaN_iff.mp h]
  rfl

omit y in
theorem truncate32_of_isNaN : truncate32 x = 0 := by
  change x.toModel.unpack.toInt32 = 0
  rw [isNaN_iff.mp h]
  rfl

omit y in
theorem roundEven32_of_isNaN : roundEven32 x = 0 := by
  -- What is left after truncating is no number either, and is not compared with one half.
  have hrest := isNaN_sub_left h (singleOfInt (truncate32 x).toInt)
  unfold roundEven32
  dsimp only
  rw [if_neg, if_neg, truncate32_of_isNaN h]
  · rintro (hlt | ⟨heq, -⟩)
    · exact (not_lt_of_isNaN hrest _).1 hlt
    · rw [beq_eq_false_of_isNaN hrest] at heq
      cases heq
  · rintro (hlt | ⟨heq, -⟩)
    · exact (not_lt_of_isNaN hrest _).2 hlt
    · rw [beq_eq_false_of_isNaN hrest] at heq
      cases heq

end NotANumber

/-! ### Finite numbers -/

/-- The mantissa of a finite number has 24 digits, unless the number is too small for that. -/
theorem unpack_finite {x : Float32} {sign : Sign} {m : Nat} {e : Int} {hm : 0 < m}
    (hx : x.toModel.unpack = .finite sign m e hm) : m < 2 ^ 24 ∧ (2 ^ 23 ≤ m ∨ e = -149) := by
  have hnumber : IsNumber .binary32 x.toModel.unpack := by
    refine isNumber_unpack (by decide) fun hnot => ?_
    change x.toModel.unpack = .notANumber at hnot
    rw [hx] at hnot
    cases hnot
  rw [hx] at hnumber
  cases hnumber with
  | sized h =>
    cases h with
    | finite h => exact ⟨h.digits, h.normal⟩

theorem mantissa_shiftRight_le (em : ExtendedMantissa) (n : Nat) :
    (em >>> n).mantissa ≤ em.mantissa := by
  induction n with
  | zero => exact Nat.le_refl _
  | succ n ih =>
    change (em >>> n).mantissa / 2 ≤ em.mantissa
    omega

/-- The integer part of a finite number, up to its sign. -/
theorem exists_roundToInt (sign : Sign) (m : Nat) (e : Int) :
    ∃ size : Nat, roundToInt sign m e = sign.apply size ∧ size ≤ m * 2 ^ e.toNat ∧
      (0 ≤ e → size = m * 2 ^ e.toNat) := by
  have hshift : m <<< (e - 0).toNat = m * 2 ^ e.toNat := by
    rw [Int.sub_zero, Nat.shiftLeft_eq]
  refine ⟨_, rfl, ?_, fun he => ?_⟩
  · rw [← hshift]
    exact mantissa_shiftRight_le _ _
  · have hexact : (0 - (e - ((e - 0).toNat : Int))).toNat = 0 := by omega
    rw [← hshift, hexact]
    rfl

/-! ### Signs -/

theorem unpackSign_pack_finite (sign : Sign) (m : Nat) (e : Int) (hm : 0 < m) :
    @unpackSign .binary32 (UnpackedFloat.pack .binary32 (.finite sign m e hm)) =
      sign.toBitVec := by
  unfold UnpackedFloat.pack
  dsimp only
  split_ifs
  · exact @unpackSign_packComponents .binary32 _ _ _
  · exact @unpackSign_packComponents .binary32 _ _ _
  · exact @unpackSign_packComponents .binary32 _ _ _

/-- Rounding does not lose the sign, not even when it gives zero. -/
theorem unpackSign_pack_normalize {n : Int} (hn : n < 0) (e : Int) (zeroSign : Sign) :
    @unpackSign .binary32 (UnpackedFloat.pack .binary32 (.normalize .binary32 n e zeroSign)) =
      1#1 := by
  have hlt : compare n 0 = .lt := Int.compare_eq_lt.mpr hn
  unfold UnpackedFloat.normalize
  rw [hlt]
  dsimp only
  unfold UnpackedFloat.round roundWithAccuracy
  dsimp only
  split_ifs
  · exact @unpackSign_packComponents .binary32 _ _ _
  · exact unpackSign_pack_finite _ _ _ _

/-- No float with the sign bit is as large as one half. -/
theorem not_half_le_of_sign {x : Float32}
    (hx : @unpackSign .binary32 x.toModel.toBits.toBitVec = 1#1) :
    ¬ x > 0.5 ∧ (x == 0.5) = false := by
  have hhalf : (0.5 : Float32).toModel.unpack = .finite .positive 8388608 (-24) (by decide) := rfl
  change ¬ (0.5 : Float32) < x ∧ x.toModel.unpack.beq (0.5 : Float32).toModel.unpack = false
  rw [lt_iff, hhalf]
  unfold Float32.Model.unpack UnpackedFloat.unpack
  rw [hx]
  dsimp only
  split_ifs
  · decide
  · decide
  · decide
  · exact ⟨Bool.false_ne_true, rfl⟩
  · exact ⟨Bool.false_ne_true, rfl⟩

/-! ### The least word -/

/-- Negative numbers compare by their exponents first and by their mantissas then. -/
theorem finite_negative_le_iff {m : Nat} {e : Int} {hm : 0 < m} :
    (UnpackedFloat.finite .negative m e hm).le (.finite .negative 8388608 8 (by decide)) = true ↔
      8 ≤ e ∧ (e = 8 → 8388608 ≤ m) := by
  change (((compare e 8).then (compare m 8388608)).swap).isLE = true ↔ _
  rcases lt_trichotomy e 8 with he | rfl | he
  · rw [Int.compare_eq_lt.mpr he]
    simp
    omega
  · rw [Int.compare_eq_eq.mpr rfl]
    simp [Ordering.isLE_swap, Nat.isGE_compare]
  · rw [Int.compare_eq_gt.mpr he]
    simp
    omega

/-- The numbers that are at most as large as the least word. -/
theorem le_least_iff {x : Float32} :
    x ≤ -2147483648.0 ↔ x.toModel.unpack = .infinity .negative ∨
      ∃ m e, ∃ hm : 0 < m, x.toModel.unpack = .finite .negative m e hm ∧ 8 ≤ e ∧ 2 ^ 23 ≤ m := by
  have hleast : (-2147483648.0 : Float32).toModel.unpack =
      .finite .negative 8388608 8 (by decide) := rfl
  rw [le_iff, hleast]
  cases hx : x.toModel.unpack with
  | notANumber =>
    exact iff_of_false Bool.false_ne_true (by rintro (h | ⟨_, _, _, h, -⟩) <;> cases h)
  | zero sign =>
    exact iff_of_false Bool.false_ne_true (by rintro (h | ⟨_, _, _, h, -⟩) <;> cases h)
  | infinity sign =>
    cases sign with
    | negative => exact ⟨fun _ => .inl rfl, fun _ => rfl⟩
    | positive =>
      exact iff_of_false Bool.false_ne_true (by rintro (h | ⟨_, _, _, h, -⟩) <;> cases h)
  | finite sign m e hm =>
    cases sign with
    | positive =>
      exact iff_of_false Bool.false_ne_true (by rintro (h | ⟨_, _, _, h, -⟩) <;> cases h)
    | negative =>
      obtain ⟨-, hdigits⟩ := unpack_finite hx
      rw [finite_negative_le_iff]
      constructor
      · rintro ⟨hexp, -⟩
        exact .inr ⟨m, e, hm, rfl, hexp, by omega⟩
      · rintro (hinf | ⟨m', e', hm', hfinite, hexp, hlarge⟩)
        · cases hinf
        · cases hfinite
          exact ⟨hexp, fun _ => hlarge⟩

theorem toInt_truncate32 (x : Float32) :
    (truncate32 x).toInt =
      saturate (x.toModel.unpack.toInt Int32.minValue.toInt Int32.maxValue.toInt) :=
  toInt_ofIntClamp _

theorem truncate32_of_le_least {x : Float32} (h : x ≤ -2147483648.0) :
    truncate32 x = Int32.minValue := by
  apply Int32.toInt_inj.mp
  rw [toInt_truncate32]
  rcases le_least_iff.mp h with hx | ⟨m, e, hm, hx, hexp, hdigits⟩
  · rw [hx]
    decide
  · obtain ⟨size, hsize, -, hexact⟩ := exists_roundToInt .negative m e
    have hpow : 2 ^ 8 ≤ 2 ^ e.toNat := Nat.pow_le_pow_right (by decide) (by omega)
    have hlarge : 2 ^ 23 * 2 ^ 8 ≤ m * 2 ^ e.toNat := Nat.mul_le_mul hdigits hpow
    have hwhole := hexact (by omega)
    rw [hx]
    change saturate (roundToInt .negative m e) = -2147483648
    rw [hsize]
    change saturate (-(size : Int)) = -2147483648
    unfold saturate
    omega

/-- The numbers above the least word that are next to it are already 128 away from it. -/
theorem le_least_of_truncate32_le {x : Float32} (h : (truncate32 x).toInt ≤ -2147483647) :
    x ≤ -2147483648.0 := by
  rw [toInt_truncate32] at h
  rw [le_least_iff]
  cases hx : x.toModel.unpack with
  | notANumber =>
    rw [hx] at h
    exact absurd h (by decide)
  | zero sign =>
    rw [hx] at h
    change saturate 0 ≤ _ at h
    exact absurd h (by decide)
  | infinity sign =>
    cases sign with
    | negative => exact .inl rfl
    | positive =>
      rw [hx] at h
      exact absurd h (by decide)
  | finite sign m e hm =>
    obtain ⟨size, hsize, hle, -⟩ := exists_roundToInt sign m e
    obtain ⟨hlt, hdigits⟩ := unpack_finite hx
    rw [hx] at h
    change saturate (roundToInt sign m e) ≤ _ at h
    rw [hsize] at h
    cases sign with
    | positive =>
      change saturate (size : Int) ≤ _ at h
      unfold saturate at h
      omega
    | negative =>
      change saturate (-(size : Int)) ≤ _ at h
      -- Below this exponent, 24 digits do not reach that far.
      have hexp : 8 ≤ e := by
        by_contra hexp
        have hpow : 2 ^ e.toNat ≤ 2 ^ 7 := Nat.pow_le_pow_right (by decide) (by omega)
        have hmul : m * 2 ^ e.toNat ≤ (2 ^ 24 - 1) * 2 ^ 7 := Nat.mul_le_mul (by omega) hpow
        unfold saturate at h
        omega
      exact .inr ⟨m, e, hm, rfl, hexp, by omega⟩

/-- What is left of such a number beyond the least word is not positive. -/
theorem not_half_le_sub_least {x : Float32} (h : x ≤ -2147483648.0) :
    ¬ x - singleOfInt Int32.minValue.toInt > 0.5 ∧
      (x - singleOfInt Int32.minValue.toInt == 0.5) = false := by
  have hleast : (singleOfInt Int32.minValue.toInt).toModel.unpack =
      .finite .negative 8388608 8 (by decide) := by rfl
  have hsub : x - singleOfInt Int32.minValue.toInt = .ofModel
      (.pack (.sub .binary32 x.toModel.unpack (.finite .negative 8388608 8 (by decide)))) := by
    rw [← hleast]
    rfl
  rw [hsub]
  rcases le_least_iff.mp h with hx | ⟨m, e, hm, hx, hexp, hdigits⟩
  · rw [hx]
    decide
  -- The least word has the smaller exponent, so the mantissas are subtracted there.
  · have hmin : min e 8 = 8 := by omega
    have hdiff : UnpackedFloat.sub .binary32 (.finite .negative m e hm)
        (.finite .negative 8388608 8 (by decide)) =
          .normalize .binary32 (8388608 - (m <<< (e - 8).toNat : Nat)) 8 .positive := by
      change UnpackedFloat.normalize .binary32 (-((m <<< (e - min e 8).toNat : Nat) : Int) -
        -((8388608 <<< (8 - min e 8).toNat : Nat) : Int)) (min e 8) .positive = _
      rw [hmin]
      congr 1
      change _ - -(8388608 : Int) = _
      omega
    have hlow : 8388608 ≤ m <<< (e - 8).toNat := by
      have hpow : 1 ≤ 2 ^ (e - 8).toNat := Nat.one_le_two_pow
      calc 8388608 ≤ m := hdigits
        _ = m * 1 := (Nat.mul_one m).symm
        _ ≤ m * 2 ^ (e - 8).toNat := Nat.mul_le_mul_left m hpow
        _ = m <<< (e - 8).toNat := (Nat.shiftLeft_eq _ _).symm
    rw [hx, hdiff]
    rcases hlow.lt_or_eq with hlt | heq
    · exact not_half_le_of_sign (unpackSign_pack_normalize (by omega) 8 .positive)
    · rw [← heq]
      decide

/-- A number rounds to the least word when it is at most as large as that word, and only then. -/
theorem roundEven32_eq_minValue_iff {x : Float32} :
    roundEven32 x = Int32.minValue ↔ x ≤ -2147483648.0 := by
  constructor
  · intro h
    apply le_least_of_truncate32_le
    have htoInt := congrArg Int32.toInt h
    rw [Int32.toInt_minValue] at htoInt
    obtain ⟨hlo, hhi⟩ := isWord_toInt (truncate32 x)
    unfold roundEven32 at htoInt
    dsimp only at htoInt
    -- Whichever way the rounding goes, it goes by one at most.
    split_ifs at htoInt
    · rw [toInt_ofIntClamp] at htoInt
      unfold saturate at htoInt
      omega
    · rw [toInt_ofIntClamp] at htoInt
      unfold saturate at htoInt
      omega
    · omega
  · intro h
    obtain ⟨habove, heq⟩ := not_half_le_sub_least h
    unfold roundEven32
    rw [truncate32_of_le_least h]
    dsimp only
    rw [if_neg]
    · split_ifs <;> rfl
    · rintro (hlt | ⟨hhalf, -⟩)
      · exact habove hlt
      · rw [heq] at hhalf
        cases hhalf

end Autopilot
