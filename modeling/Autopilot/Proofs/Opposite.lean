import Autopilot.Proofs.Single

/-!
# Opposite floats

Two floats are `Opposite` if one is the other with the sign changed.  Which sign a zero has does not
count: a sum of two opposite numbers is a positive zero whichever of them is the positive one, so that
negation does not commute with addition to the last bit.

Sums, products and quotients of opposite floats are opposite (`Opposite.add`, `Opposite.mul_left`,
`Opposite.div_right`), infinities and what is no number included.  Words and floats differ at the end
of the words only: the least word has no opposite, so the integer parts of opposite floats are
opposite once they are inside a bound (`confine_truncate32_of_opposite`).
-/

namespace Autopilot

open Float.Model Float.Model.UnpackedFloat

/-- The floats differ in their signs only, or both are zero. -/
inductive Opposite : UnpackedFloat → UnpackedFloat → Prop where
  | notANumber : Opposite .notANumber .notANumber
  | infinity (s : Sign) : Opposite (.infinity s) (.infinity (-s))
  | zero (s t : Sign) : Opposite (.zero s) (.zero t)
  | finite (s : Sign) (m : ℕ) (e : ℤ) (hm : 0 < m) :
    Opposite (.finite s m e hm) (.finite (-s) m e hm)

theorem opposite_neg (u : UnpackedFloat) : Opposite u u.neg := by
  cases u with
  | notANumber => exact .notANumber
  | infinity s => exact .infinity s
  | zero s => exact .zero s (-s)
  | finite s m e hm => exact .finite s m e hm

/-! ### Signs -/

section Signs

variable {s t : Sign}

theorem apply_neg (s : Sign) (n : ℤ) : (-s).apply n = -s.apply n := by
  cases s with
  | negative => exact (neg_neg n).symm
  | positive => rfl

theorem mul_neg_sign (s t : Sign) : s * -t = -(s * t) := by
  cases s <;> cases t <;> rfl

theorem neg_sign_div (s t : Sign) : -s / t = -(s / t) := by
  cases s <;> cases t <;> rfl

theorem neg_sign_beq (s t : Sign) : (-s == -t) = (s == t) := by
  cases s <;> cases t <;> rfl

theorem opposite_infinity (h : t = -s) : Opposite (.infinity s) (.infinity t) := by
  subst h
  exact .infinity s

end Signs

/-! ### Rounding -/

section Operations

variable {spec : Format} {u u' v v' : UnpackedFloat}

/-- Rounding does not look at the sign. -/
theorem opposite_roundWithAccuracy {s t : Sign} (h : t = -s) (m : ℕ) (e : ℤ) (acc : Accuracy) :
    Opposite (roundWithAccuracy spec s m e acc) (roundWithAccuracy spec t m e acc) := by
  subst h
  unfold roundWithAccuracy
  dsimp only
  split_ifs
  · exact .zero s (-s)
  · exact .finite s _ _ _

theorem opposite_normalize (n e : ℤ) :
    Opposite (UnpackedFloat.normalize spec n e .positive)
      (UnpackedFloat.normalize spec (-n) e .positive) := by
  unfold UnpackedFloat.normalize
  rcases lt_trichotomy n 0 with hn | rfl | hn
  · rw [compare_lt_iff_lt.mpr hn, compare_gt_iff_gt.mpr (neg_pos.mpr hn)]
    exact opposite_roundWithAccuracy rfl _ _ _
  · exact .zero .positive .positive
  · rw [compare_gt_iff_gt.mpr hn, compare_lt_iff_lt.mpr (neg_neg_of_pos hn), neg_neg]
    exact opposite_roundWithAccuracy rfl _ _ _

namespace Opposite

theorem add (hu : Opposite u u') (hv : Opposite v v') :
    Opposite (UnpackedFloat.add spec u v) (UnpackedFloat.add spec u' v') := by
  cases hu with
  | notANumber => exact .notANumber
  | infinity s =>
    cases hv with
    | notANumber => exact .notANumber
    | infinity t =>
      unfold UnpackedFloat.add
      dsimp only
      rw [neg_sign_beq]
      split_ifs
      · exact .infinity s
      · exact .notANumber
    | zero => exact .infinity s
    | finite => exact .infinity s
  | zero s s' =>
    cases hv with
    | notANumber => exact .notANumber
    | infinity t => exact .infinity t
    | zero t t' =>
      unfold UnpackedFloat.add
      dsimp only
      split_ifs <;> exact .zero _ _
    | finite t n e hn => exact .finite t n e hn
  | finite s m d hm =>
    cases hv with
    | notANumber => exact .notANumber
    | infinity t => exact .infinity t
    | zero => exact .finite s m d hm
    | finite t n e hn =>
      unfold UnpackedFloat.add
      dsimp only
      rw [apply_neg, apply_neg, ← neg_add]
      exact opposite_normalize _ _

theorem mul_left (g : UnpackedFloat) (hv : Opposite v v') :
    Opposite (UnpackedFloat.mul spec g v) (UnpackedFloat.mul spec g v') := by
  cases g with
  | notANumber => exact .notANumber
  | infinity s =>
    cases hv with
    | notANumber => exact .notANumber
    | infinity t => exact opposite_infinity (mul_neg_sign s t)
    | zero => exact .notANumber
    | finite t => exact opposite_infinity (mul_neg_sign s t)
  | zero s =>
    cases hv with
    | notANumber => exact .notANumber
    | infinity => exact .notANumber
    | zero => exact .zero _ _
    | finite => exact .zero _ _
  | finite s =>
    cases hv with
    | notANumber => exact .notANumber
    | infinity t => exact opposite_infinity (mul_neg_sign s t)
    | zero => exact .zero _ _
    | finite t => exact opposite_roundWithAccuracy (mul_neg_sign s t) _ _ _

theorem div_right (hu : Opposite u u') (d : UnpackedFloat) :
    Opposite (UnpackedFloat.div spec u d) (UnpackedFloat.div spec u' d) := by
  cases d with
  | notANumber => cases hu <;> exact .notANumber
  | infinity =>
    cases hu with
    | notANumber => exact .notANumber
    | infinity => exact .notANumber
    | zero => exact .zero _ _
    | finite => exact .zero _ _
  | zero t =>
    cases hu with
    | notANumber => exact .notANumber
    | infinity s => exact opposite_infinity (neg_sign_div s t)
    | zero => exact .notANumber
    | finite s => exact opposite_infinity (neg_sign_div s t)
  | finite t =>
    cases hu with
    | notANumber => exact .notANumber
    | infinity s => exact opposite_infinity (neg_sign_div s t)
    | zero => exact .zero _ _
    | finite s => exact opposite_roundWithAccuracy (neg_sign_div s t) _ _ _

end Opposite

/-! ### Bits -/

/-- Patterns of bits with the same exponent and mantissa, and with opposite signs. -/
theorem opposite_packComponents (s : Sign) (E : BitVec spec.exponentBits)
    (M : BitVec spec.mantissaBitsWithoutImplicit) :
    Opposite (UnpackedFloat.unpack spec (packComponents spec s E M))
      (UnpackedFloat.unpack spec (packComponents spec (-s) E M)) := by
  have hsign : ∀ t : Sign, Sign.ofBitVec t.toBitVec = t := by
    intro t
    cases t <;> rfl
  unfold UnpackedFloat.unpack
  simp only [unpackExponent_packComponents, unpackMantissa_packComponents,
    unpackSign_packComponents, hsign]
  split_ifs
  · exact .infinity s
  · exact .notANumber
  · exact .zero s (-s)
  · exact .finite s _ _ _
  · exact .finite s _ _ _

theorem Opposite.unpack_pack (h : Opposite u v) :
    Opposite (UnpackedFloat.unpack .binary32 (UnpackedFloat.pack .binary32 u))
      (UnpackedFloat.unpack .binary32 (UnpackedFloat.pack .binary32 v)) := by
  cases h with
  | notANumber => exact .notANumber
  | infinity s => exact opposite_packComponents s _ _
  | zero s t =>
    unfold UnpackedFloat.pack
    rw [unpack_packedZero, unpack_packedZero]
    exact .zero s t
  | finite s m e hm =>
    unfold UnpackedFloat.pack
    dsimp only
    split_ifs
    · exact opposite_packComponents s _ _
    · exact opposite_packComponents s _ _
    · exact opposite_packComponents s _ _

/-- Packing what was unpacked loses nothing. -/
theorem unpack_pack_unpack (b : BitVec Format.binary32.numBits) :
    UnpackedFloat.unpack .binary32 (UnpackedFloat.pack .binary32 (UnpackedFloat.unpack .binary32 b)) =
      UnpackedFloat.unpack .binary32 b := by
  by_cases hb : UnpackedFloat.unpack .binary32 b = .notANumber
  · rw [hb]
    rfl
  · have hnumber := isNumber_unpack (by decide) hb
    generalize UnpackedFloat.unpack .binary32 b = u at hnumber ⊢
    cases hnumber with
    | infinity s => exact unpack_packedInfinity s
    | sized h hlt => rw [unpack_pack (by decide) h, if_pos hlt]

end Operations

/-! ### Single-precision floats -/

/-- The single-precision floats are opposite. -/
def OppositeSingles (x y : Float32) : Prop :=
  Opposite x.toModel.unpack y.toModel.unpack

namespace OppositeSingles

variable {x x' y y' : Float32}

theorem of_neg (x : Float32) : OppositeSingles x (-x) := by
  have hpack := (opposite_neg x.toModel.unpack).unpack_pack
  rw [show x.toModel.unpack = UnpackedFloat.unpack .binary32 x.toModel.toBits.toBitVec from rfl,
    unpack_pack_unpack] at hpack
  exact hpack

theorem add (hx : OppositeSingles x x') (hy : OppositeSingles y y') :
    OppositeSingles (x + y) (x' + y') :=
  (Opposite.add hx hy).unpack_pack

theorem mul_left (g : Float32) (hy : OppositeSingles y y') : OppositeSingles (g * y) (g * y') :=
  (Opposite.mul_left g.toModel.unpack hy).unpack_pack

theorem div_right (hx : OppositeSingles x x') (d : Float32) : OppositeSingles (x / d) (x' / d) :=
  (Opposite.div_right hx d.toModel.unpack).unpack_pack

end OppositeSingles

theorem roundToInt_neg (s : Sign) (m : ℕ) (e : ℤ) :
    roundToInt (-s) m e = -roundToInt s m e :=
  apply_neg s _

/-- The integer parts of opposite floats are opposite, as far as a bound lets them be seen. -/
theorem confine_truncate32_of_opposite {x y : Float32} (h : OppositeSingles x y) {bound : ℤ}
    (h0 : 0 ≤ bound) (hbound : bound ≤ 2147483647) :
    confine bound (truncate32 y).toInt = -confine bound (truncate32 x).toInt := by
  rw [toInt_truncate32, toInt_truncate32, confine_saturate h0 hbound, confine_saturate h0 hbound]
  unfold OppositeSingles at h
  generalize x.toModel.unpack = u at h ⊢
  generalize y.toModel.unpack = v at h ⊢
  have hzero : confine bound 0 = -confine bound 0 := confine_neg h0 0
  cases h with
  | notANumber => exact hzero
  | zero s t => exact hzero
  | infinity s =>
    cases s with
    | negative =>
      change confine bound 2147483647 = -confine bound (-2147483648)
      unfold confine
      omega
    | positive =>
      change confine bound (-2147483648) = -confine bound 2147483647
      unfold confine
      omega
  | finite s m e hm =>
    change confine bound (roundToInt (-s) m e) = -confine bound (roundToInt s m e)
    rw [roundToInt_neg, confine_neg h0]

end Autopilot
