import Autopilot.Proofs.Rounding

/-!
# The order of floats

Every float that is a number has a place among the rational numbers (`place`), if the infinities
stand where the finite numbers of the format end.  Comparing floats is comparing their places
(`le_iff_place_le`, `lt_iff_place_lt`), so the order of floats has the laws of that of numbers.

Between two operations a float is kept as a pattern of bits.  This loses nothing of a number that
the format has (`unpack_pack`), and there is no pattern for any other number (`isNumber_unpack`).
-/

namespace Autopilot

open Float.Model Float.Model.UnpackedFloat

variable {spec : Format} {u v : UnpackedFloat}

/-! ### Places -/

/-- A size with a sign. -/
def signed (s : Sign) (x : ℚ) : ℚ :=
  match s with
  | .positive => x
  | .negative => -x

/-- A half of all exponents of a format. -/
def exponentRange (spec : Format) : ℕ :=
  2 ^ (spec.exponentBits - 1)

/-- The size from which on a format has no finite numbers. -/
def sizeLimit (spec : Format) : ℚ :=
  2 ^ exponentRange spec

/-- Where a float stands among the rational numbers.  The infinities stand where the finite numbers
of the format end, and what is no number stands nowhere in particular. -/
def place (spec : Format) : UnpackedFloat → ℚ
  | .infinity s => signed s (sizeLimit spec)
  | .notANumber => 0
  | .zero _ => 0
  | .finite s m e _ => signed s (m * 2 ^ e)

/-- The float is a number that the format has, or infinite. -/
inductive IsNumber (spec : Format) : UnpackedFloat → Prop where
  | infinity (s : Sign) : IsNumber spec (.infinity s)
  | sized {s : Sign} {x : ℚ} {u : UnpackedFloat} (h : Sized spec s x u) (hx : x < sizeLimit spec) :
    IsNumber spec u

theorem sizeLimit_pos (spec : Format) : 0 < sizeLimit spec := by
  unfold sizeLimit
  positivity

theorem signed_negative_lt_positive {x y : ℚ} (hx : 0 < x) (hy : 0 < y) :
    signed .negative x < signed .positive y :=
  (neg_neg_of_pos hx).trans hy

theorem Sized.place_eq {s : Sign} {x : ℚ} (h : Sized spec s x u) : place spec u = signed s x := by
  cases h with
  | zero => cases s <;> simp [place, signed]
  | finite h => rfl

theorem Sized.abs {s : Sign} {x : ℚ} (h : Sized spec s x u) : Sized spec .positive x u.abs := by
  cases h with
  | zero => exact .zero
  | finite h => exact .finite h

/-! ### Comparisons -/

section Sizes

variable {m n : ℕ} {d e : ℤ}

theorem Canonical.size_pos (h : Canonical spec m e) : (0 : ℚ) < m * 2 ^ e :=
  mul_pos (by exact_mod_cast h.pos) (zpow_pos two_pos e)

variable (h : Canonical spec m d) (h' : Canonical spec n e)

include h h'

/-- The larger exponent has all digits, so that it is the larger number. -/
theorem size_lt_of_exponent_lt (hlt : d < e) : (m : ℚ) * 2 ^ d < n * 2 ^ e := by
  have hpos : ∀ k : ℤ, (0 : ℚ) < 2 ^ k := fun k => zpow_pos two_pos k
  have hdigits : 2 ^ (spec.mantissaBits - 1) ≤ n :=
    h'.normal.resolve_right fun heq => absurd h.least (by omega)
  have hbits := mantissaBits_pos spec
  calc (m : ℚ) * 2 ^ d < 2 ^ spec.mantissaBits * 2 ^ d :=
        mul_lt_mul_of_pos_right (by exact_mod_cast h.digits) (hpos d)
    _ = 2 ^ ((spec.mantissaBits : ℤ) + d) := by rw [zpow_add₀ two_ne_zero, zpow_natCast]
    _ ≤ 2 ^ (((spec.mantissaBits - 1 : ℕ) : ℤ) + e) := zpow_le_zpow_right₀ one_le_two (by omega)
    _ = 2 ^ (spec.mantissaBits - 1) * 2 ^ e := by rw [zpow_add₀ two_ne_zero, zpow_natCast]
    _ ≤ n * 2 ^ e := mul_le_mul_of_nonneg_right (by exact_mod_cast hdigits) (hpos e).le

/-- Sizes compare by their exponents first and by their mantissas then. -/
theorem compare_size :
    (compare d e).then (compare m n) = compare ((m : ℚ) * 2 ^ d) (n * 2 ^ e) := by
  rcases lt_trichotomy d e with hlt | rfl | hgt
  · rw [compare_lt_iff_lt.mpr hlt, compare_lt_iff_lt.mpr (size_lt_of_exponent_lt h h' hlt)]
    rfl
  · have hpos : (0 : ℚ) < 2 ^ d := zpow_pos two_pos d
    rw [compare_eq_iff_eq.mpr (rfl : d = d)]
    change compare m n = _
    rcases lt_trichotomy m n with hlt | rfl | hgt
    · have hsize : (m : ℚ) * 2 ^ d < n * 2 ^ d :=
        mul_lt_mul_of_pos_right (by exact_mod_cast hlt) hpos
      rw [compare_lt_iff_lt.mpr hlt, compare_lt_iff_lt.mpr hsize]
    · rw [compare_eq_iff_eq.mpr rfl, compare_eq_iff_eq.mpr rfl]
    · have hsize : (n : ℚ) * 2 ^ d < m * 2 ^ d :=
        mul_lt_mul_of_pos_right (by exact_mod_cast hgt) hpos
      rw [compare_gt_iff_gt.mpr hgt, compare_gt_iff_gt.mpr hsize]
  · rw [compare_gt_iff_gt.mpr hgt, compare_gt_iff_gt.mpr (size_lt_of_exponent_lt h' h hgt)]
    rfl

end Sizes

theorem compare_neg_neg (x y : ℚ) : compare (-x) (-y) = (compare x y).swap := by
  rcases lt_trichotomy x y with hlt | rfl | hgt
  · rw [compare_lt_iff_lt.mpr hlt, compare_gt_iff_gt.mpr (neg_lt_neg hlt)]
    rfl
  · rw [compare_eq_iff_eq.mpr rfl, compare_eq_iff_eq.mpr rfl]
    rfl
  · rw [compare_gt_iff_gt.mpr hgt, compare_lt_iff_lt.mpr (neg_lt_neg hgt)]
    rfl

/-- Finite numbers compare as their signed sizes. -/
theorem compare_sized {s t : Sign} {x y : ℚ} (hu : Sized spec s x u) (hv : Sized spec t y v) :
    u.compare v = some (compare (signed s x) (signed t y)) := by
  cases hu with
  | zero =>
    cases hv with
    | zero =>
      have heq : signed s 0 = signed t 0 := by cases s <;> cases t <;> simp [signed]
      rw [compare_eq_iff_eq.mpr heq]
      rfl
    | finite h' =>
      have hpos := h'.size_pos
      cases t with
      | positive =>
        rw [compare_lt_iff_lt.mpr (by cases s <;> simpa [signed] using hpos)]
        rfl
      | negative =>
        rw [compare_gt_iff_gt.mpr (by cases s <;> simpa [signed] using hpos)]
        rfl
  | finite h =>
    have hpos := h.size_pos
    cases hv with
    | zero =>
      cases s with
      | positive =>
        rw [compare_gt_iff_gt.mpr (by cases t <;> simpa [signed] using hpos)]
        rfl
      | negative =>
        rw [compare_lt_iff_lt.mpr (by cases t <;> simpa [signed] using hpos)]
        rfl
    | finite h' =>
      have hpos' := h'.size_pos
      cases s with
      | positive =>
        cases t with
        | positive => exact congrArg some (compare_size h h')
        | negative =>
          rw [compare_gt_iff_gt.mpr (signed_negative_lt_positive hpos' hpos)]
          rfl
      | negative =>
        cases t with
        | positive =>
          rw [compare_lt_iff_lt.mpr (signed_negative_lt_positive hpos hpos')]
          rfl
        | negative =>
          change some ((compare _ _).then (compare _ _)).swap = _
          rw [compare_size h h', ← compare_neg_neg]
          rfl

theorem signed_lt_sizeLimit {s : Sign} {x : ℚ} (h : Sized spec s x u) (hx : x < sizeLimit spec) :
    signed .negative (sizeLimit spec) < signed s x ∧
      signed s x < signed .positive (sizeLimit spec) := by
  have hnonneg := h.nonneg
  cases s <;> unfold signed <;> constructor <;> dsimp only <;> linarith

/-- Numbers compare as their places do. -/
theorem compare_eq (hu : IsNumber spec u) (hv : IsNumber spec v) :
    u.compare v = some (compare (place spec u) (place spec v)) := by
  have hlimit := sizeLimit_pos spec
  cases hu with
  | infinity s =>
    cases hv with
    | infinity t =>
      change some (compare s t) =
        some (compare (signed s (sizeLimit spec)) (signed t (sizeLimit spec)))
      cases s <;> cases t
      · rw [compare_eq_iff_eq.mpr (rfl : signed _ _ = _)]
        rfl
      · rw [compare_lt_iff_lt.mpr (signed_negative_lt_positive hlimit hlimit)]
        rfl
      · rw [compare_gt_iff_gt.mpr (signed_negative_lt_positive hlimit hlimit)]
        rfl
      · rw [compare_eq_iff_eq.mpr (rfl : signed _ _ = _)]
        rfl
    | sized h hx =>
      obtain ⟨hlow, hhigh⟩ := signed_lt_sizeLimit h hx
      change _ = some (compare (signed s (sizeLimit spec)) (place spec v))
      rw [h.place_eq]
      cases s with
      | positive =>
        rw [compare_gt_iff_gt.mpr hhigh]
        cases h <;> rfl
      | negative =>
        rw [compare_lt_iff_lt.mpr hlow]
        cases h <;> rfl
  | sized h hx =>
    cases hv with
    | infinity t =>
      obtain ⟨hlow, hhigh⟩ := signed_lt_sizeLimit h hx
      change _ = some (compare (place spec u) (signed t (sizeLimit spec)))
      rw [h.place_eq]
      cases t with
      | positive =>
        rw [compare_lt_iff_lt.mpr hhigh]
        cases h <;> rfl
      | negative =>
        rw [compare_gt_iff_gt.mpr hlow]
        cases h <;> rfl
    | sized h' _ => rw [h.place_eq, h'.place_eq, compare_sized h h']

theorem le_iff_place_le (hu : IsNumber spec u) (hv : IsNumber spec v) :
    u.le v = true ↔ place spec u ≤ place spec v := by
  unfold UnpackedFloat.le
  rw [compare_eq hu hv]
  change (compare (place spec u) (place spec v)).isLE = true ↔ _
  rw [Ordering.isLE_iff_ne_gt]
  exact compare_le_iff_le

theorem lt_iff_place_lt (hu : IsNumber spec u) (hv : IsNumber spec v) :
    u.lt v = true ↔ place spec u < place spec v := by
  unfold UnpackedFloat.lt
  rw [compare_eq hu hv, beq_iff_eq, Option.some.injEq, compare_lt_iff_lt]

/-! ### Packing -/

theorem minExponent_eq (spec : Format) :
    spec.minExponent = 2 - exponentRange spec - spec.mantissaBitsWithoutImplicit := by
  unfold Format.minExponent Format.mantissaBits exponentRange
  push_cast
  ring

theorem exponentBias_eq (spec : Format) :
    (spec.exponentBias : ℤ) = exponentRange spec - 1 := by
  have hpos : 0 < exponentRange spec := Nat.two_pow_pos _
  change ((exponentRange spec - 1 : ℕ) : ℤ) = _
  omega

theorem toNat_one_append {w : ℕ} (v : BitVec w) : (1#1 ++ v).toNat = 2 ^ w + v.toNat := by
  rw [BitVec.toNat_append, ← Nat.shiftLeft_add_eq_or_of_lt v.isLt, Nat.shiftLeft_eq]
  simp

theorem eq_neg_one_iff {w : ℕ} {v : BitVec w} : v = -1#w ↔ v.toNat = 2 ^ w - 1 := by
  rw [BitVec.neg_one_eq_allOnes, ← BitVec.toNat_inj, BitVec.toNat_allOnes]

theorem unpack_packedInfinity (s : Sign) :
    UnpackedFloat.unpack spec (packedInfinity spec s) = .infinity s := by
  simp [UnpackedFloat.unpack, packedInfinity]

theorem unpack_normal {s : Sign} {E : BitVec spec.exponentBits}
    {M : BitVec spec.mantissaBitsWithoutImplicit} (hones : E ≠ -1#_) (hzero : E ≠ 0#_) {m : ℕ}
    {e : ℤ}
    (hm : 0 < m) (hmantissa : m = 2 ^ spec.mantissaBitsWithoutImplicit + M.toNat)
    (he : (E.toNat : ℤ) = e + spec.exponentBias + spec.mantissaBitsWithoutImplicit) :
    UnpackedFloat.unpack spec (packComponents spec s E M) = .finite s m e hm := by
  have hdigits : (1#1 ++ M).toNat = m := by rw [hmantissa, toNat_one_append]
  have hexp : (E.toNat : ℤ) - (spec.exponentBias + spec.mantissaBitsWithoutImplicit) = e := by omega
  simp [UnpackedFloat.unpack, hones, hzero, hdigits, hexp]

theorem unpack_subnormal {s : Sign} {M : BitVec spec.mantissaBitsWithoutImplicit} {m : ℕ}
    (hm : 0 < m) (hmantissa : M.toNat = m) :
    UnpackedFloat.unpack spec (packComponents spec s 0#_ M) = .finite s m spec.minExponent hm := by
  have hones : spec.exponentBits ≠ 0 := spec.he.ne'
  have hzero : M ≠ 0#_ := by
    rintro rfl
    rw [BitVec.toNat_ofNat, Nat.zero_mod] at hmantissa
    omega
  have hexp :
      -(spec.mantissaBitsWithoutImplicit : ℤ) + -spec.exponentBias + 1 = spec.minExponent := by
    rw [exponentBias_eq, minExponent_eq]
    ring
  simp [UnpackedFloat.unpack, hones, hzero, hmantissa, hexp]

section Packing

variable (hspec : 2 ≤ spec.exponentBits)

include hspec

theorem two_le_exponentRange :
    2 ≤ exponentRange spec ∧ 2 ^ spec.exponentBits = 2 * exponentRange spec := by
  unfold exponentRange
  constructor
  · exact Nat.le_self_pow (by omega) 2
  · rw [← pow_succ', Nat.sub_add_cancel (by omega)]

/-- Which canonical numbers have an exponent that is too large. -/
theorem size_lt_sizeLimit_iff {m : ℕ} {e : ℤ} (h : Canonical spec m e) :
    (m : ℚ) * 2 ^ e < sizeLimit spec ↔
      e + spec.mantissaBitsWithoutImplicit < exponentRange spec := by
  obtain ⟨htwo, -⟩ := two_le_exponentRange hspec
  have hpos : (0 : ℚ) < 2 ^ e := zpow_pos two_pos e
  have hbits : spec.mantissaBits = 1 + spec.mantissaBitsWithoutImplicit := rfl
  unfold sizeLimit
  rw [← zpow_natCast]
  constructor
  · intro hlt
    by_contra hge
    -- An exponent this large has all digits.
    have hnormal : 2 ^ spec.mantissaBitsWithoutImplicit ≤ m := by
      rcases h.normal with hdigits | rfl
      · rwa [hbits, Nat.add_sub_cancel_left] at hdigits
      · rw [minExponent_eq] at hge
        omega
    have hsize : (2 : ℚ) ^ (exponentRange spec : ℤ) ≤ m * 2 ^ e :=
      calc (2 : ℚ) ^ (exponentRange spec : ℤ)
          ≤ 2 ^ ((spec.mantissaBitsWithoutImplicit : ℤ) + e) :=
            zpow_le_zpow_right₀ one_le_two (by omega)
        _ = 2 ^ spec.mantissaBitsWithoutImplicit * 2 ^ e := by
            rw [zpow_add₀ two_ne_zero, zpow_natCast]
        _ ≤ m * 2 ^ e := mul_le_mul_of_nonneg_right (by exact_mod_cast hnormal) hpos.le
    exact absurd hsize hlt.not_ge
  · intro hlt
    calc (m : ℚ) * 2 ^ e < 2 ^ spec.mantissaBits * 2 ^ e :=
          mul_lt_mul_of_pos_right (by exact_mod_cast h.digits) hpos
      _ = 2 ^ ((spec.mantissaBits : ℤ) + e) := by rw [zpow_add₀ two_ne_zero, zpow_natCast]
      _ ≤ 2 ^ (exponentRange spec : ℤ) :=
          zpow_le_zpow_right₀ one_le_two (by omega)

/-- Packing takes the first digit of a normal number away, and unpacking puts it back. -/
theorem unpack_packComponents_of_normal {s : Sign} {m : ℕ} {e : ℤ} (h : Canonical spec m e)
    (hlt : e + spec.mantissaBitsWithoutImplicit < exponentRange spec)
    (hnormal : 2 ^ spec.mantissaBitsWithoutImplicit ≤ m) :
    UnpackedFloat.unpack spec (packComponents spec s
        (BitVec.ofNat _ (e + spec.exponentBias + spec.mantissaBitsWithoutImplicit).toNat)
        (BitVec.ofNat _ m)) =
      .finite s m e h.pos := by
  obtain ⟨htwo, hpow⟩ := two_le_exponentRange hspec
  have hbias := exponentBias_eq spec
  have hmin := minExponent_eq spec
  have hleast := h.least
  have hdigits : m < 2 ^ (spec.mantissaBitsWithoutImplicit + 1) := by
    rw [add_comm]
    exact h.digits
  rw [pow_succ] at hdigits
  have hbiased : (BitVec.ofNat spec.exponentBits
      (e + spec.exponentBias + spec.mantissaBitsWithoutImplicit).toNat).toNat =
      (e + spec.exponentBias + spec.mantissaBitsWithoutImplicit).toNat :=
    Nat.mod_eq_of_lt (by omega)
  have hrest : m % 2 ^ spec.mantissaBitsWithoutImplicit =
      m - 2 ^ spec.mantissaBitsWithoutImplicit := by
    rw [Nat.mod_eq_sub_mod hnormal, Nat.mod_eq_of_lt (by omega)]
  refine unpack_normal ?_ ?_ h.pos ?_ ?_
  · rw [ne_eq, eq_neg_one_iff, hbiased]
    omega
  · rw [← BitVec.toNat_inj.ne, hbiased, BitVec.toNat_ofNat, Nat.zero_mod]
    omega
  · rw [BitVec.toNat_ofNat, hrest]
    omega
  · rw [hbiased]
    omega

/-- Packing keeps every number but those that are too large, which become infinite. -/
theorem unpack_pack {s : Sign} {x : ℚ} (h : Sized spec s x u) :
    UnpackedFloat.unpack spec (UnpackedFloat.pack spec u) =
      if x < sizeLimit spec then u else .infinity s := by
  obtain ⟨htwo, hpow⟩ := two_le_exponentRange hspec
  have hbias := exponentBias_eq spec
  have hmin := minExponent_eq spec
  cases h with
  | zero =>
    rw [if_pos (sizeLimit_pos spec)]
    exact unpack_packedZero
  | @finite m e h =>
    have hleast := h.least
    have hlimit := size_lt_sizeLimit_iff hspec h
    have hbits : spec.mantissaBits = spec.mantissaBitsWithoutImplicit + 1 := Nat.add_comm _ _
    by_cases hlt : (m : ℚ) * 2 ^ e < sizeLimit spec
    · rw [if_pos hlt]
      rw [hlimit] at hlt
      unfold UnpackedFloat.pack
      dsimp only
      rw [if_neg (by omega)]
      split_ifs with hnormal
      · rw [hbits, Nat.add_right_cancel_iff, Nat.log2_eq_iff h.pos.ne'] at hnormal
        exact unpack_packComponents_of_normal hspec h hlt hnormal.1
      · have hsmall : m < 2 ^ spec.mantissaBitsWithoutImplicit := by
          by_contra hlarge
          apply hnormal
          rw [hbits, Nat.add_right_cancel_iff, Nat.log2_eq_iff h.pos.ne', ← hbits]
          exact ⟨not_lt.mp hlarge, h.digits⟩
        obtain rfl : e = spec.minExponent := by
          refine h.normal.resolve_left fun hle => ?_
          rw [hbits, Nat.add_sub_cancel] at hle
          omega
        exact unpack_subnormal h.pos (Nat.mod_eq_of_lt hsmall)
    · rw [if_neg hlt]
      rw [hlimit] at hlt
      unfold UnpackedFloat.pack
      dsimp only
      rw [if_pos (by omega)]
      exact unpack_packedInfinity s

/-- Whatever bits stand for a number stand for one of the format. -/
theorem isNumber_unpack {b : BitVec spec.numBits}
    (hb : UnpackedFloat.unpack spec b ≠ .notANumber) :
    IsNumber spec (UnpackedFloat.unpack spec b) := by
  obtain ⟨htwo, hpow⟩ := two_le_exponentRange hspec
  have hbias := exponentBias_eq spec
  have hmin := minExponent_eq spec
  have hbits : spec.mantissaBits = spec.mantissaBitsWithoutImplicit + 1 := Nat.add_comm _ _
  have hmantissa := (unpackMantissa b).isLt
  have hsucc := pow_succ 2 spec.mantissaBitsWithoutImplicit
  revert hb
  unfold UnpackedFloat.unpack
  dsimp only
  split_ifs with hones hzero hexp hzero
  · intro _
    exact .infinity _
  · intro hb
    exact absurd rfl hb
  · intro _
    exact .sized .zero (sizeLimit_pos spec)
  · intro _
    have hcanonical : Canonical spec (unpackMantissa b).toNat ((unpackExponent b).toNat -
        (spec.exponentBias + spec.mantissaBitsWithoutImplicit) + 1) := by
      rw [hexp, BitVec.toNat_ofNat, Nat.zero_mod, Nat.cast_zero]
      refine ⟨?_, ?_, ?_, .inr ?_⟩
      · exact Nat.pos_of_ne_zero fun heq => hzero (BitVec.eq_of_toNat_eq heq)
      · rw [hbits]
        omega
      · omega
      · omega
    refine .sized (.finite hcanonical) ?_
    rw [size_lt_sizeLimit_iff hspec hcanonical, hexp, BitVec.toNat_ofNat, Nat.zero_mod]
    omega
  · intro _
    have hpos : (unpackExponent b).toNat ≠ 0 := fun heq => hexp (BitVec.eq_of_toNat_eq heq)
    rw [eq_neg_one_iff] at hones
    have hbound := (unpackExponent b).isLt
    have hcanonical : Canonical spec (1#1 ++ unpackMantissa b).toNat
        ((unpackExponent b).toNat - (spec.exponentBias + spec.mantissaBitsWithoutImplicit)) := by
      rw [toNat_one_append]
      refine ⟨by positivity, ?_, ?_, .inl ?_⟩
      · rw [hbits]
        omega
      · omega
      · rw [hbits, Nat.add_sub_cancel]
        omega
    refine .sized (.finite hcanonical) ?_
    rw [size_lt_sizeLimit_iff hspec hcanonical]
    omega

/-- What is no number compares with nothing. -/
theorem isNumber_of_compare {b c : BitVec spec.numBits}
    (h : (UnpackedFloat.unpack spec b).compare (UnpackedFloat.unpack spec c) ≠ none) :
    IsNumber spec (UnpackedFloat.unpack spec b) ∧ IsNumber spec (UnpackedFloat.unpack spec c) := by
  constructor
  · refine isNumber_unpack hspec fun hb => h ?_
    rw [hb]
    rfl
  · refine isNumber_unpack hspec fun hc => h ?_
    rw [hc]
    cases UnpackedFloat.unpack spec b <;> rfl

theorem unpack_le_iff {b c : BitVec spec.numBits} :
    (UnpackedFloat.unpack spec b).le (UnpackedFloat.unpack spec c) = true ↔
      IsNumber spec (UnpackedFloat.unpack spec b) ∧ IsNumber spec (UnpackedFloat.unpack spec c) ∧
        place spec (UnpackedFloat.unpack spec b) ≤ place spec (UnpackedFloat.unpack spec c) := by
  constructor
  · intro h
    obtain ⟨hb, hc⟩ := isNumber_of_compare hspec (b := b) (c := c) fun hnone => by
      unfold UnpackedFloat.le at h
      rw [hnone] at h
      cases h
    exact ⟨hb, hc, (le_iff_place_le hb hc).mp h⟩
  · rintro ⟨hb, hc, h⟩
    exact (le_iff_place_le hb hc).mpr h

theorem unpack_lt_iff {b c : BitVec spec.numBits} :
    (UnpackedFloat.unpack spec b).lt (UnpackedFloat.unpack spec c) = true ↔
      IsNumber spec (UnpackedFloat.unpack spec b) ∧ IsNumber spec (UnpackedFloat.unpack spec c) ∧
        place spec (UnpackedFloat.unpack spec b) < place spec (UnpackedFloat.unpack spec c) := by
  constructor
  · intro h
    obtain ⟨hb, hc⟩ := isNumber_of_compare hspec (b := b) (c := c) fun hnone => by
      unfold UnpackedFloat.lt at h
      rw [hnone] at h
      cases h
    exact ⟨hb, hc, (lt_iff_place_lt hb hc).mp h⟩
  · rintro ⟨hb, hc, h⟩
    exact (lt_iff_place_lt hb hc).mpr h

end Packing

end Autopilot
