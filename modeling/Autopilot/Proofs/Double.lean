import Autopilot.Proofs.FloatOrder
import Autopilot.Scalar

/-!
# Doubles

The order of doubles is that of their places among the rational numbers, and what is no number stands
outside of it (`double_le_iff`, `double_lt_iff`).

`Amounts x q` says that the double `x` is finite, not negative, and exactly `q`.  Products and
quotients of such doubles are the doubles nearest to the exact ones, and a counter is the double
nearest to its count.
-/

namespace Autopilot

open Float.Model Float.Model.UnpackedFloat

/-! ### Comparisons -/

/-- Where a double stands among the rational numbers. -/
def rank (x : Float) : ℚ :=
  place .binary64 x.toModel.unpack

section Comparisons

variable {x y z : Float}

theorem isNumber_iff : IsNumber .binary64 x.toModel.unpack ↔ x.isNaN = false := by
  change _ ↔ x.toModel.unpack.isNaN = false
  constructor
  · intro h
    generalize x.toModel.unpack = u at h
    cases h with
    | infinity s => rfl
    | sized hsized _ => cases hsized <;> rfl
  · intro h
    refine isNumber_unpack (by decide) fun hnot => ?_
    change x.toModel.unpack = .notANumber at hnot
    rw [hnot] at h
    cases h

theorem double_le_iff :
    x ≤ y ↔ IsNumber .binary64 x.toModel.unpack ∧ IsNumber .binary64 y.toModel.unpack ∧
      rank x ≤ rank y := by
  change decide (x.toModel ≤ y.toModel) = true ↔ _
  rw [decide_eq_true_iff]
  exact unpack_le_iff (by decide)

theorem double_lt_iff :
    x < y ↔ IsNumber .binary64 x.toModel.unpack ∧ IsNumber .binary64 y.toModel.unpack ∧
      rank x < rank y := by
  change decide (x.toModel < y.toModel) = true ↔ _
  rw [decide_eq_true_iff]
  exact unpack_lt_iff (by decide)

theorem double_le_trans (h : x ≤ y) (h' : y ≤ z) : x ≤ z := by
  obtain ⟨hx, -, hxy⟩ := double_le_iff.mp h
  obtain ⟨-, hz, hyz⟩ := double_le_iff.mp h'
  exact double_le_iff.mpr ⟨hx, hz, hxy.trans hyz⟩

theorem double_lt_of_le_of_lt (h : x ≤ y) (h' : y < z) : x < z := by
  obtain ⟨hx, -, hxy⟩ := double_le_iff.mp h
  obtain ⟨-, hz, hyz⟩ := double_lt_iff.mp h'
  exact double_lt_iff.mpr ⟨hx, hz, hxy.trans_lt hyz⟩

theorem double_lt_of_lt_of_le (h : x < y) (h' : y ≤ z) : x < z := by
  obtain ⟨hx, -, hxy⟩ := double_lt_iff.mp h
  obtain ⟨-, hz, hyz⟩ := double_le_iff.mp h'
  exact double_lt_iff.mpr ⟨hx, hz, hxy.trans_le hyz⟩

theorem double_le_of_lt (h : x < y) : x ≤ y := by
  obtain ⟨hx, hy, hxy⟩ := double_lt_iff.mp h
  exact double_le_iff.mpr ⟨hx, hy, hxy.le⟩

theorem double_lt_trans (h : x < y) (h' : y < z) : x < z :=
  double_lt_of_lt_of_le h (double_le_of_lt h')

theorem double_not_lt_of_le (h : x ≤ y) : ¬ y < x := by
  obtain ⟨-, -, hxy⟩ := double_le_iff.mp h
  exact fun h' => hxy.not_gt (double_lt_iff.mp h').2.2

theorem double_le_of_not_lt (hx : IsNumber .binary64 x.toModel.unpack)
    (hy : IsNumber .binary64 y.toModel.unpack) (h : ¬ x < y) : y ≤ x := by
  refine double_le_iff.mpr ⟨hy, hx, not_lt.mp fun hrank => h ?_⟩
  exact double_lt_iff.mpr ⟨hx, hy, hrank⟩

end Comparisons

/-! ### Amounts -/

/-- The double is finite, not negative, and this number. -/
structure Amounts (x : Float) (q : ℚ) : Prop where
  sized : Sized .binary64 .positive q x.toModel.unpack
  lt : q < sizeLimit .binary64

variable {x y : Float} {p q : ℚ}

theorem amounts_pack {u : UnpackedFloat} (h : Sized .binary64 .positive q u)
    (hlt : q < sizeLimit .binary64) : Amounts (.ofModel (Float.Model.pack u)) q := by
  have hunpack : (Float.Model.pack u).unpack = u := by
    change UnpackedFloat.unpack .binary64 (UnpackedFloat.pack .binary64 u) = u
    rw [unpack_pack (by decide) h, if_pos hlt]
  refine ⟨?_, hlt⟩
  rw [hunpack]
  exact h

theorem Amounts.le_iff (hx : Amounts x p) (hy : Amounts y q) : x ≤ y ↔ p ≤ q := by
  have hrank : rank x ≤ rank y ↔ p ≤ q := by
    unfold rank
    rw [hx.sized.place_eq, hy.sized.place_eq]
    rfl
  rw [double_le_iff, hrank]
  exact ⟨fun h => h.2.2, fun h => ⟨.sized hx.sized hx.lt, .sized hy.sized hy.lt, h⟩⟩

theorem Amounts.nonneg (h : Amounts x q) : 0 ≤ q :=
  h.sized.nonneg

theorem Amounts.mul (hx : Amounts x p) (hy : Amounts y q)
    (hlt : nearest .binary64 (p * q) < sizeLimit .binary64) :
    Amounts (x * y) (nearest .binary64 (p * q)) :=
  amounts_pack (hx.sized.mul hy.sized) hlt

theorem Amounts.div (hx : Amounts x p) (hy : Amounts y q) (hq : 0 < q)
    (hlarge : 2 ^ Format.minExponent .binary64 ≤ p / q)
    (hlt : nearest .binary64 (p / q) < sizeLimit .binary64) :
    Amounts (x / y) (nearest .binary64 (p / q)) :=
  amounts_pack (hx.sized.div hy.sized hq hlarge) hlt

/-- Up to here, rounding does not leave the finite doubles. -/
theorem nearest_le_two_pow {k : ℕ} (hk : k < 1024) (hp : 0 ≤ p) (hle : p ≤ 2 ^ k) :
    nearest .binary64 p ≤ 2 ^ k ∧ nearest .binary64 p < sizeLimit .binary64 := by
  have hcanonical : Canonical .binary64 (2 ^ 52) (k - 52) := by
    refine ⟨by decide, by decide, ?_, .inl le_rfl⟩
    change (-1074 : ℤ) ≤ k - 52
    omega
  have hpow : ((2 ^ 52 : ℕ) : ℚ) * 2 ^ ((k : ℤ) - 52) = 2 ^ k := by
    rw [Nat.cast_pow, Nat.cast_ofNat, ← zpow_natCast, ← zpow_add₀ two_ne_zero, ← zpow_natCast]
    congr 1
    push_cast
    ring
  have hnearest : nearest .binary64 p ≤ nearest .binary64 (2 ^ k) := nearest_mono hp hle
  rw [← hpow, hcanonical.nearest_eq, hpow] at hnearest
  refine ⟨hnearest, hnearest.trans_lt ?_⟩
  exact pow_lt_pow_right₀ one_lt_two hk

theorem sized_ofInt (n : ℕ) :
    Sized .binary64 .positive (nearest .binary64 n) (.ofInt .binary64 n) := by
  unfold UnpackedFloat.ofInt UnpackedFloat.normalize
  rcases n.eq_zero_or_pos with rfl | hpos
  · rw [Nat.cast_zero, nearest_zero]
    exact .zero
  · have hgt : compare (n : ℤ) 0 = .gt := compare_gt_iff_gt.mpr (by omega)
    rw [hgt]
    have hsized := @sized_round .binary64 .positive n hpos 0
    rwa [zpow_zero, mul_one] at hsized

theorem amounts_doubleOfInt {n : ℕ} (hn : n ≤ 2 ^ 64) :
    Amounts (doubleOfInt n) (nearest .binary64 n) := by
  have hle : (n : ℚ) ≤ 2 ^ 64 := by exact_mod_cast hn
  rw [doubleOfInt_eq]
  exact amounts_pack (sized_ofInt n) (nearest_le_two_pow (by decide) n.cast_nonneg hle).2

theorem amounts_one : Amounts 1.0 1 := by
  have hunpack : (1.0 : Float).toModel.unpack = .finite .positive (2 ^ 52) (-52) (by decide) := by
    rfl
  have hcanonical : Canonical .binary64 (2 ^ 52) (-52) :=
    ⟨by decide, by decide, by decide, .inl le_rfl⟩
  refine ⟨?_, one_lt_pow₀ one_lt_two (by decide)⟩
  have hvalue : (1 : ℚ) = ((2 ^ 52 : ℕ) : ℚ) * 2 ^ (-52 : ℤ) := by norm_num
  rw [hunpack, hvalue]
  exact .finite hcanonical

theorem amounts_toFloat (n : UInt32) : Amounts n.toFloat n.toNat := by
  have hn : n.toNat < 2 ^ 32 := n.toNat_lt
  have hnearest : nearest .binary64 n.toNat = n.toNat :=
    nearest_natCast (hn.trans (by decide))
  have hle : (n.toNat : ℚ) ≤ 2 ^ 32 := by exact_mod_cast hn.le
  have hsized := sized_ofInt n.toNat
  have hlt := (nearest_le_two_pow (by decide) n.toNat.cast_nonneg hle).2
  rw [hnearest] at hsized hlt
  exact amounts_pack hsized hlt

/-! ### Finite doubles -/

theorem isFinite_of_sized {s : Sign} {u : UnpackedFloat} (h : Sized .binary64 s q u) :
    u.isFinite = true := by
  cases h <;> rfl

theorem exists_sized_of_isNumber {u : UnpackedFloat} (hu : IsNumber .binary64 u)
    (h : u.isFinite = true) : ∃ s p, Sized .binary64 s p u := by
  cases hu with
  | sized hsized _ => exact ⟨_, _, hsized⟩
  | infinity s => cases h

/-- A finite double has a sign and a size. -/
theorem exists_sized (h : x.isFinite = true) : ∃ s p, Sized .binary64 s p x.toModel.unpack := by
  have hnumber : x.toModel.unpack ≠ .notANumber := by
    intro hnot
    change x.toModel.unpack.isFinite = true at h
    rw [hnot] at h
    cases h
  exact exists_sized_of_isNumber (isNumber_unpack (by decide) hnumber) h

/-- The size of a double that is not below zero is at most that of any amount it is at most.  It may
be the negative zero. -/
theorem exists_sized_le (h : x.isFinite = true) (hlow : 0.0 ≤ x) (hy : Amounts y q) (hle : x ≤ y) :
    ∃ s, ∃ p ≤ q, Sized .binary64 s p x.toModel.unpack := by
  obtain ⟨s, p, hsized⟩ := exists_sized h
  refine ⟨s, p, ?_, hsized⟩
  have hrank : rank x = signed s p := hsized.place_eq
  have hbelow := (double_le_iff.mp hle).2.2
  rw [hrank, show rank y = q from hy.sized.place_eq] at hbelow
  have habove := (double_le_iff.mp hlow).2.2
  rw [hrank, show rank 0.0 = 0 from rfl] at habove
  have hnonneg := hy.nonneg
  cases s with
  | positive => exact hbelow
  | negative =>
    change 0 ≤ -p at habove
    linarith

/-- The product of two doubles that are no greater than some amounts is finite, if the product of
the amounts is not too large. -/
theorem isFinite_mul {a b : Float} (hx : x.isFinite = true) (hxlow : 0.0 ≤ x) (ha : Amounts a p)
    (hxle : x ≤ a) (hy : y.isFinite = true) (hylow : 0.0 ≤ y) (hb : Amounts b q) (hyle : y ≤ b)
    {k : ℕ} (hk : k < 1024) (hpq : p * q ≤ 2 ^ k) : (x * y).isFinite = true := by
  obtain ⟨s, p', hp, hsized⟩ := exists_sized_le hx hxlow ha hxle
  obtain ⟨t, q', hq, hsized'⟩ := exists_sized_le hy hylow hb hyle
  have hnonneg := hsized.nonneg
  have hnonneg' := hsized'.nonneg
  have hproduct : p' * q' ≤ 2 ^ k :=
    (mul_le_mul hp hq hnonneg' (hnonneg.trans hp)).trans hpq
  have hlt := (nearest_le_two_pow hk (mul_nonneg hnonneg hnonneg') hproduct).2
  have hunpack : (x * y).toModel.unpack = UnpackedFloat.mul .binary64 x.toModel.unpack
      y.toModel.unpack := by
    change UnpackedFloat.unpack .binary64 (UnpackedFloat.pack .binary64 _) = _
    rw [unpack_pack (by decide) (hsized.mul hsized'), if_pos hlt]
  change (x * y).toModel.unpack.isFinite = true
  rw [hunpack]
  exact isFinite_of_sized (hsized.mul hsized')

end Autopilot
