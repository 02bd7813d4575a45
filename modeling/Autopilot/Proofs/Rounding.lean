import Mathlib

/-!
# Rounding

A float is computed by rounding an exact number to the digits and the exponents of its format.
`nearest` is that rounding on rational numbers: to the nearest multiple of the last place that the
format has for a number of this size (`lastPlace`), and to the even one if two are equally near.  It
is monotone (`nearest_mono`).

The model works on a mantissa, an exponent and what is known of the digits behind them.
`sized_roundWithAccuracy` says that it does round to `nearest`, and `Sized.mul` and `Sized.div` that
products and quotients of floats are the nearest numbers to the exact ones.  All say it up to an
exponent that is too large for the format.
-/

namespace Autopilot

open Float.Model Float.Model.UnpackedFloat

/-! ### To the nearest integer -/

/-- `x` is nearer to the next integer than to its floor, or as near and the floor is odd. -/
def RoundsUp (x : ℚ) : Prop :=
  1 / 2 < Int.fract x ∨ Int.fract x = 1 / 2 ∧ ⌊x⌋ % 2 = 1

instance (x : ℚ) : Decidable (RoundsUp x) :=
  inferInstanceAs (Decidable (_ ∨ _))

/-- The integer nearest to `x`, the even one if two are equally near. -/
def nearestEven (x : ℚ) : ℤ :=
  if RoundsUp x then ⌊x⌋ + 1 else ⌊x⌋

theorem floor_le_nearestEven (x : ℚ) : ⌊x⌋ ≤ nearestEven x := by
  unfold nearestEven
  split_ifs <;> omega

theorem nearestEven_le (x : ℚ) : nearestEven x ≤ ⌊x⌋ + 1 := by
  unfold nearestEven
  split_ifs <;> omega

@[simp] theorem nearestEven_intCast (n : ℤ) : nearestEven n = n := by
  have hup : ¬ RoundsUp n := by
    unfold RoundsUp
    rw [Int.fract_intCast]
    norm_num
  unfold nearestEven
  rw [if_neg hup, Int.floor_intCast]

theorem nearestEven_mono : Monotone nearestEven := by
  intro x y hxy
  rcases (Int.floor_mono hxy).lt_or_eq with hlt | heq
  · have hx := nearestEven_le x
    have hy := floor_le_nearestEven y
    omega
  · -- Between two integers, a larger number rounds up whenever a smaller one does.
    have hfract : Int.fract x ≤ Int.fract y := by
      unfold Int.fract
      rw [heq]
      linarith
    have hup : RoundsUp x → RoundsUp y := by
      rintro (hgt | ⟨hhalf, hodd⟩)
      · exact .inl (hgt.trans_le hfract)
      · rw [hhalf] at hfract
        rcases hfract.lt_or_eq with hgt | hhalf'
        · exact .inl hgt
        · exact .inr ⟨hhalf'.symm, heq ▸ hodd⟩
    unfold nearestEven
    split_ifs with hx hy
    · omega
    · exact absurd (hup hx) hy
    · omega
    · omega

/-! ### Extended mantissas -/

/-- The halves of the last place of an extended mantissa. -/
def halves (em : ExtendedMantissa) : ℕ :=
  2 * em.mantissa + em.roundBit.toNat

/-- The extended mantissa stands for `x`: its halves are all of it without the sticky bit, and all
but a part of one more half with it. -/
def Shows (em : ExtendedMantissa) (x : ℚ) : Prop :=
  if em.stickyBit then (halves em : ℚ) < 2 * x ∧ 2 * x < halves em + 1 else 2 * x = halves em

theorem shows_exact (m : ℕ) : Shows (.ofMantissaAndAccuracy m .exact) m := by
  change 2 * (m : ℚ) = ((2 * m + 0 : ℕ) : ℚ)
  push_cast
  ring

theorem Shows.shiftRightOne {em : ExtendedMantissa} {x : ℚ} (h : Shows em x) :
    Shows em.shiftRightOne (x / 2) := by
  obtain ⟨m, round, sticky⟩ := em
  have hhalves : halves (ExtendedMantissa.shiftRightOne ⟨m, round, sticky⟩) = m := by
    have hdigit : (m % 2 != 0).toNat = m % 2 := by
      rcases Nat.mod_two_eq_zero_or_one m with hm | hm <;> rw [hm] <;> rfl
    change 2 * (m / 2) + (m % 2 != 0).toNat = m
    omega
  unfold Shows at h ⊢
  rw [hhalves, mul_div_cancel₀ x two_ne_zero]
  unfold halves at h
  cases round <;> cases sticky <;>
    simp [ExtendedMantissa.shiftRightOne] at h ⊢
  · exact h
  · constructor <;> linarith
  · constructor <;> linarith
  · constructor <;> linarith

theorem Shows.shiftRight {em : ExtendedMantissa} {x : ℚ} (h : Shows em x) (d : ℕ) :
    Shows (em >>> d) (x / 2 ^ d) := by
  induction d with
  | zero => rwa [pow_zero, div_one]
  | succ d ih =>
    rw [pow_succ, ← div_div]
    exact ih.shiftRightOne

theorem Shows.bounds {em : ExtendedMantissa} {x : ℚ} (h : Shows em x) :
    (em.mantissa : ℚ) ≤ x ∧ x < em.mantissa + 1 := by
  obtain ⟨m, round, sticky⟩ := em
  unfold Shows halves at h
  cases round <;> cases sticky <;> simp at h <;> constructor <;> dsimp only <;> linarith

theorem Shows.floor_eq {em : ExtendedMantissa} {x : ℚ} (h : Shows em x) : ⌊x⌋ = em.mantissa := by
  rw [Int.floor_eq_iff]
  exact_mod_cast h.bounds

theorem Shows.roundedMantissa {em : ExtendedMantissa} {x : ℚ} (h : Shows em x) :
    (em.roundedMantissa : ℤ) = nearestEven x := by
  have hfloor := h.floor_eq
  obtain ⟨m, round, sticky⟩ := em
  change ⌊x⌋ = m at hfloor
  have hup : RoundsUp x ↔ 1 < 2 * (x - m) ∨ 2 * (x - m) = 1 ∧ (m : ℤ) % 2 = 1 := by
    have hfract : Int.fract x = x - m := by
      unfold Int.fract
      rw [hfloor]
      rfl
    unfold RoundsUp
    rw [hfract, hfloor, div_lt_iff₀' two_pos, eq_div_iff two_ne_zero, mul_comm (x - m)]
  unfold nearestEven
  rw [hfloor]
  unfold Shows halves at h
  -- The round bit says on which side of one half the fraction is, the sticky bit that it is not
  -- there.
  cases round with
  | false =>
    have hdown : ¬ RoundsUp x := by
      rw [hup]
      cases sticky <;> simp at h <;> rintro (hgt | ⟨heq, -⟩) <;> linarith
    rw [if_neg hdown]
    cases sticky <;> rfl
  | true =>
    cases sticky with
    | false =>
      have hhalf : 2 * (x - m) = 1 := by
        simp at h
        linarith
      change ((m + m % 2 : ℕ) : ℤ) = _
      split_ifs with hodd
      · rcases hup.mp hodd with hgt | ⟨-, hodd⟩
        · linarith
        · omega
      · have heven : ¬ (m : ℤ) % 2 = 1 := fun hodd' => hodd (hup.mpr (.inr ⟨hhalf, hodd'⟩))
        omega
    | true =>
      have hgt : RoundsUp x := by
        simp at h
        exact hup.mpr (.inl (by linarith))
      rw [if_pos hgt]
      rfl

/-! ### Formats -/

section Format

variable {spec : Format}

/-- The exponent of the last place that the format has for a number of size `x`. -/
def lastPlace (spec : Format) (x : ℚ) : ℤ :=
  spec.targetExponent (Int.log 2 x + 1)

/-- The number of the format nearest to a positive number, if its exponents went on without end. -/
def nearest (spec : Format) (x : ℚ) : ℚ :=
  nearestEven (x / 2 ^ lastPlace spec x) * 2 ^ lastPlace spec x

theorem log_eq {x : ℚ} {k : ℤ} (hlow : 2 ^ k ≤ x) (hhigh : x < 2 ^ (k + 1)) : Int.log 2 x = k := by
  have hpos : 0 < x := (zpow_pos two_pos k).trans_le hlow
  have h1 : k ≤ Int.log 2 x := (Int.zpow_le_iff_le_log one_lt_two hpos).mp (by exact_mod_cast hlow)
  have h2 : Int.log 2 x < k + 1 :=
    (Int.lt_zpow_iff_log_lt one_lt_two hpos).mp (by exact_mod_cast hhigh)
  omega

theorem lastPlace_mono (spec : Format) {x y : ℚ} (hx : 0 < x) (hxy : x ≤ y) :
    lastPlace spec x ≤ lastPlace spec y := by
  have hlog := Int.log_mono_right (b := 2) hx hxy
  unfold lastPlace Format.targetExponent
  omega

/-- No number needs more digits than the format has. -/
theorem div_lastPlace_lt (spec : Format) (x : ℚ) :
    x / 2 ^ lastPlace spec x < 2 ^ spec.mantissaBits := by
  have hplace : Int.log 2 x + 1 ≤ spec.mantissaBits + lastPlace spec x := by
    unfold lastPlace Format.targetExponent
    omega
  rw [div_lt_iff₀ (zpow_pos two_pos _), ← zpow_natCast, ← zpow_add₀ two_ne_zero]
  calc x < 2 ^ (Int.log 2 x + 1) := by exact_mod_cast Int.lt_zpow_succ_log_self one_lt_two x
    _ ≤ 2 ^ (spec.mantissaBits + lastPlace spec x) := zpow_le_zpow_right₀ one_le_two hplace

/-- Above the smallest exponent, a number has all digits of the format. -/
theorem le_div_lastPlace {x : ℚ} (hx : 0 < x) (hplace : spec.minExponent < lastPlace spec x) :
    2 ^ (spec.mantissaBits - 1) ≤ x / 2 ^ lastPlace spec x := by
  have hbits : 0 < spec.mantissaBits := by unfold Format.mantissaBits; omega
  have hlog : ((spec.mantissaBits - 1 : ℕ) : ℤ) + lastPlace spec x = Int.log 2 x := by
    unfold lastPlace Format.targetExponent at hplace ⊢
    omega
  rw [le_div_iff₀ (zpow_pos two_pos _), ← zpow_natCast, ← zpow_add₀ two_ne_zero, hlog]
  exact_mod_cast Int.zpow_log_le_self one_lt_two hx

theorem nearestEven_lastPlace_le (spec : Format) (x : ℚ) :
    nearestEven (x / 2 ^ lastPlace spec x) ≤ 2 ^ spec.mantissaBits := by
  have hmono := nearestEven_mono (div_lastPlace_lt spec x).le
  have hcast : ((2 : ℚ) ^ spec.mantissaBits) = ((2 ^ spec.mantissaBits : ℤ) : ℚ) := by norm_cast
  rwa [hcast, nearestEven_intCast] at hmono

theorem le_nearestEven_lastPlace (spec : Format) {x : ℚ} (hx : 0 < x)
    (hplace : spec.minExponent < lastPlace spec x) :
    2 ^ (spec.mantissaBits - 1) ≤ nearestEven (x / 2 ^ lastPlace spec x) := by
  have hmono := nearestEven_mono (le_div_lastPlace hx hplace)
  have hcast : ((2 : ℚ) ^ (spec.mantissaBits - 1)) = ((2 ^ (spec.mantissaBits - 1) : ℤ) : ℚ) := by
    norm_cast
  rwa [hcast, nearestEven_intCast] at hmono

@[simp] theorem nearest_zero (spec : Format) : nearest spec 0 = 0 := by
  have hzero : nearestEven 0 = 0 := nearestEven_intCast 0
  unfold nearest
  rw [zero_div, hzero, Int.cast_zero, zero_mul]

theorem nearest_nonneg {x : ℚ} (hx : 0 ≤ x) : 0 ≤ nearest spec x := by
  have hpos : (0 : ℚ) < 2 ^ lastPlace spec x := zpow_pos two_pos _
  have hfloor : 0 ≤ ⌊x / 2 ^ lastPlace spec x⌋ := Int.floor_nonneg.mpr (div_nonneg hx hpos.le)
  have hnearest := hfloor.trans (floor_le_nearestEven _)
  exact mul_nonneg (by exact_mod_cast hnearest) hpos.le

theorem nearest_mono {x y : ℚ} (hx : 0 ≤ x) (hxy : x ≤ y) : nearest spec x ≤ nearest spec y := by
  rcases hx.eq_or_lt with rfl | hx
  · rw [nearest_zero]
    exact nearest_nonneg hxy
  have hpos : ∀ k : ℤ, (0 : ℚ) < 2 ^ k := fun k => zpow_pos two_pos k
  unfold nearest
  rcases (lastPlace_mono spec hx hxy).lt_or_eq with hlt | heq
  · -- The smaller number stays below a power of two that the larger one has reached.
    have hmin : spec.minExponent ≤ lastPlace spec x := le_max_right _ _
    have hbits : 0 < spec.mantissaBits := by unfold Format.mantissaBits; omega
    have hlow := nearestEven_lastPlace_le spec x
    have hhigh := le_nearestEven_lastPlace spec (hx.trans_le hxy) (hmin.trans_lt hlt)
    calc (nearestEven (x / 2 ^ lastPlace spec x) : ℚ) * 2 ^ lastPlace spec x
        ≤ 2 ^ spec.mantissaBits * 2 ^ lastPlace spec x :=
          mul_le_mul_of_nonneg_right (by exact_mod_cast hlow) (hpos _).le
      _ = 2 ^ ((spec.mantissaBits : ℤ) + lastPlace spec x) := by
          rw [zpow_add₀ two_ne_zero, zpow_natCast]
      _ ≤ 2 ^ (((spec.mantissaBits - 1 : ℕ) : ℤ) + lastPlace spec y) :=
          zpow_le_zpow_right₀ one_le_two (by omega)
      _ = 2 ^ (spec.mantissaBits - 1) * 2 ^ lastPlace spec y := by
          rw [zpow_add₀ two_ne_zero, zpow_natCast]
      _ ≤ nearestEven (y / 2 ^ lastPlace spec y) * 2 ^ lastPlace spec y :=
          mul_le_mul_of_nonneg_right (by exact_mod_cast hhigh) (hpos _).le
  · rw [← heq]
    have hdiv : x / 2 ^ lastPlace spec x ≤ y / 2 ^ lastPlace spec x :=
      div_le_div_of_nonneg_right hxy (hpos _).le
    exact mul_le_mul_of_nonneg_right (by exact_mod_cast nearestEven_mono hdiv) (hpos _).le

/-! ### Rounding in the model -/

/-- The format has this mantissa at this exponent, and no other mantissa for the same number. -/
structure Canonical (spec : Format) (m : ℕ) (e : ℤ) : Prop where
  pos : 0 < m
  digits : m < 2 ^ spec.mantissaBits
  least : spec.minExponent ≤ e
  normal : 2 ^ (spec.mantissaBits - 1) ≤ m ∨ e = spec.minExponent

/-- The float is canonical and has the sign `s` and the size `x`. -/
inductive Sized (spec : Format) (s : Sign) : ℚ → UnpackedFloat → Prop where
  | zero : Sized spec s 0 (.zero s)
  | finite {m : ℕ} {e : ℤ} (h : Canonical spec m e) : Sized spec s (m * 2 ^ e) (.finite s m e h.pos)

theorem totalExponent_eq {m : ℕ} (hm : 0 < m) {x : ℚ} {e : ℤ} (hlow : m * 2 ^ e ≤ x)
    (hhigh : x < (m + 1) * 2 ^ e) : totalExponent m e = Int.log 2 x + 1 := by
  have hpos : (0 : ℚ) < 2 ^ e := zpow_pos two_pos e
  have h1 : 2 ^ m.log2 ≤ m := Nat.log2_self_le hm.ne'
  have h2 : m + 1 ≤ 2 ^ (m.log2 + 1) := Nat.lt_log2_self
  have hlog : Int.log 2 x = m.log2 + e := by
    refine log_eq ?_ ?_
    · rw [zpow_add₀ two_ne_zero, zpow_natCast]
      refine le_trans (mul_le_mul_of_nonneg_right ?_ hpos.le) hlow
      exact_mod_cast h1
    · rw [add_right_comm, zpow_add₀ two_ne_zero]
      refine hhigh.trans_le (mul_le_mul_of_nonneg_right ?_ hpos.le)
      exact_mod_cast h2
  unfold totalExponent
  rw [hlog]
  ring

theorem shiftToTargetExponent_eq (spec : Format) (m : ℕ) (e : ℤ) (acc : Accuracy) :
    shiftToTargetExponent spec m e acc =
      (ExtendedMantissa.ofMantissaAndAccuracy m acc >>>
          (spec.targetExponent (totalExponent m e) - e).toNat,
        e + (spec.targetExponent (totalExponent m e) - e).toNat) := rfl

theorem minExponent_nonpos (spec : Format) : spec.minExponent ≤ 0 := by
  have hpow : (1 : ℤ) ≤ 2 ^ (spec.exponentBits - 1) := one_le_pow₀ one_le_two
  have hbits := spec.hm
  unfold Format.minExponent Format.mantissaBits
  omega

theorem mantissaBits_pos (spec : Format) : 0 < spec.mantissaBits := by
  unfold Format.mantissaBits
  omega

/-- A rounded mantissa that the format has room for stays as it is. -/
theorem shiftToTargetExponent_of_lt {q : ℕ} (hq : q < 2 ^ spec.mantissaBits) {t : ℤ}
    (ht : spec.minExponent ≤ t) :
    shiftToTargetExponent spec q t .exact = (.ofMantissaAndAccuracy q .exact, t) := by
  have hlog : q.log2 < spec.mantissaBits := by
    rcases Nat.eq_zero_or_pos q with rfl | hpos
    · exact mantissaBits_pos spec
    · exact (Nat.log2_lt hpos.ne').mpr hq
  have hshift : (spec.targetExponent (totalExponent q t) - t).toNat = 0 := by
    unfold Format.targetExponent totalExponent
    omega
  rw [shiftToTargetExponent_eq, hshift, Nat.cast_zero, add_zero]
  rfl

/-- Rounding can add one digit, and then the last one is zero. -/
theorem shiftToTargetExponent_two_pow {t : ℤ} (ht : spec.minExponent ≤ t) :
    shiftToTargetExponent spec (2 ^ spec.mantissaBits) t .exact =
      ((ExtendedMantissa.ofMantissaAndAccuracy (2 ^ spec.mantissaBits) .exact).shiftRightOne,
        t + 1) := by
  have hshift : (spec.targetExponent (totalExponent (2 ^ spec.mantissaBits) t) - t).toNat = 1 := by
    unfold Format.targetExponent totalExponent
    rw [Nat.log2_two_pow]
    omega
  rw [shiftToTargetExponent_eq, hshift]
  rfl

theorem Sized.of_eq {s : Sign} {x : ℚ} {m : ℕ} {e : ℤ} (hx : x = m * 2 ^ e)
    (hcanonical : 0 < m → Canonical spec m e) :
    Sized spec s x (if h : m = 0 then .zero s else .finite s m e (Nat.pos_of_ne_zero h)) := by
  subst hx
  split_ifs with hm
  · subst hm
    rw [Nat.cast_zero, zero_mul]
    exact .zero
  · exact .finite (hcanonical (Nat.pos_of_ne_zero hm))

/-- A rounded mantissa has at most one digit too many, and is brought to its place without another
rounding. -/
theorem sized_shiftToTargetExponent {s : Sign} {q : ℕ} {t : ℤ} (hle : q ≤ 2 ^ spec.mantissaBits)
    (hmin : spec.minExponent ≤ t)
    (hnormal : spec.minExponent < t → 2 ^ (spec.mantissaBits - 1) ≤ q) :
    Sized spec s (q * 2 ^ t)
      (if h : (shiftToTargetExponent spec q t .exact).1.mantissa = 0 then .zero s
        else .finite s _ (shiftToTargetExponent spec q t .exact).2 (Nat.pos_of_ne_zero h)) := by
  rcases hle.lt_or_eq with hlt | rfl
  · rw [shiftToTargetExponent_of_lt hlt hmin]
    refine .of_eq rfl fun hq => ⟨hq, hlt, hmin, ?_⟩
    rcases hmin.lt_or_eq with hgt | heq
    · exact .inl (hnormal hgt)
    · exact .inr heq.symm
  · rw [shiftToTargetExponent_two_pow hmin]
    have hhalf : 2 ^ spec.mantissaBits / 2 = 2 ^ (spec.mantissaBits - 1) :=
      Nat.pow_div (mantissaBits_pos spec) two_pos
    have hvalue : ((2 ^ spec.mantissaBits : ℕ) : ℚ) * 2 ^ t =
        ((2 ^ spec.mantissaBits / 2 : ℕ) : ℚ) * 2 ^ (t + 1) := by
      have hdigits : (2 : ℚ) ^ spec.mantissaBits = 2 ^ (spec.mantissaBits - 1) * 2 := by
        rw [← pow_succ, Nat.sub_add_cancel (mantissaBits_pos spec)]
      rw [hhalf, zpow_add_one₀ two_ne_zero]
      push_cast
      rw [hdigits]
      ring
    have hdigits : 2 ^ spec.mantissaBits / 2 < 2 ^ spec.mantissaBits :=
      Nat.div_lt_self (Nat.two_pow_pos _) one_lt_two
    exact .of_eq hvalue fun hq => ⟨hq, hdigits, by omega, .inl hhalf.ge⟩

/-- Rounding gives the nearest number of the format, unless its exponent is too large. -/
theorem sized_roundWithAccuracy {s : Sign} {m : ℕ} (hm : 0 < m) {e : ℤ} {acc : Accuracy} {y : ℚ}
    (hshows : Shows (.ofMantissaAndAccuracy m acc) y) (he : e ≤ lastPlace spec (y * 2 ^ e)) :
    Sized spec s (nearest spec (y * 2 ^ e)) (roundWithAccuracy spec s m e acc) := by
  have hmantissa : (ExtendedMantissa.ofMantissaAndAccuracy m acc).mantissa = m := by
    rcases acc with _ | (_ | _ | _) <;> rfl
  obtain ⟨hlow, hhigh⟩ := hshows.bounds
  rw [hmantissa] at hlow hhigh
  have hpos : (0 : ℚ) < 2 ^ e := zpow_pos two_pos e
  have htotal : totalExponent m e = Int.log 2 (y * 2 ^ e) + 1 :=
    totalExponent_eq hm (mul_le_mul_of_nonneg_right hlow hpos.le)
      (mul_lt_mul_of_pos_right hhigh hpos)
  have hx : 0 < y * 2 ^ e := mul_pos (lt_of_lt_of_le (by exact_mod_cast hm) hlow) hpos
  obtain ⟨d, hd⟩ := Int.le.dest he
  -- The first shift leaves the places that the format has.
  have hfirst : shiftToTargetExponent spec m e acc =
      (ExtendedMantissa.ofMantissaAndAccuracy m acc >>> d, lastPlace spec (y * 2 ^ e)) := by
    have hplace : spec.targetExponent (totalExponent m e) = lastPlace spec (y * 2 ^ e) := by
      rw [htotal]
      rfl
    rw [shiftToTargetExponent_eq, hplace, ← hd, add_sub_cancel_left, Int.toNat_natCast]
  have hquotient : y * 2 ^ e / 2 ^ lastPlace spec (y * 2 ^ e) = y / 2 ^ d := by
    rw [← hd, zpow_add₀ two_ne_zero, zpow_natCast, mul_comm y, mul_div_mul_left _ _ hpos.ne']
  have hrounded := (hshows.shiftRight d).roundedMantissa
  rw [← hquotient] at hrounded
  have hnearest : nearest spec (y * 2 ^ e) =
      ((ExtendedMantissa.ofMantissaAndAccuracy m acc >>> d).roundedMantissa : ℚ) *
        2 ^ lastPlace spec (y * 2 ^ e) := by
    unfold nearest
    rw [← hrounded, Int.cast_natCast]
  have hle := nearestEven_lastPlace_le spec (y * 2 ^ e)
  have hnormal := le_nearestEven_lastPlace spec hx
  rw [← hrounded] at hle hnormal
  unfold roundWithAccuracy
  rw [hfirst, hnearest]
  exact sized_shiftToTargetExponent (by exact_mod_cast hle) (le_max_right _ _)
    fun hgt => by exact_mod_cast hnormal hgt

theorem targetExponent_totalExponent {m : ℕ} (hm : 0 < m) (e : ℤ) :
    spec.targetExponent (totalExponent m e) = lastPlace spec (m * 2 ^ e) := by
  have hpos : (0 : ℚ) < 2 ^ e := zpow_pos two_pos e
  rw [totalExponent_eq hm le_rfl (mul_lt_mul_of_pos_right (lt_add_one _) hpos)]
  rfl

theorem Canonical.lastPlace_eq {m : ℕ} {e : ℤ} (h : Canonical spec m e) :
    lastPlace spec (m * 2 ^ e) = e := by
  have hleast := h.least
  have hhigh : m.log2 < spec.mantissaBits := (Nat.log2_lt h.pos.ne').mpr h.digits
  rw [← targetExponent_totalExponent h.pos]
  unfold Format.targetExponent totalExponent
  rcases h.normal with hdigits | rfl
  · have hlow := (Nat.le_log2 h.pos.ne').mpr hdigits
    omega
  · omega

theorem Canonical.nearest_eq {m : ℕ} {e : ℤ} (h : Canonical spec m e) :
    nearest spec (m * 2 ^ e) = m * 2 ^ e := by
  have hpos : (2 : ℚ) ^ e ≠ 0 := (zpow_pos two_pos e).ne'
  have hwhole : nearestEven m = m := nearestEven_intCast m
  unfold nearest
  rw [h.lastPlace_eq, mul_div_cancel_right₀ _ hpos, hwhole, Int.cast_natCast]

/-- A number with no more digits than the format has, and none below its least place, is its own
nearest number. -/
theorem nearest_natCast_mul {n : ℕ} (hn : n < 2 ^ spec.mantissaBits) {e : ℤ}
    (he : spec.minExponent ≤ e) : nearest spec (n * 2 ^ e) = n * 2 ^ e := by
  rcases Nat.eq_zero_or_pos n with rfl | hpos
  · rw [Nat.cast_zero, zero_mul, nearest_zero]
  have hplace : lastPlace spec (n * 2 ^ e) ≤ e := by
    have hdigits : n.log2 < spec.mantissaBits := (Nat.log2_lt hpos.ne').mpr hn
    rw [← targetExponent_totalExponent hpos]
    unfold Format.targetExponent totalExponent
    omega
  obtain ⟨d, hd⟩ := Int.eq_ofNat_of_zero_le (sub_nonneg.mpr hplace)
  have hexp : e = lastPlace spec (n * 2 ^ e) + d := by omega
  have hpow : (2 : ℚ) ^ lastPlace spec (n * 2 ^ e) ≠ 0 := (zpow_pos two_pos _).ne'
  have hwhole : (n : ℚ) * 2 ^ e / 2 ^ lastPlace spec (n * 2 ^ e) = ((n * 2 ^ d : ℕ) : ℤ) := by
    rw [div_eq_iff hpow]
    nth_rewrite 1 [hexp]
    rw [zpow_add₀ two_ne_zero, zpow_natCast]
    push_cast
    ring
  unfold nearest
  rw [hwhole, nearestEven_intCast, ← hwhole, div_mul_cancel₀ _ hpow]

/-- A whole number with no more digits than the format has is its own nearest number. -/
theorem nearest_natCast {n : ℕ} (hn : n < 2 ^ spec.mantissaBits) : nearest spec n = n := by
  have hnearest := nearest_natCast_mul hn (minExponent_nonpos spec)
  rwa [zpow_zero, mul_one] at hnearest

theorem sized_round (s : Sign) {m : ℕ} (hm : 0 < m) (e : ℤ) :
    Sized spec s (nearest spec (m * 2 ^ e)) (UnpackedFloat.round spec s m e) := by
  unfold UnpackedFloat.round decreaseExponent
  rw [targetExponent_totalExponent hm]
  dsimp only
  generalize hd : (e - lastPlace spec (m * 2 ^ e)).toNat = d
  -- Places that are added in front of the rounding do not change the number.
  have hvalue : ((m <<< d : ℕ) : ℚ) * 2 ^ (e - d) = m * 2 ^ e := by
    rw [Nat.shiftLeft_eq, Nat.cast_mul, mul_assoc, Nat.cast_pow, Nat.cast_ofNat, ← zpow_natCast,
      ← zpow_add₀ two_ne_zero, add_sub_cancel]
  have hplace : e - d ≤ lastPlace spec ((m <<< d : ℕ) * 2 ^ (e - d)) := by
    rw [hvalue]
    omega
  rw [← hvalue]
  exact sized_roundWithAccuracy (Nat.shiftLeft_pos_iff.mpr hm) (shows_exact (m <<< d)) hplace

theorem Sized.mul {s t : Sign} {x y : ℚ} {u v : UnpackedFloat} (hu : Sized spec s x u)
    (hv : Sized spec t y v) :
    Sized spec (s * t) (nearest spec (x * y)) (UnpackedFloat.mul spec u v) := by
  cases hu with
  | zero =>
    rw [zero_mul, nearest_zero]
    cases hv <;> exact .zero
  | @finite m e h =>
    cases hv with
    | zero =>
      rw [mul_zero, nearest_zero]
      exact .zero
    | @finite m' e' h' =>
      have hvalue : (m : ℚ) * 2 ^ e * (m' * 2 ^ e') = ((m * m' : ℕ) : ℚ) * 2 ^ (e + e') := by
        rw [zpow_add₀ two_ne_zero]
        push_cast
        ring
      have hprod : 0 < m * m' := Nat.mul_pos h.pos h'.pos
      -- A factor with all digits leaves enough of them, and two without are far too small.
      have hplace : e + e' ≤ lastPlace spec ((m * m' : ℕ) * 2 ^ (e + e')) := by
        have hle : 2 ^ (spec.mantissaBits - 1) ≤ m * m' ∨ e + e' ≤ spec.minExponent := by
          have hnonpos := minExponent_nonpos spec
          rcases h.normal with hdigits | rfl
          · exact .inl (hdigits.trans (Nat.le_mul_of_pos_right m h'.pos))
          · rcases h'.normal with hdigits | rfl
            · exact .inl (hdigits.trans (Nat.le_mul_of_pos_left m' h.pos))
            · exact .inr (by omega)
        rw [← targetExponent_totalExponent hprod]
        unfold Format.targetExponent totalExponent
        rcases hle with hdigits | hsmall
        · have hlog := (Nat.le_log2 hprod.ne').mpr hdigits
          omega
        · omega
      rw [hvalue]
      exact sized_roundWithAccuracy hprod (shows_exact _) hplace

theorem Sized.nonneg {s : Sign} {x : ℚ} {u : UnpackedFloat} (h : Sized spec s x u) : 0 ≤ x := by
  cases h with
  | zero => exact le_rfl
  | finite => positivity

/-- The fraction says on which side of one half the rest of a mantissa is. -/
theorem shows_accuracyOfFraction (q : ℕ) {r n : ℕ} (hlt : r < n) :
    Shows (.ofMantissaAndAccuracy q (accuracyOfFraction r n)) (q + r / n) := by
  have hpos : (0 : ℚ) < n := by exact_mod_cast r.zero_le.trans_lt hlt
  have hrest : (r : ℚ) / n < 1 := (div_lt_one hpos).mpr (by exact_mod_cast hlt)
  unfold accuracyOfFraction
  split_ifs with hzero
  · subst hzero
    rw [Nat.cast_zero, zero_div, add_zero]
    exact shows_exact q
  have hrest' : 0 < (r : ℚ) / n := div_pos (by exact_mod_cast Nat.pos_of_ne_zero hzero) hpos
  rcases lt_trichotomy (2 * r) n with hhalf | hhalf | hhalf
  · rw [compare_lt_iff_lt.mpr hhalf]
    have hbound : 2 * ((r : ℚ) / n) < 1 := by
      rw [← mul_div_assoc, div_lt_one hpos]
      exact_mod_cast hhalf
    change ((2 * q + 0 : ℕ) : ℚ) < _ ∧ _ < ((2 * q + 0 : ℕ) : ℚ) + 1
    push_cast
    constructor <;> linarith
  · rw [compare_eq_iff_eq.mpr hhalf]
    have hbound : 2 * ((r : ℚ) / n) = 1 := by
      rw [← mul_div_assoc, div_eq_one_iff_eq hpos.ne']
      exact_mod_cast hhalf
    change _ = ((2 * q + 1 : ℕ) : ℚ)
    push_cast
    linarith
  · rw [compare_gt_iff_gt.mpr hhalf]
    have hbound : 1 < 2 * ((r : ℚ) / n) := by
      rw [← mul_div_assoc, one_lt_div hpos]
      exact_mod_cast hhalf
    change ((2 * q + 1 : ℕ) : ℚ) < _ ∧ _ < ((2 * q + 1 : ℕ) : ℚ) + 1
    push_cast
    constructor <;> linarith

theorem shows_quotient (m : ℕ) {n : ℕ} (hn : 0 < n) :
    Shows (.ofMantissaAndAccuracy (m / n) (accuracyOfFraction (m % n) n)) (m / n) := by
  have hpos : (n : ℚ) ≠ 0 := by exact_mod_cast hn.ne'
  have hdiv : (m : ℚ) / n = (m / n : ℕ) + (m % n : ℕ) / n := by
    have hsum : (m : ℚ) = n * (m / n : ℕ) + (m % n : ℕ) := by
      exact_mod_cast (Nat.div_add_mod m n).symm
    field_simp
    exact hsum
  rw [hdiv]
  exact shows_accuracyOfFraction _ (Nat.mod_lt m hn)

theorem two_zpow_le_div {m n : ℕ} (hm : 0 < m) (hn : 0 < n) {d e : ℤ} :
    (2 : ℚ) ^ (totalExponent m d - totalExponent n e - 1) ≤ m * 2 ^ d / (n * 2 ^ e) := by
  have hpos : ∀ k : ℤ, (0 : ℚ) < 2 ^ k := fun k => zpow_pos two_pos k
  have hlow : 2 ^ m.log2 ≤ m := Nat.log2_self_le hm.ne'
  have hhigh : n ≤ 2 ^ (n.log2 + 1) := Nat.lt_log2_self.le
  have hn' : (0 : ℚ) < n := by exact_mod_cast hn
  have hexp : totalExponent m d - totalExponent n e - 1 + ((n.log2 + 1 : ℕ) + e) = m.log2 + d := by
    unfold totalExponent
    push_cast
    ring
  rw [le_div_iff₀ (mul_pos hn' (hpos e))]
  calc (2 : ℚ) ^ (totalExponent m d - totalExponent n e - 1) * (n * 2 ^ e)
      ≤ 2 ^ (totalExponent m d - totalExponent n e - 1) * (2 ^ (n.log2 + 1) * 2 ^ e) := by
        gcongr
        exact_mod_cast hhigh
    _ = 2 ^ m.log2 * 2 ^ d := by
        rw [← zpow_natCast, ← zpow_natCast, ← zpow_add₀ two_ne_zero, ← zpow_add₀ two_ne_zero, hexp,
          zpow_add₀ two_ne_zero]
    _ ≤ m * 2 ^ d := mul_le_mul_of_nonneg_right (by exact_mod_cast hlow) (hpos d).le

/-- A quotient is the nearest number to the exact quotient, if it is not smaller than all numbers of
the format.  Its two sides need not be numbers of the format. -/
theorem sized_div_finite (s t : Sign) {m n : ℕ} (hm : 0 < m) (hn : 0 < n) (d e : ℤ)
    (hlarge : (2 : ℚ) ^ spec.minExponent ≤ m * 2 ^ d / (n * 2 ^ e)) :
    Sized spec (s / t) (nearest spec (m * 2 ^ d / (n * 2 ^ e)))
      (UnpackedFloat.div spec (.finite s m d hm) (.finite t n e hn)) := by
  have hpos : ∀ k : ℤ, (0 : ℚ) < 2 ^ k := fun k => zpow_pos two_pos k
  have hn' : (0 : ℚ) < n := by exact_mod_cast hn
  unfold UnpackedFloat.div divCore
  dsimp only
  generalize hk : min (d - e) (spec.targetExponent (totalExponent m d - totalExponent n e)) = k
  generalize hi : (d - e - k).toNat = i
  have hvalue : (m : ℚ) * 2 ^ d / (n * 2 ^ e) = ((m <<< i : ℕ) : ℚ) / n * 2 ^ k := by
    have hexp : d = i + k + e := by omega
    have he : (2 : ℚ) ^ e ≠ 0 := (hpos e).ne'
    rw [hexp, Nat.shiftLeft_eq, zpow_add₀ two_ne_zero, zpow_add₀ two_ne_zero, zpow_natCast]
    push_cast
    field_simp
  have hlow : (2 : ℚ) ^ (totalExponent m d - totalExponent n e - 1) ≤ m * 2 ^ d / (n * 2 ^ e) :=
    two_zpow_le_div hm hn
  have hplace : k ≤ lastPlace spec ((m <<< i : ℕ) / n * 2 ^ k) := by
    have hlog := (Int.zpow_le_iff_le_log one_lt_two ((hpos _).trans_le hlow)).mp
      (by exact_mod_cast hlow)
    rw [← hvalue]
    unfold lastPlace
    unfold Format.targetExponent at hk ⊢
    omega
  have hquot : 0 < m <<< i / n := by
    have hle : (2 : ℚ) ^ k ≤ m * 2 ^ d / (n * 2 ^ e) := by
      have hbits := mantissaBits_pos spec
      unfold Format.targetExponent at hk
      rcases le_or_gt k spec.minExponent with hsmall | hbig
      · exact (zpow_le_zpow_right₀ one_le_two hsmall).trans hlarge
      · exact (zpow_le_zpow_right₀ one_le_two (by omega)).trans hlow
    rw [hvalue, le_mul_iff_one_le_left (hpos k), one_le_div hn'] at hle
    exact Nat.div_pos (by exact_mod_cast hle) hn
  rw [hvalue]
  exact sized_roundWithAccuracy hquot (shows_quotient _ hn) hplace

theorem Sized.div {s t : Sign} {x y : ℚ} {u v : UnpackedFloat} (hu : Sized spec s x u)
    (hv : Sized spec t y v) (hy : 0 < y) (hlarge : 2 ^ spec.minExponent ≤ x / y) :
    Sized spec (s / t) (nearest spec (x / y)) (UnpackedFloat.div spec u v) := by
  cases hu with
  | zero =>
    have hpos : (0 : ℚ) < 2 ^ spec.minExponent := zpow_pos two_pos _
    rw [zero_div] at hlarge
    exact absurd hlarge hpos.not_ge
  | @finite m d h =>
    cases hv with
    | zero => exact absurd rfl hy.ne
    | @finite n e h' => exact sized_div_finite s t h.pos h'.pos d e hlarge

end Format

end Autopilot
