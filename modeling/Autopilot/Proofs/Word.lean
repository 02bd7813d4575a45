import Autopilot.Word
import Mathlib.Algebra.Order.Ring.Int
import Mathlib.Tactic.SplitIfs

/-!
# Words as integers

The functions on words, read on the integers.  `exact` succeeds on the integers of a word and only
on them (`exact_eq`, `exact_eq_overflow`); `Int32.ofIntClamp` is `saturate` (`toInt_ofIntClamp`); a
bound that is not negative makes `limit` the function `confine`, which never fails (`limit_eq`); and
`deadband` is `shrink` on every word but the least, whose size is no word (`deadband_eq`,
`deadband_minValue`).

Arithmetic that saturates on its way to a bound gives the same as arithmetic that does not:
`confine_saturate` and `saturate_mul_saturate`.  All of these functions are monotone.

The module opens with what a computation does that consists of two in a row (`bind_eq_ok_iff`).
-/

namespace Autopilot

/-! ### Computations that can fail -/

section Except

variable {ε α β : Type}

@[simp] theorem ok_bind (a : α) (f : α → Except ε β) : (Except.ok a >>= f) = f a := rfl

@[simp] theorem error_bind (e : ε) (f : α → Except ε β) : (Except.error e >>= f) = .error e := rfl

@[simp] theorem pure_eq_ok (a : α) : (pure a : Except ε α) = .ok a := rfl

@[simp] theorem map_ok (g : α → β) (a : α) : (g <$> (Except.ok a : Except ε α)) = .ok (g a) := rfl

@[simp] theorem map_error (g : α → β) (e : ε) :
    (g <$> (Except.error e : Except ε α)) = .error e := rfl

/-- Two computations in a row succeed when the first does and the second does from there. -/
theorem bind_eq_ok_iff {x : Except ε α} {f : α → Except ε β} {b : β} :
    (x >>= f) = .ok b ↔ ∃ a, x = .ok a ∧ f a = .ok b := by
  cases x with
  | error e => simp
  | ok a => simp

/-- What a function makes of a result is there when the result is. -/
theorem map_eq_ok_iff {x : Except ε α} {g : α → β} {b : β} :
    g <$> x = .ok b ↔ ∃ a, x = .ok a ∧ g a = b := by
  cases x with
  | error e => simp
  | ok a => simp

end Except

/-! ### The integers of a word -/

/-- The integer is the value of a word. -/
def IsWord (n : Int) : Prop :=
  -2147483648 ≤ n ∧ n ≤ 2147483647

theorem isWord_toInt (w : Int32) : IsWord w.toInt := by
  have hlo := w.le_toInt
  have hhi := w.toInt_lt
  constructor <;> omega

theorem toInt_ofInt_of_isWord {n : Int} (h : IsWord n) : (Int32.ofInt n).toInt = n := by
  obtain ⟨hlo, hhi⟩ := h
  exact Int32.toInt_ofInt_of_le (by omega) (by omega)

theorem isWord_of_natAbs_le {n : Int} (h : n.natAbs ≤ 2147483647) : IsWord n := by
  unfold IsWord
  omega

theorem exact_eq {n : Int} (h : IsWord n) : exact n = .ok (.ofInt n) := by
  have h' : Int32.minValue.toInt ≤ n ∧ n ≤ Int32.maxValue.toInt := h
  unfold exact
  rw [dif_pos h', Int32.ofIntLE_eq_ofInt]

theorem exact_eq_overflow {n : Int} (h : ¬ IsWord n) : exact n = .error .overflow := by
  have h' : ¬ (Int32.minValue.toInt ≤ n ∧ n ≤ Int32.maxValue.toInt) := h
  unfold exact
  rw [dif_neg h']

/-! ### Saturation -/

/-- The value of a word nearest to an integer. -/
def saturate (n : Int) : Int :=
  max (-2147483648) (min n 2147483647)

theorem saturate_eq_self {n : Int} (h : IsWord n) : saturate n = n := by
  unfold IsWord at h
  unfold saturate
  omega

theorem saturate_mono {m n : Int} (h : m ≤ n) : saturate m ≤ saturate n := by
  unfold saturate
  omega

theorem toInt_ofIntClamp (n : Int) : (Int32.ofIntClamp n).toInt = saturate n := by
  have hmin : Int32.minValue.toInt = -2147483648 := rfl
  have hmax : Int32.maxValue.toInt = 2147483647 := rfl
  unfold Int32.ofIntClamp saturate
  split_ifs with hlo hhi
  · rw [Int32.toInt_ofIntLE]
    omega
  · rw [hmax]
    omega
  · rw [hmin]
    omega

/-- A factor that is not negative does not see whether the other one was saturated, as long as the
product is. -/
theorem saturate_mul_saturate (g : Nat) (n : Int) :
    saturate (g * saturate n) = saturate (g * n) := by
  rcases Nat.eq_zero_or_pos g with rfl | hg
  · simp
  -- A product only moves away from zero, so what was outside of a word stays there.
  have hg1 : (1 : Int) ≤ g := by exact_mod_cast hg
  rcases lt_or_ge n (-2147483648) with hlo | hlo
  · have hs : saturate n = -2147483648 := by unfold saturate; omega
    have h1 : (g : Int) * n ≤ 1 * n := Int.mul_le_mul_of_nonpos_right hg1 (by omega)
    have h2 : (g : Int) * (-2147483648) ≤ 1 * (-2147483648) :=
      Int.mul_le_mul_of_nonpos_right hg1 (by omega)
    rw [hs]
    unfold saturate
    omega
  rcases lt_or_ge 2147483647 n with hhi | hhi
  · have hs : saturate n = 2147483647 := by unfold saturate; omega
    have h1 : 1 * n ≤ (g : Int) * n := Int.mul_le_mul_of_nonneg_right hg1 (by omega)
    have h2 : 1 * 2147483647 ≤ (g : Int) * 2147483647 :=
      Int.mul_le_mul_of_nonneg_right hg1 (by omega)
    rw [hs]
    unfold saturate
    omega
  · rw [saturate_eq_self ⟨hlo, hhi⟩]

/-! ### Bounds -/

/-- The integer of `-bound .. bound` nearest to `n`. -/
def confine (bound n : Int) : Int :=
  max (-bound) (min n bound)

theorem confine_mono (bound : Int) {m n : Int} (h : m ≤ n) : confine bound m ≤ confine bound n := by
  unfold confine
  omega

theorem confine_neg {bound : Int} (h : 0 ≤ bound) (n : Int) :
    confine bound (-n) = -confine bound n := by
  unfold confine
  omega

theorem natAbs_confine_le {bound : Int} {size : Nat} (h : bound = size) (n : Int) :
    (confine bound n).natAbs ≤ size := by
  unfold confine
  omega

/-- A bound does not see whether the integer was saturated before. -/
theorem confine_saturate {bound : Int} (h0 : 0 ≤ bound) (h : bound ≤ 2147483647) (n : Int) :
    confine bound (saturate n) = confine bound n := by
  unfold confine saturate
  omega

theorem isWord_confine {bound : Int} (h0 : 0 ≤ bound) (h : bound ≤ 2147483647) (n : Int) :
    IsWord (confine bound n) := by
  unfold IsWord confine
  omega

/-- Nor does a bound see whether a summand was saturated, when the rest is inside the bound and the
bound is at most half the size of a word. -/
theorem confine_add_saturate {bound m : Int} (hm : m.natAbs ≤ bound) (h : 2 * bound ≤ 2147483647)
    (n : Int) : confine bound (m + saturate n) = confine bound (m + n) := by
  unfold confine saturate
  omega

/-- Nor does a bound see whether a dividend was saturated, when the bound times the divisor is a
word. -/
theorem confine_tdiv_saturate {bound scale : Int} (h0 : 0 ≤ bound) (hs : 0 < scale)
    (h : bound * scale ≤ 2147483647) (n : Int) :
    confine bound ((saturate n).tdiv scale) = confine bound (n.tdiv scale) := by
  -- Integers outside of a word have quotients that are outside of the bound.
  have above : ∀ m : Int, 2147483647 ≤ m → bound ≤ m.tdiv scale := fun m hm => by
    rw [Int.tdiv_eq_ediv_of_nonneg (by omega)]
    exact (Int.le_ediv_iff_mul_le hs).mpr (by omega)
  have below : ∀ m : Int, m ≤ -2147483647 → m.tdiv scale ≤ -bound := fun m hm => by
    have hneg := above (-m) (by omega)
    rw [Int.neg_tdiv] at hneg
    omega
  rcases lt_or_ge n (-2147483648) with hlo | hlo
  · have hsat := below (saturate n) (by unfold saturate; omega)
    have hn := below n (by omega)
    unfold confine
    omega
  rcases lt_or_ge 2147483647 n with hhi | hhi
  · have hsat := above (saturate n) (by unfold saturate; omega)
    have hn := above n (by omega)
    unfold confine
    omega
  · rw [saturate_eq_self ⟨hlo, hhi⟩]

theorem limit_eq {bound : Int32} (h : 0 ≤ bound.toInt) (value : Int32) :
    limit value bound = .ok (.ofInt (confine bound.toInt value.toInt)) := by
  obtain ⟨hlo, hhi⟩ := isWord_toInt bound
  have hneg : IsWord (-bound.toInt) := by unfold IsWord; omega
  unfold limit
  rw [exact_eq hneg, ok_bind]
  unfold between confine
  simp only [Int32.lt_iff_toInt_lt, toInt_ofInt_of_isWord hneg]
  split_ifs with h1 h2 h3
  · omega
  · rw [max_eq_left (by omega)]
  · rw [min_eq_right (by omega), max_eq_right (by omega), Int32.ofInt_toInt]
  · rw [min_eq_left (by omega), max_eq_right (by omega), Int32.ofInt_toInt]

theorem limit_ofIntClamp {bound : Int32} (h : 0 ≤ bound.toInt) (n : Int) :
    limit (.ofIntClamp n) bound = .ok (.ofInt (confine bound.toInt n)) := by
  rw [limit_eq h, toInt_ofIntClamp, confine_saturate h (isWord_toInt bound).2]

/-! ### The dead band -/

/-- Zero in the band of half-width `width` around zero, and outside of it `n` moved `width` towards
zero. -/
def shrink (width n : Int) : Int :=
  if n.natAbs < width then 0 else if 0 < n then n - width else if n < 0 then n + width else n

theorem shrink_mono {width m n : Int} (h : 0 ≤ width) (hmn : m ≤ n) :
    shrink width m ≤ shrink width n := by
  unfold shrink
  split_ifs <;> omega

theorem shrink_neg (width n : Int) : shrink width (-n) = -shrink width n := by
  unfold shrink
  split_ifs <;> omega

theorem natAbs_shrink_le {width : Int} (h : 0 ≤ width) (n : Int) :
    (shrink width n).natAbs ≤ n.natAbs := by
  unfold shrink
  split_ifs <;> omega

theorem deadband_eq {value width : Int32} (h : 0 ≤ width.toInt) (hv : value ≠ Int32.minValue) :
    deadband value width = .ok (.ofInt (shrink width.toInt value.toInt)) := by
  obtain ⟨hlo, hhi⟩ := isWord_toInt value
  obtain ⟨-, hwidth⟩ := isWord_toInt width
  have hmin : value.toInt ≠ -2147483648 := fun he => hv (Int32.toInt_inj.mp he)
  have hsize : IsWord (value.toInt.natAbs : Nat) := by unfold IsWord; omega
  unfold deadband
  rw [exact_eq hsize, ok_bind]
  unfold shrink
  simp only [Int32.lt_iff_toInt_lt, toInt_ofInt_of_isWord hsize, Int32.toInt_zero, pure_eq_ok]
  split_ifs with h1 h2 h3
  · rfl
  · exact exact_eq (by unfold IsWord; omega)
  · exact exact_eq (by unfold IsWord; omega)
  · rw [Int32.ofInt_toInt]

theorem deadband_ofInt {width : Int32} (h : 0 ≤ width.toInt) {n : Int}
    (hn : n.natAbs ≤ 2147483647) :
    deadband (.ofInt n) width = .ok (.ofInt (shrink width.toInt n)) := by
  have hword := toInt_ofInt_of_isWord (isWord_of_natAbs_le hn)
  have hleast : Int32.ofInt n ≠ Int32.minValue := by
    intro he
    rw [he, Int32.toInt_minValue] at hword
    omega
  rw [deadband_eq h hleast, hword]

/-- The least word has no size to compare with the band. -/
theorem deadband_minValue (width : Int32) :
    deadband Int32.minValue width = .error .overflow := by
  have hsize : ¬ IsWord (Int32.minValue.toInt.natAbs : Nat) := by
    intro h
    exact absurd h.2 (by decide)
  unfold deadband
  rw [exact_eq_overflow hsize, error_bind]

/-! ### Clocks -/

/-- The distance of two times, as far as a clock of one word can measure it. -/
theorem toNat_sub_of_mod {now before : UInt32} {x y : Nat} (hnow : now.toNat = x % 2 ^ 32)
    (hbefore : before.toNat = y % 2 ^ 32) (hle : y ≤ x) (hlt : x - y < 2 ^ 32) :
    (now - before).toNat = x - y := by
  rw [UInt32.toNat_sub, hnow, hbefore]
  omega

end Autopilot
