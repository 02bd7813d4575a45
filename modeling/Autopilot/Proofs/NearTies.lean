import Autopilot.Json.Record
import Autopilot.Proofs.Shortest

/-!
# Decimals next to the middle of two floats

A decimal `d · 10^-k` that is read as a double first can cross the middle of two single-precision
floats on the way, if it lies within `2^-51` of its size from this middle (`NearTie`).  There are few
such decimals, and this module finds them and has the two floats next to the middle read back: by
scaling, and by way of the nearest double (`Json.nearestSingle?`).  One float is lost on the second
way (`throughDouble`).

With the middle written as `n · 2^-h`, the decimal is near if `d · 2^h` and `n · 10^k` differ by little
(`gap`), which makes `(d, n)` an integer point in a narrow strip along a line.  Euclid's algorithm
gives a basis of two points that are near the line themselves (`euclid`).  In such a basis the
coordinates of all points of the strip are small (`exists_coordinates`), so that the points can be
listed (`mem_strip`) and checked one by one (`tiesReadBack_all`).
-/

namespace Autopilot

open Float.Model Float.Model.UnpackedFloat

/-! ### Points near a line -/

section Strip

variable (a b : ℕ)

/-- How far `d · a` and `n · b` are apart for the point `(d, n)`. -/
def gap (p : ℤ × ℤ) : ℤ :=
  p.1 * a - p.2 * b

/-- The point with these coordinates in a basis. -/
def combine (i : ℤ) (u : ℤ × ℤ) (j : ℤ) (v : ℤ × ℤ) : ℤ × ℤ :=
  (i * u.1 + j * v.1, i * u.2 + j * v.2)

/-- Euclid's algorithm on the gaps of two points, which have opposite signs.  It stops at a point
without a gap, or with a first coordinate of at least this size. -/
def euclid (size : ℕ) : ℕ → ℤ × ℤ → ℤ × ℤ → (ℤ × ℤ) × (ℤ × ℤ)
  | 0, u, v => (u, v)
  | fuel + 1, u, v =>
    if gap a b v = 0 ∨ size ≤ v.1.natAbs then
      (u, v)
    else
      euclid size fuel v (combine 1 u ((gap a b u).natAbs / (gap a b v).natAbs : ℕ) v)

/-- The size up to which a coordinate can go for the points of a strip, where `w` belongs to the other
one. -/
def reach (width slack : ℕ) (w : ℤ × ℤ) : ℕ :=
  (width * (gap a b w).natAbs + slack * w.1.natAbs) / b

/-- The integers up to this size. -/
def integersUpTo (size : ℕ) : List ℤ :=
  (List.range (2 * size + 1)).map fun n : ℕ => (n : ℤ) - size

/-- The points whose first coordinates go up to `width` and whose gaps up to `slack`, and some more
around them.  Any basis gives all of them; this one gives few others. -/
def strip (width slack : ℕ) : List (ℤ × ℤ) :=
  let (u, v) := euclid a b (width / 8) 64 (0, 1) (1, 0)
  (integersUpTo (reach a b width slack v)).flatMap fun i =>
    (integersUpTo (reach a b width slack u)).map fun j => combine i u j v

variable {a b}

/-- Every integer point is a combination of the two. -/
def Unimodular (u v : ℤ × ℤ) : Prop :=
  (u.1 * v.2 - u.2 * v.1).natAbs = 1

theorem unimodular_combine {u v : ℤ × ℤ} (h : Unimodular u v) (q : ℤ) :
    Unimodular v (combine 1 u q v) := by
  have hdet : v.1 * (combine 1 u q v).2 - v.2 * (combine 1 u q v).1 =
      -(u.1 * v.2 - u.2 * v.1) := by
    unfold combine
    ring
  unfold Unimodular
  rw [hdet, Int.natAbs_neg]
  exact h

theorem unimodular_euclid (size fuel : ℕ) {u v : ℤ × ℤ} (h : Unimodular u v) :
    Unimodular (euclid a b size fuel u v).1 (euclid a b size fuel u v).2 := by
  induction fuel generalizing u v with
  | zero => exact h
  | succ fuel ih =>
    rw [euclid]
    split_ifs
    · exact h
    · exact ih (unimodular_combine h _)

theorem mem_integersUpTo {i : ℤ} {size : ℕ} (h : i.natAbs ≤ size) : i ∈ integersUpTo size := by
  refine List.mem_map.mpr ⟨(i + size).toNat, ?_, ?_⟩
  · rw [List.mem_range]
    omega
  · omega

/-- By Cramer's rule, a coordinate is as large as the gaps make it. -/
theorem coordinate_le_reach (hb : 0 < b) {width slack : ℕ} {p w : ℤ × ℤ}
    (hwidth : p.1.natAbs ≤ width) (hgap : (gap a b p).natAbs ≤ slack) :
    (p.1 * w.2 - p.2 * w.1).natAbs ≤ reach a b width slack w := by
  have hcramer : (p.1 * w.2 - p.2 * w.1) * b = gap a b p * w.1 - p.1 * gap a b w := by
    unfold gap
    ring
  unfold reach
  rw [Nat.le_div_iff_mul_le hb]
  calc (p.1 * w.2 - p.2 * w.1).natAbs * b = ((p.1 * w.2 - p.2 * w.1) * b).natAbs := by
        rw [Int.natAbs_mul, Int.natAbs_natCast]
    _ = (gap a b p * w.1 - p.1 * gap a b w).natAbs := by rw [hcramer]
    _ ≤ (gap a b p * w.1).natAbs + (p.1 * gap a b w).natAbs := Int.natAbs_sub_le _ _
    _ = (gap a b p).natAbs * w.1.natAbs + p.1.natAbs * (gap a b w).natAbs := by
        rw [Int.natAbs_mul, Int.natAbs_mul]
    _ ≤ slack * w.1.natAbs + width * (gap a b w).natAbs := by gcongr
    _ = _ := Nat.add_comm _ _

/-- The coordinates of a point of the strip. -/
theorem exists_coordinates (hb : 0 < b) {u v : ℤ × ℤ} (h : Unimodular u v) {width slack : ℕ}
    {p : ℤ × ℤ} (hwidth : p.1.natAbs ≤ width) (hgap : (gap a b p).natAbs ≤ slack) :
    ∃ i j : ℤ, i.natAbs ≤ reach a b width slack v ∧ j.natAbs ≤ reach a b width slack u ∧
      p = combine i u j v := by
  have hi := coordinate_le_reach (w := v) hb hwidth hgap
  have hj := coordinate_le_reach (w := u) hb hwidth hgap
  unfold Unimodular at h
  generalize hdet : u.1 * v.2 - u.2 * v.1 = det at h
  have hsquare : det * det = 1 := by
    rcases Int.natAbs_eq det with heq | heq
    · rw [heq, h]
      rfl
    · rw [heq, h]
      rfl
  refine ⟨det * (p.1 * v.2 - p.2 * v.1), -det * (p.1 * u.2 - p.2 * u.1), ?_, ?_, ?_⟩
  · rwa [Int.natAbs_mul, h, one_mul]
  · rwa [Int.natAbs_mul, Int.natAbs_neg, h, one_mul]
  · unfold combine
    refine Prod.ext ?_ ?_
    · calc p.1 = det * det * p.1 := by rw [hsquare, one_mul]
        _ = _ := by
          rw [← hdet]
          ring
    · calc p.2 = det * det * p.2 := by rw [hsquare, one_mul]
        _ = _ := by
          rw [← hdet]
          ring

theorem mem_strip (hb : 0 < b) {width slack : ℕ} {p : ℤ × ℤ} (hwidth : p.1.natAbs ≤ width)
    (hgap : (gap a b p).natAbs ≤ slack) : p ∈ strip a b width slack := by
  have hbasis := unimodular_euclid (a := a) (b := b) (width / 8) 64 (u := (0, 1)) (v := (1, 0)) rfl
  obtain ⟨i, j, hi, hj, rfl⟩ := exists_coordinates hb hbasis hwidth hgap
  exact List.mem_flatMap.mpr
    ⟨i, mem_integersUpTo hi, List.mem_map.mpr ⟨j, mem_integersUpTo hj, rfl⟩⟩

end Strip

/-! ### Near ties -/

/-- `n · 2^-h` lies below one in the middle of two neighbouring single-precision floats. -/
structure Middle (n h : ℕ) : Prop where
  odd : n % 2 = 1
  digits : n < 2 ^ 25
  least : h ≤ 150
  normal : 2 ^ 24 ≤ n ∨ h = 150
  lt_one : n < 2 ^ h

/-- `d · 10^-k` lies next to `n · 2^-h`, and has as many digits as a number below `2^26` can have. -/
structure NearTie (d k n h : ℕ) : Prop where
  middle : Middle n h
  lt : d < 2 ^ 26
  le : 2 ^ 26 ≤ 10 * d
  near : (gap (2 ^ h) (10 ^ k) (d, n)).natAbs * 2 ^ 51 ≤ d * 2 ^ h

/-- No middle that is next to a multiple of `10^-k` has more binary places. -/
def tiePlaces (k : ℕ) : ℕ :=
  min 150 ((10 ^ k).log2 + 3)

namespace NearTie

variable {d k n h : ℕ} (tie : NearTie d k n h)

include tie

theorem bounds : d * 2 ^ h * (2 ^ 51 - 1) ≤ n * 10 ^ k * 2 ^ 51 ∧
    n * 10 ^ k * 2 ^ 51 ≤ d * 2 ^ h * (2 ^ 51 + 1) := by
  have hnear := tie.near
  have hgap : gap (2 ^ h) (10 ^ k) (d, n) = ((d * 2 ^ h : ℕ) : ℤ) - (n * 10 ^ k : ℕ) := by
    unfold gap
    push_cast
    rfl
  rw [hgap] at hnear
  generalize d * 2 ^ h = left at hnear ⊢
  generalize n * 10 ^ k = right at hnear ⊢
  omega

theorem places_le : h ≤ tiePlaces k := by
  refine le_min tie.middle.least (not_lt.mp fun hlarge => ?_)
  obtain ⟨hlow, -⟩ := tie.bounds
  have hpow : 8 * 10 ^ k ≤ 2 ^ h := by
    calc 8 * 10 ^ k ≤ 8 * 2 ^ ((10 ^ k).log2 + 1) := Nat.mul_le_mul_left 8 Nat.lt_log2_self.le
      _ = 2 ^ ((10 ^ k).log2 + 4) := by ring
      _ ≤ 2 ^ h := Nat.pow_le_pow_right (by decide) hlarge
  have hright : n * 10 ^ k ≤ 2 ^ 25 * 10 ^ k := Nat.mul_le_mul_right _ tie.middle.digits.le
  have hleft : 2 ^ 26 * (8 * 10 ^ k) ≤ 10 * d * 2 ^ h := Nat.mul_le_mul tie.le hpow
  have hpos : 0 < 10 ^ k := Nat.pow_pos (by decide)
  rw [mul_assoc] at hleft
  generalize d * 2 ^ h = left at hlow hleft
  generalize n * 10 ^ k = right at hlow hright
  generalize 10 ^ k = ten at hright hleft hpos
  omega

theorem power_bounds : 7 ≤ k ∧ k ≤ 52 := by
  obtain ⟨hlow, hhigh⟩ := tie.bounds
  have hmiddle := tie.middle
  constructor
  · -- With less places, the digits would not stand below one.
    by_contra hsmall
    have hten : 10 ^ k ≤ 10 ^ 6 := Nat.pow_le_pow_right (by decide) (by omega)
    have hright : n * 10 ^ k ≤ 2 ^ h * 10 ^ 6 := Nat.mul_le_mul hmiddle.lt_one.le hten
    have hleft : 2 ^ 26 * 2 ^ h ≤ 10 * d * 2 ^ h := Nat.mul_le_mul_right _ tie.le
    have hpos : 0 < 2 ^ h := Nat.two_pow_pos h
    rw [mul_assoc 10] at hleft
    generalize d * 2 ^ h = left at hlow hleft
    generalize n * 10 ^ k = right at hlow hright
    generalize 2 ^ h = two at hright hleft hpos
    omega
  · -- With more places, the digits would stand below the smallest middle.
    by_contra hlarge
    have hodd := hmiddle.odd
    have hten : 10 ^ 53 ≤ 10 ^ k := Nat.pow_le_pow_right (by decide) (by omega)
    have hright : 1 * 10 ^ 53 ≤ n * 10 ^ k := Nat.mul_le_mul (by omega) hten
    have hleft : d * 2 ^ h ≤ 2 ^ 26 * 2 ^ 150 :=
      Nat.mul_le_mul tie.lt.le (Nat.pow_le_pow_right (by decide) hmiddle.least)
    generalize d * 2 ^ h = left at hhigh hleft
    generalize n * 10 ^ k = right at hhigh hright
    omega

end NearTie

/-! ### Ties are read back -/

/-- The float `n · 2^-h`. -/
def floatAt (n h : ℕ) : Float32 :=
  .ofModel (.pack (.round .binary32 .positive n (-h)))

theorem floatAt_eq {x : Float32} {m : ℕ} {e : ℤ} {hm : 0 < m}
    (hx : x.toModel.unpack = .finite .positive m e hm) (hcanonical : Canonical .binary32 m e)
    {n h : ℕ} (hn : 0 < n) (hvalue : (n : ℚ) * 2 ^ (-h : ℤ) = m * 2 ^ e) : floatAt n h = x := by
  have hsized : Sized .binary32 .positive (m * 2 ^ e) x.toModel.unpack := by
    rw [hx]
    exact .finite hcanonical
  refine eq_of_sized hsized ?_
  rw [← hcanonical.nearest_eq, ← hvalue]
  exact sized_round .positive hn (-h)

/-- A number as a single-precision float by way of the double nearest to it, which has to be
finite. -/
def Json.nearestSingle? : Json → Option Float32
  | .number n => if n.toFloat.isFinite then some (narrow n.toFloat) else none
  | _ => none

/-- What a weight becomes that is written and read by way of the nearest double.  The shortest digits
of one float, `7.038531e-26`, cross the middle to the next one on the way. -/
def throughDouble (x : Float32) : Float32 :=
  if x = Float32.ofBits 0x15AE43FD then Float32.ofBits 0x15AE43FE else x

theorem nearestSingle?_crossing : Json.nearestSingle? (.single (Float32.ofBits 0x15AE43FD)) =
    some (Float32.ofBits 0x15AE43FE) := by
  decide +kernel

/-- The float is read from what is written of it, and so it is by way of the nearest double, up to the
one that is lost. -/
def readsBack (n h : ℕ) : Bool :=
  let x := floatAt n h
  Json.single? (.single x) = some x ∧ Json.nearestSingle? (.single x) = some (throughDouble x)

/-- If the point is a near tie, the two floats next to the middle are read back.  The middle is
`n · 2^-h` with a number `n` that has 25 digits and some zeros behind them, or less digits. -/
def tieReadsBack (k h : ℕ) (p : ℤ × ℤ) : Bool :=
  let n := p.2.natAbs
  let last := 2 ^ (n.log2 - 24)
  if 0 < p.1 ∧ (gap (2 ^ h) (10 ^ k) p).natAbs * 2 ^ 51 ≤ p.1.natAbs * 2 ^ h ∧
      n % last = 0 ∧ n / last % 2 = 1 then
    readsBack (n - last) h && readsBack (n + last) h
  else
    true

/-- All near ties of the multiples of `10^-k` are read back. -/
def tiesReadBack (k h : ℕ) : Bool :=
  (strip (2 ^ h) (10 ^ k) (2 ^ 26) (2 ^ 26 * 2 ^ h / 2 ^ 51)).all (tieReadsBack k h)

theorem tiesReadBack_all : ∀ k ∈ List.range' 7 46, tiesReadBack k (tiePlaces k) = true := by
  decide +kernel

namespace NearTie

variable {d k n h : ℕ} (tie : NearTie d k n h)

include tie

/-- The places of the middle can be filled up with zeros. -/
theorem near_fill (t : ℕ) :
    (gap (2 ^ (h + t)) (10 ^ k) (d, (n * 2 ^ t : ℕ))).natAbs * 2 ^ 51 ≤ d * 2 ^ (h + t) := by
  have hgap : gap (2 ^ (h + t)) (10 ^ k) (d, (n * 2 ^ t : ℕ)) =
      gap (2 ^ h) (10 ^ k) (d, n) * (2 ^ t : ℕ) := by
    unfold gap
    push_cast
    rw [pow_add]
    ring
  rw [hgap, Int.natAbs_mul, Int.natAbs_natCast, mul_right_comm, pow_add, ← mul_assoc]
  exact Nat.mul_le_mul_right _ tie.near

/-- A near tie is among the points that are tried. -/
theorem mem_strip_fill (t : ℕ) :
    ((d, (n * 2 ^ t : ℕ)) : ℤ × ℤ) ∈
      strip (2 ^ (h + t)) (10 ^ k) (2 ^ 26) (2 ^ 26 * 2 ^ (h + t) / 2 ^ 51) := by
  refine mem_strip (Nat.pow_pos (by decide)) ?_ ?_
  · exact (Int.natAbs_natCast d).trans_le tie.lt.le
  · rw [Nat.le_div_iff_mul_le (by positivity)]
    exact (tie.near_fill t).trans (Nat.mul_le_mul_right _ tie.lt.le)

/-- The zeros that are filled in are those that follow 25 digits. -/
theorem log2_fill {t : ℕ} (ht : h + t = tiePlaces k) : (n * 2 ^ t).log2 - 24 = t := by
  have hmiddle := tie.middle
  have hodd := hmiddle.odd
  have hn : n ≠ 0 := by omega
  have hlow : 2 ^ n.log2 ≤ n := Nat.log2_self_le hn
  have hhigh : n < 2 ^ (n.log2 + 1) := Nat.lt_log2_self
  have hpos : 0 < 2 ^ t := Nat.two_pow_pos t
  have hlog : (n * 2 ^ t).log2 = n.log2 + t := by
    rw [Nat.log2_eq_iff (Nat.mul_ne_zero hn hpos.ne'), pow_add, add_right_comm, pow_add _ _ t]
    exact ⟨Nat.mul_le_mul_right _ hlow, Nat.mul_lt_mul_of_pos_right hhigh hpos⟩
  have hdigits : n.log2 < 25 := (Nat.log2_lt hn).mpr hmiddle.digits
  rw [hlog]
  rcases hmiddle.normal with hnormal | rfl
  · have := (Nat.le_log2 hn).mpr hnormal
    omega
  · have : tiePlaces k ≤ 150 := min_le_left _ _
    omega

/-- Both floats next to the middle are read back. -/
theorem readsBack_neighbours {t : ℕ} (ht : h + t = tiePlaces k) :
    readsBack ((n - 1) * 2 ^ t) (h + t) = true ∧ readsBack ((n + 1) * 2 ^ t) (h + t) = true := by
  obtain ⟨hk, hk'⟩ := tie.power_bounds
  have hchecked := tiesReadBack_all k (List.mem_range'_1.mpr (by omega))
  rw [← ht] at hchecked
  have hpoint := List.all_eq_true.mp hchecked _ (tie.mem_strip_fill t)
  have hodd := tie.middle.odd
  have hd := tie.le
  have hpos : 0 < 2 ^ t := Nat.two_pow_pos t
  unfold tieReadsBack at hpoint
  dsimp only at hpoint
  rw [Int.natAbs_natCast, Int.natAbs_natCast, tie.log2_fill ht, Nat.mul_mod_left,
    Nat.mul_div_cancel _ hpos, if_pos ⟨by omega, tie.near_fill t, rfl, hodd⟩,
    Bool.and_eq_true] at hpoint
  rw [Nat.sub_mul, Nat.add_mul, one_mul]
  exact hpoint

/-- A float next to the middle is read back. -/
theorem read_single {x : Float32} {m : ℕ} {e : ℤ} {hm : 0 < m}
    (hx : x.toModel.unpack = .finite .positive m e hm) (hcanonical : Canonical .binary32 m e)
    (hvalue : (m : ℚ) * 2 ^ e = (n - 1) * 2 ^ (-h : ℤ) ∨ (m : ℚ) * 2 ^ e = (n + 1) * 2 ^ (-h : ℤ)) :
    Json.single? (.single x) = some x ∧ Json.nearestSingle? (.single x) = some (throughDouble x) := by
  obtain ⟨t, ht⟩ := Nat.exists_eq_add_of_le tie.places_le
  obtain ⟨hbelow, habove⟩ := tie.readsBack_neighbours ht.symm
  have hodd := tie.middle.odd
  have hfill : (2 : ℚ) ^ (-h : ℤ) = 2 ^ t * 2 ^ (-(h + t : ℕ) : ℤ) := by
    rw [← zpow_natCast, ← zpow_add₀ two_ne_zero]
    congr 1
    push_cast
    ring
  have hpos : 0 < 2 ^ t := Nat.two_pow_pos t
  rw [hfill] at hvalue
  have hsize := hcanonical.size_pos
  rcases hvalue with hvalue | hvalue
  · -- The float below the smallest middle would be zero.
    have hn : 0 < n - 1 := by
      refine Nat.pos_of_ne_zero fun hzero => hsize.ne' ?_
      have hone : (n : ℚ) = 1 := by
        have : n = 1 := by omega
        exact_mod_cast this
      rw [hvalue, hone, sub_self, zero_mul]
    have hbelow_value : (((n - 1) * 2 ^ t : ℕ) : ℚ) * 2 ^ (-(h + t : ℕ) : ℤ) = m * 2 ^ e := by
      rw [hvalue, Nat.cast_mul, Nat.cast_sub (by omega)]
      push_cast
      ring
    rw [← floatAt_eq hx hcanonical (Nat.mul_pos hn hpos) hbelow_value]
    exact of_decide_eq_true hbelow
  · have habove_value : (((n + 1) * 2 ^ t : ℕ) : ℚ) * 2 ^ (-(h + t : ℕ) : ℤ) = m * 2 ^ e := by
      rw [hvalue]
      push_cast
      ring
    rw [← floatAt_eq hx hcanonical (Nat.mul_pos n.succ_pos hpos) habove_value]
    exact of_decide_eq_true habove

end NearTie

end Autopilot
