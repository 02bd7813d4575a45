import Autopilot.Proofs.NearTies
import Autopilot.Proofs.Single
import Autopilot.Settings

/-!
# Single-precision floats in a text

A single-precision float from zero to one is read from what is written of it
(`exists_writes_of_isWeight`).  By way of the nearest double one of these floats is lost and all others
are read back (`Numeral.Writes`).

Its shortest digits lie between the ends of its interval.  If they are not next to one of the ends,
a double that is close to them lies between the ends as well and is narrowed to the float
(`narrow_near`).  An end is the middle between the float and a neighbour (`exists_middle`), so digits
next to an end are a near tie (`exists_nearTie`), and all near ties have been tried.
-/

namespace Autopilot

open Float.Model Float.Model.UnpackedFloat

/-! ### Reading shortest digits -/

/-- A number with a point or an exponent is read by scaling it and narrowing the double. -/
theorem Layout.Names.single? {n : Numeral} {d : Decimal} (h : Layout.Names n false d)
    (hdigits : d.digits < UInt64.size) {k : ℕ} (hk : k ≤ 308) (hpos : 0 < k)
    (hexponent : d.exponent = -k) :
    Json.single? (.number n) = some (narrow (doubleOfInt d.digits / powerOfTen k)) := by
  have hword : n.word? = none := by
    unfold Numeral.word?
    rw [h.not_integer]
    rfl
  have hleading : n.leading = d := by
    rw [Numeral.leading_eq (by rw [h.significand]; exact hdigits), h.significand, h.scale]
  have hscaled : d.scaled? = some (doubleOfInt d.digits / powerOfTen k) := by
    unfold Decimal.scaled?
    rw [hexponent, neg_neg]
    have hgreatest : greatestPower = 308 := rfl
    dsimp only
    rw [if_neg (by omega), if_neg (by omega), if_pos (by omega)]
  unfold Json.single?
  dsimp only
  rw [hword]
  dsimp only
  unfold Numeral.scaled?
  rw [hleading, hscaled, h.negative]
  rfl

/-- Such a number has a nearest double. -/
theorem Layout.Names.nearestSingle? {n : Numeral} {d : Decimal} (h : Layout.Names n false d) {q : ℚ}
    (hamounts : Amounts (.ofModel (.ofScientific d.digits d.exponent)) q) :
    Json.nearestSingle? (.number n) =
      some (narrow (.ofModel (.ofScientific d.digits d.exponent))) := by
  have hread : n.toFloat = .ofModel (.ofScientific d.digits d.exponent) := by
    unfold Numeral.toFloat
    rw [h.negative, h.significand, h.scale]
    rfl
  have hfinite : Float.isFinite (.ofModel (.ofScientific d.digits d.exponent)) = true :=
    isFinite_of_sized hamounts.sized
  unfold Json.nearestSingle?
  dsimp only
  rw [hread, if_pos hfinite]

/-- The number is written for the float and read as the float.  By way of the nearest double it is
read as the float as well, up to the one that is lost on this way. -/
structure Numeral.Writes (n : Numeral) (x : Float32) : Prop where
  written : Json.single x = .number n
  wellFormed : n.WellFormed
  read : Json.single? (.number n) = some x
  nearest : Json.nearestSingle? (.number n) = some (throughDouble x)

/-- What is read back by way of the nearest double is not the float that is lost. -/
theorem throughDouble_of_read {x : Float32} (h : Json.nearestSingle? (.single x) = some x) :
    throughDouble x = x := by
  unfold throughDouble
  split_ifs with hx
  · rw [hx, nearestSingle?_crossing] at h
    rw [hx]
    exact Option.some_inj.mp h
  · rfl

/-! ### The ends of an interval -/

section Interval

variable {m : ℕ} {e : ℤ}

/-- Below one, the exponent is a number of binary places. -/
theorem exists_places (h : Canonical .binary32 m e) (hone : (m : ℚ) * 2 ^ e < 1) :
    ∃ places : ℕ, e = -places ∧ places ≤ 149 ∧ m < 2 ^ places ∧ (2 ^ 23 ≤ m ∨ places = 149) := by
  have hleast : -149 ≤ e := h.least
  have he := h.exponent_neg hone
  obtain ⟨places, rfl⟩ : ∃ places : ℕ, e = -places := ⟨(-e).toNat, by omega⟩
  refine ⟨places, rfl, by omega, ?_, ?_⟩
  · rw [zpow_neg, zpow_natCast, ← div_eq_mul_inv, div_lt_one (by positivity)] at hone
    exact_mod_cast hone
  · rcases h.normal with hnormal | heq
    · exact .inl hnormal
    · change -(places : ℤ) = -149 at heq
      exact .inr (by omega)

theorem two_zpow_neg_succ (places : ℕ) :
    (2 : ℚ) ^ (-(places + 1 : ℕ) : ℤ) = 2 ^ (-places : ℤ) / 2 := by
  rw [Nat.cast_succ, neg_add, ← sub_eq_add_neg, zpow_sub_one₀ two_ne_zero]
  rfl

/-- The upper end of the interval of a float is the middle between it and the next one. -/
theorem exists_middle_highest (h : Canonical .binary32 m e) (hone : (m : ℚ) * 2 ^ e < 1) :
    ∃ n places, Middle n places ∧
      (RoundingInterval.ofFloat 24 (-149) m e).highest = n * 2 ^ (-places : ℤ) ∧
      (m : ℚ) * 2 ^ e = (n - 1) * 2 ^ (-places : ℤ) := by
  obtain ⟨places, rfl, hplaces, hlt, hnormal⟩ := exists_places h hone
  have hdigits : m < 2 ^ 24 := h.digits
  have hpow := pow_succ 2 places
  have hhalf := two_zpow_neg_succ places
  refine ⟨2 * m + 1, places + 1, ⟨by omega, by omega, by omega, by omega, by omega⟩, ?_, ?_⟩
  · rw [RoundingInterval.ofFloat_highest, hhalf]
    push_cast
    ring
  · rw [hhalf]
    push_cast
    ring

/-- The lower end of the interval of a float is the middle between it and the one before. -/
theorem exists_middle_lowest (h : Canonical .binary32 m e) (hone : (m : ℚ) * 2 ^ e < 1) :
    ∃ n places, Middle n places ∧
      (RoundingInterval.ofFloat 24 (-149) m e).lowest = n * 2 ^ (-places : ℤ) ∧
      (m : ℚ) * 2 ^ e = (n + 1) * 2 ^ (-places : ℤ) := by
  obtain ⟨places, rfl, hplaces, hlt, hnormal⟩ := exists_places h hone
  have hdigits : m < 2 ^ 24 := h.digits
  have hpos := h.pos
  have hpow := pow_succ 2 places
  have hpow' := pow_add 2 places 2
  have hhalf := two_zpow_neg_succ places
  have hquarter : (2 : ℚ) ^ (-(places + 2 : ℕ) : ℤ) = 2 ^ (-places : ℤ) / 4 := by
    rw [two_zpow_neg_succ, two_zpow_neg_succ]
    ring
  have hquarter' : (2 : ℚ) ^ (-places - 2 : ℤ) = 2 ^ (-places : ℤ) / 4 := by
    rw [zpow_sub₀ two_ne_zero]
    norm_num
  unfold RoundingInterval.lowest RoundingInterval.ofFloat
  dsimp only
  by_cases hpower : m = Nat.pow 2 (24 - 1) ∧ (-149 : ℤ) < -places
  · rw [if_pos hpower]
    obtain ⟨rfl, hleast⟩ := hpower
    rw [Nat.pow_eq] at *
    refine ⟨4 * 2 ^ (24 - 1) - 1, places + 2,
      ⟨by omega, by omega, by omega, by omega, by omega⟩, ?_, ?_⟩
    · rw [hquarter, hquarter']
    · rw [hquarter]
      push_cast
      ring
  · rw [if_neg hpower]
    rw [Nat.pow_eq] at hpower
    refine ⟨2 * m - 1, places + 1, ⟨by omega, by omega, by omega, by omega, by omega⟩, ?_, ?_⟩
    · rw [hhalf, hquarter', Nat.cast_sub (by omega), Nat.cast_sub (by omega)]
      push_cast
      ring
    · rw [hhalf, Nat.cast_sub (by omega)]
      push_cast
      ring

/-- Either end of the interval of a float is the middle between it and a neighbour. -/
theorem exists_middle (h : Canonical .binary32 m e) (hone : (m : ℚ) * 2 ^ e < 1) {bound : ℚ}
    (hbound : bound = (RoundingInterval.ofFloat 24 (-149) m e).lowest ∨
      bound = (RoundingInterval.ofFloat 24 (-149) m e).highest) :
    ∃ n places, Middle n places ∧ bound = n * 2 ^ (-places : ℤ) ∧
      ((m : ℚ) * 2 ^ e = (n - 1) * 2 ^ (-places : ℤ) ∨
        (m : ℚ) * 2 ^ e = (n + 1) * 2 ^ (-places : ℤ)) := by
  rcases hbound with rfl | rfl
  · obtain ⟨n, places, hmiddle, heq, hfloat⟩ := exists_middle_lowest h hone
    exact ⟨n, places, hmiddle, heq, .inr hfloat⟩
  · obtain ⟨n, places, hmiddle, heq, hfloat⟩ := exists_middle_highest h hone
    exact ⟨n, places, hmiddle, heq, .inl hfloat⟩

end Interval

/-! ### Near ties of shortest digits -/

/-- Zeros can be put behind the digits until the next one would not fit. -/
theorem exists_fill {limit d : ℕ} (hpos : 0 < d) (hlt : d < limit) :
    ∃ j, limit ≤ 10 * (d * 10 ^ j) ∧ d * 10 ^ j < limit := by
  induction hrest : limit - d using Nat.strong_induction_on generalizing d with
  | _ rest ih =>
    by_cases hfull : limit ≤ 10 * d
    · exact ⟨0, by simpa using hfull, by simpa using hlt⟩
    · obtain ⟨j, hle, hlt'⟩ := ih (limit - 10 * d) (by omega) (by omega) (by omega) rfl
      have hsucc : d * 10 ^ (j + 1) = 10 * d * 10 ^ j := by ring
      exact ⟨j + 1, by rwa [hsucc], by rwa [hsucc]⟩

section Near

variable {n h : ℕ} {x v step : ℚ}

/-- The float is one unit away from the middle, so a number next to the middle that is no further
from the float than one step is not much larger than the step. -/
theorem lt_of_near (hn : n < 2 ^ 25)
    (hx : x = (n - 1) * 2 ^ (-h : ℤ) ∨ x = (n + 1) * 2 ^ (-h : ℤ))
    (hstep : |v - x| ≤ step) (hnear : |n * 2 ^ (-h : ℤ) - v| ≤ v / 2 ^ 51) :
    v < 2 ^ 26 * step := by
  have hunit : (0 : ℚ) < 2 ^ (-h : ℤ) := zpow_pos two_pos _
  generalize (2 : ℚ) ^ (-h : ℤ) = unit at hx hnear hunit
  have hdigits : (n : ℚ) * unit ≤ 2 ^ 25 * unit :=
    mul_le_mul_of_nonneg_right (by exact_mod_cast hn.le) hunit.le
  obtain ⟨hlow, hhigh⟩ := abs_le.mp hnear
  obtain ⟨hlow', hhigh'⟩ := abs_le.mp hstep
  have hdistance : unit ≤ v / 2 ^ 51 + step := by
    rcases hx with rfl | rfl <;> linarith
  linarith

/-- The middle and the number next to it over a common denominator. -/
theorem near_iff (d k : ℕ) :
    |n * 2 ^ (-h : ℤ) - (d : ℚ) / 10 ^ k| ≤ (d : ℚ) / 10 ^ k / 2 ^ 51 ↔
      (gap (2 ^ h) (10 ^ k) (d, n)).natAbs * 2 ^ 51 ≤ d * 2 ^ h := by
  have hten : (0 : ℚ) < 10 ^ k := by positivity
  have htwo : (0 : ℚ) < 2 ^ h := by positivity
  have hgap : (gap (2 ^ h) (10 ^ k) (d, n) : ℚ) =
      -((n * 2 ^ (-h : ℤ) - d / 10 ^ k) * (10 ^ k * 2 ^ h)) := by
    unfold gap
    rw [zpow_neg, zpow_natCast]
    push_cast
    field_simp
    ring
  have habs : ((gap (2 ^ h) (10 ^ k) (d, n)).natAbs : ℚ) =
      |n * 2 ^ (-h : ℤ) - (d : ℚ) / 10 ^ k| * (10 ^ k * 2 ^ h) := by
    rw [Nat.cast_natAbs, Int.cast_abs, hgap, abs_neg, abs_mul, abs_of_pos (mul_pos hten htwo)]
  rw [← Nat.cast_le (α := ℚ)]
  push_cast
  rw [habs, div_div, le_div_iff₀ (by positivity), ← mul_le_mul_iff_left₀ htwo]
  refine iff_of_eq (congrArg (· ≤ _) ?_)
  ring

end Near

/-- A number on a grid that lies next to the middle between a float and a neighbour, and no further
from the float than one step, has few digits and is a near tie. -/
theorem exists_nearTie {n h : ℕ} (hmiddle : Middle n h) {x : ℚ}
    (hx : x = (n - 1) * 2 ^ (-h : ℤ) ∨ x = (n + 1) * 2 ^ (-h : ℤ)) {d : Decimal}
    (hpos : 0 < d.digits) (hexponent : d.exponent < 0) (hstep : |d.value - x| ≤ 10 ^ d.exponent)
    (hnear : |n * 2 ^ (-h : ℤ) - d.value| ≤ d.value / 2 ^ 51) :
    ∃ digits k, NearTie digits k n h := by
  obtain ⟨digits, exponent⟩ := d
  unfold Decimal.value at hstep hnear
  dsimp only at hpos hexponent hstep hnear
  obtain ⟨k, rfl⟩ : ∃ k : ℕ, exponent = -k := ⟨(-exponent).toNat, by omega⟩
  have hunit : (0 : ℚ) < 10 ^ (-k : ℤ) := by positivity
  have hlt : digits < 2 ^ 26 := by
    have hbound := lt_of_near hmiddle.digits hx hstep hnear
    exact_mod_cast lt_of_mul_lt_mul_right hbound hunit.le
  obtain ⟨j, hle, hlt'⟩ := exists_fill hpos hlt
  have hvalue : (digits : ℚ) * 10 ^ (-k : ℤ) = (digits * 10 ^ j : ℕ) / 10 ^ (k + j) := by
    rw [zpow_neg, zpow_natCast, pow_add]
    push_cast
    field_simp
  rw [hvalue, near_iff] at hnear
  exact ⟨digits * 10 ^ j, k + j, hmiddle, hlt', hle, hnear⟩

/-! ### Floats are read back -/

section ReadBack

variable {x : Float32} {m : ℕ} {e : ℤ} {hm : 0 < m}
  (hx : x.toModel.unpack = .finite .positive m e hm) (hcanonical : Canonical .binary32 m e)

include hx hcanonical

/-- A double close to a decimal that lies in the interval of a float, and not next to an end, is
narrowed to the float. -/
theorem narrow_near {v q : ℚ} {y : Float} (hy : Amounts y q) (herror : |q - v| ≤ v / 2 ^ 51)
    (hlow : (RoundingInterval.ofFloat 24 (-149) m e).lowest ≤ v)
    (hhigh : v ≤ (RoundingInterval.ofFloat 24 (-149) m e).highest)
    (hfar : ∀ bound, bound = (RoundingInterval.ofFloat 24 (-149) m e).lowest ∨
      bound = (RoundingInterval.ofFloat 24 (-149) m e).highest → v / 2 ^ 51 < |bound - v|) :
    narrow y = x := by
  have hfar_low := hfar _ (.inl rfl)
  have hfar_high := hfar _ (.inr rfl)
  rw [abs_of_nonpos (sub_nonpos.mpr hlow)] at hfar_low
  rw [abs_of_nonneg (sub_nonneg.mpr hhigh)] at hfar_high
  obtain ⟨herror_low, herror_high⟩ := abs_le.mp herror
  exact narrow_eq hx hcanonical hy (by linarith) (by linarith)

omit hx in
/-- The interval of a float below one ends below one. -/
theorem highest_lt_one (hone : (m : ℚ) * 2 ^ e < 1) :
    (RoundingInterval.ofFloat 24 (-149) m e).highest < 1 := by
  obtain ⟨n, h, hmiddle, heq, -⟩ := exists_middle_highest hcanonical hone
  rw [heq, zpow_neg, zpow_natCast, ← div_eq_mul_inv, div_lt_one (by positivity)]
  exact_mod_cast hmiddle.lt_one

omit hx hcanonical in
/-- The digits of a decimal below one all stand behind the point. -/
theorem length_add_exponent_nonpos {d : Decimal} (hpos : 0 < d.digits) (hone : d.value < 1) :
    (Nat.toDigits 10 d.digits).length + d.exponent ≤ 0 := by
  have hle := pow_length_le hpos
  have hlength : 0 < (Nat.toDigits 10 d.digits).length := Nat.length_toDigits_pos
  generalize (Nat.toDigits 10 d.digits).length = length at hle hlength
  have hten : (10 : ℚ) ^ ((length - 1 : ℕ) + d.exponent) < 10 ^ (0 : ℤ) := by
    rw [zpow_zero, zpow_add₀ (by norm_num), zpow_natCast]
    refine lt_of_le_of_lt (mul_le_mul_of_nonneg_right ?_ (by positivity)) hone
    exact_mod_cast hle
  have := (zpow_lt_zpow_iff_right₀ (by norm_num)).mp hten
  omega

/-- A float below one is written by its shortest digits and read from them. -/
theorem exists_writes_of_lt_one (hone : (m : ℚ) * 2 ^ e < 1) : ∃ n : Numeral, n.Writes x := by
  obtain ⟨d, hstands, hdigits, hleast, hneg, hshortest⟩ :=
    exists_shortest hcanonical hone TieRule.even
  obtain ⟨hvalue, hless, hexponent, htrim⟩ := d.trim_spec (mostDigits + 1)
  have hpos := htrim hstands.pos
  have hwritten : Json.single x =
      .number (Json.singleLayout.numeral false (d.trim (mostDigits + 1))) := by
    unfold Json.single Layout.single? Layout.write
    rw [hx]
    exact congrArg (fun d => Json.number (Json.singleLayout.numeral false d)) hshortest
  have hlow := hstands.low
  have hhigh := hstands.high
  have hbelow : d.value < 1 := hhigh.trans_lt (highest_lt_one hcanonical hone)
  have hsmall := length_add_exponent_nonpos hpos (hvalue ▸ hbelow)
  have hnames : Layout.Names (Json.singleLayout.numeral false (d.trim (mostDigits + 1))) false
      (d.trim (mostDigits + 1)) :=
    Layout.names_numeral _ _ hpos hsmall
  by_cases hnear : ∃ bound, (bound = (RoundingInterval.ofFloat 24 (-149) m e).lowest ∨
      bound = (RoundingInterval.ofFloat 24 (-149) m e).highest) ∧
        |bound - d.value| ≤ d.value / 2 ^ 51
  · obtain ⟨bound, hbound, hnear⟩ := hnear
    obtain ⟨n, h, hmiddle, rfl, hfloat⟩ := exists_middle hcanonical hone hbound
    have hstep := hstands.near
    rw [RoundingInterval.ofFloat_middle] at hstep
    obtain ⟨digits, k, tie⟩ := exists_nearTie hmiddle hfloat hstands.pos hneg hstep hnear
    obtain ⟨hread, hnearest⟩ := tie.read_single hx hcanonical hfloat
    rw [hwritten] at hread hnearest
    exact ⟨_, hwritten, hnames.wellFormed, hread, hnearest⟩
  · have hfar : ∀ bound, bound = (RoundingInterval.ofFloat 24 (-149) m e).lowest ∨
        bound = (RoundingInterval.ofFloat 24 (-149) m e).highest →
          d.value / 2 ^ 51 < |bound - d.value| :=
      fun bound hbound => not_le.mp fun hle => hnear ⟨bound, hbound, hle⟩
    have hlength : 0 < (Nat.toDigits 10 (d.trim (mostDigits + 1)).digits).length :=
      Nat.length_toDigits_pos
    have hsize : UInt64.size = 2 ^ 64 := rfl
    obtain ⟨k, hk⟩ : ∃ k : ℕ, (d.trim (mostDigits + 1)).exponent = -k :=
      ⟨(-(d.trim (mostDigits + 1)).exponent).toNat, by omega⟩
    have hquotient : ((d.trim (mostDigits + 1)).digits : ℚ) / 10 ^ k = d.value := by
      rw [← hvalue]
      unfold Decimal.value
      rw [hk, zpow_neg, zpow_natCast, div_eq_mul_inv]
    obtain ⟨q, hq, herror⟩ := amounts_scaled (k := k) hpos (by omega) (by omega)
    obtain ⟨q', hq', herror'⟩ := amounts_ofScientific (k := k) hpos (by omega) (by omega) (by omega)
    rw [hquotient] at herror herror'
    rw [← hk] at hq'
    have hread := hnames.single? (by omega) (by omega) (by omega) hk
    rw [narrow_near hx hcanonical hq herror hlow hhigh hfar] at hread
    have hnearest := hnames.nearestSingle? hq'
    rw [narrow_near hx hcanonical hq' herror' hlow hhigh hfar] at hnearest
    refine ⟨_, hwritten, hnames.wellFormed, hread, ?_⟩
    rw [throughDouble_of_read (by rw [hwritten]; exact hnearest)]
    exact hnearest

end ReadBack

/-- Zeros keep their sign in a text. -/
theorem exists_writes_of_zero {x : Float32} {s : Sign} (hx : x.toModel.unpack = .zero s) :
    ∃ n : Numeral, n.Writes x := by
  have heq : Float32.ofModel (.pack (.zero s)) = x := by
    rw [← hx]
    exact ofModel_pack_unpack x
  rw [← heq]
  refine ⟨Json.singleLayout.zero (s == .negative), ?_, ⟨.inl rfl, fun digits hdigits => ?_⟩, ?_, ?_⟩
  · cases s <;> rfl
  · obtain rfl := Option.some_inj.mp hdigits
    exact areDigits_zero
  · cases s <;> decide +kernel
  · cases s <;> decide +kernel

theorem sized_one : Sized .binary32 .positive 1 (1.0 : Float32).toModel.unpack := by
  have hunpack : (1.0 : Float32).toModel.unpack = .finite .positive (2 ^ 23) (-23) (by decide) :=
    rfl
  have hcanonical : Canonical .binary32 (2 ^ 23) (-23) :=
    ⟨by decide, by decide, by decide, .inl le_rfl⟩
  have hvalue : (1 : ℚ) = ((2 ^ 23 : ℕ) : ℚ) * 2 ^ (-23 : ℤ) := by norm_num
  rw [hunpack, hvalue]
  exact .finite hcanonical

/-- A weight is a zero or a positive number up to one. -/
theorem weight_cases {x : Float32} (hx : isWeight x = true) :
    (∃ s, x.toModel.unpack = .zero s) ∨
      ∃ m e, ∃ hm : 0 < m, x.toModel.unpack = .finite .positive m e hm ∧
        Canonical .binary32 m e ∧ (m : ℚ) * 2 ^ e ≤ 1 := by
  unfold isWeight at hx
  rw [Bool.and_eq_true, Bool.and_eq_true, decide_eq_true_eq, decide_eq_true_eq, le_iff, le_iff] at hx
  obtain ⟨⟨hfinite, hlow⟩, hhigh⟩ := hx
  change x.toModel.unpack.isFinite = true at hfinite
  have hnumber : x.toModel.unpack ≠ .notANumber → IsNumber .binary32 x.toModel.unpack :=
    fun hnot => isNumber_unpack (by decide) hnot
  cases hunpack : x.toModel.unpack with
  | notANumber =>
    rw [hunpack] at hfinite
    cases hfinite
  | infinity s =>
    rw [hunpack] at hfinite
    cases hfinite
  | zero s => exact .inl ⟨s, rfl⟩
  | finite s m e hm =>
    rw [hunpack] at hlow hhigh hnumber
    cases s with
    | negative => cases hlow
    | positive =>
      have hx := hnumber (by simp)
      have hone : IsNumber .binary32 (1.0 : Float32).toModel.unpack :=
        .sized sized_one (one_lt_pow₀ one_lt_two (by decide))
      rw [le_iff_place_le hx hone, sized_one.place_eq] at hhigh
      refine .inr ⟨m, e, hm, rfl, ?_, hhigh⟩
      cases hx with
      | sized h _ =>
        cases h with
        | finite h => exact h

/-- The weights are numbers from zero to one, and all of them are read back. -/
theorem exists_writes_of_isWeight {x : Float32} (hx : isWeight x = true) :
    ∃ n : Numeral, n.Writes x := by
  rcases weight_cases hx with ⟨s, hzero⟩ | ⟨m, e, hm, hfinite, hcanonical, hle⟩
  · exact exists_writes_of_zero hzero
  rcases hle.lt_or_eq with hlt | hone
  · exact exists_writes_of_lt_one hfinite hcanonical hlt
  · have hsized : Sized .binary32 .positive 1 x.toModel.unpack := by
      rw [hfinite, ← hone]
      exact .finite hcanonical
    rw [← eq_of_sized hsized sized_one]
    refine ⟨{ whole := Nat.toDigits 10 1, fraction := some ['0'] }, rfl,
      ⟨isWhole_toDigits 1, fun digits hdigits => ?_⟩, ?_, ?_⟩
    · obtain rfl := Option.some_inj.mp hdigits
      exact areDigits_zero
    · decide +kernel
    · decide +kernel

end Autopilot
