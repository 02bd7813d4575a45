import Autopilot.Proofs.Fusion
import Autopilot.Proofs.SingleArithmetic

/-!
# Where the blend of ranger and barometer lies

Inside its band the ranger is blended with the barometer, and the blend should lie between the two.
It is computed in single precision and then truncated: the two weights, the two products and their
sum are each `rounded` (`mixture`), so that the blend can miss the altitudes it should lie between,
but never by more than one centimetre (`blendRanger_between_iff`).

The sum falls short of the lower altitude by at most a part in `2^24` for each of the roundings that
count (`le_products`), and truncating turns any shortage into a whole centimetre.  That is what
happens to two sensors that agree (`blendRanger_short`).  Two sensors that do not agree are an
integer apart, which outweighs the roundings in any band of the usual size.
-/

namespace Autopilot

open Float.Model

/-! ### The weights -/

/-- The weight of the ranger. -/
def rangerShare (range near far : ℤ) : ℚ :=
  rounded .binary32 ((far - range) / (far - near))

/-- The weight of the barometer, beside that of the ranger. -/
def baroShare (share : ℚ) : ℚ :=
  rounded .binary32 (1 - share)

/-- The number whose integer part is the blend. -/
def mixture (range baro near far : ℤ) : ℚ :=
  let share := rangerShare range near far
  rounded .binary32 (rounded .binary32 (range * share) + rounded .binary32 (baro * baroShare share))

/-- An echo inside a band that does not go below zero. -/
structure InBand (range near far : ℤ) : Prop where
  echo : 0 < range
  near_nonneg : 0 ≤ near
  near_le : near ≤ range
  le_far : range ≤ far
  wide : near < far
  far_le : far ≤ 2 ^ 24

/-- Two weights that add up to one but for a rounding. -/
structure Shares (w c : ℚ) : Prop where
  nonneg : 0 ≤ w
  le_one : w ≤ 1
  nonneg' : 0 ≤ c
  le_one' : c ≤ 1
  fine : w = 0 ∨ 1 / 2 ^ 25 ≤ w
  fine' : c = 0 ∨ 1 / 2 ^ 25 ≤ c
  exact : rounded .binary32 w = w
  exact' : rounded .binary32 c = c
  sum : |w + c - 1| ≤ 1 / 2 ^ 25

section Weights

variable {range near far : ℤ} (h : InBand range near far)

include h

theorem InBand.share_mem :
    0 ≤ ((far - range) / (far - near) : ℚ) ∧ ((far - range) / (far - near) : ℚ) ≤ 1 := by
  have hle : (range : ℚ) ≤ far := by exact_mod_cast h.le_far
  have hnear : (near : ℚ) ≤ range := by exact_mod_cast h.near_le
  have hwide : (near : ℚ) < far := by exact_mod_cast h.wide
  constructor
  · exact div_nonneg (by linarith) (by linarith)
  · rw [div_le_one (by linarith)]
    linarith

/-- The widest band. -/
theorem InBand.le_inv_width : 1 / 2 ^ 24 ≤ (1 / (far - near) : ℚ) := by
  have hwide : (near : ℚ) < far := by exact_mod_cast h.wide
  have hnear : (0 : ℚ) ≤ near := by exact_mod_cast h.near_nonneg
  have hfar : (far : ℚ) ≤ 2 ^ 24 := by exact_mod_cast h.far_le
  exact one_div_le_one_div_of_le (by linarith) (by linarith)

/-- Short of the upper end of the band, the ranger counts. -/
theorem InBand.inv_width_le (hne : range ≠ far) :
    (1 / (far - near) : ℚ) ≤ (far - range) / (far - near) := by
  have hwide : (near : ℚ) < far := by exact_mod_cast h.wide
  have hstep : range + 1 ≤ far := by
    have := h.le_far
    omega
  have hstep' : (range : ℚ) + 1 ≤ far := by exact_mod_cast hstep
  exact div_le_div_of_nonneg_right (by linarith) (by linarith)

/-- Above the lower end of the band, the barometer counts. -/
theorem InBand.share_le (hne : range ≠ near) :
    ((far - range) / (far - near) : ℚ) ≤ 1 - 1 / (far - near) := by
  have hwide : (near : ℚ) < far := by exact_mod_cast h.wide
  have hstep : near + 1 ≤ range := by
    have := h.near_le
    omega
  have hstep' : (near : ℚ) + 1 ≤ range := by exact_mod_cast hstep
  have hpos : (0 : ℚ) < far - near := by linarith
  rw [div_le_iff₀ hpos, sub_mul, one_div, inv_mul_cancel₀ hpos.ne']
  linarith

end Weights

/-! ### The values of the floats -/

theorem rounded_one : rounded .binary32 1 = 1 := by
  have h := @rounded_intCast .binary32 1 (by decide)
  rwa [Int.cast_one] at h

/-- A weight that counts is rounded by a small part of itself. -/
theorem rounded_mem {x : ℚ} (hx : 1 / 2 ^ 24 ≤ x) :
    (1 - 1 / 2 ^ 24) * x ≤ rounded .binary32 x ∧ rounded .binary32 x ≤ (1 + 1 / 2 ^ 24) * x := by
  have hpos : 0 < x := lt_of_lt_of_le (by positivity) hx
  have hlarge : (2 : ℚ) ^ (-125 : ℤ) ≤ |x| := by
    rw [abs_of_pos hpos]
    exact le_trans (by norm_num) hx
  have herror := abs_rounded_sub_le_mul (.inr hlarge)
  rw [abs_of_pos hpos] at herror
  have hboth := abs_le.mp herror
  constructor <;> linarith

theorem two_pow_le_rounded {x : ℚ} (hx : 1 / 2 ^ 24 ≤ x) : 1 / 2 ^ 25 ≤ rounded .binary32 x := by
  have hmem := (rounded_mem hx).1
  norm_num at hmem hx ⊢
  linarith

theorem intCast_le_rounded {n : ℤ} {x : ℚ} (hn : |n| ≤ 2 ^ 24) (h : (n : ℚ) ≤ x) :
    n ≤ rounded .binary32 x := by
  have hmono := rounded_mono .binary32 h
  rwa [rounded_intCast hn] at hmono

theorem rounded_le_intCast {n : ℤ} {x : ℚ} (hn : |n| ≤ 2 ^ 24) (h : x ≤ (n : ℚ)) :
    rounded .binary32 x ≤ n := by
  have hmono := rounded_mono .binary32 h
  rwa [rounded_intCast hn] at hmono

/-- An echo at the lower end of the band leaves everything to the ranger. -/
theorem rangerShare_near {near far : ℤ} (hwide : near < far) : rangerShare near near far = 1 := by
  have hne : (far - near : ℚ) ≠ 0 := by
    have : (near : ℚ) < far := by exact_mod_cast hwide
    linarith
  unfold rangerShare
  rw [div_self hne, rounded_one]

/-- An echo at the upper end of the band leaves everything to the barometer. -/
theorem rangerShare_far (near far : ℤ) : rangerShare far near far = 0 := by
  unfold rangerShare
  rw [sub_self, zero_div, rounded_zero]

theorem baroShare_one : baroShare 1 = 0 := by
  unfold baroShare
  rw [sub_self, rounded_zero]

theorem baroShare_zero : baroShare 0 = 1 := by
  unfold baroShare
  rw [sub_zero, rounded_one]

section Values

variable {range near far : ℤ} (h : InBand range near far)

include h

theorem InBand.hasValue_share :
    HasValue (singleOfInt (far - range) / singleOfInt (far - near))
      (rangerShare range near far) := by
  have hecho := h.echo
  have hnonneg := h.near_nonneg
  have hnear := h.near_le
  have hle := h.le_far
  have hwide := h.wide
  have hfar := h.far_le
  have habove : HasValue (singleOfInt (far - range)) ((far - range : ℤ) : ℚ) :=
    hasValue_singleOfInt (by rw [abs_le]; omega)
  have hband : HasValue (singleOfInt (far - near)) ((far - near : ℤ) : ℚ) :=
    hasValue_singleOfInt (by rw [abs_le]; omega)
  push_cast at habove hband
  obtain ⟨hlow, hhigh⟩ := h.share_mem
  have hwidth := h.le_inv_width
  refine habove.div hband ?_ ?_ ?_
  · have : (near : ℚ) < far := by exact_mod_cast hwide
    linarith
  · rcases eq_or_ne range far with rfl | hne
    · exact .inl (sub_self _)
    · refine .inr ?_
      rw [abs_of_nonneg hlow]
      calc (2 : ℚ) ^ Format.minExponent .binary32 ≤ 1 / 2 ^ 24 := by
            change (2 : ℚ) ^ (-149 : ℤ) ≤ _
            norm_num
        _ ≤ 1 / (far - near) := hwidth
        _ ≤ _ := h.inv_width_le hne
  · rw [abs_of_nonneg hlow]
    exact hhigh.trans (one_le_pow₀ one_le_two)

theorem InBand.rangerShare_mem :
    0 ≤ rangerShare range near far ∧ rangerShare range near far ≤ 1 := by
  obtain ⟨hlow, hhigh⟩ := h.share_mem
  constructor
  · exact rounded_nonneg hlow
  · have hmono := rounded_mono .binary32 hhigh
    rwa [rounded_one] at hmono

omit h in
/-- The weight of the barometer is rounded as well, but only by half a place. -/
theorem baroShare_mem {w : ℚ} (hlow : 0 ≤ w) (hhigh : w ≤ 1) :
    0 ≤ baroShare w ∧ baroShare w ≤ 1 ∧ |w + baroShare w - 1| ≤ 1 / 2 ^ 25 := by
  refine ⟨rounded_nonneg (by linarith), ?_, ?_⟩
  · have hmono := rounded_mono .binary32 (by linarith : 1 - w ≤ 1)
    rwa [rounded_one] at hmono
  · rcases hlow.eq_or_lt with rfl | hpos
    · unfold baroShare
      rw [sub_zero, rounded_one, zero_add, sub_self, abs_zero]
      positivity
    · have herror := abs_rounded_sub_le_of_lt (k := 0) (by linarith : 0 ≤ 1 - w)
        (by rw [zpow_zero]; linarith) (by decide)
      have hsum : w + baroShare w - 1 = rounded .binary32 (1 - w) - (1 - w) := by
        unfold baroShare
        ring
      rw [hsum]
      refine herror.trans ?_
      norm_num

theorem InBand.hasValue_baroShare :
    HasValue (1.0 - singleOfInt (far - range) / singleOfInt (far - near))
      (baroShare (rangerShare range near far)) := by
  obtain ⟨hlow, hhigh⟩ := h.rangerShare_mem
  refine hasValue_one.sub h.hasValue_share ?_
  rw [abs_of_nonneg (by linarith)]
  exact (by linarith : _ ≤ (1 : ℚ)).trans (one_le_pow₀ one_le_two)

omit h in
theorem rounded_one_sub : rounded .binary32 (1 - 1 / 2 ^ 24) = 1 - 1 / 2 ^ 24 := by
  have hcanonical : Canonical .binary32 (2 ^ 24 - 1) (-24) :=
    ⟨by decide, by decide, by decide, .inl (by decide)⟩
  have hvalue : (((2 ^ 24 - 1 : ℕ) : ℚ) * 2 ^ (-24 : ℤ)) = 1 - 1 / 2 ^ 24 := by norm_num
  rw [rounded_of_nonneg (by norm_num), ← hvalue, hcanonical.nearest_eq]

theorem InBand.rangerShare_fine :
    rangerShare range near far = 0 ∨ 1 / 2 ^ 25 ≤ rangerShare range near far := by
  rcases eq_or_ne range far with rfl | hne
  · exact .inl (rangerShare_far near range)
  · exact .inr (two_pow_le_rounded (h.le_inv_width.trans (h.inv_width_le hne)))

theorem InBand.rangerShare_le (hne : range ≠ near) :
    rangerShare range near far ≤ 1 - 1 / 2 ^ 24 := by
  have hshare := h.share_le hne
  have hwidth := h.le_inv_width
  have hmono := rounded_mono .binary32
    (by linarith : ((far - range) / (far - near) : ℚ) ≤ 1 - 1 / 2 ^ 24)
  rwa [rounded_one_sub] at hmono

theorem InBand.baroShare_fine :
    baroShare (rangerShare range near far) = 0 ∨
      1 / 2 ^ 25 ≤ baroShare (rangerShare range near far) := by
  rcases eq_or_ne range near with rfl | hne
  · left
    rw [rangerShare_near h.wide, baroShare_one]
  · right
    have hle := h.rangerShare_le hne
    exact two_pow_le_rounded (by linarith)

/-- The weights of the two sensors. -/
theorem InBand.shares :
    Shares (rangerShare range near far) (baroShare (rangerShare range near far)) := by
  obtain ⟨hlow, hhigh⟩ := h.rangerShare_mem
  obtain ⟨hlow', hhigh', hsum⟩ := baroShare_mem hlow hhigh
  exact ⟨hlow, hhigh, hlow', hhigh', h.rangerShare_fine, h.baroShare_fine,
    h.hasValue_share.rounded_eq, h.hasValue_baroShare.rounded_eq, hsum⟩

end Values

/-! ### The sum of the products -/

section Sum

variable {w c : ℚ} (hs : Shares w c) {range baro : ℤ}

/-- What the two sensors contribute together, before the last rounding. -/
def products (range baro : ℤ) (w c : ℚ) : ℚ :=
  rounded .binary32 (range * w) + rounded .binary32 (baro * c)

/-- A product of an integer and a weight is rounded by a small part of itself. -/
theorem abs_rounded_mul_sub_le (n : ℤ) (hw : 0 ≤ w) (hfine : w = 0 ∨ 1 / 2 ^ 25 ≤ w) :
    |rounded .binary32 (n * w) - n * w| ≤ |n * w| / 2 ^ 24 := by
  apply abs_rounded_sub_le_mul
  rcases eq_or_ne n 0 with rfl | hn
  · left
    rw [Int.cast_zero, zero_mul]
  rcases hfine with rfl | hfine
  · exact .inl (mul_zero _)
  · right
    have hone : (1 : ℚ) ≤ |(n : ℚ)| := by
      have : (1 : ℤ) ≤ |n| := Int.one_le_abs hn
      exact_mod_cast this
    rw [abs_mul, abs_of_nonneg hw]
    calc (2 : ℚ) ^ (-125 : ℤ) ≤ 1 * (1 / 2 ^ 25) := by norm_num
      _ ≤ |(n : ℚ)| * w := mul_le_mul hone hfine (by positivity) (by positivity)

include hs

/-- Each of the products is rounded by a part in `2^24` or less. -/
theorem Shares.products_near (hrange : 0 ≤ range) (hbaro : 0 ≤ baro) :
    (range * w + baro * c) * (1 - 1 / 2 ^ 24) ≤ products range baro w c ∧
      products range baro w c ≤ (range * w + baro * c) * (1 + 1 / 2 ^ 24) := by
  have hrange' : (0 : ℚ) ≤ range := by exact_mod_cast hrange
  have hbaro' : (0 : ℚ) ≤ baro := by exact_mod_cast hbaro
  have hp := abs_rounded_mul_sub_le range hs.nonneg hs.fine
  have hq := abs_rounded_mul_sub_le baro hs.nonneg' hs.fine'
  rw [abs_of_nonneg (mul_nonneg hrange' hs.nonneg)] at hp
  rw [abs_of_nonneg (mul_nonneg hbaro' hs.nonneg')] at hq
  have hboth := abs_le.mp hp
  have hboth' := abs_le.mp hq
  unfold products
  constructor <;> linarith

/-- The weights lose a part in `2^25` or less of what both sensors exceed. -/
theorem Shares.le_products {m : ℤ} (hm : 0 ≤ m) (hrange : m ≤ range) (hbaro : m ≤ baro) :
    (m : ℚ) * (1 - 1 / 2 ^ 25) * (1 - 1 / 2 ^ 24) ≤ products range baro w c := by
  have hm' : (0 : ℚ) ≤ m := by exact_mod_cast hm
  have hrange' : (m : ℚ) ≤ range := by exact_mod_cast hrange
  have hbaro' : (m : ℚ) ≤ baro := by exact_mod_cast hbaro
  have hw : (m : ℚ) * w ≤ range * w := mul_le_mul_of_nonneg_right hrange' hs.nonneg
  have hc : (m : ℚ) * c ≤ baro * c := mul_le_mul_of_nonneg_right hbaro' hs.nonneg'
  have hsum : (m : ℚ) * (1 - 1 / 2 ^ 25) ≤ m * (w + c) :=
    mul_le_mul_of_nonneg_left (by linarith [(abs_le.mp hs.sum).1]) hm'
  have hnear := (hs.products_near (hm.trans hrange) (hm.trans hbaro)).1
  linarith

/-- The weights gain a part in `2^25` or less of what exceeds both sensors. -/
theorem Shares.products_le {m : ℤ} (hrange : 0 ≤ range) (hbaro : 0 ≤ baro) (hrange' : range ≤ m)
    (hbaro' : baro ≤ m) :
    products range baro w c ≤ (m : ℚ) * (1 + 1 / 2 ^ 25) * (1 + 1 / 2 ^ 24) := by
  have hm : (0 : ℚ) ≤ m := by exact_mod_cast hrange.trans hrange'
  have hle : (range : ℚ) ≤ m := by exact_mod_cast hrange'
  have hle' : (baro : ℚ) ≤ m := by exact_mod_cast hbaro'
  have hw : (range : ℚ) * w ≤ m * w := mul_le_mul_of_nonneg_right hle hs.nonneg
  have hc : (baro : ℚ) * c ≤ m * c := mul_le_mul_of_nonneg_right hle' hs.nonneg'
  have hsum : (m : ℚ) * (w + c) ≤ m * (1 + 1 / 2 ^ 25) :=
    mul_le_mul_of_nonneg_left (by linarith [(abs_le.mp hs.sum).2]) hm
  have hnear := (hs.products_near hrange hbaro).2
  linarith

theorem Shares.products_nonneg (hrange : 0 ≤ range) (hbaro : 0 ≤ baro) :
    0 ≤ products range baro w c := by
  have hrange' : (0 : ℚ) ≤ range := by exact_mod_cast hrange
  have hbaro' : (0 : ℚ) ≤ baro := by exact_mod_cast hbaro
  exact add_nonneg (rounded_nonneg (mul_nonneg hrange' hs.nonneg))
    (rounded_nonneg (mul_nonneg hbaro' hs.nonneg'))

/-- A weight takes nothing beyond the altitude it weighs, and not to its other side. -/
theorem Shares.products_mem_of_nonpos (hrange : 0 ≤ range) (hrange' : range ≤ 2 ^ 24)
    (hbaro : baro ≤ 0) (hbaro' : -2 ^ 24 ≤ baro) :
    (baro : ℚ) ≤ products range baro w c ∧ products range baro w c ≤ range := by
  have hnonneg : (0 : ℚ) ≤ range := by exact_mod_cast hrange
  have hnonpos : (baro : ℚ) ≤ 0 := by exact_mod_cast hbaro
  have hp : rounded .binary32 (range * w) ≤ range :=
    rounded_le_intCast (abs_le.mpr ⟨by omega, hrange'⟩) (mul_le_of_le_one_right hnonneg hs.le_one)
  have hq : baro ≤ rounded .binary32 (baro * c) :=
    intCast_le_rounded (abs_le.mpr ⟨hbaro', by omega⟩) (le_mul_of_le_one_right hnonpos hs.le_one')
  have hp' : 0 ≤ rounded .binary32 (range * w) := rounded_nonneg (mul_nonneg hnonneg hs.nonneg)
  have hq' : rounded .binary32 (baro * c) ≤ 0 :=
    rounded_nonpos (mul_nonpos_of_nonpos_of_nonneg hnonpos hs.nonneg')
  unfold products
  constructor <;> linarith

end Sum

/-! ### The last rounding -/

section Last

variable {m : ℤ} {y : ℚ}

/-- What the last rounding adds to the shortage of the products is less than the rest of a
centimetre. -/
theorem sub_one_le_rounded (hm : 0 < m) (hle : m ≤ 2 ^ 24)
    (hy : (m : ℚ) * (1 - 1 / 2 ^ 25) * (1 - 1 / 2 ^ 24) ≤ y) : m - 1 ≤ rounded .binary32 y := by
  have hm' : (m : ℚ) ≤ 2 ^ 24 := by exact_mod_cast hle
  have hpos : (0 : ℚ) < m := by exact_mod_cast hm
  -- The products are less than one and a half below, and less than one in the lower half.
  rcases le_or_gt m (2 ^ 23) with hsmall | hlarge
  · have hsmall' : (m : ℚ) ≤ 2 ^ 23 := by exact_mod_cast hsmall
    have hbelow : ((m - 1 : ℤ) : ℚ) ≤ y := by
      push_cast
      norm_num at hy hsmall' ⊢
      linarith
    have hround := intCast_le_rounded (abs_le.mpr ⟨by omega, by omega⟩) hbelow
    push_cast at hround
    exact hround
  · have hlarge' : (2 : ℚ) ^ 23 + 1 ≤ m := by exact_mod_cast hlarge
    have hy' : (2 : ℚ) ^ 23 ≤ y := by
      norm_num at hy hlarge' ⊢
      linarith
    rcases le_or_gt (2 ^ 24) y with htop | htop
    · have hround := intCast_le_rounded (n := 2 ^ 24) (by norm_num) (by push_cast; exact htop)
      push_cast at hround
      linarith
    · have hhalf := (abs_le.mp (abs_nearestEven_sub_le y)).1
      have habove : (m : ℚ) - 2 < nearestEven y := by
        norm_num at hy hm' ⊢
        linarith
      have hstep : m - 1 ≤ nearestEven y := by
        have : m - 2 < nearestEven y := by exact_mod_cast habove
        omega
      rw [rounded_eq_nearestEven hy' htop]
      exact_mod_cast hstep

/-- Nor is what it adds to the gain, in the lower half of the integers that are not rounded. -/
theorem rounded_lt_add_one (hm : 0 ≤ m) (hlt : m < 2 ^ 23) (hnonneg : 0 ≤ y)
    (hy : y ≤ (m : ℚ) * (1 + 1 / 2 ^ 25) * (1 + 1 / 2 ^ 24)) : rounded .binary32 y < m + 1 := by
  have hm' : (m : ℚ) + 1 ≤ 2 ^ 23 := by exact_mod_cast hlt
  have hpos : (0 : ℚ) ≤ m := by exact_mod_cast hm
  have hgain : y < m + 3 / 4 := by
    norm_num at hy hm' ⊢
    linarith
  have hy' : y < 2 ^ (23 : ℤ) := by
    norm_num at hm' ⊢
    linarith
  have herror := (abs_le.mp (abs_rounded_sub_le_of_lt hnonneg hy' (by decide))).2
  norm_num at herror
  linarith

theorem rounded_lt_add_two (hm : 0 ≤ m) (hlt : m < 2 ^ 24) (hnonneg : 0 ≤ y)
    (hy : y ≤ (m : ℚ) * (1 + 1 / 2 ^ 25) * (1 + 1 / 2 ^ 24)) : rounded .binary32 y < m + 2 := by
  have hm' : (m : ℚ) + 1 ≤ 2 ^ 24 := by exact_mod_cast hlt
  have hpos : (0 : ℚ) ≤ m := by exact_mod_cast hm
  have hgain : y < m + 3 / 2 := by
    norm_num at hy hm' ⊢
    linarith
  rcases lt_or_ge y (2 ^ (24 : ℤ)) with htop | htop
  · have herror := (abs_le.mp (abs_rounded_sub_le_of_lt hnonneg htop (by decide))).2
    norm_num at herror
    linarith
  · have htop' : y ≤ 2 ^ 24 + 1 := by
      norm_num at hm' ⊢
      linarith
    have hround := rounded_mono .binary32 htop'
    rw [rounded_two_pow_add_one] at hround
    norm_num at htop hround ⊢
    linarith

theorem rounded_top_mul {w : ℚ} (hfine : w = 0 ∨ 1 / 2 ^ 25 ≤ w)
    (hexact : rounded .binary32 w = w) : rounded .binary32 (2 ^ 24 * w) = 2 ^ 24 * w := by
  rcases hfine with rfl | hfine
  · rw [mul_zero, rounded_zero]
  · rw [rounded_two_pow_mul 24, hexact]
    refine le_trans ?_ hfine
    norm_num

/-- The largest altitudes are shared out without a rounding, and their shares add up to them. -/
theorem Shares.rounded_products_le {w c : ℚ} (hs : Shares w c) {range baro : ℤ}
    (hrange : range ≤ 2 ^ 24) (hbaro : baro ≤ 2 ^ 24) :
    rounded .binary32 (products range baro w c) ≤ 2 ^ 24 := by
  have hrange' : (range : ℚ) ≤ 2 ^ 24 := by exact_mod_cast hrange
  have hbaro' : (baro : ℚ) ≤ 2 ^ 24 := by exact_mod_cast hbaro
  have hp := rounded_mono .binary32 (mul_le_mul_of_nonneg_right hrange' hs.nonneg)
  have hq := rounded_mono .binary32 (mul_le_mul_of_nonneg_right hbaro' hs.nonneg')
  rw [rounded_top_mul hs.fine hs.exact] at hp
  rw [rounded_top_mul hs.fine' hs.exact'] at hq
  have hsum : products range baro w c ≤ 2 ^ 24 + 1 := by
    have hshares := (abs_le.mp hs.sum).2
    unfold products
    norm_num at hp hq hshares ⊢
    linarith
  have hround := rounded_mono .binary32 hsum
  rwa [rounded_two_pow_add_one] at hround

end Last

/-! ### Sensors that do not agree -/

section Apart

variable {range near far baro : ℤ} (h : InBand range near far)

include h

/-- Inside the band, neither weight is much less than what one centimetre is of the band. -/
theorem InBand.share_ge (hnear : range ≠ near) (hfar : range ≠ far) :
    (1 - 1 / 2 ^ 24) * (1 / (far - near)) ≤ rangerShare range near far ∧
      (1 - 1 / 2 ^ 24) * (1 / (far - near) - 1 / 2 ^ 24) ≤
        baroShare (rangerShare range near far) := by
  obtain ⟨hlow, hhigh⟩ := h.share_mem
  have hwidth := h.le_inv_width
  have hshare := h.inv_width_le hfar
  have hshare' := h.share_le hnear
  have hw : _ ≤ rangerShare range near far ∧ rangerShare range near far ≤ _ :=
    rounded_mem (hwidth.trans hshare)
  have hrest := h.rangerShare_le hnear
  have hc : _ ≤ baroShare (rangerShare range near far) := (rounded_mem (by linarith)).1
  generalize (1 / (far - near) : ℚ) = step at hwidth hshare hshare' ⊢
  constructor
  · norm_num at hw ⊢
    linarith
  · norm_num at hw hc ⊢
    linarith

omit h in
theorem products_one_zero (hrange : |range| ≤ 2 ^ 24) : products range baro 1 0 = range := by
  unfold products
  rw [mul_one, mul_zero, rounded_zero, add_zero, rounded_intCast hrange]

omit h in
theorem products_zero_one (hbaro : |baro| ≤ 2 ^ 24) : products range baro 0 1 = baro := by
  unfold products
  rw [mul_one, mul_zero, rounded_zero, zero_add, rounded_intCast hbaro]

/-- One centimetre of difference outweighs the roundings, if it is enough of the band. -/
theorem InBand.le_products_of_ne (hbaro : 0 < baro) (hbaro' : baro ≤ 2 ^ 24) (hne : range ≠ baro)
    (hsteep : (far - near) * min range baro ≤ 2 ^ 22) :
    ((min range baro : ℤ) : ℚ) ≤
      products range baro (rangerShare range near far) (baroShare (rangerShare range near far)) := by
  have hecho := h.echo
  have hle := h.le_far.trans h.far_le
  rcases eq_or_ne range near with rfl | hnear
  · rw [rangerShare_near h.wide, baroShare_one, products_one_zero (abs_le.mpr ⟨by omega, hle⟩)]
    exact_mod_cast min_le_left _ _
  rcases eq_or_ne range far with rfl | hfar
  · rw [rangerShare_far, baroShare_zero, products_zero_one (abs_le.mpr ⟨by omega, hbaro'⟩)]
    exact_mod_cast min_le_right _ _
  obtain ⟨hw, hc⟩ := h.share_ge hnear hfar
  have hs := h.shares
  have hsum := (abs_le.mp hs.sum).1
  have hproducts := (hs.products_near hecho.le hbaro.le).1
  generalize rangerShare range near far = w at *
  generalize baroShare w = c at *
  -- The lower altitude is at most this part of what one centimetre is of the band.
  have hlower : ((min range baro : ℤ) : ℚ) ≤ 2 ^ 22 * (1 / (far - near)) := by
    have hwide : (0 : ℚ) < far - near := by
      have : (near : ℚ) < far := by exact_mod_cast h.wide
      linarith
    rw [mul_one_div, le_div_iff₀ hwide, mul_comm]
    exact_mod_cast hsteep
  generalize (1 / (far - near) : ℚ) = step at *
  have hone : (1 : ℚ) ≤ (min range baro : ℤ) := by exact_mod_cast le_min hecho hbaro
  rcases lt_or_gt_of_ne hne with hlt | hgt
  · rw [min_eq_left hlt.le] at *
    have habove : (range : ℚ) + 1 ≤ baro := by exact_mod_cast hlt
    have hshare : (range + 1) * c ≤ baro * c := mul_le_mul_of_nonneg_right habove hs.nonneg'
    have hrest : (range : ℚ) * (1 - 1 / 2 ^ 25) ≤ range * (w + c) :=
      mul_le_mul_of_nonneg_left (by linarith) (by linarith)
    norm_num at *
    linarith
  · rw [min_eq_right hgt.le] at *
    have habove : (baro : ℚ) + 1 ≤ range := by exact_mod_cast hgt
    have hshare : (baro + 1) * w ≤ range * w := mul_le_mul_of_nonneg_right habove hs.nonneg
    have hrest : (baro : ℚ) * (1 - 1 / 2 ^ 25) ≤ baro * (w + c) :=
      mul_le_mul_of_nonneg_left (by linarith) (by linarith)
    norm_num at *
    linarith

end Apart

/-! ### The blend -/

/-- Where the blend `a` of an echo and of the barometer lies. -/
structure Blended (range baro near far a : ℤ) : Prop where
  /-- It lies between the two sensors unless the rounded mixture does not. -/
  between_iff : min range baro ≤ a ∧ a ≤ max range baro ↔
    near = far ∨ baro ≤ 0 ∨
      ((min range baro : ℤ) : ℚ) ≤ mixture range baro near far ∧
        mixture range baro near far < (max range baro : ℤ) + 1
  /-- It misses them by one centimetre at most. -/
  within_one : min range baro - 1 ≤ a ∧ a ≤ max range baro + 1
  /-- It is not above both of them, unless half-centimetres are lost already. -/
  le_max : max range baro < 2 ^ 23 → a ≤ max range baro
  /-- It is not below both of them, if they differ and the band is not too wide for their altitude. -/
  min_le : range ≠ baro → (far - near) * min range baro ≤ 2 ^ 22 → min range baro ≤ a

theorem blended_of_mem {range baro near far a : ℤ} (h : min range baro ≤ a ∧ a ≤ max range baro)
    (hiff : near = far ∨ baro ≤ 0 ∨ ((min range baro : ℤ) : ℚ) ≤ mixture range baro near far ∧
      mixture range baro near far < (max range baro : ℤ) + 1) :
    Blended range baro near far a :=
  ⟨iff_of_true h hiff, ⟨by omega, by omega⟩, fun _ => h.2, fun _ _ => h.1⟩

section Blend

variable {range baro near far : ℤ} (h : InBand range near far)

include h

theorem InBand.mixture_mem_of_nonpos (hbaro : baro ≤ 0) (hbaro' : -2 ^ 24 ≤ baro) :
    (baro : ℚ) ≤ mixture range baro near far ∧ mixture range baro near far ≤ range := by
  have hecho := h.echo
  have hle := h.le_far.trans h.far_le
  obtain ⟨hlow, hhigh⟩ := h.shares.products_mem_of_nonpos hecho.le hle hbaro hbaro'
  exact ⟨intCast_le_rounded (abs_le.mpr ⟨hbaro', by omega⟩) hlow,
    rounded_le_intCast (abs_le.mpr ⟨by omega, hle⟩) hhigh⟩

/-- Between two sensors of one sign, the integer part is the largest integer below the mixture. -/
theorem InBand.blended_of_pos (hbaro : 0 < baro) (hbaro' : baro ≤ 2 ^ 24) :
    Blended range baro near far ⌊mixture range baro near far⌋ := by
  have hecho := h.echo
  have hle := h.le_far.trans h.far_le
  have hs := h.shares
  have hmin : 0 < min range baro := lt_min hecho hbaro
  have hmin' : min range baro ≤ 2 ^ 24 := (min_le_left _ _).trans hle
  have hmax : max range baro ≤ 2 ^ 24 := max_le hle hbaro'
  have hnonneg := hs.products_nonneg hecho.le hbaro.le
  have hlower := sub_one_le_rounded hmin hmin'
    (hs.le_products hmin.le (min_le_left _ _) (min_le_right _ _))
  have hupper := hs.products_le hecho.le hbaro.le (le_max_left _ _) (le_max_right _ _)
  refine ⟨?_, ⟨?_, ?_⟩, fun hsmall => ?_, fun hne hsteep => ?_⟩
  · have hwide := h.wide.ne
    have hpos := hbaro.not_ge
    rw [Int.le_floor, ← Int.lt_add_one_iff, Int.floor_lt]
    push_cast
    tauto
  · rw [Int.le_floor]
    push_cast at hlower ⊢
    exact hlower
  · rw [← Int.lt_add_one_iff, Int.floor_lt]
    push_cast
    rcases hmax.lt_or_eq with hlt | htop
    · have hround := rounded_lt_add_two (by omega) hlt hnonneg hupper
      push_cast at hround
      exact hround.trans_eq (by ring)
    · have hround := hs.rounded_products_le hle hbaro'
      have htop' : max (range : ℚ) baro = 2 ^ 24 := by exact_mod_cast htop
      rw [htop']
      exact hround.trans_lt (by norm_num)
  · rw [← Int.lt_add_one_iff, Int.floor_lt]
    have hround := rounded_lt_add_one (by omega) hsmall hnonneg hupper
    push_cast at hround ⊢
    exact hround
  · rw [Int.le_floor]
    exact intCast_le_rounded (abs_le.mpr ⟨by omega, hmin'⟩)
      (h.le_products_of_ne hbaro hbaro' hne hsteep)

theorem InBand.blended (hbaro : |baro| ≤ 2 ^ 24) :
    Blended range baro near far (truncated (mixture range baro near far)) := by
  have hecho := h.echo
  obtain ⟨hlow, hhigh⟩ := abs_le.mp hbaro
  rcases le_or_gt baro 0 with hnonpos | hpos
  · obtain ⟨hlower, hupper⟩ := h.mixture_mem_of_nonpos hnonpos hlow
    have hfirst := truncated_mono hlower
    have hlast := truncated_mono hupper
    rw [truncated_intCast] at hfirst hlast
    exact blended_of_mem (by omega) (.inr (.inl hnonpos))
  · have hnonneg : 0 ≤ mixture range baro near far :=
      rounded_nonneg (h.shares.products_nonneg hecho.le hpos.le)
    rw [truncated_of_nonneg hnonneg]
    exact h.blended_of_pos hpos hhigh

omit h in
/-- A share of an altitude is no larger than the altitude. -/
theorem abs_mul_share_le {n : ℤ} (hn : |n| ≤ 2 ^ 24) {w : ℚ} (hlow : 0 ≤ w) (hhigh : w ≤ 1) :
    |n * w| ≤ 2 ^ 24 ∧ |rounded .binary32 (n * w)| ≤ 2 ^ 24 := by
  have hn' : |(n : ℚ)| ≤ 2 ^ 24 := by exact_mod_cast hn
  have hle : |n * w| ≤ 2 ^ 24 := by
    rw [abs_mul, abs_of_nonneg hlow]
    exact (mul_le_of_le_one_right (abs_nonneg _) hhigh).trans hn'
  refine ⟨hle, ?_⟩
  obtain ⟨hbelow, habove⟩ := abs_le.mp hle
  have hround := intCast_le_rounded (n := -2 ^ 24) (by norm_num) (by push_cast; exact hbelow)
  have hround' := rounded_le_intCast (n := 2 ^ 24) (by norm_num) (by push_cast; exact habove)
  push_cast at hround hround'
  exact abs_le.mpr ⟨hround, hround'⟩

theorem InBand.hasValue_mixture (hbaro : |baro| ≤ 2 ^ 24) :
    HasValue (singleOfInt range * (singleOfInt (far - range) / singleOfInt (far - near)) +
        singleOfInt baro * (1.0 - singleOfInt (far - range) / singleOfInt (far - near)))
      (mixture range baro near far) := by
  have hecho := h.echo
  have hle := h.le_far.trans h.far_le
  have hrange : |range| ≤ 2 ^ 24 := abs_le.mpr ⟨by omega, hle⟩
  have hs := h.shares
  obtain ⟨hp, hp'⟩ := abs_mul_share_le hrange hs.nonneg hs.le_one
  obtain ⟨hq, hq'⟩ := abs_mul_share_le hbaro hs.nonneg' hs.le_one'
  have hlarge : (2 : ℚ) ^ 24 + 2 ^ 24 ≤ 2 ^ 127 := by norm_num
  have hfirst := (hasValue_singleOfInt hrange).mul h.hasValue_share (by linarith)
  have hsecond := (hasValue_singleOfInt hbaro).mul h.hasValue_baroShare (by linarith)
  exact hfirst.add hsecond ((abs_add_le _ _).trans (by linarith))

end Blend

/-- The altitudes of the ranger and of the barometer are integers that single precision has, and the
band does not go below zero. -/
structure RangerReading.Moderate (reading : RangerReading) (baro : Int32) : Prop where
  near_nonneg : 0 ≤ reading.near
  far_le : reading.far.toInt ≤ 2 ^ 24
  baro_le : |baro.toInt| ≤ 2 ^ 24

/-- Where the blend lies, if there is one. -/
theorem blendRanger_between_iff {reading : RangerReading} {baro a : Int32}
    (h : reading.Moderate baro) (hblend : blendRanger reading baro = .ok (some a)) :
    Blended reading.range.toInt baro.toInt reading.near.toInt reading.far.toInt a.toInt := by
  obtain ⟨hnear, hfar, hbaro⟩ := h
  have hbaro' := abs_le.mp hbaro
  rw [Int32.le_iff_toInt_le, Int32.toInt_zero] at hnear
  have hnarrow : ¬ reading.TooWide := by
    rintro ⟨-, -, -, hwide⟩
    omega
  rw [blendRanger_eq hnarrow] at hblend
  have hblended := Except.ok.inj hblend
  unfold RangerReading.blended at hblended
  simp only [Int32.lt_iff_toInt_lt, Int32.le_iff_toInt_le, Int32.toInt_zero] at hblended
  split_ifs at hblended with hout hpoint
  · obtain rfl := Option.some_inj.mp hblended
    exact blended_of_mem (by omega) (.inl (congrArg Int32.toInt hpoint.symm))
  · have hwide : reading.near.toInt ≠ reading.far.toInt := fun heq =>
      hpoint (Int32.toInt_inj.mp heq.symm)
    have hband : InBand reading.range.toInt reading.near.toInt reading.far.toInt := by
      constructor <;> omega
    obtain rfl := Option.some_inj.mp hblended
    have hwhole := hband.blended hbaro
    obtain ⟨hlow, hhigh⟩ := hwhole.within_one
    rw [(hband.hasValue_mixture hbaro).toInt_truncate32, saturate_eq_self]
    · exact hwhole
    · unfold IsWord
      have := hband.le_far
      omega

/-- An echo at 100 cm, one centimetre below the barometer, and the echo at which two sensors that
agree give less: there the mixture falls short of them. -/
theorem blendRanger_between_iff_agreeing :
    RangerReading.Moderate ⟨100, 50, 250⟩ 101 ∧
      blendRanger ⟨100, 50, 250⟩ 101 = .ok (some 100) ∧ Blended 100 101 50 250 100 ∧
      RangerReading.Moderate ⟨9, 0, 10⟩ 9 ∧ blendRanger ⟨9, 0, 10⟩ 9 = .ok (some 8) ∧
      ¬ (9 ≤ mixture 9 9 0 10 ∧ mixture 9 9 0 10 < 9 + 1) := by
  have hapart : RangerReading.Moderate ⟨100, 50, 250⟩ 101 := ⟨by decide, by decide, by decide⟩
  have hagree : RangerReading.Moderate ⟨9, 0, 10⟩ 9 := ⟨by decide, by decide, by decide⟩
  have hblend : blendRanger ⟨100, 50, 250⟩ 101 = .ok (some 100) := by decide +kernel
  have hshort : blendRanger ⟨9, 0, 10⟩ 9 = .ok (some 8) := by decide +kernel
  have hbetween := (blendRanger_between_iff hagree hshort).between_iff
  refine ⟨hapart, hblend, blendRanger_between_iff hapart hblend, hagree, hshort, fun hmixture => ?_⟩
  exact absurd (hbetween.mpr (.inr (.inr hmixture))).1 (by decide)

/-- The ranger and the barometer agree, and the blend is one centimetre short of them. -/
theorem blendRanger_short :
    RangerReading.Moderate ⟨9, 0, 10⟩ 9 ∧ blendRanger ⟨9, 0, 10⟩ 9 = .ok (some 8) ∧
      ¬ min (9 : Int32).toInt (9 : Int32).toInt ≤ (8 : Int32).toInt := by
  refine ⟨⟨by decide, by decide, by decide⟩, ?_, by decide⟩
  decide +kernel

/-- Where altitudes in centimetres fill all 24 places, the blend can be above both sensors. -/
example : blendRanger ⟨10845305, 5282915, 10898225⟩ 10845306 = .ok (some 10845307) := by
  decide +kernel

end Autopilot
