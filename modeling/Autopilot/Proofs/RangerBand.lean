import Autopilot.Instruments
import Autopilot.Proofs.RangerBlend
import Autopilot.Proofs.RangerReach

/-!
# The band of the ranger and its two ends

The blend subtracts altitudes and divides by the width of the band.  Neither can go wrong when the
band does not begin below zero: inside of it no difference leaves the words, and the width is one
centimetre or more where it is divided by (`RangerReading.Blend`).  At the lower end of the band the
blend is the ranger, and at the upper end the barometer, with nothing lost to rounding.

The band of the simulated ranger comes from numbers in its fitment that can be anything, so it can
begin below zero, and be empty.  But a reading inside of it shows that it does not begin below zero,
and that it ends above its beginning (`Instruments.inBand_rangerReading`).
-/

namespace Autopilot

/-! ### Any band that does not begin below zero -/

/-- What the blend of a reading and of the barometer is. -/
structure RangerReading.Blend (reading : RangerReading) (baro : Int32) (blend : Option Int32) :
    Prop where
  /-- There is one exactly inside of the band. -/
  isSome_iff : blend.isSome = true ↔ reading.InBand
  /-- No difference leaves the words. -/
  isWord : reading.InBand →
    IsWord (reading.far.toInt - reading.range.toInt) ∧
      IsWord (reading.far.toInt - reading.near.toInt)
  /-- The width of the band is divided by only if there is one, and it is not rounded away. -/
  one_le_width : reading.InBand → reading.near ≠ reading.far →
    1 ≤ reading.far.toInt - reading.near.toInt ∧
      1.0 ≤ singleOfInt (reading.far.toInt - reading.near.toInt)
  /-- The ranger counts alone at the lower end. -/
  at_near : reading.InBand → reading.Moderate baro → reading.range = reading.near →
    blend = some reading.range
  /-- The barometer counts alone at the upper end, if the ends are apart. -/
  at_far : reading.InBand → reading.Moderate baro → reading.near < reading.far →
    reading.range = reading.far → blend = some baro

theorem mixture_near {near far baro : ℤ} (hwide : near < far) (hnear : |near| ≤ 2 ^ 24) :
    mixture near baro near far = near := by
  unfold mixture
  dsimp only
  rw [rangerShare_near hwide, baroShare_one]
  change rounded .binary32 (products near baro 1 0) = near
  rw [products_one_zero hnear, rounded_intCast hnear]

theorem mixture_far (near far : ℤ) {baro : ℤ} (hbaro : |baro| ≤ 2 ^ 24) :
    mixture far baro near far = baro := by
  unfold mixture
  dsimp only
  rw [rangerShare_far, baroShare_zero]
  change rounded .binary32 (products far baro 0 1) = baro
  rw [products_zero_one hbaro, rounded_intCast hbaro]

namespace RangerReading

section Band

variable {reading : RangerReading} {baro : Int32}

theorem isSome_blended_iff : (reading.blended baro).isSome = true ↔ reading.InBand := by
  constructor
  · intro hsome
    by_contra hout
    rw [blended_eq_none hout] at hsome
    cases hsome
  · intro hin
    unfold blended
    rw [if_neg hin.not_refused]
    split_ifs <;> rfl

/-- A band from zero on is not wider than a word. -/
theorem not_tooWide (h : reading.InBand → 0 ≤ reading.near.toInt) : ¬ reading.TooWide := by
  rintro ⟨hecho, hnear, hfar, hwide⟩
  have hnonneg := h ⟨hecho, hnear, hfar⟩
  have hword := (isWord_toInt reading.far).2
  omega

/-- A blend of altitudes that single precision has, where the mixture is an integer. -/
theorem blended_eq_some (h : reading.InBand) (hmoderate : reading.Moderate baro) {a : Int32}
    (hwide : reading.near < reading.far)
    (ha : mixture reading.range.toInt baro.toInt reading.near.toInt reading.far.toInt = a.toInt) :
    reading.blended baro = some a := by
  obtain ⟨hnonneg, hfar, hbaro⟩ := hmoderate
  rw [Int32.le_iff_toInt_le, Int32.toInt_zero] at hnonneg
  rw [Int32.lt_iff_toInt_lt] at hwide
  have hin := inBand_iff.mp h
  have hband : Autopilot.InBand reading.range.toInt reading.near.toInt reading.far.toInt :=
    ⟨hin.1, hnonneg, hin.2.1, hin.2.2, hwide, hfar⟩
  have hvalue := hband.hasValue_mixture hbaro
  rw [ha] at hvalue
  unfold blended
  rw [if_neg h.not_refused, if_neg (fun heq => hwide.ne (congrArg Int32.toInt heq.symm))]
  dsimp only
  refine congrArg some (Int32.toInt_inj.mp ?_)
  rw [hvalue.toInt_truncate32, truncated_intCast, saturate_eq_self (isWord_toInt a)]

theorem blended_at_near (h : reading.InBand) (hmoderate : reading.Moderate baro)
    (hrange : reading.range = reading.near) : reading.blended baro = some reading.range := by
  have hin := inBand_iff.mp h
  rcases eq_or_ne reading.far reading.near with hpoint | hne
  · exact h.blended_of_point hpoint baro
  · have hne' : reading.far.toInt ≠ reading.near.toInt := fun heq => hne (Int32.toInt_inj.mp heq)
    have hwide : reading.near.toInt < reading.far.toInt := by omega
    have hfar := hmoderate.far_le
    refine blended_eq_some h hmoderate (Int32.lt_iff_toInt_lt.mpr hwide) ?_
    rw [hrange] at hin ⊢
    exact mixture_near hwide (abs_le.mpr ⟨by omega, by omega⟩)

theorem blended_at_far (h : reading.InBand) (hmoderate : reading.Moderate baro)
    (hwide : reading.near < reading.far) (hrange : reading.range = reading.far) :
    reading.blended baro = some baro := by
  refine blended_eq_some h hmoderate hwide ?_
  rw [hrange]
  exact mixture_far _ _ hmoderate.baro_le

theorem blend_blended (h : reading.InBand → 0 ≤ reading.near.toInt) (baro : Int32) :
    reading.Blend baro (reading.blended baro) where
  isSome_iff := isSome_blended_iff
  isWord := by
    intro hin
    have hnonneg := h hin
    have hin' := inBand_iff.mp hin
    have hword := isWord_toInt reading.far
    unfold IsWord at hword ⊢
    omega
  one_le_width := by
    intro hin hne
    have hin' := inBand_iff.mp hin
    have hne' : reading.near.toInt ≠ reading.far.toInt := fun heq => hne (Int32.toInt_inj.mp heq)
    have hword := isWord_toInt reading.far
    have hword' := isWord_toInt reading.near
    unfold IsWord at hword hword'
    have hone : 1 ≤ reading.far.toInt - reading.near.toInt := by omega
    have hlarge : |reading.far.toInt - reading.near.toInt| ≤ 2 ^ 127 := by
      rw [abs_le]
      omega
    refine ⟨hone, (hasValue_one.le_iff (hasValue_singleOfInt_rounded hlarge)).mpr ?_⟩
    rw [← rounded_one]
    exact rounded_mono .binary32 (by exact_mod_cast hone)
  at_near := blended_at_near
  at_far := blended_at_far

end Band

end RangerReading

/-! ### The simulated ranger -/

namespace RangeFinder

variable (r : RangeFinder)

/-- Halving goes towards zero. -/
theorem toInt_near :
    r.near.toInt = if 0 ≤ r.far.toInt then r.far.toInt / 2 else -(-r.far.toInt / 2) := by
  have hhalf : r.far.toInt.tdiv 2 =
      if 0 ≤ r.far.toInt then r.far.toInt / 2 else -(-r.far.toInt / 2) := by
    split_ifs with hnonneg
    · exact Int.tdiv_eq_ediv_of_nonneg hnonneg
    · rw [← Int.tdiv_eq_ediv_of_nonneg (by omega), Int.neg_tdiv, neg_neg]
  have hword := isWord_toInt r.far
  unfold near
  -- A half of a word is a word, and it is not saturated.
  rw [toInt_ofIntClamp, hhalf, saturate_eq_self]
  unfold IsWord at hword ⊢
  split_ifs <;> omega

/-- A band that is not empty begins at zero or above. -/
theorem near_nonneg_of_near_le_far (h : r.near.toInt ≤ r.far.toInt) : 0 ≤ r.near.toInt := by
  rw [toInt_near] at h ⊢
  split_ifs at h ⊢ <;> omega

theorem one_le_width (h : 0 < r.far.toInt) : 1 ≤ r.far.toInt - r.near.toInt := by
  rw [toInt_near, if_pos h.le]
  omega

end RangeFinder

/-- A reading inside of the band shows that the band does not begin below zero and is no point. -/
theorem Instruments.inBand_rangerReading {s : Instruments} {cosTilt : Float32}
    (h : (s.rangerReading cosTilt).InBand) :
    0 ≤ (s.rangerReading cosTilt).near.toInt ∧
      1 ≤ (s.rangerReading cosTilt).far.toInt - (s.rangerReading cosTilt).near.toInt := by
  obtain ⟨hecho, hnear, hfar⟩ := RangerReading.inBand_iff.mp h
  exact ⟨s.ranger.near_nonneg_of_near_le_far (hnear.trans hfar),
    s.ranger.one_le_width (hecho.trans_le hfar)⟩

/-! ### The blend -/

/-- A reading whose band does not begin below zero has a blend inside of the band and none outside
of it, and is never at fault.  So has every reading of the simulated ranger, whatever its fitment,
its altitude and its tilt are, since inside of the band these readings are such readings. -/
theorem exists_blendRanger_eq_ok (baro : Int32) :
    (∀ reading : RangerReading, 0 ≤ reading.near →
      ∃ blend, blendRanger reading baro = .ok blend ∧ reading.Blend baro blend) ∧
    ∀ (s : Instruments) (cosTilt : Float32),
      ((s.rangerReading cosTilt).InBand →
        0 ≤ (s.rangerReading cosTilt).near ∧
          1 ≤ (s.rangerReading cosTilt).far.toInt - (s.rangerReading cosTilt).near.toInt) ∧
      ∃ blend, blendRanger (s.rangerReading cosTilt) baro = .ok blend ∧
        (s.rangerReading cosTilt).Blend baro blend := by
  have hblend : ∀ reading : RangerReading, (reading.InBand → 0 ≤ reading.near.toInt) →
      ∃ blend, blendRanger reading baro = .ok blend ∧ reading.Blend baro blend :=
    fun reading h => ⟨_, blendRanger_eq (RangerReading.not_tooWide h) baro,
      RangerReading.blend_blended h baro⟩
  refine ⟨fun reading hnear => hblend reading fun _ => Int32.le_iff_toInt_le.mp hnear, ?_⟩
  intro s cosTilt
  refine ⟨fun h => ?_, hblend _ fun h => (s.inBand_rangerReading h).1⟩
  obtain ⟨hnear, hwidth⟩ := s.inBand_rangerReading h
  exact ⟨Int32.le_iff_toInt_le.mpr hnear, hwidth⟩

/-- Instruments without noise, at two and a half metres. -/
def hovering : Instruments where
  baro := { noise := ⟨0.0, .ofSeed 42⟩, stepsLeft := 0, truth := 250.0 }
  ranger := { noise := ⟨0.0, .ofSeed 43⟩, reach := 400, coneCos := 0.875, truth := 250.0 }
  accel := { noise := ⟨0.0, .ofSeed 44⟩, countsPerGravity := 512.0, window := .empty }

/-- Both ends of a band with the blends there, and a reading of the simulated ranger inside of its
band. -/
theorem exists_blendRanger_eq_ok_hovering :
    blendRanger ⟨50, 50, 250⟩ 100 = .ok (some 50) ∧
      blendRanger ⟨250, 50, 250⟩ 100 = .ok (some 100) ∧
      hovering.rangerReading 1.0 = ⟨250, 175, 350⟩ ∧
      ∃ blend, blendRanger ⟨250, 175, 350⟩ 100 = .ok blend ∧ blend.isSome = true := by
  have hfirst : RangerReading.InBand ⟨50, 50, 250⟩ := ⟨by decide, by decide, by decide⟩
  have hlast : RangerReading.InBand ⟨250, 50, 250⟩ := ⟨by decide, by decide, by decide⟩
  have hreading : hovering.rangerReading 1.0 = ⟨250, 175, 350⟩ := by decide +kernel
  have hinside : RangerReading.InBand ⟨250, 175, 350⟩ := ⟨by decide, by decide, by decide⟩
  obtain ⟨hband, hsimulated⟩ := exists_blendRanger_eq_ok 100
  obtain ⟨first, hfirst', hblend⟩ := hband ⟨50, 50, 250⟩ (by decide)
  obtain ⟨last, hlast', hblend'⟩ := hband ⟨250, 50, 250⟩ (by decide)
  obtain ⟨blend, heq, hblend''⟩ := (hsimulated hovering 1.0).2
  obtain rfl := hblend.at_near hfirst ⟨by decide, by decide, by decide⟩ rfl
  obtain rfl := hblend'.at_far hlast ⟨by decide, by decide, by decide⟩ (by decide) rfl
  rw [hreading] at heq hblend''
  exact ⟨hfirst', hlast', hreading, blend, heq, hblend''.isSome_iff.mpr hinside⟩

end Autopilot
