import Mathlib.Data.List.Perm.Basic
import Autopilot.Proofs.DoubleArithmetic
import Autopilot.Proofs.Trace

/-!
# The accuracy of a hold over two stretches of time

A stretch of time that is cut in two has the samples of the two parts.  The stretches are half open, so
that a sample at the cut is in one of them only, and a sample whose time is no number is in none
(`Trace.counted_perm`).  The samples of a trace may be in any order.

The worst error of the whole is the larger one of the two parts.  Errors that are no numbers are passed
over, and of the sizes of the others, two that compare with neither below the other are the same
(`IsSize.eq_of_not_lt`).  So the worst error does not depend on the order of the errors
(`Trace.worst_perm`), and it may be taken in parts (`Trace.worst_append`).
-/

namespace Autopilot

open Float.Model Float.Model.UnpackedFloat

/-! ### Sizes -/

/-- The double is a number without a negative sign. -/
def IsSize (x : Float) : Prop :=
  x.toModel.unpack = .infinity .positive ∨ ∃ q, Amounts x q

section Sizes

variable {x y : Float}

theorem IsSize.isNumber (h : IsSize x) : IsNumber .binary64 x.toModel.unpack := by
  rcases h with hinfinity | ⟨q, hq⟩
  · rw [hinfinity]
    exact .infinity _
  · exact .sized hq.sized hq.lt

theorem IsSize.not_lt_zero (h : IsSize x) : ¬ x < 0 := by
  intro hlt
  obtain ⟨-, -, hrank⟩ := double_lt_iff.mp hlt
  rw [show rank 0 = 0 from rfl] at hrank
  rcases h with hinfinity | ⟨q, hq⟩
  · unfold rank at hrank
    rw [hinfinity] at hrank
    exact hrank.not_gt (sizeLimit_pos .binary64)
  · rw [show rank x = q from hq.sized.place_eq] at hrank
    exact hrank.not_ge hq.nonneg

theorem IsSize.le_refl (h : IsSize x) : x ≤ x :=
  double_le_iff.mpr ⟨h.isNumber, h.isNumber, le_rfl⟩

theorem isSize_zero : IsSize 0 :=
  .inr ⟨0, .zero, sizeLimit_pos _⟩

/-- What is left of a number without its sign is a size, and of what is no number there is no size. -/
theorem isSize_abs (h : IsNumber .binary64 x.abs.toModel.unpack) : IsSize x.abs := by
  have hx : IsNumber .binary64 x.toModel.unpack := by
    refine isNumber_unpack (by decide) fun hnot => ?_
    change x.toModel.unpack = .notANumber at hnot
    rw [isNumber_iff] at h
    change (Float.ofModel (.pack x.toModel.unpack.abs)).isNaN = false at h
    rw [hnot] at h
    exact absurd h (by decide)
  change IsSize (.ofModel (.pack x.toModel.unpack.abs))
  generalize x.toModel.unpack = u at hx
  cases hx with
  | infinity s => exact .inl (unpack_packedInfinity .positive)
  | sized hsized hlt => exact .inr ⟨_, amounts_pack hsized.abs hlt⟩

/-- Two sizes of which neither is below the other are one double. -/
theorem IsSize.eq_of_not_lt (hx : IsSize x) (hy : IsSize y) (hxy : ¬ x < y) (hyx : ¬ y < x) :
    x = y := by
  have hrank : rank x = rank y := by
    rw [double_lt_iff, not_and, not_and, not_lt] at hxy hyx
    exact le_antisymm (hyx hy.isNumber hx.isNumber) (hxy hx.isNumber hy.isNumber)
  have hunpack : x.toModel.unpack = y.toModel.unpack := by
    unfold rank at hrank
    rcases hx with hx | ⟨p, hp⟩ <;> rcases hy with hy | ⟨q, hq⟩
    · rw [hx, hy]
    · rw [hx, hq.sized.place_eq] at hrank
      exact absurd hrank hq.lt.ne'
    · rw [hy, hp.sized.place_eq] at hrank
      exact absurd hrank hp.lt.ne
    · rw [hp.sized.place_eq, hq.sized.place_eq] at hrank
      obtain rfl : p = q := hrank
      exact hp.sized.eq hq.sized
  rw [← double_ofModel_pack_unpack x, hunpack, double_ofModel_pack_unpack]

end Sizes

/-! ### The worst error -/

namespace Trace

variable {a b c : Float}

theorem larger_of_not_isNumber (h : ¬ IsNumber .binary64 b.toModel.unpack) : larger a b = a :=
  if_neg fun hlt => h (double_lt_iff.mp hlt).2.1

theorem larger_assoc (hb : IsNumber .binary64 b.toModel.unpack) :
    larger (larger a b) c = larger a (larger b c) := by
  by_cases hab : a < b
  · by_cases hbc : b < c
    · have hac : a < c := double_lt_trans hab hbc
      simp only [larger, if_pos hab, if_pos hbc, if_pos hac]
    · simp only [larger, if_pos hab, if_neg hbc]
  · by_cases hbc : b < c
    · simp only [larger, if_neg hab, if_pos hbc]
    · have hac : ¬ a < c := by
        intro hac
        rw [double_lt_iff, not_and, not_and, not_lt] at hab hbc
        obtain ⟨ha, hc, hrank⟩ := double_lt_iff.mp hac
        exact hrank.not_ge ((hbc hb hc).trans (hab ha hb))
      simp only [larger, if_neg hab, if_neg hbc, if_neg hac]

theorem larger_comm (ha : IsSize a) (hb : IsSize b) : larger a b = larger b a := by
  unfold larger
  split_ifs with hab hba hba
  · exact absurd hba (double_not_lt_of_le (double_le_of_lt hab))
  · rfl
  · rfl
  · exact ha.eq_of_not_lt hb hab hba

theorem isSize_larger (ha : IsSize a) : IsSize (larger a b.abs) := by
  unfold larger
  split_ifs with h
  · exact isSize_abs (double_lt_iff.mp h).2.1
  · exact ha

/-- Two errors may be looked at in either order, also when one of them is no number. -/
theorem larger_right_comm (m e e' : Float) :
    larger (larger m e.abs) e'.abs = larger (larger m e'.abs) e.abs := by
  by_cases he : IsNumber .binary64 e.abs.toModel.unpack
  · by_cases he' : IsNumber .binary64 e'.abs.toModel.unpack
    · rw [larger_assoc he, larger_comm (isSize_abs he) (isSize_abs he'), ← larger_assoc he']
    · rw [larger_of_not_isNumber he', larger_of_not_isNumber he']
  · rw [larger_of_not_isNumber he, larger_of_not_isNumber he]

/-- The largest size of an error, or zero. -/
def worst (errors : List Float) : Float :=
  errors.foldl (fun worst e => larger worst e.abs) 0.0

instance : RightCommutative fun worst e => larger worst (Float.abs e) :=
  ⟨larger_right_comm⟩

theorem worst_perm {l l' : List Float} (h : l.Perm l') : worst l = worst l' :=
  h.foldl_eq 0.0

theorem isSize_worst (l : List Float) : IsSize (worst l) :=
  List.foldlRecOn l _ isSize_zero fun _ h _ _ => isSize_larger h

/-- What was found before a search for the worst error may as well be compared with its result. -/
theorem foldl_larger (m : Float) (l : List Float) {k : Float} (hk : IsSize k) :
    l.foldl (fun worst e => larger worst e.abs) (larger m k) =
      larger m (l.foldl (fun worst e => larger worst e.abs) k) := by
  induction l generalizing k with
  | nil => rfl
  | cons e rest ih =>
    rw [List.foldl_cons, List.foldl_cons, larger_assoc hk.isNumber]
    exact ih (isSize_larger hk)

theorem worst_append (l l' : List Float) : worst (l ++ l') = larger (worst l) (worst l') := by
  have hstart : larger (worst l) 0.0 = worst l := if_neg (isSize_worst l).not_lt_zero
  have hrest := foldl_larger (worst l) l' isSize_zero
  rw [show (0 : Float) = 0.0 from rfl, hstart] at hrest
  rw [worst, List.foldl_append]
  exact hrest

/-- Of two sizes, the larger one is one of them and below neither. -/
theorem larger_greatest (ha : IsSize a) (hb : IsSize b) :
    a ≤ larger a b ∧ b ≤ larger a b ∧ (larger a b = a ∨ larger a b = b) := by
  unfold larger
  split_ifs with h
  · exact ⟨double_le_of_lt h, hb.le_refl, .inr rfl⟩
  · exact ⟨ha.le_refl, double_le_of_not_lt ha.isNumber hb.isNumber h, .inl rfl⟩

/-! ### The accuracy of errors -/

/-- The samples that an accuracy is taken of, none where there is no accuracy. -/
def samplesOf (accuracy : Option Accuracy) : ℕ :=
  (accuracy.map Accuracy.samples).getD 0

/-- The worst error of an accuracy, zero where there is none. -/
def worstOf (accuracy : Option Accuracy) : Float :=
  (accuracy.map Accuracy.worst).getD 0

theorem accuracyOf_eq_none_iff {errors : List Float} : accuracyOf errors = none ↔ errors = [] := by
  cases errors <;> simp [accuracyOf]

theorem samplesOf_accuracyOf (errors : List Float) :
    samplesOf (accuracyOf errors) = errors.length := by
  cases errors <;> rfl

theorem worstOf_accuracyOf (errors : List Float) : worstOf (accuracyOf errors) = worst errors := by
  cases errors <;> rfl

/-! ### Stretches of time -/

section Stretches

variable {t : Trace} {n : ℕ} {start cut stop : Float}

/-- A stretch of time has the samples of its two parts. -/
theorem counted_perm (hstart : start ≤ cut) (hstop : cut ≤ stop) :
    (t.counted start stop).Perm (t.counted start cut ++ t.counted cut stop) := by
  -- The samples of the whole are sorted into those before the cut and the others.  All of them have a
  -- time that is a number, so the others are those from the cut on.
  have hbefore : (t.counted start stop).filter (fun row => row.time < cut) =
      t.counted start cut := by
    unfold counted
    rw [List.filter_filter]
    refine List.filter_congr fun row _ => ?_
    rw [← Bool.decide_and, decide_eq_decide]
    constructor
    · rintro ⟨hcut, hlow, -, hcounts⟩
      exact ⟨hlow, hcut, hcounts⟩
    · rintro ⟨hlow, hcut, hcounts⟩
      exact ⟨hcut, hlow, double_lt_of_lt_of_le hcut hstop, hcounts⟩
  have hafter : (t.counted start stop).filter (fun row => !decide (row.time < cut)) =
      t.counted cut stop := by
    unfold counted
    rw [List.filter_filter]
    refine List.filter_congr fun row _ => ?_
    rw [← decide_not, ← Bool.decide_and, decide_eq_decide]
    constructor
    · rintro ⟨hcut, hlow, hhigh, hcounts⟩
      exact ⟨double_le_of_not_lt (double_le_iff.mp hlow).2.1 (double_le_iff.mp hstop).1 hcut, hhigh,
        hcounts⟩
    · rintro ⟨hcut, hhigh, hcounts⟩
      exact ⟨double_not_lt_of_le hcut, double_le_trans hstart hcut, hhigh, hcounts⟩
  have hparts := List.filter_append_perm (fun row : Sample => decide (row.time < cut))
    (t.counted start stop)
  rw [hbefore, hafter] at hparts
  exact hparts.symm

/-- While the columns have one length, the accuracy over a stretch of time is that of the two parts of
the stretch: nothing counts in it when nothing counts in either part, the samples add up, and the worst
error is the larger one.  It is the accuracy of the samples of the stretch in which altitude is held and
neither the script nor the stick interferes, and no sample is asked for that is not there. -/
theorem accuracy_split (h : t.lengths = List.replicate 14 n) (hstart : start ≤ cut)
    (hstop : cut ≤ stop) :
    ∃ whole first second, t.accuracy start stop = .ok whole ∧ t.accuracy start cut = .ok first ∧
      t.accuracy cut stop = .ok second ∧
      (whole = none ↔ first = none ∧ second = none) ∧
      samplesOf whole = samplesOf first + samplesOf second ∧
      (worstOf first ≤ worstOf whole ∧ worstOf second ≤ worstOf whole ∧
        (worstOf whole = worstOf first ∨ worstOf whole = worstOf second)) ∧
      whole = accuracyOf ((t.counted start stop).map Sample.holdError) ∧
      ∀ row, row ∈ t.counted start stop ↔
        (∃ i < n, t.sample? i = some row) ∧ start ≤ row.time ∧ row.time < stop ∧
          (row.baroHold = true ∨ row.rangerHold = true) ∧ row.disturbed = false ∧
          row.displaced = false := by
  have hsize : t.size = n := List.head_eq_of_cons_eq h
  have hparts := (counted_perm (t := t) hstart hstop).map Sample.holdError
  rw [List.map_append] at hparts
  refine ⟨_, _, _, accuracy_eq h _ _, accuracy_eq h _ _, accuracy_eq h _ _, ?_, ?_, ?_, rfl, ?_⟩
  · -- A list without errors is a permutation of no other.
    rw [accuracyOf_eq_none_iff, accuracyOf_eq_none_iff, accuracyOf_eq_none_iff,
      ← List.append_eq_nil_iff]
    exact ⟨fun hnil => List.nil_perm.mp (hnil ▸ hparts), fun hnil => List.perm_nil.mp (hnil ▸ hparts)⟩
  · rw [samplesOf_accuracyOf, samplesOf_accuracyOf, samplesOf_accuracyOf, hparts.length_eq,
      List.length_append]
  · rw [worstOf_accuracyOf, worstOf_accuracyOf, worstOf_accuracyOf, worst_perm hparts, worst_append]
    exact larger_greatest (isSize_worst _) (isSize_worst _)
  · intro row
    rw [mem_counted, hsize]
    rfl

end Stretches

/-- Samples that are not in the order of their times.  The time of one and the altitude of another are
no numbers, and the script disturbs the last. -/
def mixed : Trace where
  time := #[1.5, 0.0 / 0.0, 0.5, 1.0, 2.0, 1.25]
  altitude := #[103.0, 500.0, 98.0, 0.0 / 0.0, 900.0, 700.0]
  velocity := .replicate 6 0.0
  estimate := .replicate 6 100
  vario := .replicate 6 0
  setpoint := .replicate 6 100
  throttle := .replicate 6 1500
  pitch := .replicate 6 0
  correction := .replicate 6 0
  integral := .replicate 6 0
  baroHold := #[true, true, false, true, true, true]
  rangerHold := #[false, false, true, false, false, false]
  displaced := .replicate 6 false
  disturbed := #[false, false, false, false, false, true]

/-- The sample at the cut counts in the second part only, and the one at the end in none. -/
theorem accuracy_split_mixed :
    mixed.lengths = List.replicate 14 6 ∧ (0.5 : Float) ≤ 1.0 ∧ (1.0 : Float) ≤ 2.0 ∧
      ∃ whole first second, mixed.accuracy 0.5 2.0 = .ok whole ∧
        mixed.accuracy 0.5 1.0 = .ok first ∧ mixed.accuracy 1.0 2.0 = .ok second ∧
        samplesOf first = 1 ∧ samplesOf second = 2 ∧ samplesOf whole = 3 ∧
        worstOf first = 2.0 ∧ worstOf second = 3.0 ∧ worstOf whole = 3.0 := by
  have hlengths : mixed.lengths = List.replicate 14 6 := by decide +kernel
  have hstart : (0.5 : Float) ≤ 1.0 := by decide +kernel
  have hstop : (1.0 : Float) ≤ 2.0 := by decide +kernel
  obtain ⟨whole, first, second, hwhole, hfirst, hsecond, -, hsamples, ⟨-, hworst, heither⟩, -⟩ :=
    accuracy_split hlengths hstart hstop
  have hone : (mixed.accuracy 0.5 1.0).toOption.map (fun a => (samplesOf a, worstOf a)) =
      some (1, 2.0) := by
    decide +kernel
  have htwo : (mixed.accuracy 1.0 2.0).toOption.map (fun a => (samplesOf a, worstOf a)) =
      some (2, 3.0) := by
    decide +kernel
  rw [hfirst] at hone
  rw [hsecond] at htwo
  obtain ⟨hsamples₁, hworst₁⟩ := Prod.mk.inj (Option.some.inj hone)
  obtain ⟨hsamples₂, hworst₂⟩ := Prod.mk.inj (Option.some.inj htwo)
  rw [hsamples₁, hsamples₂] at hsamples
  rw [hworst₁, hworst₂] at heither
  rw [hworst₂] at hworst
  refine ⟨hlengths, hstart, hstop, whole, first, second, hwhole, hfirst, hsecond, hsamples₁,
    hsamples₂, hsamples, hworst₁, hworst₂, heither.resolve_left fun h => ?_⟩
  rw [h] at hworst
  exact absurd hworst (by decide +kernel)

end Trace

end Autopilot
