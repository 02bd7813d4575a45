import Autopilot.Proofs.RoundEven
import Autopilot.Proofs.Shortest
import Autopilot.Report

/-!
# Summaries of sweeps

A sweep is written as a table with a line for each of its rows below a header (`Sweep.table_eq`), or as
a document with a run for each of them (`Sweep.document_eq`).  `SweepRow.line` and `SweepRow.run` are
what stands there for a row: its gain and its accuracy.

An error in a table has two decimal places, and no other number with two places is nearer to it
(`HasDoubleValue.fixed_nearest`).  A document has its members in the order of their keys.  The script of
a document is in that order already, and stays as it is (`Json.sorted_sorted`).
-/

namespace Autopilot

open Float.Model Float.Model.UnpackedFloat

/-! ### Numbers in a table -/

theorem intCell_natCast (n : ℕ) : intCell n = toString n := by
  unfold intCell Numeral.text Numeral.chars Numeral.ofInt
  dsimp only
  rw [decide_eq_false (by omega), Int.natAbs_natCast]
  simp only [Numeral.exponentText, Bool.false_eq_true, if_false, List.nil_append, List.append_nil]
  rfl

/-- A quotient is rounded to the nearest integer, a half to the even one. -/
theorem roundDiv_eq (num : ℕ) {den : ℕ} (hden : 0 < den) :
    (roundDiv num den : ℤ) = nearestEven (num / den) := by
  have hpos : (0 : ℚ) < den := by exact_mod_cast hden
  have hfloor : ⌊(num / den : ℚ)⌋ = (num / den : ℕ) := by
    rw [Rat.floor_natCast_div_natCast]
    rfl
  have hfract : Int.fract (num / den : ℚ) = (num % den : ℕ) / den :=
    Int.fract_div_natCast_eq_div_natCast_mod
  have hup : RoundsUp (num / den) ↔
      den < 2 * (num % den) ∨ 2 * (num % den) = den ∧ num / den % 2 = 1 := by
    unfold RoundsUp
    rw [hfloor, hfract, div_lt_div_iff₀ two_pos hpos, div_eq_div_iff hpos.ne' two_ne_zero, one_mul,
      mul_comm _ (2 : ℚ)]
    norm_cast
  unfold nearestEven roundDiv
  rw [hfloor]
  dsimp only
  rcases lt_trichotomy (2 * (num % den)) den with hlt | hmiddle | hgt
  · rw [compare_lt_iff_lt.mpr hlt, if_neg (by rw [hup]; omega)]
  · rw [compare_eq_iff_eq.mpr hmiddle]
    simp only [hup, TieRule.choose]
    split_ifs <;> omega
  · rw [compare_gt_iff_gt.mpr hgt, if_pos (hup.mpr (.inl hgt))]
    rfl

/-- The digits of a number with a fixed number of places are those of its last places. -/
theorem fixedNumeral_spec (places : ℕ) (negative : Bool) (units : ℕ) :
    (fixedNumeral places negative units).significand = units ∧
      (fixedNumeral places negative units).scale = -places := by
  unfold fixedNumeral
  dsimp only
  generalize hpadded : Layout.zeros (places + 1 - (Nat.toDigits 10 units).length) ++
    Nat.toDigits 10 units = padded
  have hvalue : digitsValue padded = units := by
    rw [← hpadded, digitsValue_append, digitsValue_zeros, digitsValue_toDigits, Nat.zero_mul,
      Nat.zero_add]
  have hlength : places < padded.length := by
    rw [← hpadded, List.length_append, Layout.zeros, List.length_replicate]
    omega
  unfold Numeral.significand Numeral.scale
  dsimp only
  split_ifs with hplaces
  · rw [hplaces, Nat.sub_zero, List.take_length, Option.getD_none, List.append_nil]
    exact ⟨hvalue, rfl⟩
  · rw [Option.getD_some, List.take_append_drop, List.length_drop]
    refine ⟨hvalue, ?_⟩
    rw [Option.getD_none]
    omega

/-- A double is written as the nearest number with these places, the even one of two. -/
theorem HasDoubleValue.fixed_nearest {x : Float} {q : ℚ} (h : HasDoubleValue x q) (places : ℕ) :
    ∃ n : Numeral, fixed places x = n.text ∧ IsNearestEven (|q| * 10 ^ places) n.significand ∧
      n.scale = -places := by
  obtain ⟨⟨s, size, hsized, rfl⟩, -⟩ := h
  unfold fixed
  generalize x.toModel.unpack = u at hsized
  cases hsized with
  | zero =>
    obtain ⟨hsignificand, hscale⟩ := fixedNumeral_spec places (s == .negative) 0
    refine ⟨_, rfl, ?_, hscale⟩
    rw [hsignificand, signed_zero, abs_zero, zero_mul, isNearestEven_iff]
    exact (nearestEven_intCast 0).symm
  | @finite m e hm =>
    have hden : 0 < Nat.pow 2 (-e).toNat := Nat.pow_pos two_pos
    have hquotient : |signed s ((m : ℚ) * 2 ^ e)| * 10 ^ places =
        (m * Nat.pow 10 places * Nat.pow 2 e.toNat : ℕ) / (Nat.pow 2 (-e).toNat : ℕ) := by
      rw [abs_signed s (by positivity), RoundingInterval.zpow_eq_div two_ne_zero]
      push_cast [Nat.pow_eq]
      ring
    obtain ⟨hsignificand, hscale⟩ := fixedNumeral_spec places (s == .negative)
      (roundDiv (m * Nat.pow 10 places * Nat.pow 2 e.toNat) (Nat.pow 2 (-e).toNat))
    refine ⟨_, rfl, ?_, hscale⟩
    rw [hsignificand, isNearestEven_iff, hquotient]
    exact roundDiv_eq _ hden

/-! ### The order of members -/

namespace Json

theorem keyLE_trans {a b c : Text} (hab : keyLE a b = true) (hbc : keyLE b c = true) :
    keyLE a c = true := by
  cases a with
  | none => rfl
  | some a =>
    cases b with
    | none => cases hab
    | some b =>
      cases c with
      | none => cases hbc
      | some c => exact decide_eq_true (String.le_trans (of_decide_eq_true hab) (of_decide_eq_true hbc))

theorem keyLE_total (a b : Text) : (keyLE a b || keyLE b a) = true := by
  cases a with
  | none => rfl
  | some a =>
    cases b with
    | none => rfl
    | some b => simpa [keyLE] using String.le_total a b

theorem sortedItems_eq (items : List Json) : sortedItems items = items.map sorted := by
  induction items with
  | nil => rfl
  | cons item items ih => rw [sortedItems, ih, List.map_cons]

theorem sortedMembers_eq (members : List (Text × Json)) :
    sortedMembers members = members.map fun member => (member.1, member.2.sorted) := by
  induction members with
  | nil => rfl
  | cons member members ih => rw [sortedMembers, ih, List.map_cons]

/-- Whether the key of a member does not come after that of another one. -/
def memberLE (a b : Text × Json) : Bool :=
  keyLE a.1 b.1

theorem pairwise_mergeSort (members : List (Text × Json)) :
    (members.mergeSort memberLE).Pairwise (memberLE · ·) :=
  List.pairwise_mergeSort (fun a b c => @keyLE_trans a.1 b.1 c.1) (fun a b => keyLE_total a.1 b.1)
    members

/-- The values of the members may be sorted before the members or after them. -/
theorem sortedMembers_mergeSort (members : List (Text × Json)) :
    sortedMembers (members.mergeSort memberLE) = (sortedMembers members).mergeSort memberLE := by
  rw [sortedMembers_eq, sortedMembers_eq]
  exact List.map_mergeSort fun _ _ _ _ => rfl

mutual

/-- Members that are in order stay where they are. -/
theorem sorted_sorted : ∀ j : Json, j.sorted.sorted = j.sorted
  | .null => rfl
  | .bool _ => rfl
  | .number _ => rfl
  | .string _ => rfl
  | .array items => by rw [sorted, sorted, sortedItems_sortedItems items]
  | .object members => by
    rw [sorted, sorted]
    change object ((sortedMembers ((sortedMembers members).mergeSort memberLE)).mergeSort memberLE) =
      object ((sortedMembers members).mergeSort memberLE)
    rw [sortedMembers_mergeSort, sortedMembers_sortedMembers members,
      List.mergeSort_of_pairwise (pairwise_mergeSort _)]

theorem sortedItems_sortedItems :
    ∀ items : List Json, sortedItems (sortedItems items) = sortedItems items
  | [] => rfl
  | item :: items => by
    rw [sortedItems, sortedItems, sorted_sorted item, sortedItems_sortedItems items]

theorem sortedMembers_sortedMembers :
    ∀ members : List (Text × Json), sortedMembers (sortedMembers members) = sortedMembers members
  | [] => rfl
  | (key, value) :: members => by
    rw [sortedMembers, sortedMembers, sorted_sorted value, sortedMembers_sortedMembers members]

end

theorem sorted_fields_eq (members : List (String × Json)) : (fields members).sorted = .object
    ((members.map fun member => (some member.1, member.2.sorted)).mergeSort memberLE) := by
  unfold fields
  rw [sorted, sortedMembers_eq, List.map_map]
  rfl

/-- The members of an object can be put into the order of their keys in one way only. -/
theorem sorted_fields {members ordered : List (String × Json)} (h : members.Perm ordered)
    (hkeys : (ordered.map Prod.fst).Pairwise (· < ·)) :
    (fields members).sorted = fields (ordered.map fun member => (member.1, member.2.sorted)) := by
  have hnodup : (ordered.map Prod.fst).Nodup := hkeys.imp ne_of_lt
  have hle : (ordered.map fun member => (some member.1, member.2.sorted)).Pairwise
      (memberLE · ·) := by
    rw [List.pairwise_map] at hkeys ⊢
    exact hkeys.imp fun hlt => decide_eq_true hlt.le
  rw [sorted_fields_eq, fields, List.map_map]
  refine congrArg object (List.Perm.eq_of_pairwise (fun a b ha hb hab hba => ?_)
    (pairwise_mergeSort _) hle ((List.mergeSort_perm _ _).trans (h.map _)))
  obtain ⟨m, hm, rfl⟩ := List.mem_map.mp (List.mem_mergeSort.mp ha)
  obtain ⟨n, hn, rfl⟩ := List.mem_map.mp hb
  have hkey : m.1 = n.1 := String.le_antisymm (of_decide_eq_true hab) (of_decide_eq_true hba)
  rw [List.inj_on_of_nodup_map hnodup (h.mem_iff.mp hm) hn hkey]
  rfl

theorem sorted_double (x : Float) : (double x).sorted = double x := by
  unfold double
  cases doubleLayout.double? x <;> rfl

end Json

/-! ### Rows -/

/-- The line of a row in a table. -/
def SweepRow.line (r : SweepRow) : String :=
  match r.accuracy with
  | some a =>
    toString r.gain.toNat ++ "," ++ toString a.samples ++ "," ++ fixed 2 a.worst ++ "," ++
      fixed 2 a.rms ++ "\n"
  | none => toString r.gain.toNat ++ ",0,,\n"

/-- The run of a row in a document. -/
def SweepRow.run (r : SweepRow) : Json :=
  .fields [
    ("stats",
      match r.accuracy with
      | some a => .fields [
          ("max_abs_error_cm", .double a.worst), ("rms_error_cm", .double a.rms),
          ("samples", .int a.samples)]
      | none => .null),
    ("vel_p", .int r.gain.toNat)]

theorem SweepRow.cells_eq (r : SweepRow) : ",".intercalate r.cells ++ "\n" = r.line := by
  unfold cells line
  cases r.accuracy with
  | none =>
    simp only [String.intercalate_cons_cons, String.intercalate_singleton, intCell_natCast]
    simp only [String.append_assoc]
    rfl
  | some a =>
    simp only [String.intercalate_cons_cons, String.intercalate_singleton, intCell_natCast]
    simp only [String.append_assoc]

theorem Accuracy.sorted_toJson (a : Accuracy) : a.toJson.sorted = .fields [
    ("max_abs_error_cm", .double a.worst), ("rms_error_cm", .double a.rms),
    ("samples", .int a.samples)] := by
  have hkeys : ["max_abs_error_cm", "rms_error_cm", "samples"].Pairwise (· < ·) := by decide
  refine Eq.trans
    (Json.sorted_fields (.trans (.swap _ _ _) (.cons _ (.swap _ _ _))) hkeys) ?_
  simp only [List.map_cons, List.map_nil, Json.sorted_double]
  rfl

theorem SweepRow.sorted_toJson (r : SweepRow) : r.toJson.sorted = r.run := by
  have hkeys : ["stats", "vel_p"].Pairwise (· < ·) := by decide
  refine Eq.trans (Json.sorted_fields (.swap _ _ _) hkeys) ?_
  unfold run
  cases r.accuracy with
  | none => rfl
  | some a =>
    simp only [List.map_cons, List.map_nil, Json.option, Accuracy.sorted_toJson]
    rfl

/-! ### Sweeps -/

/-- A table has a line for each row. -/
theorem Sweep.table_eq (s : Sweep) :
    s.table = "vel_p,samples,max_abs_error_cm,rms_error_cm\n" ++
      String.join (s.rows.map SweepRow.line) := by
  unfold table tableText
  rw [List.map_cons, String.join_cons, List.map_map]
  congr 2
  exact List.map_congr_left fun r _ => r.cells_eq

/-- A document has a run for each row, and the script of the sweep. -/
theorem Sweep.document_eq (s : Script) (sweep : Sweep) :
    sweep.document s = (Json.fields [
      ("runs", .array (sweep.rows.map SweepRow.run)), ("scenario", s.toJson)]).pretty := by
  have hruns : (Json.array (sweep.rows.map SweepRow.toJson)).sorted =
      .array (sweep.rows.map SweepRow.run) := by
    rw [Json.sorted, Json.sortedItems_eq, List.map_map]
    exact congrArg Json.array (List.map_congr_left fun r _ => r.sorted_toJson)
  have hscript : s.toJson.sorted = s.toJson := Json.sorted_sorted _
  have hkeys : ["runs", "scenario"].Pairwise (· < ·) := by decide
  refine congrArg Json.pretty (Eq.trans (Json.sorted_fields (.swap _ _ _) hkeys) ?_)
  simp only [List.map_cons, List.map_nil, hruns, hscript]

end Autopilot
