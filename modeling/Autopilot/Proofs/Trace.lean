import Autopilot.Proofs.Word
import Autopilot.Trace

/-!
# The samples of a trace

A trace keeps a sample as one entry in every column.  `Trace.lengths` gives the lengths of the
columns, and `Trace.sample?` puts a sample together again.  Recording a sample makes every column
one entry longer (`Trace.lengths_record`), and while the columns have one length the sample comes
behind all others (`Trace.sample?_record`).

Nothing that the accuracy of a hold is computed from is missing then: it is the accuracy of the errors
of those samples that lie in the stretch of time and count (`Trace.accuracy_eq`).
-/

namespace Autopilot

namespace Sample

/-- Altitude is held in the sample, and neither the script nor the stick interferes. -/
def Counts (row : Sample) : Prop :=
  (row.baroHold = true ∨ row.rangerHold = true) ∧ row.disturbed = false ∧ row.displaced = false

instance (row : Sample) : Decidable row.Counts :=
  inferInstanceAs (Decidable (_ ∧ _))

theorem decide_counts (row : Sample) :
    decide row.Counts = ((row.baroHold || row.rangerHold) && !row.disturbed && !row.displaced) := by
  rw [Bool.eq_iff_iff, decide_eq_true_iff]
  simp only [Counts, Bool.and_eq_true, Bool.or_eq_true, Bool.not_eq_true', and_assoc]

/-- How far the true altitude is above the setpoint, in centimetres. -/
def holdError (row : Sample) : Float :=
  row.altitude - doubleOfInt row.setpoint.toInt

end Sample

namespace Trace

/-- The lengths of the columns. -/
def lengths (t : Trace) : List Nat :=
  [t.time.size, t.altitude.size, t.velocity.size, t.estimate.size, t.vario.size, t.setpoint.size,
    t.throttle.size, t.pitch.size, t.correction.size, t.integral.size, t.baroHold.size,
    t.rangerHold.size, t.displaced.size, t.disturbed.size]

/-- A sample, if every column has an entry for it. -/
def sample? (t : Trace) (i : Nat) : Option Sample := do
  return {
    time := ← t.time[i]?
    altitude := ← t.altitude[i]?
    velocity := ← t.velocity[i]?
    estimate := ← t.estimate[i]?
    vario := ← t.vario[i]?
    setpoint := ← t.setpoint[i]?
    throttle := ← t.throttle[i]?
    pitch := ← t.pitch[i]?
    correction := ← t.correction[i]?
    integral := ← t.integral[i]?
    baroHold := ← t.baroHold[i]?
    rangerHold := ← t.rangerHold[i]?
    displaced := ← t.displaced[i]?
    disturbed := ← t.disturbed[i]? }

theorem lengths_record (t : Trace) (s : Sample) :
    (t.record s).lengths = t.lengths.map (· + 1) := by
  simp [lengths, record]

theorem sample?_record {t : Trace} {n : Nat} (h : t.lengths = List.replicate 14 n) (s : Sample)
    (i : Nat) : (t.record s).sample? i = if i = n then some s else t.sample? i := by
  simp only [lengths, List.replicate, List.cons.injEq, and_true] at h
  obtain ⟨h1, h2, h3, h4, h5, h6, h7, h8, h9, h10, h11, h12, h13, h14⟩ := h
  simp only [sample?, record, Array.getElem?_push, h1, h2, h3, h4, h5, h6, h7, h8, h9, h10, h11, h12,
    h13, h14]
  split_ifs <;> rfl

theorem sample?_eq_none {t : Trace} {n i : Nat} (h : t.lengths = List.replicate 14 n)
    (hi : n ≤ i) : t.sample? i = none := by
  simp only [lengths, List.replicate, List.cons.injEq, and_true] at h
  unfold sample?
  rw [Array.getElem?_eq_none (h.1 ▸ hi)]
  rfl

/-! ### The samples that count -/

/-- The samples, in the order in which they were recorded. -/
def samples (t : Trace) : List Sample :=
  (List.range t.size).filterMap t.sample?

/-- The samples that lie between two times and count. -/
def counted (t : Trace) (start stop : Float) : List Sample :=
  t.samples.filter fun row => start ≤ row.time ∧ row.time < stop ∧ row.Counts

section Accuracy

variable {t : Trace} {n i : Nat}

theorem mem_counted {start stop : Float} {row : Sample} :
    row ∈ t.counted start stop ↔
      (∃ i < t.size, t.sample? i = some row) ∧ start ≤ row.time ∧ row.time < stop ∧
        row.Counts := by
  unfold counted samples
  rw [List.mem_filter, List.mem_filterMap, decide_eq_true_iff]
  simp only [List.mem_range]

/-- While the columns have one length, the entries that the accuracy asks for are those of a sample. -/
theorem exists_sample? (h : t.lengths = List.replicate 14 n) (hi : i < n) :
    ∃ row, t.sample? i = some row ∧ entry t.time i = .ok row.time ∧
      entry t.altitude i = .ok row.altitude ∧ entry t.setpoint i = .ok row.setpoint ∧
      entry t.baroHold i = .ok row.baroHold ∧ entry t.rangerHold i = .ok row.rangerHold ∧
      entry t.displaced i = .ok row.displaced ∧ entry t.disturbed i = .ok row.disturbed := by
  simp only [lengths, List.replicate, List.cons.injEq, and_true] at h
  obtain ⟨h1, h2, h3, h4, h5, h6, h7, h8, h9, h10, h11, h12, h13, h14⟩ := h
  simp only [sample?, entry, Array.getElem?_eq_getElem, h1, h2, h3, h4, h5, h6, h7, h8, h9, h10,
    h11, h12, h13, h14, hi]
  exact ⟨_, rfl, rfl, rfl, rfl, rfl, rfl, rfl, rfl⟩

/-- The time of a sample stands in its column. -/
theorem getElem?_time (h : t.lengths = List.replicate 14 n) (hi : i < n) {row : Sample}
    (hrow : t.sample? i = some row) : t.time[i]? = some row.time := by
  obtain ⟨row', hrow', htime, -⟩ := exists_sample? h hi
  obtain rfl := Option.some.inj (hrow.symm.trans hrow')
  unfold entry at htime
  split at htime
  · next heq => rw [heq, Except.ok.inj htime]
  · cases htime

theorem countedError_eq (h : t.lengths = List.replicate 14 n) (hi : i < n) (start stop : Float) :
    t.countedError start stop i =
      .ok ((t.sample? i).bind fun row =>
        if start ≤ row.time ∧ row.time < stop ∧ row.Counts then some row.holdError else none) := by
  obtain ⟨row, hrow, htime, haltitude, hsetpoint, hbaro, hranger, hdisplaced, hdisturbed⟩ :=
    exists_sample? h hi
  have hcounts : t.counts i = .ok (decide row.Counts) := by
    unfold counts isHolding
    rw [hbaro, hranger, hdisplaced, hdisturbed, Sample.decide_counts]
    cases row.baroHold <;> cases row.rangerHold <;> cases row.disturbed <;> cases row.displaced <;> rfl
  have herror : t.holdError i = .ok row.holdError := by
    unfold holdError
    rw [haltitude, hsetpoint]
    rfl
  unfold countedError
  rw [hrow, htime, hcounts, herror, ok_bind, Option.bind_some]
  by_cases hwithin : start ≤ row.time ∧ row.time < stop
  · rw [if_pos hwithin, ok_bind]
    by_cases hcounted : row.Counts
    · rw [if_pos (decide_eq_true hcounted), if_pos ⟨hwithin.1, hwithin.2, hcounted⟩]
      rfl
    · rw [if_neg (ne_true_of_eq_false (decide_eq_false hcounted)), if_neg fun h => hcounted h.2.2]
      rfl
  · rw [if_neg hwithin, if_neg fun h => hwithin ⟨h.1, h.2.1⟩]
    rfl

theorem mapM_eq_ok {ε α β : Type} {g : α → Except ε β} {f : α → β} {l : List α}
    (h : ∀ a ∈ l, g a = .ok (f a)) : l.mapM g = .ok (l.map f) := by
  induction l with
  | nil => rfl
  | cons a rest ih =>
    obtain ⟨ha, hrest⟩ := List.forall_mem_cons.mp h
    rw [List.mapM_cons, ha, ih hrest]
    rfl

/-- While the columns have one length, the accuracy asks for no sample that is not there, and it is
that of the samples that count. -/
theorem accuracy_eq (h : t.lengths = List.replicate 14 n) (start stop : Float) :
    t.accuracy start stop = .ok (accuracyOf ((t.counted start stop).map Sample.holdError)) := by
  have hsize : t.size = n := List.head_eq_of_cons_eq h
  have herrors : t.countedErrors start stop =
      .ok ((t.counted start stop).map Sample.holdError) := by
    unfold countedErrors counted samples
    rw [mapM_eq_ok fun i hi => countedError_eq h (hsize ▸ List.mem_range.mp hi) start stop, ok_bind,
      List.filterMap_map, List.filter_filterMap, List.map_filterMap]
    -- Both sides go through the indices once, the right one by way of the samples.
    congr 2
    funext i
    change (t.sample? i).bind _ = _
    cases t.sample? i with
    | none => rfl
    | some row =>
      rw [Option.bind_some, Option.filter_some]
      simp only [decide_eq_true_iff]
      split <;> rfl
  unfold accuracy
  rw [herrors]
  rfl

theorem exists_accuracy (h : t.lengths = List.replicate 14 n) (start stop : Float) :
    ∃ accuracy, t.accuracy start stop = .ok accuracy :=
  ⟨_, accuracy_eq h start stop⟩

end Accuracy

end Trace

end Autopilot
