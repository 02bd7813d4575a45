import Autopilot.Proofs.PartialSettings
import Autopilot.Proofs.SingleText
import Autopilot.Settings.File

/-!
# Settings files are read back

Settings that pass their check are read from what is written of them, in either layout
(`Settings.parse?_toJson`).  A written file mentions every section, and each with its own value, so
nothing is left to the defaults.  Only the filter weights have to be read back digit by digit, and the
settings are read back by any way to read a weight that does so (`Settings.ofJsonWith?_toJson`).

Taking a number as the nearest double and rounding it again does not: one weight becomes another one
(`Settings.parseWith?_delicate`).
-/

namespace Autopilot

/-! ### Fields -/

namespace Json

variable {members : List (String × Json)}

theorem isInteger_int (n : ℤ) : IsInteger n (.int n) :=
  ⟨_, rfl, Numeral.toInt?_ofInt n⟩

theorem writable_int (n : ℤ) : (Json.int n).Writable :=
  Numeral.wellFormed_ofInt n

theorem writable_fields (h : ∀ member ∈ members, member.2.Writable) :
    (fields members).Writable := by
  change WritableMembers (members.map fun member => (some member.1, member.2))
  induction members with
  | nil => trivial
  | cons member members ih =>
    exact ⟨rfl, h member List.mem_cons_self, ih fun m hm => h m (List.mem_cons_of_mem _ hm)⟩

end Json

/-! ### Settings -/

theorem Gains.writtenAs_toJson (g : Gains) : g.WrittenAs g.toJson :=
  ⟨by simp, by simp [Json.valuesAt, Json.isInteger_int]⟩

/-! Every section is read from what is written of it. -/

theorem AxisGains.ofJson?_fields (g : AxisGains) :
    AxisGains.ofJson? (.fields [("alt", g.altitude.toJson), ("vel", g.climb.toJson)]) = some g :=
  AxisGains.ofJson?_eq_some_iff.mpr ⟨by simp, by simp [Json.valuesAt, Gains.writtenAs_toJson]⟩

theorem StickPolicy.ofJson?_fields (p : StickPolicy) :
    StickPolicy.ofJson? (.fields [("alt_hold_deadband", .int p.deadband.toNat),
      ("alt_hold_fast_change", .bool p.direct)]) = some p :=
  StickPolicy.ofJson?_eq_some_iff.mpr ⟨by simp, by simp [Json.valuesAt, Json.isInteger_int]⟩

theorem Airframe.ofJson?_text (a : Airframe) : Airframe.ofJson? (.text a.key) = some a :=
  Airframe.ofJson?_eq_some_iff.mpr (.inl rfl)

theorem pitchReversed?_fields (reversed : Bool) :
    pitchReversed? (.fields [("fixedwing_althold_reversed", .bool reversed)]) = some reversed :=
  pitchReversed?_eq_some_iff.mpr ⟨by simp, by simp [Json.valuesAt]⟩

theorem PulseRange.ofJson?_fields (r : PulseRange) :
    PulseRange.ofJson? (.fields [("min", .int r.low.toInt), ("max", .int r.high.toInt)]) = some r :=
  PulseRange.ofJson?_eq_some_iff.mpr ⟨by simp, by simp [Json.valuesAt, Json.isInteger_int]⟩

/-- A section that is there has its own value. -/
theorem sectionOr_some {α : Type} {read : Json → Option α} {default x : α} {j : Json}
    (h : read j = some x) : sectionOr read default (some j) = some x :=
  h

/-- Every section is mentioned. -/
theorem Settings.someFields?_toJson (s : Settings) : s.toJson.someFields? Settings.keys = some [
    some (.fields [("alt", s.gains.altitude.toJson), ("vel", s.gains.climb.toJson)]),
    some (.fields [("alt_hold_deadband", .int s.stick.deadband.toNat),
      ("alt_hold_fast_change", .bool s.stick.direct)]),
    some (.fields [(FilterWeight.altitude.key, .single s.weights.altitude),
      (FilterWeight.velocity.key, .single s.weights.velocity)]),
    some (.int s.countsPerGravity.toNat), some (.text s.airframe.key),
    some (.fields [("fixedwing_althold_reversed", .bool s.pitchReversed)]),
    some (.fields [("min", .int s.pulses.low.toInt), ("max", .int s.pulses.high.toInt)])] := by
  simp [Settings.toJson, Settings.toJsonWith, Settings.keys, Json.fields, Json.someFields?,
    Json.field?, Json.valuesAt]

section Weights

variable {weight? : Json → Option Float32} {s : Settings} {w : FilterWeights}
  (haltitude : weight? (.single s.weights.altitude) = some w.altitude)
  (hvelocity : weight? (.single s.weights.velocity) = some w.velocity)

include haltitude hvelocity

theorem FilterWeights.ofJsonWith?_fields :
    FilterWeights.ofJsonWith? weight? (.fields [
      (FilterWeight.altitude.key, .single s.weights.altitude),
      (FilterWeight.velocity.key, .single s.weights.velocity)]) = some w := by
  have hrecord : Json.IsRecord [
      (FilterWeight.altitude.key, fun j => weight? j = some w.altitude),
      (FilterWeight.velocity.key, fun j => weight? j = some w.velocity)]
      (.fields [(FilterWeight.altitude.key, .single s.weights.altitude),
        (FilterWeight.velocity.key, .single s.weights.velocity)]) :=
    ⟨by simp, by simp [Json.valuesAt, FilterWeight.key, haltitude, hvelocity]⟩
  exact Json.readTwo_eq_some_iff.mpr ⟨_, _, rfl, hrecord⟩

/-- So the settings are read back, with the weights that are read from what is written of their
own. -/
theorem Settings.ofJsonWith?_toJson :
    Settings.ofJsonWith? weight? s.toJson = some { s with weights := w } := by
  have hcounts : Json.uint16? (.int s.countsPerGravity.toNat) = some s.countsPerGravity :=
    Json.uint16?_eq_some_iff.mpr (Json.isInteger_int _)
  unfold Settings.ofJsonWith?
  rw [Settings.someFields?_toJson]
  simp only [Option.bind_eq_bind, Option.bind_some, Option.pure_def,
    sectionOr_some (AxisGains.ofJson?_fields s.gains),
    sectionOr_some (StickPolicy.ofJson?_fields s.stick),
    sectionOr_some (FilterWeights.ofJsonWith?_fields haltitude hvelocity), sectionOr_some hcounts,
    sectionOr_some (Airframe.ofJson?_text s.airframe),
    sectionOr_some (pitchReversed?_fields s.pitchReversed),
    sectionOr_some (PulseRange.ofJson?_fields s.pulses)]

end Weights

theorem Settings.writable_toJson {s : Settings}
    (haltitude : (Json.single s.weights.altitude).Writable)
    (hvelocity : (Json.single s.weights.velocity).Writable) : s.toJson.Writable := by
  have hgains : ∀ g : Gains, g.toJson.Writable := fun g =>
    Json.writable_fields (by simp [Json.writable_int])
  have hairframe : (Json.text s.airframe.key).Writable := rfl
  refine Json.writable_fields ?_
  simp [Json.writable_int, hgains, hairframe, Json.writable_fields, haltitude, hvelocity,
    Json.Writable]

/-- The weights of settings that pass their check can be written and are read back. -/
theorem Settings.weights_of_check {s : Settings} (h : s.check = .ok ()) :
    isWeight s.weights.altitude = true ∧ isWeight s.weights.velocity = true := by
  unfold Settings.check at h
  split_ifs at h with haltitude hvelocity
  rw [Bool.not_eq_true, Bool.not_eq_false'] at haltitude hvelocity
  exact ⟨haltitude, hvelocity⟩

section Parse

variable {weight? : Json → Option Float32} {s : Settings} {w : FilterWeights}

/-- A settings file holds the settings, with or without white space, up to the reading of the
weights. -/
theorem Settings.parseWith?_toJson (h : s.check = .ok ())
    (haltitude : weight? (.single s.weights.altitude) = some w.altitude)
    (hvelocity : weight? (.single s.weights.velocity) = some w.velocity) :
    Settings.parseWith? weight? s.toJson.compact = some { s with weights := w } ∧
      Settings.parseWith? weight? s.toJson.pretty = some { s with weights := w } := by
  obtain ⟨hweight, hweight'⟩ := Settings.weights_of_check h
  obtain ⟨n, hn⟩ := exists_writes_of_isWeight hweight
  obtain ⟨n', hn'⟩ := exists_writes_of_isWeight hweight'
  have hwritable : s.toJson.Writable :=
    Settings.writable_toJson (by rw [hn.written]; exact hn.wellFormed)
      (by rw [hn'.written]; exact hn'.wellFormed)
  have hrecord := Settings.ofJsonWith?_toJson haltitude hvelocity
  unfold Settings.parseWith?
  rw [Json.parse?_compact hwritable, Json.parse?_pretty hwritable, Option.bind_eq_bind,
    Option.bind_some]
  exact ⟨hrecord, hrecord⟩

/-- Settings that pass their check are read from their file, in either layout.  If weights were read
by way of the nearest double, each weight would be read back but for the one that is lost. -/
theorem Settings.parse?_toJson (h : s.check = .ok ()) :
    (Settings.parse? s.toJson.compact = some s ∧ Settings.parse? s.toJson.pretty = some s) ∧
      Settings.parseWith? Json.nearestSingle? s.toJson.compact = some { s with
        weights := ⟨throughDouble s.weights.altitude, throughDouble s.weights.velocity⟩ } ∧
      Settings.parseWith? Json.nearestSingle? s.toJson.pretty = some { s with
        weights := ⟨throughDouble s.weights.altitude, throughDouble s.weights.velocity⟩ } := by
  obtain ⟨hweight, hweight'⟩ := Settings.weights_of_check h
  obtain ⟨n, hn⟩ := exists_writes_of_isWeight hweight
  obtain ⟨n', hn'⟩ := exists_writes_of_isWeight hweight'
  constructor
  · exact Settings.parseWith?_toJson h (by rw [hn.written]; exact hn.read)
      (by rw [hn'.written]; exact hn'.read)
  · exact Settings.parseWith?_toJson h (by rw [hn.written]; exact hn.nearest)
      (by rw [hn'.written]; exact hn'.nearest)

end Parse

/-- A weight whose shortest digits lie next to the middle of two floats, and a zero with a sign. -/
def Settings.delicate : Settings where
  weights := ⟨Float32.ofBits 0x15AE43FD, -0.0⟩
  countsPerGravity := 65535
  airframe := .fixedWing
  pulses := ⟨-32768, 32767⟩

/-- The digits `7.038531e-26` are read as the float that they were written for, at the end of all
ranges. -/
theorem Settings.parse?_toJson_delicate : Settings.delicate.check = .ok () ∧
    Settings.parse? Settings.delicate.toJson.compact = some Settings.delicate ∧
      Settings.parse? Settings.delicate.toJson.pretty = some Settings.delicate :=
  ⟨by decide +kernel, (Settings.parse?_toJson (by decide +kernel)).1⟩

/-- By way of the nearest double these digits are read as the next float. -/
theorem Settings.parseWith?_delicate : Settings.delicate.check = .ok () ∧
    Settings.parseWith? Json.nearestSingle? Settings.delicate.toJson.compact =
      some { Settings.delicate with weights := ⟨Float32.ofBits 0x15AE43FE, -0.0⟩ } ∧
    Settings.parseWith? Json.nearestSingle? Settings.delicate.toJson.compact ≠
      some Settings.delicate := by
  have hcheck : Settings.delicate.check = .ok () := by decide +kernel
  have hread := (Settings.parseWith?_toJson (w := ⟨Float32.ofBits 0x15AE43FE, -0.0⟩) hcheck
    nearestSingle?_crossing (by decide +kernel)).1
  refine ⟨hcheck, hread, ?_⟩
  rw [hread]
  decide +kernel

end Autopilot
