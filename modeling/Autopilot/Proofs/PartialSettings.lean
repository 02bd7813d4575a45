import Autopilot.Proofs.JsonAccepted
import Autopilot.Proofs.JsonText
import Autopilot.Proofs.Records
import Autopilot.Settings.File

/-!
# Partial settings files

A settings file overrides what it mentions.  `Overrides.SaidBy` says of the members of an object
which sections they mention and with which values, and `Settings.parse?_object` that the file is
read as the defaults with these sections in their place, and that it is refused if its members say
nothing.  What the members say does not depend on their order or on members under other keys, and
every spelling of the object is read, so the outcome depends on neither.

Sections may be missing, but not the fields of one (`Json.IsRecord`), and no known key may occur
twice in an object.  `Json.Flawed` finds such a flaw at any depth, from the keys of a file alone
(`Settings.shape`).

A key has to be a string, also if it is none of the known ones: `Settings.parse?_half` is a file
with half of a surrogate pair for a key.
-/

namespace Autopilot

/-! ### Sections -/

/-- What the gains of an axis are written as. -/
def Gains.WrittenAs (g : Gains) : Json → Prop :=
  Json.IsRecord [
    ("p", Json.IsInteger g.proportional.toNat), ("i", Json.IsInteger g.integral.toNat),
    ("d", Json.IsInteger g.derivative.toNat)]

theorem Gains.ofJson?_eq_some_iff {g : Gains} {j : Json} :
    Gains.ofJson? j = some g ↔ g.WrittenAs j := by
  refine Json.readThree_eq_some_iff.trans ?_
  simp only [Json.uint8?_eq_some_iff]
  exact ⟨fun ⟨_, _, _, heq, h⟩ => heq ▸ h, fun h => ⟨_, _, _, rfl, h⟩⟩

/-- What the gains of both axes are written as. -/
def AxisGains.WrittenAs (g : AxisGains) : Json → Prop :=
  Json.IsRecord [("alt", g.altitude.WrittenAs), ("vel", g.climb.WrittenAs)]

theorem AxisGains.ofJson?_eq_some_iff {g : AxisGains} {j : Json} :
    AxisGains.ofJson? j = some g ↔ g.WrittenAs j := by
  refine Json.readTwo_eq_some_iff.trans ?_
  simp only [Gains.ofJson?_eq_some_iff]
  exact ⟨fun ⟨_, _, heq, h⟩ => heq ▸ h, fun h => ⟨_, _, rfl, h⟩⟩

/-- What the treatment of the throttle stick is written as. -/
def StickPolicy.WrittenAs (p : StickPolicy) : Json → Prop :=
  Json.IsRecord [
    ("alt_hold_deadband", Json.IsInteger p.deadband.toNat),
    ("alt_hold_fast_change", fun j => j = .bool p.direct)]

theorem StickPolicy.ofJson?_eq_some_iff {p : StickPolicy} {j : Json} :
    StickPolicy.ofJson? j = some p ↔ p.WrittenAs j := by
  refine Json.readTwo_eq_some_iff.trans ?_
  simp only [Json.uint8?_eq_some_iff, Json.bool?_eq_some_iff]
  exact ⟨fun ⟨_, _, heq, h⟩ => heq ▸ h, fun h => ⟨_, _, rfl, h⟩⟩

/-- What the filter weights are written as: numbers that are read as these floats. -/
def FilterWeights.WrittenAs (w : FilterWeights) : Json → Prop :=
  Json.IsRecord [
    (FilterWeight.altitude.key, fun j => j.single? = some w.altitude),
    (FilterWeight.velocity.key, fun j => j.single? = some w.velocity)]

theorem FilterWeights.ofJsonWith?_eq_some_iff {w : FilterWeights} {j : Json} :
    FilterWeights.ofJsonWith? Json.single? j = some w ↔ w.WrittenAs j := by
  refine Json.readTwo_eq_some_iff.trans ?_
  exact ⟨fun ⟨_, _, heq, h⟩ => heq ▸ h, fun h => ⟨_, _, rfl, h⟩⟩

/-- What the direction of the elevator is written as. -/
def PitchReversedAs (reversed : Bool) : Json → Prop :=
  Json.IsRecord [("fixedwing_althold_reversed", fun j => j = .bool reversed)]

theorem pitchReversed?_eq_some_iff {reversed : Bool} {j : Json} :
    pitchReversed? j = some reversed ↔ PitchReversedAs reversed j := by
  refine Json.readOne_eq_some_iff.trans ?_
  simp only [Json.bool?_eq_some_iff]
  rfl

/-- What a range of servo pulses is written as. -/
def PulseRange.WrittenAs (r : PulseRange) : Json → Prop :=
  Json.IsRecord [("min", Json.IsInteger r.low.toInt), ("max", Json.IsInteger r.high.toInt)]

theorem PulseRange.ofJson?_eq_some_iff {r : PulseRange} {j : Json} :
    PulseRange.ofJson? j = some r ↔ r.WrittenAs j := by
  refine Json.readTwo_eq_some_iff.trans ?_
  simp only [Json.int16?_eq_some_iff]
  exact ⟨fun ⟨_, _, heq, h⟩ => heq ▸ h, fun h => ⟨_, _, rfl, h⟩⟩

/-- What an airframe is written as: its name, or an object with nothing but null under its name. -/
def Airframe.WrittenAs (a : Airframe) (j : Json) : Prop :=
  j = .text a.key ∨ j = .object [(some a.key, .null)]

theorem Airframe.find?_key_eq_some_iff {a : Airframe} {name : String} :
    [Airframe.multirotor, .fixedWing].find? (fun airframe => airframe.key == name) = some a ↔
      name = a.key := by
  constructor
  · intro h
    have hkey := List.find?_some h
    exact (beq_iff_eq.mp hkey).symm
  · rintro rfl
    cases a <;> decide

theorem Airframe.ofJson?_eq_some_iff {a : Airframe} {j : Json} :
    Airframe.ofJson? j = some a ↔ a.WrittenAs j := by
  unfold Airframe.ofJson? Airframe.WrittenAs
  simp only [Option.bind_eq_bind, Option.bind_eq_some_iff, Airframe.find?_key_eq_some_iff,
    exists_eq_right, Json.variant?_eq_some_iff]

/-! ### Settings -/

/-- What a settings file says: the value of every section that it mentions. -/
structure Overrides where
  gains : Option AxisGains
  stick : Option StickPolicy
  weights : Option FilterWeights
  countsPerGravity : Option UInt16
  airframe : Option Airframe
  pitchReversed : Option Bool
  pulses : Option PulseRange

/-- The settings with the sections that are mentioned in place of their own. -/
def Overrides.apply (o : Overrides) (s : Settings) : Settings where
  gains := o.gains.getD s.gains
  stick := o.stick.getD s.stick
  weights := o.weights.getD s.weights
  countsPerGravity := o.countsPerGravity.getD s.countsPerGravity
  airframe := o.airframe.getD s.airframe
  pitchReversed := o.pitchReversed.getD s.pitchReversed
  pulses := o.pulses.getD s.pulses

/-- The members mention a section with this value: one of them has its key, and under it what the
value is written as.  Without a value none has its key. -/
def Mentions {α : Type} (members : List (Json.Text × Json)) (key : String)
    (writtenAs : α → Json → Prop) : Option α → Prop
  | some x => ∃ j, Json.valuesAt members key = [j] ∧ writtenAs x j
  | none => Json.valuesAt members key = []

/-- The members of a settings file say this, and all their keys are strings.  Nothing is said of the
members under other keys, nor of the order of members. -/
structure Overrides.SaidBy (o : Overrides) (members : List (Json.Text × Json)) : Prop where
  names : ∀ member ∈ members, member.1.isSome = true
  gains : Mentions members "gains" AxisGains.WrittenAs o.gains
  stick : Mentions members "rc" StickPolicy.WrittenAs o.stick
  weights : Mentions members "baro" FilterWeights.WrittenAs o.weights
  countsPerGravity : Mentions members "acc_1g" (fun n => Json.IsInteger n.toNat) o.countsPerGravity
  airframe : Mentions members "airframe" Airframe.WrittenAs o.airframe
  pitchReversed : Mentions members "airplane" PitchReversedAs o.pitchReversed
  pulses : Mentions members "pwm_range" PulseRange.WrittenAs o.pulses

/-- A section is read exactly if it is mentioned with a value or not mentioned. -/
theorem sectionOr_eq_some_iff {α : Type} {read : Json → Option α} {writtenAs : α → Json → Prop}
    (hread : ∀ {x j}, read j = some x ↔ writtenAs x j) {members : List (Json.Text × Json)}
    {key : String} {default r : α} :
    (∃ found : Option Json, Json.valuesAt members key = found.toList ∧
      sectionOr read default found = some r) ↔
      ∃ choice, Mentions members key writtenAs choice ∧ choice.getD default = r := by
  constructor
  · rintro ⟨_ | j, hvalues, h⟩
    · exact ⟨none, hvalues, Option.some_inj.mp h⟩
    · exact ⟨some r, ⟨j, hvalues, hread.mp h⟩, rfl⟩
  · rintro ⟨_ | x, h, rfl⟩
    · exact ⟨none, h, rfl⟩
    · obtain ⟨j, hvalues, hx⟩ := h
      exact ⟨some j, hvalues, hread.mpr hx⟩

/-- An object is read as settings exactly if its members say something about them: what they do not
mention keeps its default. -/
theorem Settings.ofJson?_object {members : List (Json.Text × Json)} {s : Settings} :
    Settings.ofJson? (.object members) = some s ↔
      ∃ o : Overrides, o.SaidBy members ∧ o.apply {} = s := by
  unfold Settings.ofJson? Settings.ofJsonWith?
  simp only [Option.bind_eq_bind, Option.bind_eq_some_iff, Json.someFields?_object, Settings.keys]
  constructor
  · rintro ⟨found, ⟨hnames, hfound⟩, h⟩
    split at h
    · obtain - | ⟨hgains, - | ⟨hstick, - | ⟨hweights, - | ⟨hcounts, - | ⟨hairframe, - |
        ⟨hreversed, - | ⟨hpulses, -⟩⟩⟩⟩⟩⟩⟩ := hfound
      simp only [Option.bind_eq_some_iff, Option.pure_def, Option.some_inj] at h
      obtain ⟨_, hgains', _, hstick', _, hweights', _, hcounts', _, hairframe', _, hreversed', _,
        hpulses', rfl⟩ := h
      obtain ⟨gains, hgains, rfl⟩ :=
        (sectionOr_eq_some_iff AxisGains.ofJson?_eq_some_iff).mp ⟨_, hgains, hgains'⟩
      obtain ⟨stick, hstick, rfl⟩ :=
        (sectionOr_eq_some_iff StickPolicy.ofJson?_eq_some_iff).mp ⟨_, hstick, hstick'⟩
      obtain ⟨weights, hweights, rfl⟩ :=
        (sectionOr_eq_some_iff FilterWeights.ofJsonWith?_eq_some_iff).mp ⟨_, hweights, hweights'⟩
      obtain ⟨counts, hcounts, rfl⟩ :=
        (sectionOr_eq_some_iff Json.uint16?_eq_some_iff).mp ⟨_, hcounts, hcounts'⟩
      obtain ⟨airframe, hairframe, rfl⟩ :=
        (sectionOr_eq_some_iff Airframe.ofJson?_eq_some_iff).mp ⟨_, hairframe, hairframe'⟩
      obtain ⟨reversed, hreversed, rfl⟩ :=
        (sectionOr_eq_some_iff pitchReversed?_eq_some_iff).mp ⟨_, hreversed, hreversed'⟩
      obtain ⟨pulses, hpulses, rfl⟩ :=
        (sectionOr_eq_some_iff PulseRange.ofJson?_eq_some_iff).mp ⟨_, hpulses, hpulses'⟩
      exact ⟨⟨gains, stick, weights, counts, airframe, reversed, pulses⟩,
        ⟨hnames, hgains, hstick, hweights, hcounts, hairframe, hreversed, hpulses⟩, rfl⟩
    · cases h
  · rintro ⟨o, ho, rfl⟩
    obtain ⟨_, hgains, hgains'⟩ :=
      (sectionOr_eq_some_iff AxisGains.ofJson?_eq_some_iff).mpr ⟨_, ho.gains, rfl⟩
    obtain ⟨_, hstick, hstick'⟩ :=
      (sectionOr_eq_some_iff StickPolicy.ofJson?_eq_some_iff).mpr ⟨_, ho.stick, rfl⟩
    obtain ⟨_, hweights, hweights'⟩ :=
      (sectionOr_eq_some_iff FilterWeights.ofJsonWith?_eq_some_iff).mpr ⟨_, ho.weights, rfl⟩
    obtain ⟨_, hcounts, hcounts'⟩ :=
      (sectionOr_eq_some_iff Json.uint16?_eq_some_iff).mpr ⟨_, ho.countsPerGravity, rfl⟩
    obtain ⟨_, hairframe, hairframe'⟩ :=
      (sectionOr_eq_some_iff Airframe.ofJson?_eq_some_iff).mpr ⟨_, ho.airframe, rfl⟩
    obtain ⟨_, hreversed, hreversed'⟩ :=
      (sectionOr_eq_some_iff pitchReversed?_eq_some_iff).mpr ⟨_, ho.pitchReversed, rfl⟩
    obtain ⟨_, hpulses, hpulses'⟩ :=
      (sectionOr_eq_some_iff PulseRange.ofJson?_eq_some_iff).mpr ⟨_, ho.pulses, rfl⟩
    refine ⟨[_, _, _, _, _, _, _], ⟨ho.names, .cons hgains (.cons hstick (.cons hweights
      (.cons hcounts (.cons hairframe (.cons hreversed (.cons hpulses .nil))))))⟩, ?_⟩
    simp only [Option.bind_eq_some_iff, Option.pure_def, Option.some_inj]
    exact ⟨_, hgains', _, hstick', _, hweights', _, hcounts', _, hairframe', _, hreversed', _,
      hpulses', rfl⟩

/-! ### Flaws of settings files -/

/-- The keys of the gains of an axis. -/
def Gains.shape : Json.Shape :=
  .record true [("p", .leaf), ("i", .leaf), ("d", .leaf)]

/-- The keys of a settings file.  Sections may be missing, but not their fields. -/
def Settings.shape : Json.Shape :=
  .record false [
    ("gains", .record true [("alt", Gains.shape), ("vel", Gains.shape)]),
    ("rc", .record true [("alt_hold_deadband", .leaf), ("alt_hold_fast_change", .leaf)]),
    ("baro", .record true [(FilterWeight.altitude.key, .leaf), (FilterWeight.velocity.key, .leaf)]),
    ("acc_1g", .leaf),
    ("airframe", .leaf),
    ("airplane", .record true [("fixedwing_althold_reversed", .leaf)]),
    ("pwm_range", .record true [("min", .leaf), ("max", .leaf)])]

theorem Gains.WrittenAs.not_flawed {g : Gains} {j : Json} (h : g.WrittenAs j) :
    ¬ Json.Flawed Gains.shape j :=
  Json.IsRecord.not_flawed h (.leaf (.leaf (.leaf .nil)))

/-- A section that is mentioned is there once and has no flaw. -/
theorem Mentions.not_flawed {α : Type} {members : List (Json.Text × Json)} {key : String}
    {writtenAs : α → Json → Prop} {choice : Option α} {shape : Json.Shape}
    (h : Mentions members key writtenAs choice)
    (hshape : ∀ {x j}, writtenAs x j → ¬ Json.Flawed shape j) :
    false = false ∧ Json.valuesAt members key = [] ∨
      ∃ j, Json.valuesAt members key = [j] ∧ ¬ Json.Flawed shape j := by
  cases choice with
  | none => exact .inl ⟨rfl, h⟩
  | some x =>
    obtain ⟨j, hvalues, hx⟩ := h
    exact .inr ⟨j, hvalues, hshape hx⟩

theorem Overrides.SaidBy.not_flawed {o : Overrides} {members : List (Json.Text × Json)}
    (h : o.SaidBy members) : ¬ Json.Flawed Settings.shape (.object members) := by
  refine Json.not_flawed_object fun field hfield => ?_
  simp only [List.mem_cons, List.not_mem_nil, or_false] at hfield
  rcases hfield with rfl | rfl | rfl | rfl | rfl | rfl | rfl
  · exact h.gains.not_flawed fun hx => Json.IsRecord.not_flawed hx
      (.field Gains.WrittenAs.not_flawed (.field Gains.WrittenAs.not_flawed .nil))
  · exact h.stick.not_flawed fun hx => Json.IsRecord.not_flawed hx (.leaf (.leaf .nil))
  · exact h.weights.not_flawed fun hx => Json.IsRecord.not_flawed hx (.leaf (.leaf .nil))
  · exact h.countsPerGravity.not_flawed fun _ => Json.not_flawed_leaf _
  · exact h.airframe.not_flawed fun _ => Json.not_flawed_leaf _
  · exact h.pitchReversed.not_flawed fun hx => Json.IsRecord.not_flawed hx (.leaf .nil)
  · exact h.pulses.not_flawed fun hx => Json.IsRecord.not_flawed hx (.leaf (.leaf .nil))

/-- A settings file overrides exactly the defaults that it mentions, in whatever order and with
whatever white space, and other members do not matter.  It is refused if a known member occurs twice
in one object, or if a section that is there lacks a field. -/
theorem Settings.parse?_object {text : String} {members : List (Json.Text × Json)}
    (h : Json.Spells text (.object members)) :
    (∀ s, Settings.parse? text = some s ↔ ∃ o : Overrides, o.SaidBy members ∧ o.apply {} = s) ∧
      (Json.Flawed Settings.shape (.object members) → Settings.parse? text = none) := by
  have hparse : Settings.parse? text = Settings.ofJson? (.object members) := by
    unfold Settings.parse? Settings.parseWith?
    rw [Json.parse?_eq_some_iff.mpr h]
    rfl
  rw [hparse]
  refine ⟨fun s => Settings.ofJson?_object, fun hflaw => ?_⟩
  rw [Option.eq_none_iff_forall_ne_some]
  intro s hs
  obtain ⟨o, ho, -⟩ := Settings.ofJson?_object.mp hs
  exact ho.not_flawed hflaw

/-- Members of which two are not known, the one around a known key and the other between the fields
of a section, which stand in another order than usual. -/
def Settings.scattered : List (Json.Text × Json) := [
  (some "note", .array [.object [(some "gains", .null)], .array []]),
  (some "rc", .object [
    (some "alt_hold_fast_change", .bool false),
    (some "rc", .object []),
    (some "alt_hold_deadband", .int 7)])]

/-- The section of the stick is taken from the file and all others are the defaults.  A file that
gives the scale of the accelerometer twice is refused. -/
theorem Settings.parse?_object_scattered :
    Settings.parse? (Json.object Settings.scattered).pretty = some { stick := ⟨7, false⟩ } ∧
      Settings.parse? (Json.object [(some "acc_1g", .int 1), (some "acc_1g", .int 1)]).compact =
        none := by
  have hscattered : (Json.object Settings.scattered).Writable :=
    ⟨rfl, ⟨⟨rfl, trivial, trivial⟩, trivial, trivial⟩, rfl,
      ⟨rfl, trivial, rfl, trivial, rfl, Numeral.wellFormed_ofInt 7, trivial⟩, trivial⟩
  have htwice : (Json.object [(some "acc_1g", .int 1), (some "acc_1g", .int 1)]).Writable :=
    ⟨rfl, Numeral.wellFormed_ofInt 1, rfl, Numeral.wellFormed_ofInt 1, trivial⟩
  have hstick : StickPolicy.WrittenAs ⟨7, false⟩ (.object [
      (some "alt_hold_fast_change", .bool false), (some "rc", .object []),
      (some "alt_hold_deadband", .int 7)]) :=
    ⟨by decide, List.forall_mem_cons.mpr
      ⟨⟨_, rfl, _, rfl, by decide⟩, List.forall_mem_cons.mpr ⟨⟨_, rfl, rfl⟩, nofun⟩⟩⟩
  constructor
  · refine ((Settings.parse?_object (Json.spells_pretty hscattered)).1 _).mpr
      ⟨⟨none, some ⟨7, false⟩, none, none, none, none, none⟩, ?_, rfl⟩
    exact ⟨by decide, rfl, ⟨_, rfl, hstick⟩, rfl, rfl, rfl, rfl, rfl⟩
  · refine (Settings.parse?_object (Json.spells_compact htwice)).2 ?_
    exact @Json.Flawed.repeated _ _ _ ("acc_1g", .leaf) (by simp) le_rfl

/-- No string is the key of the member, and so the file is refused, although the key is none of a
section. -/
theorem Settings.parse?_half :
    Json.Spells "\x7b\"\\ud83d\":0\x7d" (.object [(none, .int 0)]) ∧
      (∀ key ∈ Settings.keys, Json.valuesAt [(none, .int 0)] key = []) ∧
        Settings.parse? "\x7b\"\\ud83d\":0\x7d" = none := by
  refine ⟨?_, ?_, ?_⟩
  · have hkey : Json.SpellsText ['"', '\\', 'u', 'd', '8', '3', 'd', '"'] none :=
      ⟨['\\', 'u', 'd', '8', '3', 'd'], [0xD83D], rfl, .unicode (by decide) .nil, by decide⟩
    have hzero : Json.SpellsElement ['0'] (.int 0) :=
      .intro Json.blank_nil (.number (Json.spellsNumeral_chars (Numeral.wellFormed_ofInt 0)))
        Json.blank_nil
    have hmember := Json.SpellsMember.intro Json.blank_nil hkey Json.blank_nil hzero
    exact Json.SpellsElement.intro Json.blank_nil (.object (.last hmember)) Json.blank_nil
  · decide
  · decide +kernel

end Autopilot
