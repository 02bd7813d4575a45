import Autopilot.Json.Record
import Mathlib.Tactic

/-!
# Reading records

`IsRecord` says of a JSON value that it is a record with certain fields, and of each field what its
value is.  A reader that takes a record apart succeeds exactly on such values (`isRecord_iff`); this
is the whole of what is known of readers of one, two and three fields (`readOne_eq_some_iff`,
`readTwo_eq_some_iff`, `readThree_eq_some_iff`).

`Flawed` finds two faults of records by their keys alone: a known key that occurs twice in one
object, and a field that is missing.  A record has neither (`IsRecord.not_flawed`).
-/

namespace Autopilot.Json

/-! ### Fields -/

section Fields

variable {members : List (Text × Json)} {keys : List String}

theorem mapM_eq_some_iff {α β : Type} {f : α → Option β} {xs : List α} {ys : List β} :
    xs.mapM f = some ys ↔ List.Forall₂ (fun x y => f x = some y) xs ys := by
  induction xs generalizing ys with
  | nil => simp [eq_comm]
  | cons x xs ih =>
    simp only [List.mapM_cons, Option.bind_eq_bind, Option.pure_def, Option.bind_eq_some_iff,
      Option.some_inj, ih, List.forall₂_cons_left_iff]
    constructor
    · rintro ⟨y, hy, ys', hys, rfl⟩
      exact ⟨y, ys', hy, hys, rfl⟩
    · rintro ⟨y, ys', hy, hys, rfl⟩
      exact ⟨y, hy, ys', hys, rfl⟩

theorem field?_eq_some_iff {key : String} {found : Option Json} :
    field? members key = some found ↔ valuesAt members key = found.toList := by
  unfold field?
  split
  · rename_i h
    rw [h]
    cases found <;> simp
  · rename_i h
    rw [h]
    cases found <;> simp
  · rename_i hnone hone
    constructor
    · exact fun h => by cases h
    · cases found with
      | none => exact fun h => absurd h hnone
      | some value => exact fun h => absurd h (hone value)

/-- An object gives the fields that its members are, as long as every key is a string. -/
theorem someFields?_object {found : List (Option Json)} :
    (object members).someFields? keys = some found ↔ (∀ member ∈ members, member.1.isSome = true) ∧
      List.Forall₂ (fun key value => valuesAt members key = value.toList) keys found := by
  unfold someFields?
  rw [Option.ite_none_right_eq_some, List.all_eq_true, mapM_eq_some_iff]
  simp only [field?_eq_some_iff]

theorem mapM_id_eq_some_iff {found : List (Option Json)} {values : List Json} :
    found.mapM id = some values ↔ found = values.map some := by
  rw [mapM_eq_some_iff, ← List.forall₂_eq_eq_eq, List.forall₂_map_right_iff]
  rfl

theorem allFields?_object {values : List Json} :
    (object members).allFields? keys = some values ↔
      (∀ member ∈ members, member.1.isSome = true) ∧
        List.Forall₂ (fun key value => valuesAt members key = [value]) keys values := by
  unfold allFields?
  simp only [Option.bind_eq_bind, Option.bind_eq_some_iff, mapM_id_eq_some_iff,
    exists_eq_right, someFields?_object, List.forall₂_map_right_iff, Option.toList_some]

theorem allFields?_array {items values : List Json} :
    (array items).allFields? keys = some values ↔ items = values ∧ keys.length = values.length := by
  unfold allFields? someFields?
  simp only [Option.bind_eq_bind, Option.bind_eq_some_iff, mapM_id_eq_some_iff, exists_eq_right,
    Option.ite_none_right_eq_some, Option.some_inj]
  constructor
  · rintro ⟨hle, heq⟩
    have hmissing : keys.length - items.length = 0 := by
      by_contra hne
      have hnone : none ∈ values.map some := by
        rw [← heq]
        exact List.mem_append_right _ (List.mem_replicate.mpr ⟨hne, rfl⟩)
      simp at hnone
    rw [hmissing, List.replicate_zero, List.append_nil] at heq
    obtain rfl := List.map_injective_iff.mpr (Option.some_injective Json) heq
    exact ⟨rfl, by omega⟩
  · rintro ⟨rfl, hlength⟩
    rw [hlength, Nat.sub_self]
    exact ⟨le_rfl, List.append_nil _⟩

end Fields

/-! ### Records -/

/-- A record with these fields, each of which says what its value is.  In an object the key of a
field occurs once, and nothing is said of the members under other keys; in an array the fields stand
in their order. -/
def IsRecord (fields : List (String × (Json → Prop))) : Json → Prop
  | .object members =>
    (∀ member ∈ members, member.1.isSome = true) ∧
      ∀ field ∈ fields, ∃ value, valuesAt members field.1 = [value] ∧ field.2 value
  | .array items => List.Forall₂ (fun field item => field.2 item) fields items
  | _ => False

theorem exists_values_iff {members : List (Text × Json)} {fields : List (String × (Json → Prop))} :
    (∀ field ∈ fields, ∃ value, valuesAt members field.1 = [value] ∧ field.2 value) ↔
      ∃ values, List.Forall₂ (fun field value => valuesAt members field.1 = [value]) fields values ∧
        List.Forall₂ (fun field value => field.2 value) fields values := by
  induction fields with
  | nil => simp
  | cons field fields ih =>
    rw [List.forall_mem_cons, ih]
    constructor
    · rintro ⟨⟨value, hvalue, hfield⟩, values, hvalues, hfields⟩
      exact ⟨value :: values, .cons hvalue hvalues, .cons hfield hfields⟩
    · rintro ⟨_, hvalues, hfields⟩
      obtain - | ⟨hvalue, hvalues⟩ := hvalues
      obtain - | ⟨hfield, hfields⟩ := hfields
      exact ⟨⟨_, hvalue, hfield⟩, _, hvalues, hfields⟩

/-- A complete record is taken apart exactly if it is one. -/
theorem isRecord_iff {fields : List (String × (Json → Prop))} {j : Json} :
    IsRecord fields j ↔ ∃ values, j.allFields? (fields.map Prod.fst) = some values ∧
      List.Forall₂ (fun field value => field.2 value) fields values := by
  cases j with
  | object members =>
    simp only [IsRecord, allFields?_object, List.forall₂_map_left_iff, exists_values_iff]
    constructor
    · rintro ⟨hnames, values, hvalues, hfields⟩
      exact ⟨values, ⟨hnames, hvalues⟩, hfields⟩
    · rintro ⟨values, ⟨hnames, hvalues⟩, hfields⟩
      exact ⟨hnames, values, hvalues, hfields⟩
  | array items =>
    simp only [IsRecord, allFields?_array, List.length_map]
    constructor
    · exact fun h => ⟨items, ⟨rfl, h.length_eq⟩, h⟩
    · rintro ⟨values, ⟨rfl, -⟩, h⟩
      exact h
  | _ => simp [IsRecord, allFields?, someFields?]

/-! ### Flaws of records -/

/-- What is known of the keys in a value: nothing, or that it is a record, in which fields may be
missing or not. -/
inductive Shape where
  | leaf
  | record (complete : Bool) (fields : List (String × Shape))

/-- Somewhere in a value a known key occurs twice in one object, or a field is missing. -/
inductive Flawed : Shape → Json → Prop where
  | repeated {complete : Bool} {fields : List (String × Shape)} {members : List (Text × Json)}
    {field : String × Shape} (hfield : field ∈ fields)
    (h : 2 ≤ (valuesAt members field.1).length) : Flawed (.record complete fields) (.object members)
  | missing {fields : List (String × Shape)} {members : List (Text × Json)}
    {field : String × Shape} (hfield : field ∈ fields) (h : valuesAt members field.1 = []) :
    Flawed (.record true fields) (.object members)
  | short {fields : List (String × Shape)} {items : List Json} (h : items.length < fields.length) :
    Flawed (.record true fields) (.array items)
  | member {complete : Bool} {fields : List (String × Shape)} {members : List (Text × Json)}
    {field : String × Shape} {j : Json} (hfield : field ∈ fields)
    (hj : j ∈ valuesAt members field.1) (h : Flawed field.2 j) :
    Flawed (.record complete fields) (.object members)
  | item {complete : Bool} {fields : List (String × Shape)} {items : List Json}
    {field : String × Shape} {j : Json} (hfield : (field, j) ∈ fields.zip items)
    (h : Flawed field.2 j) : Flawed (.record complete fields) (.array items)

theorem not_flawed_leaf (j : Json) : ¬ Flawed .leaf j :=
  fun h => by cases h

/-- An object has no flaw if no field has: each is missing where this is allowed, or it is there
once. -/
theorem not_flawed_object {complete : Bool} {fields : List (String × Shape)}
    {members : List (Text × Json)}
    (h : ∀ field ∈ fields, complete = false ∧ valuesAt members field.1 = [] ∨
      ∃ j, valuesAt members field.1 = [j] ∧ ¬ Flawed field.2 j) :
    ¬ Flawed (.record complete fields) (.object members) := by
  intro hflaw
  cases hflaw with
  | repeated hfield hlength =>
    obtain ⟨-, hnone⟩ | ⟨j, hone, -⟩ := h _ hfield
    · rw [hnone] at hlength
      exact absurd hlength (by decide)
    · rw [hone, List.length_singleton] at hlength
      exact absurd hlength (by decide)
  | missing hfield hmissing =>
    obtain ⟨hcomplete, -⟩ | ⟨j, hone, -⟩ := h _ hfield
    · cases hcomplete
    · rw [hmissing] at hone
      cases hone
  | member hfield hj hflaw =>
    obtain ⟨-, hnone⟩ | ⟨j, hone, hsound⟩ := h _ hfield
    · rw [hnone] at hj
      cases hj
    · rw [hone, List.mem_singleton] at hj
      exact hsound (hj ▸ hflaw)

/-- The same for an array, in which each field has its place. -/
theorem not_flawed_array {fields : List (String × Shape)} {items : List Json}
    (h : List.Forall₂ (fun field item => ¬ Flawed field.2 item) fields items) :
    ¬ Flawed (.record true fields) (.array items) := by
  intro hflaw
  cases hflaw with
  | short hlength => exact absurd h.length_eq (by omega)
  | item hfield hflaw => exact (List.forall₂_iff_zip.mp h).2 hfield hflaw

section Shapes

variable {fields : List (String × (Json → Prop))} {shapes : List (String × Shape)}

/-- The shapes of the fields of a record: the same keys, and no value of a field has a flaw. -/
def Fits (fields : List (String × (Json → Prop))) (shapes : List (String × Shape)) : Prop :=
  List.Forall₂ (fun field shape => field.1 = shape.1 ∧ ∀ j, field.2 j → ¬ Flawed shape.2 j)
    fields shapes

theorem Fits.nil : Fits [] [] :=
  List.Forall₂.nil

theorem Fits.field {key : String} {holds : Json → Prop} {shape : Shape}
    (h : ∀ {j}, holds j → ¬ Flawed shape j) (hfits : Fits fields shapes) :
    Fits ((key, holds) :: fields) ((key, shape) :: shapes) :=
  .cons ⟨rfl, fun _ => h⟩ hfits

theorem Fits.leaf {key : String} {holds : Json → Prop} (hfits : Fits fields shapes) :
    Fits ((key, holds) :: fields) ((key, .leaf) :: shapes) :=
  hfits.field fun _ => not_flawed_leaf _

/-- A record has no flaw. -/
theorem IsRecord.not_flawed {j : Json} (h : IsRecord fields j) (hfits : Fits fields shapes) :
    ¬ Flawed (.record true shapes) j := by
  cases j with
  | object members =>
    refine not_flawed_object fun shape hshape => .inr ?_
    obtain ⟨-, h⟩ := h
    induction hfits with
    | nil => cases hshape
    | cons hfield _ ih =>
      rw [List.forall_mem_cons] at h
      rcases List.mem_cons.mp hshape with rfl | hshape
      · obtain ⟨value, hvalue, hholds⟩ := h.1
        exact ⟨value, hfield.1 ▸ hvalue, hfield.2 value hholds⟩
      · exact ih hshape h.2
  | array items =>
    refine not_flawed_array ?_
    change List.Forall₂ (fun field item => field.2 item) fields items at h
    induction h generalizing shapes with
    | nil =>
      cases hfits
      exact .nil
    | cons hholds _ ih =>
      obtain - | ⟨hfield, hfits⟩ := hfits
      exact .cons (hfield.2 _ hholds) (ih hfits)
  | _ => exact h.elim

end Shapes

/-! ### Values of fields -/

/-- The value is this integer, written without a point and an exponent. -/
def IsInteger (n : ℤ) (j : Json) : Prop :=
  ∃ numeral, j = .number numeral ∧ numeral.toInt? = some n

theorem natBelow?_eq_some_iff {bound n : ℕ} {j : Json} :
    natBelow? bound j = some n ↔ n < bound ∧ IsInteger n j := by
  cases j with
  | number numeral =>
    simp only [natBelow?, IsInteger, Option.bind_eq_bind, Option.bind_eq_some_iff,
      Option.ite_none_right_eq_some, Option.some_inj, number.injEq, exists_eq_left']
    constructor
    · rintro ⟨value, hvalue, hrange, rfl⟩
      rw [Int.toNat_of_nonneg hrange.1]
      exact ⟨by omega, hvalue⟩
    · rintro ⟨hrange, hvalue⟩
      exact ⟨n, hvalue, by omega, Int.toNat_natCast n⟩
  | _ => simp [natBelow?, IsInteger]

theorem uint8?_eq_some_iff {x : UInt8} {j : Json} : uint8? j = some x ↔ IsInteger x.toNat j := by
  unfold uint8?
  simp only [Option.map_eq_some_iff, natBelow?_eq_some_iff]
  constructor
  · rintro ⟨n, ⟨hn, h⟩, rfl⟩
    rw [Nat.toUInt8_eq, UInt8.toNat_ofNat_of_lt' hn]
    exact h
  · exact fun h => ⟨x.toNat, ⟨x.toNat_lt, h⟩, UInt8.ofNat_toNat⟩

theorem uint16?_eq_some_iff {x : UInt16} {j : Json} : uint16? j = some x ↔ IsInteger x.toNat j := by
  unfold uint16?
  simp only [Option.map_eq_some_iff, natBelow?_eq_some_iff]
  constructor
  · rintro ⟨n, ⟨hn, h⟩, rfl⟩
    rw [Nat.toUInt16_eq, UInt16.toNat_ofNat_of_lt' hn]
    exact h
  · exact fun h => ⟨x.toNat, ⟨x.toNat_lt, h⟩, UInt16.ofNat_toNat⟩

theorem int16?_eq_some_iff {x : Int16} {j : Json} : int16? j = some x ↔ IsInteger x.toInt j := by
  cases j with
  | number numeral =>
    simp only [int16?, IsInteger, Option.bind_eq_bind, Option.bind_eq_some_iff,
      Option.ite_none_right_eq_some, Option.some_inj, number.injEq, exists_eq_left']
    constructor
    · rintro ⟨value, hvalue, hrange, rfl⟩
      rw [Int16.toInt_ofInt_of_le hrange.1 (by omega)]
      exact hvalue
    · exact fun h => ⟨x.toInt, h, ⟨x.le_toInt, x.toInt_le⟩, Int16.ofInt_toInt x⟩
  | _ => simp [int16?, IsInteger]

theorem bool?_eq_some_iff {b : Bool} {j : Json} : bool? j = some b ↔ j = .bool b := by
  cases j <;> simp [bool?]

theorem variant?_eq_some_iff {name : String} {j : Json} :
    variant? j = some name ↔ j = .text name ∨ j = .object [(some name, .null)] := by
  unfold variant? text
  split
  · simp
  · simp
  · rename_i hstring hobject
    refine ⟨nofun, ?_⟩
    rintro (rfl | rfl)
    · exact absurd rfl (hstring _)
    · exact absurd rfl (hobject _)

section Readers

variable {α β γ δ : Type} {j : Json} {key key' key'' : String} {first : Json → Option α}
  {second : Json → Option β} {third : Json → Option γ} {r : δ}

/-- A record of one field. -/
theorem readOne_eq_some_iff {x : α} :
    ((j.allFields? [key]).bind fun
      | [a] => first a
      | _ => none) = some x ↔ IsRecord [(key, fun a => first a = some x)] j := by
  rw [isRecord_iff, Option.bind_eq_some_iff]
  refine exists_congr fun values => and_congr_right fun _ => ?_
  split
  · exact ⟨fun h => .cons h .nil, fun | .cons h .nil => h⟩
  · rename_i hother
    exact ⟨nofun, fun | .cons _ .nil => absurd rfl (hother _)⟩

/-- A record of two fields. -/
theorem readTwo_eq_some_iff {make : α → β → δ} :
    ((j.allFields? [key, key']).bind fun
      | [a, b] => (first a).bind fun x => (second b).bind fun y => some (make x y)
      | _ => none) = some r ↔
      ∃ x y, make x y = r ∧
        IsRecord [(key, fun a => first a = some x), (key', fun b => second b = some y)] j := by
  simp only [isRecord_iff, Option.bind_eq_some_iff]
  constructor
  · rintro ⟨values, hvalues, h⟩
    split at h
    · simp only [Option.bind_eq_some_iff, Option.some_inj] at h
      obtain ⟨x, hx, y, hy, rfl⟩ := h
      exact ⟨x, y, rfl, _, hvalues, .cons hx (.cons hy .nil)⟩
    · cases h
  · rintro ⟨x, y, rfl, values, hvalues, h⟩
    obtain - | ⟨hx, - | ⟨hy, ⟨⟩⟩⟩ := h
    refine ⟨_, hvalues, ?_⟩
    simp only [Option.bind_eq_some_iff]
    exact ⟨x, hx, y, hy, rfl⟩

/-- A record of three fields. -/
theorem readThree_eq_some_iff {make : α → β → γ → δ} :
    ((j.allFields? [key, key', key'']).bind fun
      | [a, b, c] => (first a).bind fun x => (second b).bind fun y => (third c).bind fun z =>
        some (make x y z)
      | _ => none) = some r ↔
      ∃ x y z, make x y z = r ∧
        IsRecord [(key, fun a => first a = some x), (key', fun b => second b = some y),
          (key'', fun c => third c = some z)] j := by
  simp only [isRecord_iff, Option.bind_eq_some_iff]
  constructor
  · rintro ⟨values, hvalues, h⟩
    split at h
    · simp only [Option.bind_eq_some_iff, Option.some_inj] at h
      obtain ⟨x, hx, y, hy, z, hz, rfl⟩ := h
      exact ⟨x, y, z, rfl, _, hvalues, .cons hx (.cons hy (.cons hz .nil))⟩
    · cases h
  · rintro ⟨x, y, z, rfl, values, hvalues, h⟩
    obtain - | ⟨hx, - | ⟨hy, - | ⟨hz, ⟨⟩⟩⟩⟩ := h
    refine ⟨_, hvalues, ?_⟩
    simp only [Option.bind_eq_some_iff]
    exact ⟨x, hx, y, hy, z, hz, rfl⟩

end Readers

end Autopilot.Json
