import Autopilot.Json.Writer
import Autopilot.Proofs.JsonGrammar

/-!
# JSON texts are read back

What is written of a JSON value is read as this value (`parse?_compact`, `parse?_pretty`), if the
value can be written at all: its numerals are well formed and its texts are strings (`Writable`).

Both writers put the same characters down and differ in the white space between them (`Spacing`).
The induction over the value is done once, for any spacing: what is written is in the grammar
(`spells_spaced`), and the reader reads all of the grammar.
-/

namespace Autopilot.Json

/-! ### Strings -/

theorem hexQuad?_hexDigit :
    ∀ n < 32, hexQuad? '0' '0' (hexDigit (n / 16)) (hexDigit (n % 16)) = some n := by
  decide

/-- Whatever a character is escaped with, it stands for the code of the character. -/
theorem spellsCodes_escape (c : Char) {cs : List Char} {codes : List ℕ} (h : SpellsCodes cs codes) :
    SpellsCodes (escape c ++ cs) (c.toNat :: codes) := by
  unfold escape
  split
  · exact .escape rfl h
  · exact .escape rfl h
  · exact .escape rfl h
  · exact .escape rfl h
  · exact .escape rfl h
  · exact .escape rfl h
  · exact .escape rfl h
  · rename_i hquote hslash _ _ _ _ _
    split_ifs with hc
    · exact .unicode (hexQuad?_hexDigit c.toNat hc) h
    · exact .plain hquote hslash hc h

theorem spellsCodes_escapes (cs : List Char) :
    SpellsCodes (cs.flatMap escape) (cs.map Char.toNat) := by
  induction cs with
  | nil => exact .nil
  | cons c cs ih => exact spellsCodes_escape c ih

theorem not_half (c : Char) : isHighHalf c.toNat = false ∧ isLowHalf c.toNat = false := by
  have hvalid : c.toNat < 0xd800 ∨ 0xdfff < c.toNat ∧ c.toNat < 0x110000 := c.valid
  unfold isHighHalf isLowHalf
  simp only [Bool.and_eq_false_iff, decide_eq_false_iff_not]
  omega

/-- The codes of characters are joined to these characters, for none of them is half of a pair. -/
theorem joinCodes_toNat (cs : List Char) : joinCodes (cs.map Char.toNat) = some cs := by
  induction cs with
  | nil => rfl
  | cons c cs ih =>
    obtain ⟨hhigh, hlow⟩ := not_half c
    cases cs with
    | nil =>
      change (if isHighHalf c.toNat || isLowHalf c.toNat then none
        else some [Char.ofNat c.toNat]) = _
      rw [hhigh, hlow, Char.ofNat_toNat]
      rfl
    | cons c' cs =>
      rw [List.map_cons, List.map_cons, joinCodes, hhigh, hlow, if_neg Bool.false_ne_true,
        if_neg Bool.false_ne_true, ← List.map_cons, ih, Char.ofNat_toNat]
      rfl

theorem spellsText_quote (s : String) : SpellsText (quote (some s)) (some s) := by
  refine ⟨s.toList.flatMap escape, s.toList.map Char.toNat, ?_, spellsCodes_escapes _, ?_⟩
  · rfl
  · rw [joinCodes_toNat, Option.map_some, String.ofList_toList]

/-! ### Spacing -/

/-- The white space that a writer puts between the characters of a value. -/
structure Spacing where
  /-- Behind an opening bracket or a comma, and before a closing bracket. -/
  gap : ℕ → List Char
  /-- Behind a colon. -/
  colon : List Char
  gap_blank : ∀ level, Blank (gap level)
  colon_blank : Blank colon

/-- No white space at all. -/
def Spacing.none : Spacing where
  gap _ := []
  colon := []
  gap_blank _ := blank_nil
  colon_blank := blank_nil

theorem newLine_blank (level : ℕ) : Blank (newLine level) := by
  intro c hc
  rcases List.mem_cons.mp hc with rfl | hc
  · rfl
  · rw [List.eq_of_mem_replicate hc]
    rfl

/-- A line for every item. -/
def Spacing.lines : Spacing where
  gap := newLine
  colon := [' ']
  gap_blank := newLine_blank
  colon_blank c hc := by
    rw [List.mem_singleton.mp hc]
    rfl

mutual

/-- The characters of a value that stands at a level, with this spacing. -/
def spaced (s : Spacing) (level : ℕ) : Json → List Char
  | .array (item :: rest) =>
    '[' :: s.gap (level + 1) ++ spacedItems s (level + 1) (item :: rest) ++ s.gap level ++ [']']
  | .object (member :: rest) =>
    '\x7b' :: s.gap (level + 1) ++ spacedMembers s (level + 1) (member :: rest) ++ s.gap level ++
      ['\x7d']
  | .array [] => ['[', ']']
  | .object [] => ['\x7b', '\x7d']
  | .null => "null".toList
  | .bool b => if b then "true".toList else "false".toList
  | .number n => n.chars
  | .string text => quote text

/-- The items of an array, with this spacing. -/
def spacedItems (s : Spacing) (level : ℕ) : List Json → List Char
  | [] => []
  | [item] => spaced s level item
  | item :: rest => spaced s level item ++ ',' :: s.gap level ++ spacedItems s level rest

/-- The members of an object, with this spacing. -/
def spacedMembers (s : Spacing) (level : ℕ) : List (Text × Json) → List Char
  | [] => []
  | [(key, value)] => quote key ++ ':' :: s.colon ++ spaced s level value
  | (key, value) :: rest =>
    quote key ++ ':' :: s.colon ++ spaced s level value ++ ',' :: s.gap level ++
      spacedMembers s level rest

end

mutual

theorem compactChars_eq (level : ℕ) : ∀ j : Json, j.compactChars = spaced .none level j
  | .null => rfl
  | .bool _ => rfl
  | .number _ => rfl
  | .string _ => rfl
  | .array [] => rfl
  | .object [] => rfl
  | .array (item :: rest) => by
    rw [compactChars, spaced, compactItems_eq (level + 1)]
    simp [Spacing.none]
  | .object (member :: rest) => by
    rw [compactChars, spaced, compactMembers_eq (level + 1)]
    simp [Spacing.none]

theorem compactItems_eq (level : ℕ) :
    ∀ items : List Json, compactItems items = spacedItems .none level items
  | [] => rfl
  | [item] => compactChars_eq level item
  | item :: next :: rest => by
    rw [compactItems, spacedItems, compactChars_eq level, compactItems_eq level]
    · simp [Spacing.none]
    all_goals simp

theorem compactMembers_eq (level : ℕ) :
    ∀ members : List (Text × Json), compactMembers members = spacedMembers .none level members
  | [] => rfl
  | [(key, value)] => by
    rw [compactMembers, spacedMembers, compactChars_eq level]
    simp [Spacing.none]
  | (key, value) :: next :: rest => by
    rw [compactMembers, spacedMembers, compactChars_eq level, compactMembers_eq level]
    · simp [Spacing.none]
    all_goals simp

end

mutual

theorem prettyChars_eq (level : ℕ) : ∀ j : Json, j.prettyChars level = spaced .lines level j
  | .null => rfl
  | .bool _ => rfl
  | .number _ => rfl
  | .string _ => rfl
  | .array [] => rfl
  | .object [] => rfl
  | .array (item :: rest) => by
    rw [prettyChars, spaced, prettyItems_eq (level + 1)]
    rfl
  | .object (member :: rest) => by
    rw [prettyChars, spaced, prettyMembers_eq (level + 1)]
    rfl

theorem prettyItems_eq (level : ℕ) :
    ∀ items : List Json, prettyItems level items = spacedItems .lines level items
  | [] => rfl
  | [item] => prettyChars_eq level item
  | item :: next :: rest => by
    rw [prettyItems, spacedItems, prettyChars_eq level, prettyItems_eq level]
    · rfl
    all_goals simp

theorem prettyMembers_eq (level : ℕ) :
    ∀ members : List (Text × Json), prettyMembers level members = spacedMembers .lines level members
  | [] => rfl
  | [(key, value)] => by
    rw [prettyMembers, spacedMembers, prettyChars_eq level]
    simp [Spacing.lines]
  | (key, value) :: next :: rest => by
    rw [prettyMembers, spacedMembers, prettyChars_eq level, prettyMembers_eq level]
    · simp [Spacing.lines]
    all_goals simp

end

/-! ### Values that can be written -/

mutual

/-- The numerals of a value are well formed, and its texts are strings. -/
def Writable : Json → Prop
  | .null => True
  | .bool _ => True
  | .number n => n.WellFormed
  | .string text => text.isSome
  | .array items => WritableItems items
  | .object members => WritableMembers members

/-- `Writable` for every item. -/
def WritableItems : List Json → Prop
  | [] => True
  | item :: rest => item.Writable ∧ WritableItems rest

/-- `Writable` for every member, with a string for its key. -/
def WritableMembers : List (Text × Json) → Prop
  | [] => True
  | (key, value) :: rest => key.isSome ∧ value.Writable ∧ WritableMembers rest

end

/-! ### Values are read back -/

section Spaced

variable (s : Spacing)

mutual

/-- The induction is on the value: with any spacing, its text is one that the grammar allows. -/
theorem spellsValue_spaced (level : ℕ) : ∀ {j : Json}, j.Writable → SpellsValue (spaced s level j) j
  | .null, _ => .null
  | .bool true, _ => .yes
  | .bool false, _ => .no
  | .number _, h => .number (spellsNumeral_chars h)
  | .string text, h => by
    obtain ⟨text, rfl⟩ := Option.isSome_iff_exists.mp h
    exact .string (spellsText_quote text)
  | .array [], _ => .emptyArray blank_nil
  | .object [], _ => .emptyObject blank_nil
  | .array (item :: items), h => by
    have hitems := spellsItems_spaced (level + 1) (s.gap_blank (level + 1)) (s.gap_blank level)
      (List.cons_ne_nil item items) h
    rw [spaced]
    simpa only [List.cons_append, List.append_assoc] using SpellsValue.array hitems
  | .object (member :: members), h => by
    have hmembers := spellsMembers_spaced (level + 1) (s.gap_blank (level + 1)) (s.gap_blank level)
      (List.cons_ne_nil member members) h
    rw [spaced]
    simpa only [List.cons_append, List.append_assoc] using SpellsValue.object hmembers

/-- The items of an array, with white space before the first and behind the last. -/
theorem spellsItems_spaced (level : ℕ) {before after : List Char} (hbefore : Blank before)
    (hafter : Blank after) : ∀ {items : List Json}, items ≠ [] → WritableItems items →
      SpellsItems (before ++ (spacedItems s level items ++ after)) items
  | [], h, _ => absurd rfl h
  | [_], _, h => .last (.intro hbefore (spellsValue_spaced level h.1) hafter)
  | item :: next :: items, _, h => by
    have hrest := spellsItems_spaced level (s.gap_blank level) hafter
      (List.cons_ne_nil next items) h.2
    have hitem := SpellsElement.intro hbefore (spellsValue_spaced level h.1) blank_nil
    rw [spacedItems]
    · simpa only [List.cons_append, List.append_assoc, List.nil_append] using
        SpellsItems.next hitem hrest
    all_goals simp

/-- The members of an object, with white space before the first and behind the last. -/
theorem spellsMembers_spaced (level : ℕ) {before after : List Char} (hbefore : Blank before)
    (hafter : Blank after) : ∀ {members : List (Text × Json)}, members ≠ [] →
      WritableMembers members →
      SpellsMembers (before ++ (spacedMembers s level members ++ after)) members
  | [], h, _ => absurd rfl h
  | [(key, value)], _, h => by
    obtain ⟨key, rfl⟩ := Option.isSome_iff_exists.mp h.1
    have hvalue := SpellsElement.intro s.colon_blank (spellsValue_spaced level h.2.1) hafter
    have hmember := SpellsMember.intro hbefore (spellsText_quote key) blank_nil hvalue
    rw [spacedMembers]
    simpa only [List.cons_append, List.append_assoc, List.nil_append] using
      SpellsMembers.last hmember
  | (key, value) :: next :: members, _, h => by
    obtain ⟨key, rfl⟩ := Option.isSome_iff_exists.mp h.1
    have hrest := spellsMembers_spaced level (s.gap_blank level) hafter
      (List.cons_ne_nil next members) h.2.2
    have hvalue := SpellsElement.intro s.colon_blank (spellsValue_spaced level h.2.1) blank_nil
    have hmember := SpellsMember.intro hbefore (spellsText_quote key) blank_nil hvalue
    rw [spacedMembers]
    · simpa only [List.cons_append, List.append_assoc, List.nil_append, List.append_nil] using
        SpellsMembers.next hmember hrest
    all_goals simp

end

end Spaced

/-- What is written of a value, with any spacing, is in the grammar. -/
theorem spells_spaced (s : Spacing) (level : ℕ) {j : Json} (h : j.Writable) :
    Spells (String.ofList (spaced s level j)) j := by
  have hspells := SpellsElement.intro blank_nil (spellsValue_spaced s level h) blank_nil
  rw [List.nil_append, List.append_nil] at hspells
  unfold Spells
  rw [String.toList_ofList]
  exact hspells

theorem spells_compact {j : Json} (h : j.Writable) : Spells j.compact j := by
  unfold compact
  rw [compactChars_eq 0]
  exact spells_spaced .none 0 h

theorem spells_pretty {j : Json} (h : j.Writable) : Spells j.pretty j := by
  unfold pretty
  rw [prettyChars_eq 0]
  exact spells_spaced .lines 0 h

theorem parse?_compact {j : Json} (h : j.Writable) : parse? j.compact = some j :=
  parse?_of_spells (spells_compact h)

theorem parse?_pretty {j : Json} (h : j.Writable) : parse? j.pretty = some j :=
  parse?_of_spells (spells_pretty h)

end Autopilot.Json
