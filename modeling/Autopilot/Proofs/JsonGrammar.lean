import Autopilot.Proofs.Numerals
import Mathlib.Data.List.DropRight

/-!
# The grammar of JSON

`Spells text j` says that a text is a JSON value, and that `j` is what it holds: the grammar puts
white space in front of every token and behind it, leaves it open which characters of a string are
escaped, and allows members in any order and any number under the same key.

The reader reads every such text (`parse?_of_spells`).  It passes over white space before it looks
at anything, and it stops at the first character that does not belong to a value, so each part of
the grammar is read with any rest behind it.
-/

namespace Autopilot.Json

/-! ### White space -/

/-- Nothing but white space. -/
def Blank (cs : List Char) : Prop :=
  ∀ c ∈ cs, isBlank c = true

theorem blank_nil : Blank [] :=
  fun _ hc => by cases hc

theorem skipBlank_cons {c : Char} (hc : isBlank c = false) (cs : List Char) :
    skipBlank (c :: cs) = c :: cs :=
  List.dropWhile_cons_of_neg (ne_true_of_eq_false hc)

theorem skipBlank_skipBlank (cs : List Char) : skipBlank (skipBlank cs) = skipBlank cs :=
  List.dropWhile_idempotent isBlank cs

theorem skipBlank_append {blanks : List Char} (hblanks : Blank blanks) (cs : List Char) :
    skipBlank (blanks ++ cs) = skipBlank cs :=
  List.dropWhile_append_of_pos hblanks

/-- White space and then something else. -/
theorem skipBlank_append_cons {blanks : List Char} (hblanks : Blank blanks) {c : Char}
    (hc : isBlank c = false) (cs : List Char) : skipBlank (blanks ++ c :: cs) = c :: cs := by
  rw [skipBlank_append hblanks, skipBlank_cons hc]

section Skip

variable (fuel : ℕ) (cs : List Char)

theorem readValue_skipBlank : readValue fuel (skipBlank cs) = readValue fuel cs := by
  cases fuel with
  | zero => rw [readValue, readValue]
  | succ fuel => rw [readValue, readValue, skipBlank_skipBlank]

theorem readItems_skipBlank (before : List Json) :
    readItems fuel (skipBlank cs) before = readItems fuel cs before := by
  cases fuel with
  | zero => rw [readItems, readItems]
  | succ fuel => rw [readItems, readItems, readValue_skipBlank]

theorem readMembers_skipBlank (before : List (Text × Json)) :
    readMembers fuel (skipBlank cs) before = readMembers fuel cs before := by
  cases fuel with
  | zero => rw [readMembers, readMembers]
  | succ fuel => rw [readMembers, readMembers, skipBlank_skipBlank]

theorem readValue_blank {blanks : List Char} (hblanks : Blank blanks) :
    readValue fuel (blanks ++ cs) = readValue fuel cs := by
  rw [← readValue_skipBlank, skipBlank_append hblanks, readValue_skipBlank]

end Skip

/-! ### Strings -/

/-- The characters between the quotes of a string, and the codes that they stand for. -/
inductive SpellsCodes : List Char → List ℕ → Prop where
  | nil : SpellsCodes [] []
  | plain {c : Char} {cs : List Char} {codes : List ℕ} (hquote : c ≠ '"') (hslash : c ≠ '\\')
    (hcontrol : ¬ c < ' ') (h : SpellsCodes cs codes) : SpellsCodes (c :: cs) (c.toNat :: codes)
  | escape {c char : Char} {cs : List Char} {codes : List ℕ} (hc : escaped? c = some char)
    (h : SpellsCodes cs codes) : SpellsCodes ('\\' :: c :: cs) (char.toNat :: codes)
  | unicode {a b c d : Char} {code : ℕ} {cs : List Char} {codes : List ℕ}
    (hcode : hexQuad? a b c d = some code) (h : SpellsCodes cs codes) :
    SpellsCodes ('\\' :: 'u' :: a :: b :: c :: d :: cs) (code :: codes)

/-- The characters of a string with its quotes. -/
def SpellsText (cs : List Char) (text : Text) : Prop :=
  ∃ body codes, cs = '"' :: (body ++ ['"']) ∧ SpellsCodes body codes ∧
    text = (joinCodes codes).map String.ofList

theorem readCodes_append {body : List Char} {codes : List ℕ} (h : SpellsCodes body codes)
    (rest : List Char) : readCodes (body ++ '"' :: rest) = some (codes, rest) := by
  induction h with
  | nil => rw [List.nil_append, readCodes]
  | @plain c cs codes hquote hslash hcontrol _ ih =>
    rw [List.cons_append, readCodes, if_neg hcontrol, ih]
    · rfl
    · exact hquote
    · exact fun _ _ _ _ _ heq => absurd heq hslash
    · exact fun _ _ heq => absurd heq hslash
  | @escape c char cs codes hc _ ih =>
    have hother : c ≠ 'u' := by
      rintro rfl
      cases hc
    rw [List.cons_append, List.cons_append, readCodes, hc, ih]
    · rfl
    · exact fun _ _ _ _ _ heq => absurd heq hother
  | unicode hcode _ ih =>
    simp only [List.cons_append]
    rw [readCodes, hcode, ih]
    rfl

theorem readText_append {body : List Char} {codes : List ℕ} (h : SpellsCodes body codes)
    (rest : List Char) :
    readText (body ++ '"' :: rest) = some ((joinCodes codes).map String.ofList, rest) := by
  unfold readText
  rw [readCodes_append h]
  rfl

/-! ### Values -/

mutual

/-- The characters of a value, from its first token to its last. -/
inductive SpellsValue : List Char → Json → Prop where
  | null : SpellsValue ['n', 'u', 'l', 'l'] .null
  | yes : SpellsValue ['t', 'r', 'u', 'e'] (.bool true)
  | no : SpellsValue ['f', 'a', 'l', 's', 'e'] (.bool false)
  | number {cs : List Char} {n : Numeral} (h : SpellsNumeral cs n) : SpellsValue cs (.number n)
  | string {cs : List Char} {text : Text} (h : SpellsText cs text) : SpellsValue cs (.string text)
  | emptyArray {blanks : List Char} (h : Blank blanks) :
    SpellsValue ('[' :: (blanks ++ [']'])) (.array [])
  | array {cs : List Char} {items : List Json} (h : SpellsItems cs items) :
    SpellsValue ('[' :: (cs ++ [']'])) (.array items)
  | emptyObject {blanks : List Char} (h : Blank blanks) :
    SpellsValue ('\x7b' :: (blanks ++ ['\x7d'])) (.object [])
  | object {cs : List Char} {members : List (Text × Json)} (h : SpellsMembers cs members) :
    SpellsValue ('\x7b' :: (cs ++ ['\x7d'])) (.object members)

/-- The characters of a value with the white space around it. -/
inductive SpellsElement : List Char → Json → Prop where
  | intro {before cs after : List Char} {j : Json} (hbefore : Blank before) (h : SpellsValue cs j)
    (hafter : Blank after) : SpellsElement (before ++ (cs ++ after)) j

/-- The characters between the brackets of an array that is not empty. -/
inductive SpellsItems : List Char → List Json → Prop where
  | last {cs : List Char} {item : Json} (h : SpellsElement cs item) : SpellsItems cs [item]
  | next {cs ds : List Char} {item : Json} {rest : List Json} (h : SpellsElement cs item)
    (hrest : SpellsItems ds rest) : SpellsItems (cs ++ ',' :: ds) (item :: rest)

/-- The characters of a member with the white space around it. -/
inductive SpellsMember : List Char → Text × Json → Prop where
  | intro {before cs after ds : List Char} {key : Text} {value : Json} (hbefore : Blank before)
    (hkey : SpellsText cs key) (hafter : Blank after) (h : SpellsElement ds value) :
    SpellsMember (before ++ (cs ++ (after ++ ':' :: ds))) (key, value)

/-- The characters between the braces of an object that is not empty. -/
inductive SpellsMembers : List Char → List (Text × Json) → Prop where
  | last {cs : List Char} {member : Text × Json} (h : SpellsMember cs member) :
    SpellsMembers cs [member]
  | next {cs ds : List Char} {member : Text × Json} {rest : List (Text × Json)}
    (h : SpellsMember cs member) (hrest : SpellsMembers ds rest) :
    SpellsMembers (cs ++ ',' :: ds) (member :: rest)

end

/-- The text is this value, with white space around it. -/
def Spells (text : String) (j : Json) : Prop :=
  SpellsElement text.toList j

/-! ### First characters -/

/-- The characters that a value can begin with. -/
def Begins (c : Char) : Prop :=
  c.isDigit = true ∨ c ∈ ['-', 'n', 't', 'f', '"', '[', '\x7b']

instance : DecidablePred Begins := fun _ => inferInstanceAs (Decidable (_ ∨ _))

theorem Begins.not_blank {c : Char} (h : Begins c) : isBlank c = false ∧ c ≠ ']' := by
  rcases h with h | h
  · constructor
    · unfold isBlank
      simp only [Bool.or_eq_false_iff, beq_eq_false_iff_ne]
      refine ⟨⟨⟨?_, ?_⟩, ?_⟩, ?_⟩ <;> (rintro rfl; exact absurd h (by decide))
    · rintro rfl
      exact absurd h (by decide)
  · simp only [List.mem_cons, List.not_mem_nil, or_false] at h
    obtain rfl | rfl | rfl | rfl | rfl | rfl | rfl := h <;> decide

/-- A numeral begins with a sign or a digit. -/
theorem SpellsNumeral.begins {cs : List Char} {n : Numeral} (h : SpellsNumeral cs n) :
    ∃ c cs', cs = c :: cs' ∧ (c = '-' ∨ c.isDigit = true) := by
  obtain ⟨hform, exponent, -, rfl⟩ := h
  simp only [List.append_assoc]
  cases hnegative : n.negative with
  | true => exact ⟨_, _, rfl, .inl rfl⟩
  | false =>
    rcases hform.whole with hzero | ⟨hdigits, -⟩
    · rw [hzero]
      exact ⟨_, _, rfl, .inr rfl⟩
    · cases hwhole : n.whole with
      | nil => exact absurd hwhole hdigits.ne_nil
      | cons c cs =>
        exact ⟨_, _, rfl, .inr (hdigits.isDigit c (by rw [hwhole]; exact List.mem_cons_self))⟩

theorem SpellsValue.begins {cs : List Char} {j : Json} (h : SpellsValue cs j) :
    ∃ c cs', cs = c :: cs' ∧ Begins c := by
  cases h with
  | number h =>
    obtain ⟨c, cs', rfl, hc⟩ := h.begins
    refine ⟨c, cs', rfl, ?_⟩
    rcases hc with rfl | hc
    · decide
    · exact .inl hc
  | string h =>
    obtain ⟨body, codes, rfl, -⟩ := h
    exact ⟨_, _, rfl, by decide⟩
  | _ => exact ⟨_, _, rfl, by decide⟩

theorem SpellsElement.head_skipBlank {cs : List Char} {j : Json} (h : SpellsElement cs j)
    (rest : List Char) : ∃ c, (skipBlank (cs ++ rest)).head? = some c ∧ Begins c := by
  obtain ⟨hbefore, hvalue, -⟩ := h
  obtain ⟨c, cs', rfl, hc⟩ := hvalue.begins
  simp only [List.append_assoc, List.cons_append]
  rw [skipBlank_append_cons hbefore hc.not_blank.1]
  exact ⟨c, rfl, hc⟩

theorem SpellsItems.head_skipBlank {cs : List Char} {items : List Json} (h : SpellsItems cs items)
    (rest : List Char) : ∃ c, (skipBlank (cs ++ rest)).head? = some c ∧ Begins c := by
  cases h with
  | last h => exact h.head_skipBlank rest
  | next h _ =>
    rw [List.append_assoc]
    exact h.head_skipBlank _

theorem SpellsMember.head_skipBlank {cs : List Char} {member : Text × Json}
    (h : SpellsMember cs member) (rest : List Char) :
    (skipBlank (cs ++ rest)).head? = some '"' := by
  obtain ⟨hbefore, ⟨body, codes, rfl, -⟩, -, -⟩ := h
  simp only [List.append_assoc, List.cons_append]
  rw [skipBlank_append_cons hbefore rfl]
  rfl

theorem SpellsMembers.head_skipBlank {cs : List Char} {members : List (Text × Json)}
    (h : SpellsMembers cs members) (rest : List Char) :
    (skipBlank (cs ++ rest)).head? = some '"' := by
  cases h with
  | last h => exact h.head_skipBlank rest
  | next h _ =>
    rw [List.append_assoc]
    exact h.head_skipBlank _

/-! ### What follows a value -/

/-- A blank, a comma or a bracket ends a numeral. -/
def EndsValue (c : Char) : Prop :=
  isBlank c = true ∨ c ∈ [',', ']', '\x7d']

theorem endsNumeral_of_endsValue {c : Char} (hc : EndsValue c) (cs : List Char) :
    EndsNumeral (c :: cs) := by
  intro c' hc'
  obtain rfl := Option.some_inj.mp hc'
  rcases hc with hc | hc
  · unfold isBlank at hc
    simp only [Bool.or_eq_true, beq_iff_eq] at hc
    obtain ((rfl | rfl) | rfl) | rfl := hc <;> decide
  · revert c
    simp [Char.isDigit]

/-- White space, and then something that ends a value. -/
theorem endsNumeral_append {blanks cs : List Char} (hblanks : Blank blanks)
    (hcs : EndsNumeral cs) : EndsNumeral (blanks ++ cs) := by
  cases blanks with
  | nil => exact hcs
  | cons c blanks =>
    exact endsNumeral_of_endsValue (.inl (hblanks c List.mem_cons_self)) _

/-! ### Steps of the reader -/

section Steps

variable {fuel : ℕ} {cs rest : List Char}

/-- A value that begins with a sign or a digit is a number. -/
theorem readValue_number {c : Char} (hc : c = '-' ∨ c.isDigit = true) (fuel : ℕ) (cs : List Char) :
    readValue (fuel + 1) (c :: cs) =
      (readNumeral (c :: cs)).map fun (n, rest) => (.number n, rest) := by
  have hbegins : Begins c := by
    rcases hc with rfl | hc
    · decide
    · exact .inl hc
  have hother : ∀ {c' : Char} {cs' : List Char}, c :: cs = c' :: cs' → ¬ c' = '-' →
      c'.isDigit = true := by
    intro c' cs' heq hminus
    obtain ⟨rfl, -⟩ := List.cons.inj heq
    exact hc.resolve_left hminus
  rw [readValue, skipBlank_cons hbegins.not_blank.1]
  split
  case h_7 => cases readNumeral (c :: cs) <;> rfl
  all_goals
    rename_i heq
    exact absurd (hother heq (by decide)) (by decide)

theorem readValue_numeral {n : Numeral} (h : SpellsNumeral cs n) (hrest : EndsNumeral rest) :
    readValue (fuel + 1) (cs ++ rest) = some (.number n, rest) := by
  have hread := readNumeral_append h hrest
  obtain ⟨c, cs', rfl, hc⟩ := h.begins
  rw [List.cons_append] at hread ⊢
  rw [readValue_number hc, hread, Option.map_some]

theorem readValue_text {text : Text} (h : SpellsText cs text) :
    readValue (fuel + 1) (cs ++ rest) = some (.string text, rest) := by
  obtain ⟨body, codes, rfl, hbody, rfl⟩ := h
  simp only [List.cons_append, List.append_assoc, List.nil_append]
  rw [readValue, skipBlank_cons rfl]
  change (readText (body ++ '"' :: rest)).bind (fun read => some (Json.string read.1, read.2)) = _
  rw [readText_append hbody]
  rfl

/-- An opening bracket, and a closing one or items. -/
theorem readValue_bracket (fuel : ℕ) (cs : List Char) :
    readValue (fuel + 1) ('[' :: cs) =
      if (skipBlank cs).head? = some ']' then some (.array [], (skipBlank cs).tail)
      else readItems fuel cs [] := by
  rw [readValue, skipBlank_cons rfl]
  split
  case h_5 heq =>
    obtain ⟨-, rfl⟩ := List.cons.inj heq
    split
    · rename_i hskip
      rw [hskip]
      rfl
    · rename_i hother
      rw [readItems_skipBlank, if_neg fun hhead => ?_]
      obtain ⟨rest, hskip⟩ := List.head?_eq_some_iff.mp hhead
      exact hother rest hskip
  case h_7 hother _ => exact absurd rfl (hother _)
  all_goals
    rename_i heq
    exact absurd (List.cons.inj heq).1 (by decide)

/-- An opening brace, and a closing one or members. -/
theorem readValue_brace (fuel : ℕ) (cs : List Char) :
    readValue (fuel + 1) ('\x7b' :: cs) =
      if (skipBlank cs).head? = some '\x7d' then some (.object [], (skipBlank cs).tail)
      else readMembers fuel cs [] := by
  rw [readValue, skipBlank_cons rfl]
  split
  case h_6 heq =>
    obtain ⟨-, rfl⟩ := List.cons.inj heq
    split
    · rename_i hskip
      rw [hskip]
      rfl
    · rename_i hother
      rw [readMembers_skipBlank, if_neg fun hhead => ?_]
      obtain ⟨rest, hskip⟩ := List.head?_eq_some_iff.mp hhead
      exact hother rest hskip
  case h_7 hother => exact absurd rfl (hother _)
  all_goals
    rename_i heq
    exact absurd (List.cons.inj heq).1 (by decide)

section Item

variable {after : List Char} {item : Json} (hread : readValue fuel cs = some (item, after))
  (before : List Json)

include hread

/-- Another item follows. -/
theorem readItems_next (hafter : skipBlank after = ',' :: rest) :
    readItems (fuel + 1) cs before = readItems fuel rest (item :: before) := by
  rewrite [readItems, hread]
  dsimp only
  rewrite [hafter]
  rfl

/-- The closing bracket follows. -/
theorem readItems_last (hafter : skipBlank after = ']' :: rest) :
    readItems (fuel + 1) cs before = some (.array (before.reverse ++ [item]), rest) := by
  rewrite [readItems, hread]
  dsimp only
  rewrite [hafter]
  exact congrArg (fun items => some (array items, rest)) List.reverse_cons

end Item

section Member

variable {blanks key between after : List Char} {name : Text} {value : Json}
  (hblanks : Blank blanks) (hkey : SpellsText key name) (hbetween : Blank between)
  (hread : readValue fuel cs = some (value, after)) (before : List (Text × Json))

include hblanks hkey hbetween hread

/-- A member and what follows it: a comma and other members, or the closing brace. -/
theorem readMembers_value {result : Option (Json × List Char)}
    (hafter : skipBlank after = ',' :: rest ∧
        readMembers fuel rest ((name, value) :: before) = result ∨
      skipBlank after = '\x7d' :: rest ∧
        some (.object ((name, value) :: before).reverse, rest) = result) :
    readMembers (fuel + 1) (blanks ++ (key ++ (between ++ ':' :: cs))) before = result := by
  obtain ⟨body, codes, rfl, hbody, rfl⟩ := hkey
  simp only [List.cons_append, List.append_assoc, List.nil_append]
  rw [readMembers, skipBlank_append_cons hblanks rfl]
  split
  · rename_i heq
    obtain ⟨-, rfl⟩ := List.cons.inj heq
    rw [readText_append hbody]
    dsimp only
    rw [skipBlank_append_cons hbetween rfl]
    split
    · rename_i heq
      obtain ⟨-, rfl⟩ := List.cons.inj heq
      rw [hread]
      dsimp only
      rcases hafter with ⟨hskip, hresult⟩ | ⟨hskip, hresult⟩
      · rewrite [hskip]
        exact hresult
      · rewrite [hskip]
        exact hresult
    · rename_i hother
      exact absurd rfl (hother _)
  · rename_i hother
    exact absurd rfl (hother _)

/-- Another member follows. -/
theorem readMembers_next (hafter : skipBlank after = ',' :: rest) :
    readMembers (fuel + 1) (blanks ++ (key ++ (between ++ ':' :: cs))) before =
      readMembers fuel rest ((name, value) :: before) :=
  readMembers_value hblanks hkey hbetween hread before (.inl ⟨hafter, rfl⟩)

/-- The closing brace follows. -/
theorem readMembers_last (hafter : skipBlank after = '\x7d' :: rest) :
    readMembers (fuel + 1) (blanks ++ (key ++ (between ++ ':' :: cs))) before =
      some (.object (before.reverse ++ [(name, value)]), rest) := by
  rw [← List.reverse_cons]
  exact readMembers_value hblanks hkey hbetween hread before (.inr ⟨hafter, rfl⟩)

end Member

end Steps

/-! ### Values are read -/

section Fuel

variable (fuel : ℕ)

/-- This fuel is enough for every value with at most half as many characters. -/
def ReadsValues : Prop :=
  ∀ {cs : List Char} {j : Json} {rest : List Char}, SpellsValue cs j → 2 * cs.length ≤ fuel →
    EndsNumeral rest → readValue fuel (cs ++ rest) = some (j, rest)

/-- This fuel is enough for all items of an array with less than half as many characters. -/
def ReadsItems : Prop :=
  ∀ {cs : List Char} {items : List Json} (before : List Json) (rest : List Char),
    SpellsItems cs items → 2 * cs.length < fuel →
    readItems fuel (cs ++ ']' :: rest) before = some (.array (before.reverse ++ items), rest)

/-- This fuel is enough for all members of an object with less than half as many characters. -/
def ReadsMembers : Prop :=
  ∀ {cs : List Char} {members : List (Text × Json)} (before : List (Text × Json))
    (rest : List Char), SpellsMembers cs members → 2 * cs.length < fuel →
    readMembers fuel (cs ++ '\x7d' :: rest) before =
      some (.object (before.reverse ++ members), rest)

variable {fuel}

/-- The white space behind a value is left. -/
theorem ReadsValues.element (hvalues : ReadsValues fuel) {cs rest : List Char} {j : Json}
    (h : SpellsElement cs j) (hfuel : 2 * cs.length ≤ fuel) (hrest : EndsNumeral rest) :
    ∃ after, Blank after ∧ readValue fuel (cs ++ rest) = some (j, after ++ rest) := by
  obtain ⟨hbefore, hvalue, hafter⟩ := h
  rename_i before cs after
  simp only [List.length_append] at hfuel
  refine ⟨after, hafter, ?_⟩
  simp only [List.append_assoc]
  rw [readValue_blank fuel _ hbefore]
  exact hvalues hvalue (by omega) (endsNumeral_append hafter hrest)

theorem readsValues_succ (hitems : ReadsItems fuel) (hmembers : ReadsMembers fuel) :
    ReadsValues (fuel + 1) := by
  intro cs j rest h hfuel hrest
  cases h with
  | null =>
    rw [readValue]
    rfl
  | yes =>
    rw [readValue]
    rfl
  | no =>
    rw [readValue]
    rfl
  | number h => exact readValue_numeral h hrest
  | string h => exact readValue_text h
  | emptyArray h =>
    simp only [List.cons_append, List.append_assoc, List.nil_append]
    rw [readValue_bracket, skipBlank_append_cons h rfl]
    rfl
  | emptyObject h =>
    simp only [List.cons_append, List.append_assoc, List.nil_append]
    rw [readValue_brace, skipBlank_append_cons h rfl]
    rfl
  | array h =>
    simp only [List.length_cons, List.length_append, List.length_nil] at hfuel
    simp only [List.cons_append, List.append_assoc, List.nil_append]
    obtain ⟨c, hhead, hc⟩ := h.head_skipBlank (']' :: rest)
    rw [readValue_bracket, hhead, if_neg fun heq => hc.not_blank.2 (Option.some_inj.mp heq)]
    exact hitems [] rest h (by omega)
  | object h =>
    simp only [List.length_cons, List.length_append, List.length_nil] at hfuel
    simp only [List.cons_append, List.append_assoc, List.nil_append]
    rw [readValue_brace, h.head_skipBlank, if_neg (by decide)]
    exact hmembers [] rest h (by omega)

theorem readsItems_succ (hvalues : ReadsValues fuel) (hitems : ReadsItems fuel) :
    ReadsItems (fuel + 1) := by
  intro cs items before rest h hfuel
  cases h with
  | last h =>
    obtain ⟨after, hafter, hread⟩ := hvalues.element h (by omega)
      (endsNumeral_of_endsValue (c := ']') (.inr (by decide)) rest)
    exact readItems_last hread before (skipBlank_append_cons hafter rfl rest)
  | @next cs ds item items h hrest =>
    simp only [List.length_append, List.length_cons] at hfuel
    simp only [List.append_assoc, List.cons_append]
    obtain ⟨after, hafter, hread⟩ := hvalues.element h (by omega)
      (endsNumeral_of_endsValue (c := ',') (.inr (by decide)) (ds ++ ']' :: rest))
    rw [readItems_next hread before (skipBlank_append_cons hafter rfl _),
      hitems (item :: before) rest hrest (by omega), List.reverse_cons, List.append_assoc]
    rfl

theorem readsMembers_succ (hvalues : ReadsValues fuel) (hmembers : ReadsMembers fuel) :
    ReadsMembers (fuel + 1) := by
  intro cs members before rest h hfuel
  cases h with
  | last h =>
    obtain ⟨hbefore, hkey, hbetween, h⟩ := h
    simp only [List.length_append, List.length_cons] at hfuel
    simp only [List.append_assoc, List.cons_append]
    obtain ⟨after, hafter, hread⟩ := hvalues.element h (by omega)
      (endsNumeral_of_endsValue (c := '\x7d') (.inr (by decide)) rest)
    exact readMembers_last hbefore hkey hbetween hread before (skipBlank_append_cons hafter rfl rest)
  | @next cs ds member members h hrest =>
    obtain ⟨hbefore, hkey, hbetween, h⟩ := h
    simp only [List.length_append, List.length_cons] at hfuel
    simp only [List.append_assoc, List.cons_append]
    obtain ⟨after, hafter, hread⟩ := hvalues.element h (by omega)
      (endsNumeral_of_endsValue (c := ',') (.inr (by decide)) (ds ++ '\x7d' :: rest))
    rw [readMembers_next hbefore hkey hbetween hread before (skipBlank_append_cons hafter rfl _),
      hmembers _ rest hrest (by omega), List.reverse_cons, List.append_assoc]
    rfl

end Fuel

/-- The induction is on the fuel, for a value, the items of an array and the members of an object at
once: each reader hands one unit less to the next. -/
theorem reads (fuel : ℕ) : ReadsValues fuel ∧ ReadsItems fuel ∧ ReadsMembers fuel := by
  induction fuel with
  | zero =>
    refine ⟨fun h hfuel _ => ?_, fun _ _ _ hfuel => absurd hfuel (Nat.not_lt_zero _),
      fun _ _ _ hfuel => absurd hfuel (Nat.not_lt_zero _)⟩
    obtain ⟨c, cs', rfl, -⟩ := h.begins
    rw [List.length_cons] at hfuel
    omega
  | succ fuel ih =>
    obtain ⟨hvalues, hitems, hmembers⟩ := ih
    exact ⟨readsValues_succ hitems hmembers, readsItems_succ hvalues hitems,
      readsMembers_succ hvalues hmembers⟩

/-- Two units of fuel for every character are enough, so a text of the grammar is read. -/
theorem parse?_of_spells {text : String} {j : Json} (h : Spells text j) : parse? text = some j := by
  have hvalues : ReadsValues (2 * text.toList.length + 2) := (reads _).1
  have hend : EndsNumeral [] := fun _ hc => by cases hc
  obtain ⟨after, hafter, hread⟩ := hvalues.element h (Nat.le_add_right _ _) hend
  have hskip : skipBlank (after ++ []) = [] := skipBlank_append hafter []
  rw [List.append_nil] at hread
  unfold parse?
  dsimp only
  rw [hread]
  dsimp only
  rw [hskip]
  rfl

end Autopilot.Json
