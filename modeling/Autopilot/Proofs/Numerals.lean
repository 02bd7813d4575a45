import Autopilot.Decimal.Scaled
import Autopilot.Json.Reader
import Mathlib.Tactic

/-!
# Numerals and their digits

`Nat.toDigits` and `digitsValue` are inverse to each other (`digitsValue_toDigits`), and a list of
digits is the number that stands before its last digits and the number of these (`digitsValue_append`).

A numeral is well formed if it can stand in a file: at least one digit on each side of a point, and no
zero in front of other digits (`Numeral.WellFormed`).  The reader of files gives a well-formed numeral
back whatever follows it, as long as this could not belong to the numeral itself
(`readNumeral_append`), in any of the ways in which its exponent can be spelt (`SpellsNumeral`).
-/

namespace Autopilot

/-! ### Digits -/

/-- All characters are digits, and there is one at least. -/
structure AreDigits (cs : List Char) : Prop where
  ne_nil : cs ≠ []
  isDigit : ∀ c ∈ cs, c.isDigit = true

theorem digitChar_ne_zero : ∀ d < 10, d ≠ 0 → Nat.digitChar d ≠ '0' := by decide

theorem foldl_digits (cs : List Char) (before : ℕ) :
    cs.foldl (fun value digit => 10 * value + (digit.toNat - '0'.toNat)) before =
      before * 10 ^ cs.length + digitsValue cs := by
  induction cs generalizing before with
  | nil => exact (Nat.mul_one before).symm
  | cons c cs ih =>
    unfold digitsValue
    rw [List.foldl_cons, List.foldl_cons, ih, ih, List.length_cons, pow_succ]
    ring

theorem digitsValue_append (cs ds : List Char) :
    digitsValue (cs ++ ds) = digitsValue cs * 10 ^ ds.length + digitsValue ds := by
  rw [← foldl_digits]
  exact List.foldl_append

theorem digitsValue_zeros (count : ℕ) : digitsValue (Layout.zeros count) = 0 := by
  induction count with
  | zero => rfl
  | succ count ih =>
    change digitsValue (['0'] ++ Layout.zeros count) = 0
    rw [digitsValue_append, ih]
    exact Nat.zero_mul _

theorem digitsValue_toDigits (n : ℕ) : digitsValue (Nat.toDigits 10 n) = n := by
  induction n using Nat.strong_induction_on with
  | _ n ih =>
    have hsingle : ∀ d < 10, digitsValue [Nat.digitChar d] = d := by decide
    by_cases hn : n < 10
    · rw [Nat.toDigits_of_lt_base hn, hsingle n hn]
    · rw [Nat.toDigits_of_base_le (by decide) (by omega), digitsValue_append,
        ih (n / 10) (by omega), hsingle (n % 10) (by omega)]
      exact Nat.div_add_mod' n 10

theorem areDigits_toDigits (n : ℕ) : AreDigits (Nat.toDigits 10 n) :=
  ⟨Nat.toDigits_ne_nil, fun _ hc => Nat.isDigit_of_mem_toDigits (by decide) (by decide) hc⟩

theorem areDigits_zero : AreDigits ['0'] := by
  refine ⟨List.cons_ne_nil _ _, fun c hc => ?_⟩
  rw [List.mem_singleton.mp hc]
  rfl

theorem lt_pow_length (n : ℕ) : n < 10 ^ (Nat.toDigits 10 n).length :=
  (Nat.length_toDigits_le_iff (by decide) Nat.length_toDigits_pos).mp le_rfl

theorem pow_length_le {n : ℕ} (hn : 0 < n) : 10 ^ ((Nat.toDigits 10 n).length - 1) ≤ n := by
  by_contra hlt
  have hpos : 0 < (Nat.toDigits 10 n).length - 1 := by
    refine Nat.pos_of_ne_zero fun hzero => hlt ?_
    rw [hzero]
    exact hn
  have hle := (Nat.length_toDigits_le_iff (by decide) hpos).mpr (not_le.mp hlt)
  omega

/-- A number that is not zero does not begin with a zero. -/
theorem head_toDigits_ne_zero {n : ℕ} (hn : n ≠ 0) : (Nat.toDigits 10 n).head? ≠ some '0' := by
  induction n using Nat.strong_induction_on with
  | _ n ih =>
    by_cases hlt : n < 10
    · rw [Nat.toDigits_of_lt_base hlt, List.head?_cons, ne_eq, Option.some_inj]
      exact digitChar_ne_zero n hlt hn
    · rw [Nat.toDigits_of_base_le (by decide) (by omega),
        List.head?_append_of_ne_nil _ Nat.toDigits_ne_nil]
      exact ih (n / 10) (by omega) (by omega)

/-! ### Well-formed numerals -/

/-- The digits before a point: a zero alone, or digits that do not begin with zero. -/
def IsWhole (cs : List Char) : Prop :=
  cs = ['0'] ∨ AreDigits cs ∧ cs.head? ≠ some '0'

/-- A sign is not the first of some digits. -/
theorem IsWhole.append_ne_minus {cs : List Char} (h : IsWhole cs) (rest rest' : List Char) :
    cs ++ rest ≠ '-' :: rest' := by
  rcases h with rfl | ⟨hdigits, -⟩
  · rw [List.singleton_append, ne_eq, List.cons_eq_cons]
    exact fun heq => absurd heq.1 (by decide)
  · cases cs with
    | nil => exact absurd rfl hdigits.ne_nil
    | cons c cs =>
      rw [List.cons_append, ne_eq, List.cons_eq_cons]
      rintro ⟨rfl, -⟩
      exact absurd (hdigits.isDigit _ List.mem_cons_self) (by decide)

/-- The point and the digits after it. -/
def Numeral.fractionText : Option (List Char) → List Char
  | some digits => '.' :: digits
  | none => []

/-- The numeral can stand in a file. -/
structure Numeral.WellFormed (n : Numeral) : Prop where
  whole : IsWhole n.whole
  fraction : ∀ digits, n.fraction = some digits → AreDigits digits

theorem isWhole_toDigits (n : ℕ) : IsWhole (Nat.toDigits 10 n) := by
  by_cases hn : n = 0
  · subst hn
    exact .inl (Nat.toDigits_zero 10)
  · exact .inr ⟨areDigits_toDigits n, head_toDigits_ne_zero hn⟩

theorem Numeral.wellFormed_ofInt (n : ℤ) : (Numeral.ofInt n).WellFormed :=
  ⟨isWhole_toDigits _, fun _ h => by cases h⟩

theorem Numeral.toInt?_ofInt (n : ℤ) : (Numeral.ofInt n).toInt? = some n := by
  change (if decide (n < 0) = true then _ else _) = some n
  rw [show (ofInt n).whole = Nat.toDigits 10 n.natAbs from rfl, digitsValue_toDigits]
  by_cases hn : n < 0
  · rw [if_pos (decide_eq_true hn), if_neg (by omega)]
    congr 1
    omega
  · rw [if_neg (by simpa using hn)]
    congr 1
    omega

/-! ### The grammar of numerals -/

namespace Json

/-- The characters are an exponent: a mark, a sign that may be missing, and digits, which may begin
with zeros.  No characters at all are none. -/
inductive SpellsExponent : List Char → Option ℤ → Prop where
  | none : SpellsExponent [] none
  | some {mark : Char} {sign digits : List Char} (hmark : mark = 'e' ∨ mark = 'E')
    (hsign : sign = [] ∨ sign = ['+'] ∨ sign = ['-']) (hdigits : AreDigits digits) :
    SpellsExponent (mark :: (sign ++ digits))
      (some (if sign = ['-'] then -(digitsValue digits : ℤ) else digitsValue digits))

/-- The characters are this numeral. -/
def SpellsNumeral (cs : List Char) (n : Numeral) : Prop :=
  n.WellFormed ∧ ∃ exponent, SpellsExponent exponent n.exponent ∧
    cs = (if n.negative then ['-'] else []) ++ n.whole ++ Numeral.fractionText n.fraction ++ exponent

theorem spellsExponent_exponentText (exponent : Option ℤ) :
    SpellsExponent (Numeral.exponentText exponent) exponent := by
  cases exponent with
  | none => exact .none
  | some n =>
    have hspells := @SpellsExponent.some 'e' [if n < 0 then '-' else '+'] (Nat.toDigits 10 n.natAbs)
      (.inl rfl) (by split_ifs <;> decide) (areDigits_toDigits _)
    have hvalue : (if [if n < 0 then '-' else '+'] = ['-'] then
        -(digitsValue (Nat.toDigits 10 n.natAbs) : ℤ) else digitsValue (Nat.toDigits 10 n.natAbs)) =
          n := by
      rw [digitsValue_toDigits]
      split_ifs with hn
      · omega
      · rename_i hsign
        exact absurd rfl hsign
      · rename_i hsign
        exact absurd hsign (by decide)
      · omega
    rw [hvalue] at hspells
    exact hspells

/-- What is written of a numeral is this numeral. -/
theorem spellsNumeral_chars {n : Numeral} (h : n.WellFormed) : SpellsNumeral n.chars n := by
  refine ⟨h, _, spellsExponent_exponentText n.exponent, ?_⟩
  unfold Numeral.chars
  cases n.fraction <;> rfl

end Json

/-! ### Reading digits -/

namespace Json

variable {cs rest : List Char}

/-- What follows does not go on with a digit. -/
def EndsDigits (rest : List Char) : Prop :=
  ∀ c ∈ rest.head?, c.isDigit = false

/-- What follows does not go on with anything that could belong to a numeral. -/
def EndsNumeral (rest : List Char) : Prop :=
  ∀ c ∈ rest.head?, c.isDigit = false ∧ c ≠ '.' ∧ c ≠ 'e' ∧ c ≠ 'E'

theorem EndsNumeral.endsDigits (h : EndsNumeral rest) : EndsDigits rest :=
  fun c hc => (h c hc).1

theorem takeWhile_isDigit (h : ∀ c ∈ cs, c.isDigit = true) (hrest : EndsDigits rest) :
    (cs ++ rest).takeWhile Char.isDigit = cs ∧ (cs ++ rest).dropWhile Char.isDigit = rest := by
  rw [List.takeWhile_append_of_pos h, List.dropWhile_append_of_pos h]
  cases rest with
  | nil => exact ⟨List.append_nil cs, rfl⟩
  | cons c rest =>
    have hc : ¬ c.isDigit = true := by
      rw [hrest c rfl]
      exact Bool.false_ne_true
    rw [List.takeWhile_cons_of_neg hc, List.dropWhile_cons_of_neg hc, List.append_nil]
    exact ⟨rfl, rfl⟩

theorem readDigits_append (h : AreDigits cs) (hrest : EndsDigits rest) :
    readDigits (cs ++ rest) = some (cs, rest) := by
  obtain ⟨htake, hdrop⟩ := takeWhile_isDigit h.isDigit hrest
  unfold readDigits
  rw [htake, hdrop]
  cases cs with
  | nil => exact absurd rfl h.ne_nil
  | cons => rfl

theorem readWhole_append (h : IsWhole cs) (hrest : EndsDigits rest) :
    readWhole (cs ++ rest) = some (cs, rest) := by
  rcases h with rfl | ⟨hdigits, hhead⟩
  · rfl
  · have hread := readDigits_append hdigits hrest
    cases cs with
    | nil => exact absurd rfl hdigits.ne_nil
    | cons c cs =>
      have hc : c ≠ '0' := fun heq => hhead (by rw [heq]; rfl)
      rw [List.cons_append] at hread ⊢
      unfold readWhole
      split
      · rename_i heq
        exact absurd (List.cons.inj heq).1 hc
      · exact hread

theorem readFraction_append {fraction : Option (List Char)}
    (h : ∀ digits, fraction = some digits → AreDigits digits) (hrest : EndsDigits rest)
    (hpoint : ∀ c ∈ rest.head?, c ≠ '.') :
    readFraction (Numeral.fractionText fraction ++ rest) = some (fraction, rest) := by
  cases fraction with
  | some digits =>
    change readFraction ('.' :: (digits ++ rest)) = _
    rw [readFraction, readDigits_append (h digits rfl) hrest]
    rfl
  | none =>
    change readFraction rest = _
    unfold readFraction
    split
    · exact absurd rfl (hpoint '.' rfl)
    · rfl

/-- The sign of an exponent, which may be missing. -/
theorem readSign_append {sign digits : List Char} (hsign : sign = [] ∨ sign = ['+'] ∨ sign = ['-'])
    (hdigits : AreDigits digits) (rest : List Char) :
    readSign (sign ++ (digits ++ rest)) = (decide (sign = ['-']), digits ++ rest) := by
  rcases hsign with rfl | rfl | rfl
  · cases digits with
    | nil => exact absurd rfl hdigits.ne_nil
    | cons c digits =>
      have hc := hdigits.isDigit c List.mem_cons_self
      rw [List.nil_append, List.cons_append]
      unfold readSign
      split
      · rename_i heq
        obtain ⟨rfl, -⟩ := List.cons.inj heq
        exact absurd hc (by decide)
      · rename_i heq
        obtain ⟨rfl, -⟩ := List.cons.inj heq
        exact absurd hc (by decide)
      · rfl
  · rfl
  · rfl

theorem readExponent_append {exponent : Option ℤ} (h : SpellsExponent cs exponent)
    (hrest : EndsNumeral rest) : readExponent (cs ++ rest) = some (exponent, rest) := by
  cases h with
  | none =>
    cases rest with
    | nil => rfl
    | cons c rest =>
      obtain ⟨-, -, hlower, hupper⟩ := hrest c rfl
      change (if c == 'e' || c == 'E' then _ else _) = _
      rw [if_neg]
      simp [hlower, hupper]
  | @some mark sign digits hmark hsign hdigits =>
    have hmark' : (mark == 'e' || mark == 'E') = true := by
      rcases hmark with rfl | rfl <;> rfl
    rw [List.cons_append, List.append_assoc, readExponent, if_pos hmark',
      readSign_append hsign hdigits]
    dsimp only
    rw [readDigits_append hdigits hrest.endsDigits]
    simp

/-- An exponent, or what follows a numeral without one, goes on with neither a digit nor a point. -/
theorem SpellsExponent.head {exponent : Option ℤ} (h : SpellsExponent cs exponent)
    (hrest : EndsNumeral rest) : ∀ c ∈ (cs ++ rest).head?, c.isDigit = false ∧ c ≠ '.' := by
  intro c hc
  cases h with
  | none => exact ⟨(hrest c hc).1, (hrest c hc).2.1⟩
  | some hmark =>
    obtain rfl := Option.some_inj.mp hc
    rcases hmark with rfl | rfl <;> decide

/-- Whatever follows a numeral, its parts come apart: no character behind one of them belongs to
it. -/
theorem readNumeral_append {n : Numeral} (h : SpellsNumeral cs n) (hrest : EndsNumeral rest) :
    readNumeral (cs ++ rest) = some (n, rest) := by
  obtain ⟨hform, exponent, hexponent, rfl⟩ := h
  have hmark := hexponent.head hrest
  have hpoint : EndsDigits (Numeral.fractionText n.fraction ++ (exponent ++ rest)) := by
    intro c hc
    cases hfraction : n.fraction with
    | none =>
      rw [hfraction] at hc
      exact (hmark c hc).1
    | some digits =>
      rw [hfraction] at hc
      obtain rfl := Option.some_inj.mp hc
      decide
  have hread : ((readWhole (n.whole ++ (Numeral.fractionText n.fraction ++ (exponent ++ rest)))).bind
        fun whole => (readFraction whole.2).bind fun fraction => (readExponent fraction.2).bind
          fun exponent =>
            some ((⟨n.negative, whole.1, fraction.1, exponent.1⟩ : Numeral), exponent.2)) =
              some (n, rest) := by
    rw [readWhole_append hform.whole hpoint, Option.bind_some]
    dsimp only
    rw [readFraction_append hform.fraction (fun c hc => (hmark c hc).1) fun c hc => (hmark c hc).2,
      Option.bind_some]
    dsimp only
    rw [readExponent_append hexponent hrest]
    rfl
  simp only [List.append_assoc]
  unfold readNumeral
  cases hnegative : n.negative with
  | true =>
    rw [hnegative] at hread
    exact hread
  | false =>
    rw [hnegative] at hread
    rw [if_neg Bool.false_ne_true, List.nil_append]
    split
    rename_i negative cs hsign
    split at hsign
    · rename_i heq
      exact absurd heq (hform.whole.append_ne_minus _ _)
    · obtain ⟨rfl, rfl⟩ := Prod.mk.inj hsign
      exact hread

end Json

end Autopilot
