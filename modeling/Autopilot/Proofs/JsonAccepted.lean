import Autopilot.Proofs.JsonGrammar

/-!
# What the reader of JSON accepts

Whatever the reader accepts is in the grammar: each part of it takes characters that spell what it
gives, and leaves the rest.  With `parse?_of_spells` the texts that are read are exactly those of
the grammar, and each of them holds one value (`parse?_eq_some_iff`).
-/

namespace Autopilot.Json

variable {cs rest : List Char}

/-! ### Numerals -/

theorem areDigits_takeWhile (hne : cs.takeWhile Char.isDigit ≠ []) :
    AreDigits (cs.takeWhile Char.isDigit) :=
  ⟨hne, fun _ hc => List.mem_takeWhile_imp hc⟩

theorem of_readDigits {digits : List Char} (h : readDigits cs = some (digits, rest)) :
    AreDigits digits ∧ cs = digits ++ rest := by
  unfold readDigits at h
  split at h
  · cases h
  · rename_i hne
    obtain ⟨rfl, rfl⟩ := Prod.mk.inj (Option.some_inj.mp h)
    exact ⟨areDigits_takeWhile hne, List.takeWhile_append_dropWhile.symm⟩

theorem of_readWhole {whole : List Char} (h : readWhole cs = some (whole, rest)) :
    IsWhole whole ∧ cs = whole ++ rest := by
  unfold readWhole at h
  split at h
  · obtain ⟨rfl, rfl⟩ := Prod.mk.inj (Option.some_inj.mp h)
    exact ⟨.inl rfl, rfl⟩
  · rename_i hzero
    obtain ⟨hdigits, rfl⟩ := of_readDigits h
    refine ⟨.inr ⟨hdigits, fun hhead => ?_⟩, rfl⟩
    obtain ⟨digits, rfl⟩ := List.head?_eq_some_iff.mp hhead
    exact hzero _ rfl

theorem of_readFraction {fraction : Option (List Char)}
    (h : readFraction cs = some (fraction, rest)) :
    (∀ digits, fraction = some digits → AreDigits digits) ∧
      cs = Numeral.fractionText fraction ++ rest := by
  unfold readFraction at h
  split at h
  · simp only [Option.bind_eq_bind, Option.bind_eq_some_iff, Option.pure_def, Option.some_inj,
      Prod.mk.injEq] at h
    obtain ⟨⟨digits, after⟩, hread, rfl, rfl⟩ := h
    obtain ⟨hdigits, rfl⟩ := of_readDigits hread
    exact ⟨fun _ heq => Option.some_inj.mp heq ▸ hdigits, rfl⟩
  · obtain ⟨rfl, rfl⟩ := Prod.mk.inj (Option.some_inj.mp h)
    exact ⟨nofun, rfl⟩

theorem exists_sign (cs : List Char) : ∃ sign, (sign = [] ∨ sign = ['+'] ∨ sign = ['-']) ∧
    (readSign cs).1 = decide (sign = ['-']) ∧ cs = sign ++ (readSign cs).2 := by
  unfold readSign
  split
  · exact ⟨['-'], by decide, rfl, rfl⟩
  · exact ⟨['+'], by decide, rfl, rfl⟩
  · exact ⟨[], by decide, rfl, rfl⟩

theorem of_readExponent {exponent : Option ℤ} (h : readExponent cs = some (exponent, rest)) :
    ∃ ds, SpellsExponent ds exponent ∧ cs = ds ++ rest := by
  unfold readExponent at h
  split at h
  · obtain ⟨rfl, rfl⟩ := Prod.mk.inj (Option.some_inj.mp h)
    exact ⟨[], .none, rfl⟩
  · rename_i c after
    split_ifs at h with hmark
    · obtain ⟨sign, hsign, hnegative, hafter⟩ := exists_sign after
      simp only [Option.bind_eq_bind, Option.bind_eq_some_iff, Option.pure_def, Option.some_inj,
        Prod.mk.injEq] at h
      obtain ⟨⟨digits, after'⟩, hread, rfl, rfl⟩ := h
      obtain ⟨hdigits, hrest⟩ := of_readDigits hread
      rw [hrest] at hafter
      refine ⟨c :: (sign ++ digits), ?_, ?_⟩
      · rw [hnegative]
        have hmark' : c = 'e' ∨ c = 'E' := by simpa using hmark
        simpa only [decide_eq_true_eq] using SpellsExponent.some hmark' hsign hdigits
      · rw [hafter, List.cons_append, List.append_assoc]
    · obtain ⟨rfl, rfl⟩ := Prod.mk.inj (Option.some_inj.mp h)
      exact ⟨[], .none, rfl⟩

theorem of_readNumeral {n : Numeral} (h : readNumeral cs = some (n, rest)) :
    ∃ ds, SpellsNumeral ds n ∧ cs = ds ++ rest := by
  unfold readNumeral at h
  split at h
  rename_i negative after hsign
  have hcs : cs = (if negative then ['-'] else []) ++ after := by
    split at hsign
    · obtain ⟨rfl, rfl⟩ := Prod.mk.inj hsign
      rfl
    · obtain ⟨rfl, rfl⟩ := Prod.mk.inj hsign
      rfl
  simp only [Option.bind_eq_bind, Option.bind_eq_some_iff, Option.pure_def, Option.some_inj,
    Prod.mk.injEq] at h
  obtain ⟨⟨whole, _⟩, hread, ⟨fraction, _⟩, hread', ⟨exponent, _⟩, hread'', rfl, rfl⟩ := h
  obtain ⟨hwhole, rfl⟩ := of_readWhole hread
  obtain ⟨hfraction, rfl⟩ := of_readFraction hread'
  obtain ⟨ds, hexponent, rfl⟩ := of_readExponent hread''
  refine ⟨_, ⟨⟨hwhole, hfraction⟩, ds, hexponent, rfl⟩, ?_⟩
  simp only [hcs, List.append_assoc]

/-! ### Strings -/

theorem of_readCodes {codes : List ℕ} (h : readCodes cs = some (codes, rest)) :
    ∃ body, SpellsCodes body codes ∧ cs = body ++ '"' :: rest := by
  fun_induction readCodes cs generalizing codes with
  | case1 => cases h
  | case2 after =>
    obtain ⟨rfl, rfl⟩ := Prod.mk.inj (Option.some_inj.mp h)
    exact ⟨[], .nil, rfl⟩
  | case3 a b c d after ih =>
    simp only [Option.bind_eq_bind, Option.bind_eq_some_iff, Option.pure_def, Option.some_inj,
      Prod.mk.injEq] at h
    obtain ⟨code, hcode, ⟨codes', rest'⟩, hread, rfl, rfl⟩ := h
    obtain ⟨body, hbody, rfl⟩ := ih hread
    exact ⟨_, .unicode hcode hbody, rfl⟩
  | case4 c after hother ih =>
    simp only [Option.bind_eq_bind, Option.bind_eq_some_iff, Option.pure_def, Option.some_inj,
      Prod.mk.injEq] at h
    obtain ⟨char, hchar, ⟨codes', rest'⟩, hread, rfl, rfl⟩ := h
    obtain ⟨body, hbody, rfl⟩ := ih hread
    exact ⟨_, .escape hchar hbody, rfl⟩
  | case5 => cases h
  | case6 c after hquote hunicode hslash hcontrol ih =>
    simp only [Option.bind_eq_bind, Option.bind_eq_some_iff, Option.pure_def, Option.some_inj,
      Prod.mk.injEq] at h
    obtain ⟨⟨codes', rest'⟩, hread, rfl, rfl⟩ := h
    obtain ⟨body, hbody, rfl⟩ := ih hread
    -- A backslash at the very end is not passed over, for no quote comes after it.
    have hslash' : c ≠ '\\' := by
      intro heq
      obtain ⟨c', after', hafter⟩ := List.exists_cons_of_ne_nil
        (List.append_ne_nil_of_right_ne_nil body (List.cons_ne_nil '"' rest'))
      exact hslash c' after' heq hafter
    exact ⟨_, .plain hquote hslash' hcontrol hbody, rfl⟩

theorem of_readText {text : Text} (h : readText cs = some (text, rest)) :
    ∃ ds, SpellsText ('"' :: ds) text ∧ cs = ds ++ rest := by
  unfold readText at h
  simp only [Option.bind_eq_bind, Option.bind_eq_some_iff, Option.pure_def, Option.some_inj,
    Prod.mk.injEq] at h
  obtain ⟨⟨codes, _⟩, hread, rfl, rfl⟩ := h
  obtain ⟨body, hbody, rfl⟩ := of_readCodes hread
  exact ⟨body ++ ['"'], ⟨body, codes, rfl, hbody, rfl⟩, by simp⟩

/-! ### Values -/

theorem exists_blanks (cs : List Char) : ∃ blanks, Blank blanks ∧ cs = blanks ++ skipBlank cs :=
  ⟨cs.takeWhile isBlank, fun _ hc => List.mem_takeWhile_imp hc,
    List.takeWhile_append_dropWhile.symm⟩

section Fuel

variable (fuel : ℕ)

/-- With this fuel, every value that is read is spelt by characters behind white space. -/
def AcceptsValues : Prop :=
  ∀ {cs rest : List Char} {j : Json}, readValue fuel cs = some (j, rest) →
    ∃ before ds, Blank before ∧ SpellsValue ds j ∧ cs = before ++ (ds ++ rest)

/-- With this fuel, all items that are read are spelt up to the closing bracket. -/
def AcceptsItems : Prop :=
  ∀ {cs rest : List Char} {before : List Json} {j : Json},
    readItems fuel cs before = some (j, rest) →
      ∃ ds items, SpellsItems ds items ∧ j = .array (before.reverse ++ items) ∧
        cs = ds ++ ']' :: rest

/-- With this fuel, all members that are read are spelt up to the closing brace. -/
def AcceptsMembers : Prop :=
  ∀ {cs rest : List Char} {before : List (Text × Json)} {j : Json},
    readMembers fuel cs before = some (j, rest) →
      ∃ ds members, SpellsMembers ds members ∧ j = .object (before.reverse ++ members) ∧
        cs = ds ++ '\x7d' :: rest

variable {fuel}

theorem acceptsValues_succ (hitems : AcceptsItems fuel) (hmembers : AcceptsMembers fuel) :
    AcceptsValues (fuel + 1) := by
  intro cs rest j h
  obtain ⟨blanks, hblanks, hcs⟩ := exists_blanks cs
  rw [readValue] at h
  suffices hspells : ∃ ds, SpellsValue ds j ∧ skipBlank cs = ds ++ rest by
    obtain ⟨ds, hvalue, hskip⟩ := hspells
    exact ⟨blanks, ds, hblanks, hvalue, hskip ▸ hcs⟩
  split at h
  case h_1 hskip =>
    obtain ⟨rfl, rfl⟩ := Prod.mk.inj (Option.some_inj.mp h)
    exact ⟨_, .null, hskip⟩
  case h_2 hskip =>
    obtain ⟨rfl, rfl⟩ := Prod.mk.inj (Option.some_inj.mp h)
    exact ⟨_, .yes, hskip⟩
  case h_3 hskip =>
    obtain ⟨rfl, rfl⟩ := Prod.mk.inj (Option.some_inj.mp h)
    exact ⟨_, .no, hskip⟩
  case h_4 after hskip =>
    simp only [Option.bind_eq_bind, Option.bind_eq_some_iff, Option.pure_def, Option.some_inj,
      Prod.mk.injEq] at h
    obtain ⟨⟨text, _⟩, hread, rfl, rfl⟩ := h
    obtain ⟨ds, htext, rfl⟩ := of_readText hread
    exact ⟨_, .string htext, hskip⟩
  case h_5 after hskip =>
    obtain ⟨blanks', hblanks', hafter⟩ := exists_blanks after
    split at h
    · rename_i hclose
      obtain ⟨rfl, rfl⟩ := Prod.mk.inj (Option.some_inj.mp h)
      refine ⟨_, .emptyArray hblanks', ?_⟩
      rw [hskip, hafter, hclose]
      simp
    · rw [readItems_skipBlank] at h
      obtain ⟨ds, items, hspells, rfl, rfl⟩ := hitems h
      refine ⟨_, .array hspells, ?_⟩
      rw [hskip]
      simp
  case h_6 after hskip =>
    obtain ⟨blanks', hblanks', hafter⟩ := exists_blanks after
    split at h
    · rename_i hclose
      obtain ⟨rfl, rfl⟩ := Prod.mk.inj (Option.some_inj.mp h)
      refine ⟨_, .emptyObject hblanks', ?_⟩
      rw [hskip, hafter, hclose]
      simp
    · rw [readMembers_skipBlank] at h
      obtain ⟨ds, members, hspells, rfl, rfl⟩ := hmembers h
      refine ⟨_, .object hspells, ?_⟩
      rw [hskip]
      simp
  case h_7 =>
    simp only [Option.bind_eq_bind, Option.bind_eq_some_iff, Option.pure_def, Option.some_inj,
      Prod.mk.injEq] at h
    obtain ⟨⟨n, _⟩, hread, rfl, rfl⟩ := h
    obtain ⟨ds, hnumeral, hskip⟩ := of_readNumeral hread
    exact ⟨ds, .number hnumeral, hskip⟩

theorem acceptsItems_succ (hvalues : AcceptsValues fuel) (hitems : AcceptsItems fuel) :
    AcceptsItems (fuel + 1) := by
  intro cs rest before j h
  rw [readItems] at h
  split at h
  · cases h
  · rename_i item after hread
    obtain ⟨blanks, ds, hblanks, hvalue, rfl⟩ := hvalues hread
    obtain ⟨blanks', hblanks', hafter⟩ := exists_blanks after
    have helement := SpellsElement.intro hblanks hvalue hblanks'
    split at h
    · rename_i hskip
      obtain ⟨ds', items, hspells, rfl, rfl⟩ := hitems h
      refine ⟨_, item :: items, .next helement hspells, by simp, ?_⟩
      rw [hafter, hskip]
      simp
    · rename_i hskip
      obtain ⟨rfl, rfl⟩ := Prod.mk.inj (Option.some_inj.mp h)
      refine ⟨_, [item], .last helement, by simp, ?_⟩
      rw [hafter, hskip]
      simp
    · cases h

theorem acceptsMembers_succ (hvalues : AcceptsValues fuel) (hmembers : AcceptsMembers fuel) :
    AcceptsMembers (fuel + 1) := by
  intro cs rest before j h
  obtain ⟨blanks, hblanks, hcs⟩ := exists_blanks cs
  rw [readMembers] at h
  split at h
  · rename_i start hquote
    split at h
    · cases h
    · rename_i key after hkey
      obtain ⟨ks, htext, rfl⟩ := of_readText hkey
      obtain ⟨blanks₁, hblanks₁, hafter⟩ := exists_blanks after
      split at h
      · rename_i behind hcolon
        split at h
        · cases h
        · rename_i value tail hread
          obtain ⟨blanks₂, ds, hblanks₂, hvalue, rfl⟩ := hvalues hread
          obtain ⟨blanks₃, hblanks₃, htail⟩ := exists_blanks tail
          have hmember := SpellsMember.intro hblanks htext hblanks₁
            (.intro hblanks₂ hvalue hblanks₃)
          split at h
          · rename_i hskip
            obtain ⟨ds', members, hspells, rfl, rfl⟩ := hmembers h
            refine ⟨_, (key, value) :: members, .next hmember hspells, by simp, ?_⟩
            rw [hcs, hquote, hafter, hcolon, htail, hskip]
            simp
          · rename_i hskip
            obtain ⟨rfl, rfl⟩ := Prod.mk.inj (Option.some_inj.mp h)
            refine ⟨_, [(key, value)], .last hmember, by simp, ?_⟩
            rw [hcs, hquote, hafter, hcolon, htail, hskip]
            simp
          · cases h
      · cases h
  · cases h

end Fuel

/-- The induction is on the fuel, as in `reads`. -/
theorem accepts (fuel : ℕ) : AcceptsValues fuel ∧ AcceptsItems fuel ∧ AcceptsMembers fuel := by
  induction fuel with
  | zero =>
    refine ⟨fun h => ?_, fun h => ?_, fun h => ?_⟩
    · rw [readValue] at h
      cases h
    · rw [readItems] at h
      cases h
    · rw [readMembers] at h
      cases h
  | succ fuel ih =>
    obtain ⟨hvalues, hitems, hmembers⟩ := ih
    exact ⟨acceptsValues_succ hitems hmembers, acceptsItems_succ hvalues hitems,
      acceptsMembers_succ hvalues hmembers⟩

/-- The reader reads the texts of the grammar and no others. -/
theorem parse?_eq_some_iff {text : String} {j : Json} : parse? text = some j ↔ Spells text j := by
  refine ⟨fun h => ?_, parse?_of_spells⟩
  unfold parse? at h
  dsimp only at h
  split at h
  · rename_i value after hread
    split_ifs at h with hend
    obtain rfl := Option.some_inj.mp h
    have hvalues : AcceptsValues (2 * text.toList.length + 2) := (accepts _).1
    obtain ⟨before, ds, hbefore, hvalue, htext⟩ := hvalues hread
    have hafter : Blank after := by
      obtain ⟨blanks, hblanks, heq⟩ := exists_blanks after
      rw [List.isEmpty_iff.mp hend, List.append_nil] at heq
      exact heq ▸ hblanks
    unfold Spells
    rw [htext]
    exact .intro hbefore hvalue hafter
  · cases h

end Autopilot.Json
