import DriverUplift.Proofs.Json.Outline

/-!
# Texts spell one outline

The grammar is unambiguous: a value ends where skipping it ends, and which outline a
text spells can be told from the text.
-/

namespace DriverUplift.Json

section Unambiguous

variable {outline other : Outline} {text inside start rest raw : List Char}

/-! ## First characters decide -/

/-- What starts with a bracket is a list. -/
theorem Spells.of_bracket (spells : Spells outline ('[' :: inside) rest) :
    (outline = .list [] ∧ Gap inside (']' :: rest)) ∨
      ∃ item items start behind, outline = .list (item :: items) ∧ Gap inside start ∧
        Spells item start behind ∧ SpellsItems items behind rest := by
  generalize same : '[' :: inside = text at spells
  cases spells with
  | scalar scalar =>
      obtain ⟨c, more, rfl, starts⟩ := scalar.exists_cons
      exact absurd (List.cons.inj same).1.symm starts.solid.2.2.1
  | emptyList gap =>
      obtain rfl := (List.cons.inj same).2
      exact .inl ⟨rfl, gap⟩
  | list gap first more =>
      obtain rfl := (List.cons.inj same).2
      exact .inr ⟨_, _, _, _, rfl, gap, first, more⟩
  | text _ | emptyObject _ | object _ _ _ => exact absurd (List.cons.inj same).1 (by decide)

/-- What starts with a brace is an object. -/
theorem Spells.of_brace (spells : Spells outline ('\x7b' :: inside) rest) :
    (outline = .object [] ∧ Gap inside ('\x7d' :: rest)) ∨
      ∃ raw value members start behind, outline = .object ((raw, value) :: members) ∧
        Gap inside ('"' :: start) ∧ SpellsMember raw value start behind ∧
          SpellsMembers members behind rest := by
  generalize same : '\x7b' :: inside = text at spells
  cases spells with
  | scalar scalar =>
      obtain ⟨c, more, rfl, starts⟩ := scalar.exists_cons
      exact absurd (List.cons.inj same).1.symm starts.solid.2.2.2.1
  | emptyObject gap =>
      obtain rfl := (List.cons.inj same).2
      exact .inl ⟨rfl, gap⟩
  | object gap first more =>
      obtain rfl := (List.cons.inj same).2
      exact .inr ⟨_, _, _, _, _, rfl, gap, first, more⟩
  | text _ | emptyList _ | list _ _ _ => exact absurd (List.cons.inj same).1 (by decide)

/-- What starts with a quote is a text. -/
theorem Spells.of_quote (spells : Spells outline ('"' :: inside) rest) :
    ∃ raw, outline = .text raw ∧ IsRaw raw ∧ inside = raw ++ '"' :: rest := by
  generalize same : '"' :: inside = text at spells
  cases spells with
  | scalar scalar =>
      obtain ⟨c, more, rfl, starts⟩ := scalar.exists_cons
      exact absurd (List.cons.inj same).1.symm starts.solid.2.2.2.2
  | @text raw _ isRaw => exact ⟨raw, rfl, isRaw, (List.cons.inj same).2⟩
  | emptyList _ | list _ _ _ | emptyObject _ | object _ _ _ =>
      exact absurd (List.cons.inj same).1 (by decide)

/-- What starts like a scalar is one. -/
theorem Spells.of_scalar {chars behind : List Char} (scalar : IsScalar chars)
    (spells : Spells outline (chars ++ behind) rest) :
    ∃ other, outline = .scalar other ∧ chars ++ behind = other ++ rest := by
  obtain ⟨c, more, rfl, starts⟩ := scalar.exists_cons
  obtain ⟨_, _, bracket, brace, quote⟩ := starts.solid
  generalize same : c :: more ++ behind = text at spells
  cases spells with
  | @scalar other _ _ => exact ⟨other, rfl, rfl⟩
  | text _ => exact absurd (List.cons.inj same).1 quote
  | emptyList _ | list _ _ _ => exact absurd (List.cons.inj same).1 bracket
  | emptyObject _ | object _ _ _ => exact absurd (List.cons.inj same).1 brace

/-! ## Where a value ends -/

theorem Spells.rest_unique {behind : List Char} (one : Spells outline text rest)
    (two : Spells other text behind) (delimited : Delimited rest) (ends : Delimited behind) :
    rest = behind := by
  have skipped := (skipWithin_spells [] delimited one).symm.trans (skipWithin_spells [] ends two)
  rw [skipBehind_nil, skipBehind_nil] at skipped
  exact Except.ok.inj skipped

/-- A key ends at its closing quote. -/
theorem IsRaw.unique {key behind : List Char} (isRaw : IsRaw raw) (isKey : IsRaw key)
    (same : raw ++ '"' :: rest = key ++ '"' :: behind) : raw = key ∧ rest = behind := by
  have skipped := isRaw.skipText rest
  rw [same, isKey.skipText] at skipped
  obtain rfl := Except.ok.inj skipped
  exact ⟨List.append_cancel_right same, rfl⟩

/-- Behind a gap there is one place where a value can start. -/
theorem Gap.start_unique {place : List Char} (one : Gap text start) (two : Gap text place)
    (solid : skipBlanks start = start) (solidToo : skipBlanks place = place) : start = place := by
  rw [← solid, ← one.skipBlanks_eq, two.skipBlanks_eq, solidToo]

theorem Gap.cons_unique {c d : Char} {more : List Char} (one : Gap text (c :: rest))
    (two : Gap text (d :: more)) (solid : isBlank c = false) (solidToo : isBlank d = false) :
    c = d ∧ rest = more :=
  List.cons.inj (one.start_unique two (skipBlanks_of_not_blank solid rest)
    (skipBlanks_of_not_blank solidToo more))

/-- A list that is empty has no first item. -/
theorem Gap.not_item (close : Gap text (']' :: rest)) (gap : Gap text start)
    {behind : List Char} (spells : Spells outline start behind) : False := by
  obtain ⟨c, more, rfl, solid, other⟩ := spells.exists_cons
  exact other (close.cons_unique gap (by decide) solid).1.symm

end Unambiguous

/-! ## Which outline it is -/

-- The recursion goes down the first outline; a member counts a little more than its value.
mutual

theorem Spells.unique {outline other : Outline} {text rest : List Char} :
    Spells outline text rest → Spells other text rest → outline = other
  | .scalar scalar, two => by
      obtain ⟨chars, rfl, same⟩ := Spells.of_scalar scalar two
      rw [List.append_cancel_right same]
  | .text isRaw, two => by
      obtain ⟨key, rfl, isKey, same⟩ := Spells.of_quote two
      rw [(isRaw.unique isKey same).1]
  | .emptyList close, two => by
      rcases Spells.of_bracket two with ⟨rfl, _⟩ | ⟨_, _, _, _, rfl, gap, first, _⟩
      · rfl
      · exact (close.not_item gap first).elim
  | .list gap first more, two => by
      rcases Spells.of_bracket two with ⟨rfl, close⟩ | ⟨_, _, _, _, rfl, gapToo, firstToo, moreToo⟩
      · exact (close.not_item gap first).elim
      · obtain rfl := gap.start_unique gapToo first.skipBlanks_eq firstToo.skipBlanks_eq
        obtain rfl := first.rest_unique firstToo more.delimited moreToo.delimited
        rw [Spells.unique first firstToo, SpellsItems.unique more moreToo]
  | .emptyObject close, two => by
      rcases Spells.of_brace two with ⟨rfl, _⟩ | ⟨_, _, _, _, _, rfl, gap, _, _⟩
      · rfl
      · exact absurd (close.cons_unique gap (by decide) (by decide)).1 (by decide)
  | .object gap first more, two => by
      rcases Spells.of_brace two with ⟨rfl, close⟩ |
        ⟨_, _, _, _, _, rfl, gapToo, firstToo, moreToo⟩
      · exact absurd (close.cons_unique gap (by decide) (by decide)).1 (by decide)
      · obtain ⟨_, rfl⟩ := gap.cons_unique gapToo (by decide) (by decide)
        obtain ⟨rfl, rfl, rfl⟩ :=
          SpellsMember.unique more.delimited moreToo.delimited first firstToo
        rw [SpellsMembers.unique more moreToo]
termination_by sizeOf outline

theorem SpellsItems.unique {items others : List Outline} {text rest : List Char} :
    SpellsItems items text rest → SpellsItems others text rest → items = others
  | .close _, .close _ => rfl
  | .close gap, .next comma _ _ _ =>
      absurd (gap.cons_unique comma (by decide) (by decide)).1 (by decide)
  | .next comma _ _ _, .close gap =>
      absurd (gap.cons_unique comma (by decide) (by decide)).1 (by decide)
  | .next comma gap first more, .next commaToo gapToo firstToo moreToo => by
      obtain ⟨_, rfl⟩ := comma.cons_unique commaToo (by decide) (by decide)
      obtain rfl := gap.start_unique gapToo first.skipBlanks_eq firstToo.skipBlanks_eq
      obtain rfl := first.rest_unique firstToo more.delimited moreToo.delimited
      rw [Spells.unique first firstToo, SpellsItems.unique more moreToo]
termination_by sizeOf items

theorem SpellsMember.unique {raw key : List Char} {value other : Outline}
    {text rest behind : List Char} (delimited : Delimited rest) (ends : Delimited behind)
    (one : SpellsMember raw value text rest) (two : SpellsMember key other text behind) :
    raw = key ∧ value = other ∧ rest = behind := by
  cases one with
  | @member _ behindKey _ _ _ _ isRaw colon gap spells =>
      generalize same : raw ++ '"' :: behindKey = text at two
      cases two with
      | member isKey colonToo gapToo spellsToo =>
          obtain ⟨rfl, rfl⟩ := isRaw.unique isKey same
          obtain ⟨_, rfl⟩ := colon.cons_unique colonToo (by decide) (by decide)
          obtain rfl := gap.start_unique gapToo spells.skipBlanks_eq spellsToo.skipBlanks_eq
          obtain rfl := spells.rest_unique spellsToo delimited ends
          exact ⟨rfl, Spells.unique spells spellsToo, rfl⟩
termination_by sizeOf value + 1

theorem SpellsMembers.unique {members others : List (List Char × Outline)}
    {text rest : List Char} :
    SpellsMembers members text rest → SpellsMembers others text rest → members = others
  | .close _, .close _ => rfl
  | .close gap, .next comma _ _ _ =>
      absurd (gap.cons_unique comma (by decide) (by decide)).1 (by decide)
  | .next comma _ _ _, .close gap =>
      absurd (gap.cons_unique comma (by decide) (by decide)).1 (by decide)
  | .next comma gap first more, .next commaToo gapToo firstToo moreToo => by
      obtain ⟨_, rfl⟩ := comma.cons_unique commaToo (by decide) (by decide)
      obtain ⟨_, rfl⟩ := gap.cons_unique gapToo (by decide) (by decide)
      obtain ⟨rfl, rfl, rfl⟩ := SpellsMember.unique more.delimited moreToo.delimited first firstToo
      rw [SpellsMembers.unique more moreToo]
termination_by sizeOf members

end

/-- A whole text spells one outline. -/
theorem SpellsWhole.unique {outline other : Outline} {text : List Char}
    (one : SpellsWhole outline text) (two : SpellsWhole other text) : outline = other := by
  obtain ⟨start, rest, gap, spells, end_⟩ := one
  obtain ⟨place, behind, gapToo, spellsToo, endToo⟩ := two
  have delimited := end_.delimited delimited_nil
  obtain rfl := gap.start_unique gapToo spells.skipBlanks_eq spellsToo.skipBlanks_eq
  obtain rfl := spells.rest_unique spellsToo delimited (endToo.delimited delimited_nil)
  exact spells.unique spellsToo

end DriverUplift.Json
