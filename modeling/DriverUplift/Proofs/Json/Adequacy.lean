import DriverUplift.Proofs.Json.Reading
import Mathlib.Data.List.TakeWhile

/-!
# Whatever is read spells an outline

The grammar leaves nothing out: whatever is skipped spells an outline, and so does
whatever a record is read from.
-/

namespace DriverUplift.Json

/-! ## Scalars -/

section Scalars

variable {text rest : List Char}

theorem gap_skipBlanks (text : List Char) : Gap text (skipBlanks text) := by
  induction text with
  | nil => exact .none
  | cons c text ih =>
      cases blank : isBlank c with
      | false =>
          rw [skipBlanks_of_not_blank blank]
          exact .none
      | true =>
          have skipped : skipBlanks (c :: text) = skipBlanks text := by
            simp [skipBlanks, blank]
          rw [skipped]
          exact .blank blank ih

theorem eq_of_word {expected : List Char} (read : word expected text = .ok rest) :
    text = expected ++ rest := by
  induction expected generalizing text with
  | nil => exact Except.ok.inj read
  | cons c expected ih =>
      cases text with
      | nil => cases read
      | cons d text =>
          simp only [word] at read
          split at read
          · rename_i same
            rw [same, ih read, List.cons_append]
          · cases read

theorem fourDigits?_of_codeUnit {unit : Nat} (read : codeUnit text = .ok (unit, rest)) :
    fourDigits? text = some (unit, rest) := by
  unfold codeUnit at read
  split at read
  · cases read
  · split at read
    · rename_i found
      obtain ⟨rfl, rfl⟩ := Prod.mk.inj (Except.ok.inj read)
      exact found
    · cases read

/-- What is skipped behind a backslash may stand there, whatever follows. -/
theorem isRaw_of_skipEscape {raw : List Char} (read : skipEscape text = .ok rest) :
    ∃ used, text = used ++ rest ∧ (IsRaw raw → IsRaw ('\\' :: (used ++ raw))) := by
  unfold skipEscape at read
  cases text with
  | nil => cases read
  | cons c text =>
      simp only at read
      split at read
      · rename_i mark
        subst mark
        split at read
        · cases read
        · rename_i unit behind found
          obtain rfl := Except.ok.inj read
          obtain ⟨used, rfl, taken⟩ := codeUnit_takesFront found
          exact ⟨'u' :: used, rfl, .unicode (fourDigits?_of_codeUnit (taken raw))⟩
      · split at read
        · rename_i short
          obtain rfl := Except.ok.inj read
          exact ⟨[c], rfl, .short short⟩
        · cases read

theorem isRaw_of_skipText (read : skipText text = .ok rest) :
    ∃ raw, IsRaw raw ∧ text = raw ++ '"' :: rest := by
  fun_induction skipText text with
  | case1 | case3 | case5 => cases read
  | case2 text =>
      obtain rfl := Except.ok.inj read
      exact ⟨[], .nil, rfl⟩
  | case4 text behind escaped _ ih =>
      obtain ⟨raw, isRaw, rfl⟩ := ih read
      obtain ⟨used, rfl, extend⟩ := isRaw_of_skipEscape escaped
      exact ⟨'\\' :: (used ++ raw), extend isRaw, by simp⟩
  | case6 c text quote slash printable ih =>
      obtain ⟨raw, isRaw, rfl⟩ := ih read
      exact ⟨c :: raw, .plain quote slash printable isRaw, rfl⟩

theorem exists_digits (text : List Char) :
    ∃ digits, (∀ c ∈ digits, c.isDigit = true) ∧ text = digits ++ skipDigits text := by
  refine ⟨text.takeWhile Char.isDigit, fun c mem => List.mem_takeWhile_imp mem, ?_⟩
  exact (List.takeWhile_append_dropWhile ..).symm

theorem isDigits_cons {c : Char} {digits : List Char} (digit : c.isDigit = true)
    (all : ∀ d ∈ digits, d.isDigit = true) : IsDigits (c :: digits) :=
  ⟨by simp, by simpa [digit] using all⟩

theorem exists_of_skipExponent (read : skipExponent text = .ok rest) :
    ∃ sign digits, sign ∈ [[], ['+'], ['-']] ∧ IsDigits digits ∧
      text = sign ++ (digits ++ rest) := by
  unfold skipExponent at read
  extract_lets digits at read
  obtain ⟨sign, signed, same⟩ : ∃ sign, sign ∈ [[], ['+'], ['-']] ∧ text = sign ++ digits := by
    simp only [digits]
    split
    · exact ⟨['+'], by simp, rfl⟩
    · exact ⟨['-'], by simp, rfl⟩
    · exact ⟨[], by simp, rfl⟩
  clear_value digits
  subst same
  split at read
  · cases read
  · rename_i c more
    split at read
    · rename_i digit
      obtain rfl := Except.ok.inj read
      obtain ⟨others, all, same⟩ := exists_digits more
      exact ⟨sign, c :: others, signed, isDigits_cons digit all, by rw [List.cons_append, ← same]⟩
    · cases read

theorem isExponent_of_skipScale (read : skipScale text = .ok rest) :
    ∃ power, IsExponent power ∧ text = power ++ rest := by
  unfold skipScale at read
  split at read
  · obtain rfl := Except.ok.inj read
    exact ⟨[], .inl rfl, rfl⟩
  · rename_i mark more
    split at read
    · rename_i marks
      obtain ⟨sign, digits, signed, all, rfl⟩ := exists_of_skipExponent read
      refine ⟨mark :: (sign ++ digits), .inr ⟨mark, sign, digits, marks, signed, all, rfl⟩, ?_⟩
      rw [List.cons_append, List.append_assoc]
    · obtain rfl := Except.ok.inj read
      exact ⟨[], .inl rfl, rfl⟩

theorem isFraction_of_skipAfterInteger (read : skipAfterInteger text = .ok rest) :
    ∃ part power, IsFraction part ∧ IsExponent power ∧ text = part ++ (power ++ rest) := by
  unfold skipAfterInteger at read
  split at read
  · obtain rfl := Except.ok.inj read
    exact ⟨[], [], .inl rfl, .inl rfl, rfl⟩
  · rename_i point more
    split at read
    · rename_i isPoint
      subst isPoint
      unfold skipFraction at read
      split at read
      · cases read
      · rename_i c behind
        split at read
        · rename_i digit
          obtain ⟨power, exponent, same⟩ := isExponent_of_skipScale read
          obtain ⟨others, all, split⟩ := exists_digits behind
          refine ⟨'.' :: c :: others, power, .inr ⟨c :: others, isDigits_cons digit all, rfl⟩,
            exponent, ?_⟩
          rw [split, same]
          rfl
        · cases read
    · obtain ⟨power, exponent, same⟩ := isExponent_of_skipScale read
      exact ⟨[], power, .inl rfl, exponent, same⟩

theorem isInteger_of_skipUnsigned (read : skipUnsigned text = .ok rest) :
    ∃ whole part power, IsInteger whole ∧ IsFraction part ∧ IsExponent power ∧
      text = whole ++ (part ++ (power ++ rest)) := by
  unfold skipUnsigned at read
  split at read
  · cases read
  · rename_i c more
    split at read
    · rename_i zero
      subst zero
      have after : skipAfterInteger more = .ok rest := by
        split at read
        · exact read
        · split at read
          · cases read
          · exact read
      obtain ⟨part, power, fraction, exponent, rfl⟩ := isFraction_of_skipAfterInteger after
      exact ⟨['0'], part, power, .inl rfl, fraction, exponent, rfl⟩
    · rename_i nonzero
      split at read
      · rename_i digit
        obtain ⟨part, power, fraction, exponent, same⟩ := isFraction_of_skipAfterInteger read
        obtain ⟨others, all, split⟩ := exists_digits more
        refine ⟨c :: others, part, power, .inr ⟨isDigits_cons digit all, by simpa using nonzero⟩,
          fraction, exponent, ?_⟩
        rw [split, same]
        rfl
      · cases read

/-- What is skipped without entering a container spells an outline. -/
theorem spells_of_skipHead (read : skipHead text = .ok (none, rest)) :
    ∃ outline, Spells outline text rest := by
  -- The tests come in the order of the definition: blanks and brackets give no scalar.
  unfold skipHead at read
  split at read
  · cases read
  · rename_i c more
    split at read
    · simp at read
    split at read
    · simp at read
    split at read
    · rename_i same
      obtain rfl := same
      obtain rfl := eq_of_word (length_of_map_none read)
      exact ⟨_, .scalar .null⟩
    split at read
    · rename_i same
      obtain rfl := same
      obtain rfl := eq_of_word (length_of_map_none read)
      exact ⟨_, .scalar .true⟩
    split at read
    · rename_i same
      obtain rfl := same
      obtain rfl := eq_of_word (length_of_map_none read)
      exact ⟨_, .scalar .false⟩
    split at read
    · rename_i same
      obtain rfl := same
      obtain ⟨raw, isRaw, rfl⟩ := isRaw_of_skipText (length_of_map_none read)
      exact ⟨_, .text isRaw⟩
    split at read
    · rename_i same
      obtain rfl := same
      obtain ⟨whole, part, power, integer, fraction, exponent, rfl⟩ :=
        isInteger_of_skipUnsigned (length_of_map_none read)
      have spells := @Spells.scalar _ rest (.negative integer fraction exponent)
      simp only [List.cons_append, List.append_assoc] at spells
      exact ⟨_, spells⟩
    split at read
    · obtain ⟨whole, part, power, integer, fraction, exponent, same⟩ :=
        isInteger_of_skipUnsigned (length_of_map_none read)
      have spells := @Spells.scalar _ rest (.number integer fraction exponent)
      simp only [List.append_assoc, ← same] at spells
      exact ⟨_, spells⟩
    · cases read

end Scalars

/-! ## Skipped values -/

section Skip

variable {outer : List Container} {container : Container} {text rest : List Char}

theorem gap_of_skipBlanks {start : List Char} (found : skipBlanks text = start) :
    Gap text start :=
  found ▸ gap_skipBlanks text

/-- Behind a value the container is closed, or a comma leads to its next part. -/
theorem skipBehind_ok (read : skipBehind false (container :: outer) text = .ok rest) :
    (∃ behind, Gap text (container.closing :: behind) ∧ skipBehind false outer behind = .ok rest) ∨
      ∃ next start, Gap text (',' :: next) ∧ skipKey container next = .ok start ∧
        skipWithin (container :: outer) start = .ok rest := by
  cases found : skipBlanks text with
  | nil => simp [skipBehind, settle, found] at read
  | cons c more =>
      have gap := gap_of_skipBlanks found
      by_cases close : c = container.closing
      · subst close
        rw [skipBehind_close false gap] at read
        exact .inl ⟨more, gap, read⟩
      · by_cases comma : c = ','
        · subst comma
          cases key : skipKey container more with
          | error fault => simp [skipBehind, settle, found, close, key] at read
          | ok start =>
              rw [skipBehind_comma gap key] at read
              exact .inr ⟨more, start, gap, key, read⟩
        · simp [skipBehind, settle, found, close, comma] at read

/-- A container that was opened is closed, or it has a first part. -/
theorem skipBehind_fresh_ok (read : skipBehind true (container :: outer) text = .ok rest) :
    (∃ behind, Gap text (container.closing :: behind) ∧ skipBehind false outer behind = .ok rest) ∨
      ∃ next start, Gap text next ∧ skipKey container next = .ok start ∧
        skipWithin (container :: outer) start = .ok rest := by
  cases found : skipBlanks text with
  | nil => simp [skipBehind, settle, found] at read
  | cons c more =>
      have gap := gap_of_skipBlanks found
      by_cases close : c = container.closing
      · subst close
        rw [skipBehind_close true gap] at read
        exact .inl ⟨more, gap, read⟩
      · cases key : skipKey container (c :: more) with
        | error fault => simp [skipBehind, settle, found, close, key] at read
        | ok start =>
            refine .inr ⟨c :: more, start, gap, key, ?_⟩
            simpa [skipBehind, settle, found, close, key] using read

theorem gap_of_colon {next : List Char} (read : colon text = .ok next) :
    Gap text (':' :: next) := by
  unfold colon at read
  split at read
  · cases read
  · rename_i c more found
    split at read
    · rename_i same
      subst same
      obtain rfl := Except.ok.inj read
      exact gap_of_skipBlanks found
    · cases read

/-- A key is written between quotes, and a colon follows it. -/
theorem skipKey_ok {start : List Char} (read : skipKey .object text = .ok start) :
    ∃ raw behindKey, Gap text ('"' :: (raw ++ '"' :: behindKey)) ∧ IsRaw raw ∧
      Gap behindKey (':' :: start) := by
  simp only [skipKey] at read
  split at read
  · cases read
  · rename_i c more found
    split at read
    · rename_i same
      subst same
      split at read
      · cases read
      · rename_i behindKey skipped
        obtain ⟨raw, isRaw, rfl⟩ := isRaw_of_skipText skipped
        exact ⟨raw, behindKey, gap_of_skipBlanks found, isRaw, gap_of_colon read⟩
    · cases read

theorem skipHead_some (read : skipHead text = .ok (some container, rest)) :
    container = .list ∧ text = '[' :: rest ∨ container = .object ∧ text = '\x7b' :: rest := by
  unfold skipHead at read
  split at read
  · cases read
  · rename_i c more
    split at read
    · rename_i same
      obtain ⟨rfl, rfl⟩ : Container.list = container ∧ more = rest := by simpa using read
      exact .inl ⟨rfl, by rw [same]⟩
    split at read
    · rename_i same
      obtain ⟨rfl, rfl⟩ : Container.object = container ∧ more = rest := by simpa using read
      exact .inr ⟨rfl, by rw [same]⟩
    · have plain {step : Except Fault (List Char)} :
          step.map (none, ·) ≠ .ok (some container, rest) := by
        cases step <;> simp [Except.map]
      split at read
      · exact absurd read plain
      split at read
      · exact absurd read plain
      split at read
      · exact absurd read plain
      split at read
      · exact absurd read plain
      split at read
      · exact absurd read plain
      split at read
      · exact absurd read plain
      · cases read

theorem Gap.length_le {start : List Char} (gap : Gap text start) :
    start.length ≤ text.length := by
  induction gap with
  | none => exact Nat.le_refl _
  | blank _ _ ih => exact Nat.le_succ_of_le ih

theorem Gap.length_lt {c : Char} (gap : Gap text (c :: rest)) : rest.length < text.length :=
  gap.length_le

theorem Gap.trans {start : List Char} (gap : Gap text start) (further : Gap start rest) :
    Gap text rest := by
  induction gap with
  | none => exact further
  | blank blank _ ih => exact .blank blank (ih further)

-- Nothing bounds the depth, so the outline comes from how much of the text is left: each
-- part that is skipped is followed by less of it, and the containers outside stay open.
mutual

/-- What is skipped spells an outline, and behind it skipping goes on. -/
theorem spells_of_skipWithin {outer : List Container} {text rest : List Char}
    (read : skipWithin outer text = .ok rest) :
    ∃ outline start behind, Gap text start ∧ Spells outline start behind ∧
      behind.length < text.length ∧ skipBehind false outer behind = .ok rest := by
  cases head : skipHead (skipBlanks text) with
  | error fault =>
      rw [skipWithin] at read
      split at read <;> simp_all
  | ok found =>
      obtain ⟨opened, inside⟩ := found
      have gap := gap_skipBlanks text
      have entered := Nat.lt_of_lt_of_le (length_skipHead_lt head) gap.length_le
      rw [skipWithin_of_head head] at read
      cases opened with
      | none =>
          obtain ⟨outline, spells⟩ := spells_of_skipHead head
          exact ⟨outline, _, inside, gap, spells, entered, read⟩
      | some container =>
          rcases skipHead_some head with ⟨rfl, bracket⟩ | ⟨rfl, brace⟩
          · obtain ⟨items, behind, spells, shorter, read⟩ := spellsList_of_skipBehind read
            rw [bracket] at gap
            exact ⟨.list items, _, behind, gap, spells, by omega, read⟩
          · obtain ⟨members, behind, spells, shorter, read⟩ := spellsObject_of_skipBehind read
            rw [brace] at gap
            exact ⟨.object members, _, behind, gap, spells, by omega, read⟩
termination_by 2 * text.length

/-- Behind an opening bracket the list is closed, or it has items. -/
theorem spellsList_of_skipBehind {outer : List Container} {text rest : List Char}
    (read : skipBehind true (.list :: outer) text = .ok rest) :
    ∃ items behind, Spells (.list items) ('[' :: text) behind ∧ behind.length < text.length ∧
      skipBehind false outer behind = .ok rest := by
  rcases skipBehind_fresh_ok read with ⟨behind, close, read⟩ | ⟨next, start, gap, key, read⟩
  · have shorter := close.length_lt
    exact ⟨[], behind, .emptyList close, shorter, read⟩
  · obtain rfl := Except.ok.inj key
    have nearer := gap.length_le
    obtain ⟨item, place, behind, further, spells, shorter, read⟩ := spells_of_skipWithin read
    obtain ⟨items, final, more, last, read⟩ := spellsItems_of_skipBehind read
    exact ⟨item :: items, final, .list (gap.trans further) spells more, by omega, read⟩
termination_by 2 * text.length + 1

/-- Behind an item the list is closed, or further items follow. -/
theorem spellsItems_of_skipBehind {outer : List Container} {text rest : List Char}
    (read : skipBehind false (.list :: outer) text = .ok rest) :
    ∃ items behind, SpellsItems items text behind ∧ behind.length < text.length ∧
      skipBehind false outer behind = .ok rest := by
  rcases skipBehind_ok read with ⟨behind, close, read⟩ | ⟨next, start, comma, key, read⟩
  · have shorter := close.length_lt
    exact ⟨[], behind, .close close, shorter, read⟩
  · obtain rfl := Except.ok.inj key
    have nearer := comma.length_lt
    obtain ⟨item, place, behind, gap, spells, shorter, read⟩ := spells_of_skipWithin read
    obtain ⟨items, final, more, last, read⟩ := spellsItems_of_skipBehind read
    exact ⟨item :: items, final, .next comma gap spells more, by omega, read⟩
termination_by 2 * text.length

/-- Behind an opening brace the object is closed, or it has members. -/
theorem spellsObject_of_skipBehind {outer : List Container} {text rest : List Char}
    (read : skipBehind true (.object :: outer) text = .ok rest) :
    ∃ members behind, Spells (.object members) ('\x7b' :: text) behind ∧
      behind.length < text.length ∧ skipBehind false outer behind = .ok rest := by
  rcases skipBehind_fresh_ok read with ⟨behind, close, read⟩ | ⟨next, start, gap, key, read⟩
  · have shorter := close.length_lt
    exact ⟨[], behind, .emptyObject close, shorter, read⟩
  · have nearer := gap.length_le
    have closer := length_skipKey_le key
    obtain ⟨raw, behindKey, quote, isRaw, colon⟩ := skipKey_ok key
    obtain ⟨value, place, behind, further, spells, shorter, read⟩ := spells_of_skipWithin read
    obtain ⟨members, final, more, last, read⟩ := spellsMembers_of_skipBehind read
    exact ⟨(raw, value) :: members, final,
      .object (gap.trans quote) (.member isRaw colon further spells) more, by omega, read⟩
termination_by 2 * text.length + 1
decreasing_by
  · omega
  · omega

/-- Behind a member the object is closed, or further members follow. -/
theorem spellsMembers_of_skipBehind {outer : List Container} {text rest : List Char}
    (read : skipBehind false (.object :: outer) text = .ok rest) :
    ∃ members behind, SpellsMembers members text behind ∧ behind.length < text.length ∧
      skipBehind false outer behind = .ok rest := by
  rcases skipBehind_ok read with ⟨behind, close, read⟩ | ⟨next, start, comma, key, read⟩
  · have shorter := close.length_lt
    exact ⟨[], behind, .close close, shorter, read⟩
  · have nearer := comma.length_lt
    have closer := length_skipKey_le key
    obtain ⟨raw, behindKey, quote, isRaw, colon⟩ := skipKey_ok key
    obtain ⟨value, place, behind, further, spells, shorter, read⟩ := spells_of_skipWithin read
    obtain ⟨members, final, more, last, read⟩ := spellsMembers_of_skipBehind read
    exact ⟨(raw, value) :: members, final,
      .next comma quote (.member isRaw colon further spells) more, by omega, read⟩
termination_by 2 * text.length
decreasing_by
  · omega
  · omega

end

end Skip

/-! ## Readers -/

/-- Whatever the reader reads spells an outline. -/
def Reader.Adequate {α : Type} (reader : Reader α) : Prop :=
  ∀ {text rest : List Char} {value : α}, reader.read text = .ok (value, rest) →
    ∃ outline start, Gap text start ∧ Spells outline start rest

section Readers

variable {α β : Type} {reader : Reader α} {text start rest : List Char}

theorem adequate_skip : skip.Adequate := by
  intro text rest value read
  simp only [skip] at read
  cases skipped : skipWithin [] text with
  | error fault =>
      rw [skipped] at read
      cases read
  | ok behind =>
      rw [skipped] at read
      obtain ⟨_, rfl⟩ := Prod.mk.inj (Except.ok.inj read)
      obtain ⟨outline, start, between, gap, spells, _, done⟩ := spells_of_skipWithin skipped
      rw [skipBehind_nil] at done
      obtain rfl := Except.ok.inj done
      exact ⟨outline, start, gap, spells⟩

theorem adequate_textReader : textReader.Adequate := by
  intro text rest value read
  simp only [textReader] at read
  split at read
  · cases read
  · rename_i c more found
    split at read
    · rename_i quote
      subst quote
      obtain ⟨chars, body, _⟩ := Step.map_eq_ok read
      obtain ⟨raw, isRaw, rfl⟩ := isRaw_of_skipText (skipText_of_textBody body)
      exact ⟨.text raw, _, gap_of_skipBlanks found, .text isRaw⟩
    · cases read

theorem Reader.Adequate.map (adequate : reader.Adequate) (f : α → β) : (reader.map f).Adequate := by
  intro text rest value read
  obtain ⟨given, read, _⟩ := Step.map_eq_ok read
  exact adequate read

/-! ### Lists -/

theorem firstItem_ok {turn : Turn} (found : firstItem text = .ok turn) :
    (∃ rest, turn = .close rest ∧ Gap text (']' :: rest)) ∨
      ∃ start, turn = .enter start ∧ Gap text start := by
  unfold firstItem at found
  split at found
  · cases found
  · rename_i c rest blanks
    have gap := gap_of_skipBlanks blanks
    obtain rfl := Except.ok.inj found
    split
    · rename_i close
      exact .inl ⟨rest, rfl, close ▸ gap⟩
    · exact .inr ⟨_, rfl, gap⟩

theorem nextItem_ok {turn : Turn} (found : nextItem text = .ok turn) :
    (∃ rest, turn = .close rest ∧ Gap text (']' :: rest)) ∨
      ∃ next start, turn = .enter start ∧ Gap text (',' :: next) ∧ Gap next start := by
  unfold nextItem at found
  split at found
  · cases found
  · rename_i c next blanks
    have gap := gap_of_skipBlanks blanks
    split at found
    · rename_i close
      obtain rfl := Except.ok.inj found
      exact .inl ⟨next, rfl, close ▸ gap⟩
    · split at found
      · rename_i comma
        subst comma
        split at found
        · cases found
        · rename_i d more inner
          split at found
          · cases found
          · obtain rfl := Except.ok.inj found
            exact .inr ⟨next, _, rfl, gap, gap_of_skipBlanks inner⟩
      · cases found

theorem spellsItems_of_moreItems {values : List α} (adequate : reader.Adequate)
    (read : moreItems reader text = .ok (values, rest)) :
    ∃ items, SpellsItems items text rest := by
  fun_induction moreItems reader text generalizing values rest with
  | case1 | case3 => cases read
  | case2 text closed turn =>
      obtain ⟨_, rfl⟩ := Prod.mk.inj (Except.ok.inj read)
      rcases nextItem_ok turn with ⟨_, same, gap⟩ | ⟨_, _, other, _⟩
      · obtain rfl := Turn.close.inj same
        exact ⟨[], .close gap⟩
      · cases other
  | case4 text next turn value behind one ih =>
      obtain ⟨others, more, _⟩ := Step.map_eq_ok read
      obtain ⟨items, spells⟩ := ih more
      rcases nextItem_ok turn with ⟨_, other, _⟩ | ⟨_, _, same, comma, gap⟩
      · cases other
      · obtain rfl := Turn.enter.inj same
        obtain ⟨item, start, further, first⟩ := adequate one
        exact ⟨item :: items, .next comma (gap.trans further) first spells⟩

/-- What is read behind an opening bracket spells a list with it. -/
theorem spells_of_items {values : List α} (adequate : reader.Adequate)
    (read : items reader text = .ok (values, rest)) :
    ∃ outlines, Spells (.list outlines) ('[' :: text) rest := by
  unfold items at read
  split at read
  · cases read
  · rename_i closed turn
    obtain ⟨_, rfl⟩ := Prod.mk.inj (Except.ok.inj read)
    rcases firstItem_ok turn with ⟨_, same, close⟩ | ⟨_, other, _⟩
    · obtain rfl := Turn.close.inj same
      exact ⟨[], .emptyList close⟩
    · cases other
  · rename_i next turn
    rcases firstItem_ok turn with ⟨_, other, _⟩ | ⟨_, same, first⟩
    · cases other
    · obtain rfl := Turn.enter.inj same
      split at read
      · cases read
      · rename_i value between one
        obtain ⟨others, more, _⟩ := Step.map_eq_ok read
        obtain ⟨item, start, further, spells⟩ := adequate one
        obtain ⟨items, spellsItems⟩ := spellsItems_of_moreItems adequate more
        exact ⟨item :: items, .list (first.trans further) spells spellsItems⟩

theorem Reader.Adequate.list (adequate : reader.Adequate) : (listReader reader).Adequate := by
  intro text rest values read
  simp only [listReader] at read
  split at read
  · cases read
  · rename_i c inside found
    split at read
    · rename_i bracket
      subst bracket
      obtain ⟨outlines, spells⟩ := spells_of_items adequate read
      exact ⟨.list outlines, _, gap_of_skipBlanks found, spells⟩
    · cases read

/-! ### Objects -/

theorem firstKey_ok {turn : Turn} (found : firstKey text = .ok turn) :
    (∃ rest, turn = .close rest ∧ Gap text ('\x7d' :: rest)) ∨
      ∃ start, turn = .enter start ∧ Gap text ('"' :: start) := by
  unfold firstKey at found
  split at found
  · cases found
  · rename_i c rest blanks
    have gap := gap_of_skipBlanks blanks
    split at found
    · rename_i close
      obtain rfl := Except.ok.inj found
      exact .inl ⟨rest, rfl, close ▸ gap⟩
    · split at found
      · rename_i quote
        obtain rfl := Except.ok.inj found
        exact .inr ⟨rest, rfl, quote ▸ gap⟩
      · cases found

theorem nextKey_ok {turn : Turn} (found : nextKey text = .ok turn) :
    (∃ rest, turn = .close rest ∧ Gap text ('\x7d' :: rest)) ∨
      ∃ next start, turn = .enter start ∧ Gap text (',' :: next) ∧ Gap next ('"' :: start) := by
  unfold nextKey at found
  split at found
  · cases found
  · rename_i c next blanks
    have gap := gap_of_skipBlanks blanks
    split at found
    · rename_i close
      obtain rfl := Except.ok.inj found
      exact .inl ⟨next, rfl, close ▸ gap⟩
    · split at found
      · rename_i comma
        split at found
        · cases found
        · rename_i d more inner
          split at found
          · rename_i quote
            obtain rfl := Except.ok.inj found
            exact .inr ⟨next, more, rfl, comma ▸ gap, quote ▸ gap_of_skipBlanks inner⟩
          · split at found <;> cases found
      · cases found

theorem behindColon_ok {value : α} (read : (behindColon reader).read text = .ok (value, rest)) :
    ∃ next, Gap text (':' :: next) ∧ reader.read next = .ok (value, rest) := by
  simp only [behindColon] at read
  split at read
  · cases read
  · rename_i next found
    exact ⟨next, gap_of_colon found, read⟩

/-- Whatever is read behind a key is a colon and a value. -/
def AdequateMember {σ : Type} (member : σ → String → Reader σ) : Prop :=
  ∀ {state final : σ} {key : String} {text rest : List Char},
    (member state key).read text = .ok (final, rest) →
      ∃ value next start, Gap text (':' :: next) ∧ Gap next start ∧ Spells value start rest

section Members

variable {σ : Type} {member : σ → String → Reader σ} {state final : σ}
  (adequate : AdequateMember member)

include adequate

theorem spellsMember_of_memberStep (read : memberStep member state text = .ok (final, rest)) :
    ∃ raw value, SpellsMember raw value text rest := by
  unfold memberStep at read
  split at read
  · cases read
  · rename_i key behindKey body
    obtain ⟨raw, isRaw, rfl⟩ := isRaw_of_skipText (skipText_of_textBody body)
    obtain ⟨value, next, start, colon, gap, spells⟩ := adequate read
    exact ⟨raw, value, .member isRaw colon gap spells⟩

theorem spellsMembers_of_moreMembers (read : moreMembers member state text = .ok (final, rest)) :
    ∃ members, SpellsMembers members text rest := by
  fun_induction moreMembers member state text with
  | case1 | case3 => cases read
  | case2 state text closed turn =>
      obtain ⟨_, rfl⟩ := Prod.mk.inj (Except.ok.inj read)
      rcases nextKey_ok turn with ⟨_, same, gap⟩ | ⟨_, _, other, _⟩
      · obtain rfl := Turn.close.inj same
        exact ⟨[], .close gap⟩
      · cases other
  | case4 state text next turn inner behind one ih =>
      obtain ⟨members, spells⟩ := ih read
      rcases nextKey_ok turn with ⟨_, other, _⟩ | ⟨_, _, same, comma, gap⟩
      · cases other
      · obtain rfl := Turn.enter.inj same
        obtain ⟨raw, value, first⟩ := spellsMember_of_memberStep adequate one
        exact ⟨(raw, value) :: members, .next comma gap first spells⟩

/-- What is read behind an opening brace spells an object with it. -/
theorem spells_of_members (read : members member state text = .ok (final, rest)) :
    ∃ outlines, Spells (.object outlines) ('\x7b' :: text) rest := by
  unfold members at read
  split at read
  · cases read
  · rename_i closed turn
    obtain ⟨_, rfl⟩ := Prod.mk.inj (Except.ok.inj read)
    rcases firstKey_ok turn with ⟨_, same, close⟩ | ⟨_, other, _⟩
    · obtain rfl := Turn.close.inj same
      exact ⟨[], .emptyObject close⟩
    · cases other
  · rename_i next turn
    rcases firstKey_ok turn with ⟨_, other, _⟩ | ⟨_, same, gap⟩
    · cases other
    · obtain rfl := Turn.enter.inj same
      split at read
      · cases read
      · rename_i between one
        obtain ⟨raw, value, first⟩ := spellsMember_of_memberStep adequate one
        obtain ⟨members, spells⟩ := spellsMembers_of_moreMembers adequate read
        exact ⟨(raw, value) :: members, .object gap first spells⟩

end Members

/-! ### Records -/

namespace Layout

variable {layout : Layout α} (adequate : ∀ slot ∈ layout.slots, slot.value.Adequate)

include adequate

theorem adequate_member : AdequateMember layout.member := by
  intro state final key text rest read
  unfold member at read
  split at read
  · obtain ⟨_, read, _⟩ := Step.map_eq_ok read
    obtain ⟨next, colon, read⟩ := behindColon_ok read
    obtain ⟨value, start, gap, spells⟩ := adequate_skip read
    exact ⟨value, next, start, colon, gap, spells⟩
  · rename_i slot found
    split at read
    · cases read
    · obtain ⟨_, read, _⟩ := Step.map_eq_ok read
      obtain ⟨next, colon, read⟩ := behindColon_ok read
      obtain ⟨value, start, gap, spells⟩ := adequate slot (List.mem_of_find?_eq_some found) read
      exact ⟨value, next, start, colon, gap, spells⟩

theorem spells_of_fromObject {record : α} (read : layout.fromObject text = .ok (record, rest)) :
    ∃ outline, Spells outline ('\x7b' :: text) rest := by
  unfold fromObject at read
  split at read
  · cases read
  · rename_i found seen behind inside
    split at read
    · cases read
    · obtain ⟨_, rfl⟩ := Prod.mk.inj (Except.ok.inj read)
      obtain ⟨outlines, spells⟩ := spells_of_members (adequate_member adequate) inside
      exact ⟨_, spells⟩

omit adequate

/-- At a turn the list is closed, or what is entered is its next item. -/
theorem turn_ok {index : Nat} {turn : Turn}
    (found : (if index = 0 then firstItem text else nextItem text) = .ok turn) :
    (∃ rest, turn = .close rest ∧ Gap text (']' :: rest)) ∨
      ∃ next, turn = .enter next ∧ ∀ {item items start behind rest}, Gap next start →
        Spells item start behind → SpellsItems items behind rest →
          SpellsFrom index (item :: items) text rest := by
  unfold SpellsFrom
  split at found
  · rename_i zero
    simp only [if_pos zero]
    exact (firstItem_ok found).imp_right fun ⟨start, same, gap⟩ =>
      ⟨start, same, fun further first more => .list (gap.trans further) first more⟩
  · rename_i zero
    simp only [if_neg zero]
    exact (nextItem_ok found).imp_right fun ⟨_, start, same, comma, gap⟩ =>
      ⟨start, same, fun further first more => .next comma (gap.trans further) first more⟩

theorem spellsFrom_nil (index : Nat) (close : Gap text (']' :: rest)) :
    SpellsFrom index [] text rest := by
  unfold SpellsFrom
  split
  · exact .emptyList close
  · exact .close close

theorem spellsFrom_of_fromItems {expected : String} {slots : List (Slot α)}
    (adequate : ∀ slot ∈ slots, slot.value.Adequate) {index : Nat} {record final : α}
    (read : fromItems expected record index slots text = .ok (final, rest)) :
    ∃ items, SpellsFrom index items text rest := by
  induction slots generalizing index record text with
  | nil => exact ⟨[], spellsFrom_nil index (gap_of_skipBlanks (closeItems_ok read).1)⟩
  | cons slot more ih =>
      rw [fromItems] at read
      split at read
      · cases read
      · rename_i closed turn
        rcases turn_ok turn with ⟨_, same, close⟩ | ⟨_, other, _⟩
        · obtain rfl := Turn.close.inj same
          split at read
          · cases read
          · obtain ⟨_, rfl⟩ := Prod.mk.inj (Except.ok.inj read)
            exact ⟨[], spellsFrom_nil index close⟩
        · cases other
      · rename_i next turn
        rcases turn_ok turn with ⟨_, other, _⟩ | ⟨_, same, extend⟩
        · cases other
        · obtain rfl := Turn.enter.inj same
          split at read
          · cases read
          · rename_i store behind one
            obtain ⟨item, start, gap, first⟩ := adequate slot (List.mem_cons_self ..) one
            obtain ⟨items, spells⟩ :=
              ih (fun other mem => adequate other (List.mem_cons_of_mem _ mem)) read
            exact ⟨item :: items, extend gap first (by simpa [SpellsFrom] using spells)⟩

/-- Records are written as the grammar says if their fields are. -/
theorem adequate_reader (adequate : ∀ slot ∈ layout.slots, slot.value.Adequate) :
    layout.reader.Adequate := by
  intro text rest record read
  simp only [reader] at read
  split at read
  · cases read
  · rename_i c inside found
    have gap := gap_of_skipBlanks found
    split at read
    · rename_i brace
      obtain ⟨outline, spells⟩ := spells_of_fromObject adequate read
      exact ⟨outline, _, gap, brace ▸ spells⟩
    · split at read
      · rename_i bracket
        obtain ⟨items, spells⟩ := spellsFrom_of_fromItems adequate read
        exact ⟨.list items, _, gap, bracket ▸ spells⟩
      · cases read

section Few

variable {γ : Type} {name key other : String} {blank : α} {required otherRequired : Bool}
  {field : Reader β} {otherField : Reader γ} {store : β → α → α} {otherStore : γ → α → α}

theorem adequate_one (adequate : field.Adequate) :
    (Layout.reader ⟨name, blank, [⟨key, required, field.map store⟩]⟩).Adequate := by
  refine adequate_reader fun slot mem => ?_
  obtain rfl := List.mem_singleton.mp mem
  exact adequate.map store

theorem adequate_two (adequate : field.Adequate) (otherAdequate : otherField.Adequate) :
    (Layout.reader ⟨name, blank, [⟨key, required, field.map store⟩,
      ⟨other, otherRequired, otherField.map otherStore⟩]⟩).Adequate := by
  refine adequate_reader fun slot mem => ?_
  rcases List.mem_pair.mp mem with rfl | rfl
  · exact adequate.map store
  · exact otherAdequate.map otherStore

end Few

end Layout

/-- A text that is read as a whole spells an outline. -/
theorem Reader.Adequate.whole (adequate : reader.Adequate) {value : α}
    (read : whole reader text = .ok value) : ∃ outline, SpellsWhole outline text := by
  unfold Json.whole at read
  split at read
  · cases read
  · rename_i given behind reading
    obtain ⟨outline, start, gap, spells⟩ := adequate reading
    split at read
    · rename_i nothing
      exact ⟨outline, start, behind, gap, spells, gap_of_skipBlanks nothing⟩
    · cases read

end Readers

end DriverUplift.Json
