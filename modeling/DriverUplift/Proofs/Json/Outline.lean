import DriverUplift.Json.Skip
import DriverUplift.Proofs.Json.RoundTrip

/-!
# Outlines of values

An outline is a value as it is written, without the blanks between its parts.  The
grammar says which texts spell an outline; it knows nothing of depth, of the range of
numbers or of what an escape stands for.  Whatever spells an outline is skipped, and
the text behind it stays unread.
-/

namespace DriverUplift.Json

/-! ## The grammar -/

/-- Values as they are written: scalars, the characters between quotes, and containers. -/
inductive Outline where
  | scalar (chars : List Char)
  | text (raw : List Char)
  | list (items : List Outline)
  | object (members : List (List Char × Outline))

inductive Gap : List Char → List Char → Prop where
  | none {text : List Char} : Gap text text
  | blank {c : Char} {text rest : List Char} :
      isBlank c = true → Gap text rest → Gap (c :: text) rest

def IsDigits (digits : List Char) : Prop :=
  digits ≠ [] ∧ ∀ c ∈ digits, c.isDigit = true

def IsInteger (digits : List Char) : Prop :=
  digits = ['0'] ∨ IsDigits digits ∧ digits.head? ≠ some '0'

def IsFraction (chars : List Char) : Prop :=
  chars = [] ∨ ∃ digits, IsDigits digits ∧ chars = '.' :: digits

def IsExponent (chars : List Char) : Prop :=
  chars = [] ∨ ∃ mark sign digits, isExponentMark mark = true ∧ sign ∈ [[], ['+'], ['-']] ∧
    IsDigits digits ∧ chars = mark :: (sign ++ digits)

inductive IsScalar : List Char → Prop where
  | null : IsScalar ['n', 'u', 'l', 'l']
  | true : IsScalar ['t', 'r', 'u', 'e']
  | false : IsScalar ['f', 'a', 'l', 's', 'e']
  | number {integer fraction exponent : List Char} :
      IsInteger integer → IsFraction fraction → IsExponent exponent →
        IsScalar (integer ++ (fraction ++ exponent))
  | negative {integer fraction exponent : List Char} :
      IsInteger integer → IsFraction fraction → IsExponent exponent →
        IsScalar ('-' :: (integer ++ (fraction ++ exponent)))

inductive IsRaw : List Char → Prop where
  | nil : IsRaw []
  | plain {c : Char} {raw : List Char} :
      c ≠ '"' → c ≠ '\\' → ¬c.toNat < 0x20 → IsRaw raw → IsRaw (c :: raw)
  | short {c : Char} {raw : List Char} :
      (shortEscape? c).isSome = true → IsRaw raw → IsRaw ('\\' :: c :: raw)
  | unicode {digits raw : List Char} {unit : Nat} :
      fourDigits? digits = some (unit, raw) → IsRaw raw → IsRaw ('\\' :: 'u' :: digits)

mutual

/-- A text starts with a value of the outline, and the rest of it stands behind the value. -/
inductive Spells : Outline → List Char → List Char → Prop where
  | scalar {chars rest : List Char} :
      IsScalar chars → Spells (.scalar chars) (chars ++ rest) rest
  | text {raw rest : List Char} :
      IsRaw raw → Spells (.text raw) ('"' :: (raw ++ '"' :: rest)) rest
  | emptyList {inside rest : List Char} :
      Gap inside (']' :: rest) → Spells (.list []) ('[' :: inside) rest
  | list {item : Outline} {items : List Outline} {inside start behind rest : List Char} :
      Gap inside start → Spells item start behind → SpellsItems items behind rest →
        Spells (.list (item :: items)) ('[' :: inside) rest
  | emptyObject {inside rest : List Char} :
      Gap inside ('\x7d' :: rest) → Spells (.object []) ('\x7b' :: inside) rest
  | object {raw : List Char} {value : Outline} {members : List (List Char × Outline)}
      {inside start behind rest : List Char} :
      Gap inside ('"' :: start) → SpellsMember raw value start behind →
        SpellsMembers members behind rest →
          Spells (.object ((raw, value) :: members)) ('\x7b' :: inside) rest

/-- The items behind an item, up to the closing bracket. -/
inductive SpellsItems : List Outline → List Char → List Char → Prop where
  | close {text rest : List Char} : Gap text (']' :: rest) → SpellsItems [] text rest
  | next {item : Outline} {items : List Outline} {text next start behind rest : List Char} :
      Gap text (',' :: next) → Gap next start → Spells item start behind →
        SpellsItems items behind rest → SpellsItems (item :: items) text rest

/-- A member, from behind the first quote of its key. -/
inductive SpellsMember : List Char → Outline → List Char → List Char → Prop where
  | member {raw behindKey next start rest : List Char} {value : Outline} :
      IsRaw raw → Gap behindKey (':' :: next) → Gap next start → Spells value start rest →
        SpellsMember raw value (raw ++ '"' :: behindKey) rest

inductive SpellsMembers : List (List Char × Outline) → List Char → List Char → Prop where
  | close {text rest : List Char} : Gap text ('\x7d' :: rest) → SpellsMembers [] text rest
  | next {raw : List Char} {value : Outline} {members : List (List Char × Outline)}
      {text next start behind rest : List Char} :
      Gap text (',' :: next) → Gap next ('"' :: start) → SpellsMember raw value start behind →
        SpellsMembers members behind rest → SpellsMembers ((raw, value) :: members) text rest

end

/-- A whole text spells an outline if there are only blanks around it. -/
def SpellsWhole (outline : Outline) (text : List Char) : Prop :=
  ∃ start rest, Gap text start ∧ Spells outline start rest ∧ Gap rest []

/-! ## Gaps -/

section Gap

variable {text start rest : List Char}

theorem Gap.skipBlanks_eq (gap : Gap text start) : skipBlanks text = skipBlanks start := by
  induction gap with
  | none => rfl
  | blank blank _ ih => simpa [skipBlanks, blank] using ih

/-- Behind a gap stands what was found there. -/
theorem Gap.skipBlanks_cons {c : Char} (gap : Gap text (c :: rest)) (solid : isBlank c = false) :
    skipBlanks text = c :: rest := by
  rw [gap.skipBlanks_eq, skipBlanks_of_not_blank solid]

/-- No number goes on with a blank. -/
theorem Gap.delimited (gap : Gap text rest) (delimited : Delimited rest) : Delimited text := by
  cases gap with
  | none => exact delimited
  | blank blank _ =>
      apply delimited_cons
      simp only [isBlank, Bool.or_eq_true, beq_iff_eq] at blank
      rcases blank with ((rfl | rfl) | rfl) | rfl <;> decide

end Gap

/-! ## First characters -/

def StartsBare (c : Char) : Prop :=
  c = 'n' ∨ c = 't' ∨ c = 'f' ∨ c = '-' ∨ c.isDigit = true

theorem StartsBare.solid {c : Char} (starts : StartsBare c) :
    isBlank c = false ∧ c ≠ ']' ∧ c ≠ '[' ∧ c ≠ '\x7b' ∧ c ≠ '"' := by
  have quote : c ≠ '"' := by
    rintro rfl
    simp [StartsBare] at starts
  have scalar : startsScalar c := by
    rcases starts with rfl | rfl | rfl | rfl | digit <;> simp_all [startsScalar]
  obtain ⟨solid, close, bracket, brace⟩ := scalar.solid
  exact ⟨solid, close, bracket, brace, quote⟩

theorem IsDigits.exists_cons {digits : List Char} (all : IsDigits digits) :
    ∃ c more, digits = c :: more ∧ c.isDigit = true ∧ ∀ d ∈ more, d.isDigit = true := by
  obtain ⟨nonempty, all⟩ := all
  obtain ⟨c, more, rfl⟩ := List.exists_cons_of_ne_nil nonempty
  exact ⟨c, more, rfl, all c (List.mem_cons_self ..),
    fun d mem => all d (List.mem_cons_of_mem _ mem)⟩

theorem IsInteger.exists_cons {digits : List Char} (integer : IsInteger digits) :
    ∃ c more, digits = c :: more ∧ c.isDigit = true := by
  rcases integer with rfl | ⟨all, _⟩
  · exact ⟨'0', [], rfl, by decide⟩
  · obtain ⟨c, more, same, digit, _⟩ := all.exists_cons
    exact ⟨c, more, same, digit⟩

theorem IsScalar.exists_cons {chars : List Char} (scalar : IsScalar chars) :
    ∃ c more, chars = c :: more ∧ StartsBare c := by
  cases scalar with
  | null | true | false => exact ⟨_, _, rfl, by simp [StartsBare]⟩
  | negative _ _ _ => exact ⟨_, _, rfl, by simp [StartsBare]⟩
  | number integer _ _ =>
      obtain ⟨c, more, rfl, digit⟩ := integer.exists_cons
      exact ⟨c, _, rfl, by simp [StartsBare, digit]⟩

/-- No value starts with a blank or with the end of a list. -/
theorem Spells.exists_cons {outline : Outline} {text rest : List Char}
    (spells : Spells outline text rest) :
    ∃ c more, text = c :: more ∧ isBlank c = false ∧ c ≠ ']' := by
  cases spells with
  | scalar scalar =>
      obtain ⟨c, more, rfl, starts⟩ := scalar.exists_cons
      exact ⟨c, _, rfl, starts.solid.1, starts.solid.2.1⟩
  | text _ | emptyList _ | list _ _ _ | emptyObject _ | object _ _ _ =>
      exact ⟨_, _, rfl, by decide, by decide⟩

theorem Spells.skipBlanks_eq {outline : Outline} {text rest : List Char}
    (spells : Spells outline text rest) : skipBlanks text = text := by
  obtain ⟨c, more, rfl, solid, _⟩ := spells.exists_cons
  exact skipBlanks_of_not_blank solid more

theorem SpellsItems.delimited {items : List Outline} {text rest : List Char}
    (spells : SpellsItems items text rest) : Delimited text := by
  cases spells with
  | close gap => exact gap.delimited (delimited_cons (by decide) _)
  | next gap _ _ _ => exact gap.delimited (delimited_cons (by decide) _)

theorem SpellsMembers.delimited {members : List (List Char × Outline)} {text rest : List Char}
    (spells : SpellsMembers members text rest) : Delimited text := by
  cases spells with
  | close gap => exact gap.delimited (delimited_cons (by decide) _)
  | next gap _ _ _ => exact gap.delimited (delimited_cons (by decide) _)

/-! ## Skipping numbers -/

section Numbers

variable {whole part power rest : List Char}

theorem skipDigits_append {digits : List Char} (all : ∀ c ∈ digits, c.isDigit = true)
    (behind : ∀ c ∈ rest.head?, c.isDigit = false) : skipDigits (digits ++ rest) = rest := by
  rw [skipDigits, List.dropWhile_append_of_pos all]
  cases rest with
  | nil => rfl
  | cons c rest =>
      have ends := behind c rfl
      simp [ends]

theorem Delimited.head (delimited : Delimited rest) : ∀ c ∈ rest.head?, c.isDigit = false := by
  intro c mem
  obtain ⟨more, rfl⟩ : ∃ more, rest = c :: more := List.head?_eq_some_iff.mp mem
  exact (delimited_cons_iff.mp delimited).1

theorem IsExponent.skipScale (exponent : IsExponent power) (delimited : Delimited rest) :
    skipScale (power ++ rest) = .ok rest := by
  rcases exponent with rfl | ⟨mark, sign, digits, marks, signed, all, rfl⟩
  · cases rest with
    | nil => rfl
    | cons c rest =>
        have plain := (delimited_cons_iff.mp delimited).2.2
        simp [Json.skipScale, plain]
  · obtain ⟨c, more, rfl, digit, all⟩ := all.exists_cons
    have skipped := skipDigits_append all delimited.head
    have plus : c ≠ '+' := by
      rintro rfl
      simp at digit
    have minus : c ≠ '-' := by
      rintro rfl
      simp at digit
    simp only [List.mem_cons, List.not_mem_nil, or_false] at signed
    rcases signed with rfl | rfl | rfl <;>
      simp [Json.skipScale, marks, skipExponent, digit, skipped, plus, minus]

theorem IsExponent.head (exponent : IsExponent power) (delimited : Delimited rest) :
    ∀ c ∈ (power ++ rest).head?, c.isDigit = false ∧ c ≠ '.' := by
  intro c mem
  rcases exponent with rfl | ⟨mark, sign, digits, marks, _, _, rfl⟩
  · obtain ⟨more, rfl⟩ : ∃ more, rest = c :: more := List.head?_eq_some_iff.mp mem
    obtain ⟨digit, point, _⟩ := delimited_cons_iff.mp delimited
    exact ⟨digit, point⟩
  · obtain rfl := Option.some.inj mem
    simp only [isExponentMark, Bool.or_eq_true, beq_iff_eq] at marks
    rcases marks with rfl | rfl <;> decide

theorem IsFraction.skipAfterInteger (fraction : IsFraction part)
    (exponent : IsExponent power) (delimited : Delimited rest) :
    skipAfterInteger (part ++ (power ++ rest)) = .ok rest := by
  have scale := exponent.skipScale delimited
  have head := exponent.head delimited
  rcases fraction with rfl | ⟨digits, all, rfl⟩
  · rw [List.nil_append]
    cases behind : power ++ rest with
    | nil =>
        rw [behind] at scale
        exact scale
    | cons c more =>
        rw [behind] at scale head
        have point := (head c rfl).2
        simpa [Json.skipAfterInteger, point] using scale
  · obtain ⟨c, more, rfl, digit, all⟩ := all.exists_cons
    have skipped := skipDigits_append all fun d mem => (head d mem).1
    simp [Json.skipAfterInteger, skipFraction, digit, skipped, scale]

theorem IsFraction.head (fraction : IsFraction part) (exponent : IsExponent power)
    (delimited : Delimited rest) :
    ∀ c ∈ (part ++ (power ++ rest)).head?, c.isDigit = false := by
  intro c mem
  rcases fraction with rfl | ⟨digits, _, rfl⟩
  · exact (exponent.head delimited c mem).1
  · obtain rfl := Option.some.inj mem
    decide

theorem IsInteger.skipUnsigned (integer : IsInteger whole) (fraction : IsFraction part)
    (exponent : IsExponent power) (delimited : Delimited rest) :
    skipUnsigned (whole ++ (part ++ (power ++ rest))) = .ok rest := by
  have after := fraction.skipAfterInteger exponent delimited
  have head := fraction.head exponent delimited
  rcases integer with rfl | ⟨all, nonzero⟩
  · cases behind : part ++ (power ++ rest) with
    | nil =>
        rw [behind] at after
        simpa [Json.skipUnsigned, Json.skipAfterInteger] using after
    | cons c more =>
        rw [behind] at after head
        have digit := head c rfl
        simpa [Json.skipUnsigned, digit] using after
  · obtain ⟨c, more, rfl, digit, all⟩ := all.exists_cons
    have zero : c ≠ '0' := by
      rintro rfl
      exact nonzero rfl
    have skipped := skipDigits_append all head
    simp [Json.skipUnsigned, zero, digit, skipped, after]

theorem IsScalar.skipHead {chars : List Char} (scalar : IsScalar chars)
    (delimited : Delimited rest) : skipHead (chars ++ rest) = .ok (none, rest) := by
  cases scalar with
  | null | true | false => simp [Json.skipHead, word, Except.map]
  | number integer fraction exponent =>
      have skipped := integer.skipUnsigned fraction exponent delimited
      obtain ⟨c, more, rfl, digit⟩ := integer.exists_cons
      have others : c ≠ '[' ∧ c ≠ '\x7b' ∧ c ≠ 'n' ∧ c ≠ 't' ∧ c ≠ 'f' ∧ c ≠ '"' ∧ c ≠ '-' := by
        refine ⟨?_, ?_, ?_, ?_, ?_, ?_, ?_⟩ <;>
          · rintro rfl
            simp at digit
      simp only [List.cons_append, List.append_assoc] at skipped ⊢
      simp [Json.skipHead, others, digit, skipped, Except.map]
  | negative integer fraction exponent =>
      have skipped := integer.skipUnsigned fraction exponent delimited
      simp [Json.skipHead, skipped, Except.map]

end Numbers

/-! ## Texts between quotes -/

def meaning? (raw : List Char) : Option String :=
  match textBody (raw ++ ['"']) with
  | .ok (chars, []) => some (String.ofList chars)
  | _ => none

/-- A step takes a value from the front of a text, whatever stands behind. -/
def TakesFront {α : Type} (read : List Char → Step α) (text : List Char) (value : α)
    (rest : List Char) : Prop :=
  ∃ used, text = used ++ rest ∧ ∀ other, read (used ++ other) = .ok (value, other)

section Texts

variable {text rest chars raw : List Char} {c : Char} {unit : Nat}

theorem fourDigits?_takesFront (digits : fourDigits? text = some (unit, rest)) :
    TakesFront codeUnit text unit rest := by
  unfold fourDigits? at digits
  split at digits
  · rename_i a b c d more
    split at digits
    · rename_i one two three four
      obtain ⟨rfl, rfl⟩ := Prod.mk.inj (Option.some.inj digits)
      refine ⟨[a, b, c, d], rfl, fun other => codeUnit_of_fourDigits ?_⟩
      simp [fourDigits?, one, two, three, four]
    · cases digits
  · cases digits

theorem codeUnit_takesFront (read : codeUnit text = .ok (unit, rest)) :
    TakesFront codeUnit text unit rest := by
  unfold codeUnit at read
  split at read
  · cases read
  · split at read
    · rename_i found
      obtain ⟨rfl, rfl⟩ := Prod.mk.inj (Except.ok.inj read)
      exact fourDigits?_takesFront found
    · cases read

theorem trailingUnit_ok {leading : Nat} (read : trailingUnit leading text = .ok (c, rest)) :
    ∃ digits unit, text = '\\' :: 'u' :: digits ∧ codeUnit digits = .ok (unit, rest) ∧
      isTrailing unit = true ∧ c = joinUnits leading unit := by
  unfold trailingUnit at read
  split at read
  · cases read
  · split at read
    · cases read
    · rename_i digits
      split at read
      · cases read
      · rename_i unit behind found
        split at read
        · rename_i trails
          obtain ⟨rfl, rfl⟩ := Prod.mk.inj (Except.ok.inj read)
          exact ⟨digits, unit, rfl, found, trails, rfl⟩
        · cases read
    · cases read
  · cases read

/-- An escape is short, or four digits, or twice four digits. -/
theorem escape_ok (read : escape text = .ok (c, rest)) :
    (∃ d, shortEscape? d = some c ∧ text = d :: rest) ∨
      (∃ digits unit, text = 'u' :: digits ∧ codeUnit digits = .ok (unit, rest) ∧
        isTrailing unit = false ∧ isLeading unit = false ∧ c = Char.ofNat unit) ∨
      ∃ digits leading behind, text = 'u' :: digits ∧ codeUnit digits = .ok (leading, behind) ∧
        isTrailing leading = false ∧ isLeading leading = true ∧
          trailingUnit leading behind = .ok (c, rest) := by
  cases text with
  | nil => cases read
  | cons d text =>
      simp only [escape] at read
      split at read
      · rename_i mark
        subst mark
        unfold unicodeEscape at read
        split at read
        · cases read
        · rename_i unit behind found
          split at read
          · cases read
          · rename_i trails
            split at read
            · rename_i leads
              exact .inr (.inr ⟨text, unit, behind, rfl, found, by simpa using trails, leads, read⟩)
            · rename_i leads
              obtain ⟨rfl, rfl⟩ := Prod.mk.inj (Except.ok.inj read)
              exact .inr (.inl ⟨text, unit, rfl, found, by simpa using trails, by simpa using leads,
                rfl⟩)
      · split at read
        · rename_i meant found
          obtain ⟨rfl, rfl⟩ := Prod.mk.inj (Except.ok.inj read)
          exact .inl ⟨d, found, rfl⟩
        · cases read

theorem not_u_of_short {d : Char} (short : shortEscape? d = some c) : d ≠ 'u' := by
  rintro rfl
  simp [shortEscape?] at short

theorem escape_takesFront (read : escape text = .ok (c, rest)) :
    TakesFront escape text c rest := by
  rcases escape_ok read with ⟨d, short, rfl⟩ | ⟨digits, unit, rfl, found, trails, leads, rfl⟩ |
    ⟨digits, leading, behind, rfl, found, trails, leads, trailing⟩
  · refine ⟨[d], rfl, fun other => ?_⟩
    simp [escape, not_u_of_short short, short]
  · obtain ⟨used, rfl, taken⟩ := codeUnit_takesFront found
    refine ⟨'u' :: used, rfl, fun other => ?_⟩
    simp [escape, unicodeEscape, taken other, trails, leads]
  · obtain ⟨more, unit, rfl, next, trailsNext, joined⟩ := trailingUnit_ok trailing
    obtain ⟨used, rfl, taken⟩ := codeUnit_takesFront found
    obtain ⟨usedNext, rfl, takenNext⟩ := codeUnit_takesFront next
    refine ⟨'u' :: (used ++ '\\' :: 'u' :: usedNext), ?_, fun other => ?_⟩
    · rw [List.cons_append, List.append_assoc]
      rfl
    · have first := taken ('\\' :: 'u' :: (usedNext ++ other))
      rw [List.cons_append, List.append_assoc]
      simp [escape, unicodeEscape, first, trails, leads, trailingUnit, takenNext other, trailsNext,
        joined]

/-- The characters of a text are taken with the closing quote, whatever stands behind. -/
theorem textBody_takesFront (read : textBody text = .ok (chars, rest)) :
    TakesFront textBody text chars rest := by
  fun_induction textBody text generalizing chars rest with
  | case1 | case3 | case4 | case6 | case7 => cases read
  | case2 text =>
      obtain ⟨rfl, rfl⟩ := Prod.mk.inj (Except.ok.inj read)
      exact ⟨['"'], rfl, textBody_quote⟩
  | case5 text meant behind escaped chars rest body _ ih =>
      obtain ⟨rfl, rfl⟩ := Prod.mk.inj (Except.ok.inj read)
      obtain ⟨used, rfl, taken⟩ := escape_takesFront escaped
      obtain ⟨usedBehind, rfl, takenBehind⟩ := ih body
      refine ⟨'\\' :: (used ++ usedBehind), by rw [List.cons_append, List.append_assoc],
        fun other => ?_⟩
      rw [List.cons_append, List.append_assoc]
      exact textBody_escape (taken _) (takenBehind other)
  | case8 c text quote slash printable chars rest body ih =>
      obtain ⟨rfl, rfl⟩ := Prod.mk.inj (Except.ok.inj read)
      obtain ⟨used, rfl, taken⟩ := ih body
      exact ⟨c :: used, rfl, fun other => textBody_plain quote slash printable (taken other)⟩

theorem skipText_quote (rest : List Char) : skipText ('"' :: rest) = .ok rest := by
  rw [skipText]
  simp

theorem skipText_plain (quote : c ≠ '"') (slash : c ≠ '\\') (printable : ¬c.toNat < 0x20)
    (text : List Char) : skipText (c :: text) = skipText text := by
  rw [skipText]
  simp [quote, slash, printable]

theorem skipText_slash (skipped : skipEscape text = .ok rest) :
    skipText ('\\' :: text) = skipText rest := by
  rw [skipText]
  simp only [show ('\\' : Char) ≠ '"' by decide, if_false, if_true]
  split <;> simp_all

theorem skipEscape_unicode (read : codeUnit text = .ok (unit, rest)) :
    skipEscape ('u' :: text) = .ok rest := by
  simp [skipEscape, read]

theorem skipEscape_short {d : Char} (short : shortEscape? d = some c) (text : List Char) :
    skipEscape (d :: text) = .ok text := by
  simp [skipEscape, not_u_of_short short, short]

/-- What may stand between quotes is skipped with the closing quote. -/
theorem IsRaw.skipText (isRaw : IsRaw raw) (rest : List Char) :
    skipText (raw ++ '"' :: rest) = .ok rest := by
  induction isRaw with
  | nil => exact skipText_quote rest
  | plain quote slash printable _ ih =>
      rw [List.cons_append, skipText_plain quote slash printable, ih]
  | short short _ ih =>
      obtain ⟨meant, short⟩ := Option.isSome_iff_exists.mp short
      rw [List.cons_append, List.cons_append, skipText_slash (skipEscape_short short _), ih]
  | @unicode digits raw unit found _ ih =>
      obtain ⟨used, rfl, taken⟩ := fourDigits?_takesFront found
      have skipped := skipEscape_unicode (taken (raw ++ '"' :: rest))
      rw [List.cons_append, List.cons_append, List.append_assoc, skipText_slash skipped, ih]

/-- Skipping takes two steps over an escape that is written as a pair. -/
theorem skipText_of_escape (read : escape text = .ok (c, rest)) :
    skipText ('\\' :: text) = skipText rest := by
  rcases escape_ok read with ⟨d, short, rfl⟩ | ⟨digits, unit, rfl, found, _⟩ |
    ⟨digits, leading, behind, rfl, found, _, _, trailing⟩
  · exact skipText_slash (skipEscape_short short rest)
  · exact skipText_slash (skipEscape_unicode found)
  · obtain ⟨more, unit, rfl, next, _⟩ := trailingUnit_ok trailing
    rw [skipText_slash (skipEscape_unicode found), skipText_slash (skipEscape_unicode next)]

/-- A text that can be read is skipped up to the same place. -/
theorem skipText_of_textBody (read : textBody text = .ok (chars, rest)) :
    skipText text = .ok rest := by
  fun_induction textBody text generalizing chars rest with
  | case1 | case3 | case4 | case6 | case7 => cases read
  | case2 text =>
      obtain ⟨_, rfl⟩ := Prod.mk.inj (Except.ok.inj read)
      exact skipText_quote text
  | case5 text meant behind escaped chars rest body _ ih =>
      obtain ⟨_, rfl⟩ := Prod.mk.inj (Except.ok.inj read)
      rw [skipText_of_escape escaped, ih body]
  | case8 c text quote slash printable chars rest body ih =>
      obtain ⟨_, rfl⟩ := Prod.mk.inj (Except.ok.inj read)
      rw [skipText_plain quote slash printable, ih body]

/-- What is read between quotes is the meaning of what is written there. -/
theorem IsRaw.textBody (isRaw : IsRaw raw) {behind : List Char}
    (read : textBody (raw ++ '"' :: rest) = .ok (chars, behind)) :
    behind = rest ∧ meaning? raw = some (String.ofList chars) := by
  obtain rfl : rest = behind :=
    Except.ok.inj ((isRaw.skipText rest).symm.trans (skipText_of_textBody read))
  obtain ⟨used, same, taken⟩ := textBody_takesFront read
  obtain rfl : raw ++ ['"'] = used := by
    refine List.append_cancel_right (?_ : _ ++ rest = _ ++ rest)
    rw [List.append_assoc]
    exact same
  have alone := taken []
  rw [List.append_nil] at alone
  exact ⟨rfl, by rw [meaning?, alone]⟩

end Texts

/-! ## Skipping values -/

/-- Skip all that is needed to close what is open: behind a value, or at the first part. -/
def skipBehind (fresh : Bool) (stack : List Container) (text : List Char) :
    Except Fault (List Char) :=
  match settle fresh stack text with
  | .error fault => .error fault
  | .ok (.done rest) => .ok rest
  | .ok (.part container outer next) =>
      match skipKey container next with
      | .error fault => .error fault
      | .ok next => skipWithin (container :: outer) next

section Skip

variable {outer : List Container} {container : Container} {text next start rest : List Char}

theorem skipWithin_of_head {opened : Option Container}
    (head : skipHead (skipBlanks text) = .ok (opened, rest)) :
    skipWithin outer text = skipBehind opened.isSome (opened.toList ++ outer) rest := by
  rw [skipWithin]
  split
  · simp_all
  · rename_i found
    obtain ⟨rfl, rfl⟩ := Prod.mk.inj (Except.ok.inj (head.symm.trans found))
    rw [skipBehind]
    split
    · simp_all
    · simp_all
    · rename_i turn
      rw [turn]
      dsimp only
      split <;> simp_all

theorem skipWithin_gap (gap : Gap text start) : skipWithin outer text = skipWithin outer start := by
  rw [skipWithin, skipWithin, gap.skipBlanks_eq]

theorem skipBehind_nil (text : List Char) : skipBehind false [] text = .ok text := rfl

theorem skipBehind_close (fresh : Bool) (gap : Gap text (container.closing :: rest)) :
    skipBehind fresh (container :: outer) text = skipBehind false outer rest := by
  have found := gap.skipBlanks_cons (by cases container <;> decide)
  simp only [skipBehind, settle, found, if_true]

theorem skipBehind_first {c : Char} {more : List Char} (gap : Gap text (c :: more))
    (solid : isBlank c = false) (other : c ≠ container.closing)
    (key : skipKey container (c :: more) = .ok start) :
    skipBehind true (container :: outer) text = skipWithin (container :: outer) start := by
  have found := gap.skipBlanks_cons solid
  simp only [skipBehind, settle, found, other, if_false, if_true, key]

theorem skipBehind_comma (gap : Gap text (',' :: next)) (key : skipKey container next = .ok start) :
    skipBehind false (container :: outer) text = skipWithin (container :: outer) start := by
  have found := gap.skipBlanks_cons (by decide)
  have other : ',' ≠ container.closing := by cases container <;> decide
  simp only [skipBehind, settle, found, other, if_false, if_true, key, Bool.false_eq_true]

theorem colon_gap (gap : Gap text (':' :: next)) : colon text = .ok next := by
  rw [colon, gap.skipBlanks_cons (by decide)]
  simp

theorem skipWithin_bracket (inside : List Char) :
    skipWithin outer ('[' :: inside) = skipBehind true (.list :: outer) inside := by
  have head : skipHead (skipBlanks ('[' :: inside)) = .ok (some .list, inside) := by
    rw [skipBlanks_of_not_blank (by decide)]
    simp [skipHead]
  exact skipWithin_of_head head

theorem skipWithin_brace (inside : List Char) :
    skipWithin outer ('\x7b' :: inside) = skipBehind true (.object :: outer) inside := by
  have head : skipHead (skipBlanks ('\x7b' :: inside)) = .ok (some .object, inside) := by
    rw [skipBlanks_of_not_blank (by decide)]
    simp [skipHead]
  exact skipWithin_of_head head

-- The recursion goes down the outline; a member counts a little more than its value.
mutual

/-- A value that spells an outline is skipped, and then what is open is closed. -/
theorem skipWithin_spells {outline : Outline} {text rest : List Char} (outer : List Container)
    (delimited : Delimited rest) :
    Spells outline text rest → skipWithin outer text = skipBehind false outer rest
  | .scalar scalar => by
      have head := scalar.skipHead delimited
      rw [← (Spells.scalar scalar).skipBlanks_eq] at head
      exact skipWithin_of_head head
  | @Spells.text raw _ isRaw => by
      have head : skipHead (skipBlanks ('"' :: (raw ++ '"' :: rest))) = .ok (none, rest) := by
        rw [skipBlanks_of_not_blank (by decide)]
        simp [skipHead, isRaw.skipText rest, Except.map]
      exact skipWithin_of_head head
  | .emptyList gap => by
      rw [skipWithin_bracket]
      exact skipBehind_close true gap
  | .list gap first more => by
      obtain ⟨c, tail, rfl, solid, other⟩ := first.exists_cons
      have open_ : c ≠ Container.list.closing := other
      rw [skipWithin_bracket, skipBehind_first gap solid open_ rfl,
        skipWithin_spells _ more.delimited first, skipBehind_spellsItems outer more]
  | .emptyObject gap => by
      rw [skipWithin_brace]
      exact skipBehind_close true gap
  | .object gap first more => by
      obtain ⟨next, key, skipped⟩ := skipKey_spellsMember outer more.delimited .none first
      rw [skipWithin_brace, skipBehind_first gap (by decide) (by decide) key, skipped,
        skipBehind_spellsMembers outer more]
termination_by sizeOf outline

theorem skipBehind_spellsItems {items : List Outline} {text rest : List Char}
    (outer : List Container) :
    SpellsItems items text rest →
      skipBehind false (.list :: outer) text = skipBehind false outer rest
  | .close gap => skipBehind_close false gap
  | .next comma gap item more => by
      rw [skipBehind_comma comma rfl, skipWithin_gap gap,
        skipWithin_spells _ more.delimited item, skipBehind_spellsItems outer more]
termination_by sizeOf items

theorem skipKey_spellsMember {raw : List Char} {value : Outline} {text start rest : List Char}
    (outer : List Container) (delimited : Delimited rest) (gap : Gap text ('"' :: start)) :
    SpellsMember raw value start rest →
      ∃ next, skipKey .object text = .ok next ∧
        skipWithin (.object :: outer) next = skipBehind false (.object :: outer) rest
  | @SpellsMember.member _ behindKey next _ _ _ isRaw key colon value => by
      refine ⟨next, ?_, ?_⟩
      · simp [skipKey, gap.skipBlanks_cons, isBlank, isRaw.skipText behindKey, colon_gap key]
      · rw [skipWithin_gap colon, skipWithin_spells _ delimited value]
termination_by sizeOf value + 1

theorem skipBehind_spellsMembers {members : List (List Char × Outline)} {text rest : List Char}
    (outer : List Container) :
    SpellsMembers members text rest →
      skipBehind false (.object :: outer) text = skipBehind false outer rest
  | .close gap => skipBehind_close false gap
  | .next comma gap member more => by
      obtain ⟨next, key, skipped⟩ := skipKey_spellsMember outer more.delimited gap member
      rw [skipBehind_comma comma key, skipped, skipBehind_spellsMembers outer more]
termination_by sizeOf members

end

end Skip

end DriverUplift.Json
