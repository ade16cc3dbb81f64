import DriverUplift.Json.Parser
import DriverUplift.Proofs.Json.Adequacy

/-!
# Reading values

A value is read from what spells an outline, and what it is can be told from the
outline: the items of a list are read one by one, and so are the values of an object
under what its keys mean.
-/

namespace DriverUplift.Json

/-! ## Scalars are skipped -/

section Scalars

variable {negative down : Bool} {significand dropped : Nat} {start : Int}
  {text rest : List Char} {value : Number}

/-- However many digits are taken, the others are skipped up to the same place. -/
theorem skipDigits_extend (bound number : Nat) (text : List Char) :
    skipDigits (extend bound number text).2.2 = skipDigits text := by
  induction text generalizing number with
  | nil => rfl
  | cons c text ih =>
      rw [extend]
      split
      · rename_i taken
        have skipped : skipDigits (c :: text) = skipDigits text := by simp [skipDigits, taken.1]
        rw [skipped]
        exact ih _
      · rfl

theorem skipDigits_of_not_digit {c : Char} (ends : ¬c.isDigit = true) (text : List Char) :
    skipDigits (c :: text) = c :: text := by
  simp [skipDigits, ends]

theorem exponentDigits_ok
    (read : exponentDigits negative significand start down text = .ok (value, rest)) :
    ∃ c more, text = c :: more ∧ c.isDigit = true ∧ rest = skipDigits more := by
  cases text with
  | nil => cases read
  | cons c more =>
      have skipped := skipDigits_extend greatestExponent (digitValue c) more
      simp only [exponentDigits] at read
      split at read
      · cases read
      · rename_i digit
        refine ⟨c, more, rfl, by simpa using digit, ?_⟩
        split at read
        · rename_i left
          rw [left] at skipped
          rw [rest_of_realNumber read, left, ← skipped]
          rfl
        · rename_i d others left
          rw [left] at skipped
          split at read
          · rename_i further
            split at read
            · cases read
            · obtain ⟨_, rfl⟩ := Prod.mk.inj (Except.ok.inj read)
              rw [← skipped]
              simp [skipDigits, further]
          · rename_i ends
            rw [rest_of_realNumber read, left, ← skipped, skipDigits_of_not_digit ends]

theorem skipExponent_of_exponentPart
    (read : exponentPart negative significand start text = .ok (value, rest)) :
    skipExponent text = .ok rest := by
  unfold exponentPart at read
  unfold skipExponent
  split at read
  all_goals
    obtain ⟨c, more, rfl, digit, rfl⟩ := exponentDigits_ok read
    simp_all

theorem skipScale_of_scaled (read : scaled negative significand start text = .ok (value, rest)) :
    skipScale text = .ok rest := by
  unfold scaled at read
  unfold skipScale
  split at read
  · rw [rest_of_realNumber read]
  · split at read
    · rename_i mark
      simpa only [mark, if_true] using skipExponent_of_exponentPart read
    · rename_i plain
      rw [rest_of_realNumber read]
      simp only [plain, Bool.false_eq_true, if_false]

theorem skipFraction_of_fraction
    (read : fraction negative significand start text = .ok (value, rest)) :
    skipFraction text = .ok rest := by
  cases text with
  | nil => cases read
  | cons c more =>
      simp only [fraction] at read
      split at read
      · cases read
      · rename_i digit
        have digit : c.isDigit = true := by simpa using digit
        have skipped : skipDigits (c :: more) = skipDigits more := by simp [skipDigits, digit]
        rw [skipDigits_extend, skipped] at read
        simpa only [skipFraction, digit, if_true] using skipScale_of_scaled read

theorem skipAfterInteger_of_afterInteger
    (read : afterInteger negative significand dropped text = .ok (value, rest)) :
    skipAfterInteger text = .ok rest := by
  unfold afterInteger at read
  split at read
  · split at read
    · obtain ⟨_, rfl⟩ := Prod.mk.inj (Except.ok.inj read)
      rfl
    · obtain rfl := rest_of_realNumber read
      rfl
  · unfold skipAfterInteger
    split at read
    · rename_i point
      simpa only [point, if_true] using skipFraction_of_fraction read
    · rename_i point
      simp only [point, if_false, skipScale]
      split at read
      · rename_i mark
        simpa only [mark, if_true] using skipExponent_of_exponentPart read
      · rename_i plain
        simp only [plain, Bool.false_eq_true, if_false]
        split at read
        · rw [(Prod.mk.inj (Except.ok.inj read)).2]
        · rw [rest_of_realNumber read]

theorem skipUnsigned_of_unsigned (read : unsigned negative text = .ok (value, rest)) :
    skipUnsigned text = .ok rest := by
  unfold unsigned at read
  split at read
  · cases read
  · rename_i c more
    unfold skipUnsigned
    split at read
    · rename_i zero
      simp only [zero, if_true]
      split at read
      · split at read
        · cases read
        · rename_i ends
          simpa only [ends, Bool.false_eq_true, if_false] using
            skipAfterInteger_of_afterInteger read
      · exact skipAfterInteger_of_afterInteger read
    · rename_i nonzero
      split at read
      · rename_i digit
        have skipped := skipDigits_extend greatestInteger (digitValue c) more
        generalize extend greatestInteger (digitValue c) more = taken at read skipped
        obtain ⟨size, count, left⟩ := taken
        dsimp only at read skipped
        rw [skipped] at read
        simpa only [nonzero, if_false, digit, if_true] using skipAfterInteger_of_afterInteger read
      · cases read

theorem word_of_map {expected : List Char} {json given : Json}
    (read : (word expected text).map (given, ·) = .ok (json, rest)) :
    word expected text = .ok rest := by
  cases found : word expected text with
  | error fault => simp [found, Except.map] at read
  | ok behind => simp_all [Except.map]

theorem skipUnsigned_of_number {c : Char} (digit : c = '-' ∨ c.isDigit = true)
    (read : number (c :: text) = .ok (value, rest)) : skipHead (c :: text) = .ok (none, rest) := by
  simp only [number] at read
  split at read
  · rename_i sign
    subst sign
    simp [skipHead, skipUnsigned_of_unsigned read, Except.map]
  · rename_i sign
    have digit := digit.resolve_left sign
    have others : c ≠ '[' ∧ c ≠ '\x7b' ∧ c ≠ 'n' ∧ c ≠ 't' ∧ c ≠ 'f' ∧ c ≠ '"' := by
      refine ⟨?_, ?_, ?_, ?_, ?_, ?_⟩ <;>
        · rintro rfl
          simp at digit
    simp [skipHead, others, sign, digit, skipUnsigned_of_unsigned read, Except.map]

/-- A value without a container is skipped up to where its reading ends. -/
theorem skipHead_of_scalar {json : Json} (read : scalar text = .ok (json, rest)) :
    skipHead text = .ok (none, rest) := by
  cases text with
  | nil => cases read
  | cons c text =>
      simp only [scalar] at read
      split at read
      · rename_i same
        subst same
        simp [skipHead, word_of_map read, Except.map]
      split at read
      · rename_i same
        subst same
        simp [skipHead, word_of_map read, Except.map]
      split at read
      · rename_i same
        subst same
        simp [skipHead, word_of_map read, Except.map]
      split at read
      · rename_i same
        subst same
        obtain ⟨chars, body, _⟩ := Step.map_eq_ok read
        simp [skipHead, skipText_of_textBody body, Except.map]
      split at read
      · rename_i starts
        obtain ⟨value, digits, _⟩ := Step.map_eq_ok read
        exact skipUnsigned_of_number starts digits
      · cases read

end Scalars

/-! ## Readers of values are adequate -/

section Adequate

variable {reader : Reader Json}

theorem adequateMember_putMember (adequate : reader.Adequate) :
    AdequateMember (putMember reader) := by
  intro known final key text rest read
  obtain ⟨_, read, _⟩ := Step.map_eq_ok read
  obtain ⟨next, colon, read⟩ := behindColon_ok read
  obtain ⟨value, start, gap, spells⟩ := adequate read
  exact ⟨value, next, start, colon, gap, spells⟩

theorem adequate_valueWith {inner : Option (Reader Json)}
    (adequate : ∀ reader ∈ inner, reader.Adequate) : (valueWith inner).Adequate := by
  intro text rest json read
  simp only [valueWith] at read
  split at read
  · cases read
  · rename_i c more found
    have gap := gap_of_skipBlanks found
    split at read
    · rename_i opens
      cases inner with
      | none => cases read
      | some reader =>
          have adequate : reader.Adequate := adequate reader rfl
          simp only at read
          split at read
          · rename_i bracket
            obtain ⟨values, read, _⟩ := Step.map_eq_ok read
            obtain ⟨items, spells⟩ := spells_of_items adequate read
            exact ⟨.list items, _, gap, bracket ▸ spells⟩
          · rename_i bracket
            obtain ⟨values, read, _⟩ := Step.map_eq_ok read
            obtain ⟨members, spells⟩ := spells_of_members (adequateMember_putMember adequate) read
            exact ⟨.object members, _, gap, opens.resolve_left bracket ▸ spells⟩
    · obtain ⟨outline, spells⟩ := spells_of_skipHead (skipHead_of_scalar read)
      exact ⟨outline, _, gap, spells⟩

/-- Whatever is read as a value spells an outline, at any depth that is allowed. -/
theorem adequate_value (levels : Nat) : (value levels).Adequate := by
  induction levels with
  | zero => exact adequate_valueWith fun reader none => by cases none
  | succ levels ih =>
      refine adequate_valueWith fun reader inner => ?_
      obtain rfl := Option.some.inj inner
      exact ih

/-- A document that is accepted spells an outline. -/
theorem exists_outline_of_parse {text : String} {json : Json} (parsed : parse text = .ok json) :
    ∃ outline, SpellsWhole outline text.toList := by
  have adequate : (value depthLimit).Adequate := adequate_value depthLimit
  exact adequate.whole parsed

end Adequate

/-! ## What is read from an outline -/

/-- A value that is read from the outline, given the reader for what is inside of it. -/
inductive ReadAs (inner : Option (Reader Json)) : Outline → Json → Prop where
  | scalar {chars rest : List Char} {json : Json} :
      Delimited rest → Json.scalar (chars ++ rest) = .ok (json, rest) →
        ReadAs inner (.scalar chars) json
  | text {raw : List Char} {value : String} :
      meaning? raw = some value → ReadAs inner (.text raw) (.str value)
  | list {reader : Reader Json} {items : List Outline} {values : List Json} :
      inner = some reader → List.Forall₂ reader.Gives items values →
        ReadAs inner (.list items) (.arr values)
  | object {reader : Reader Json} {members : List (List Char × Outline)} {values : Members Json} :
      inner = some reader →
        List.Forall₂ (fun field value => field.1 = value.1 ∧ reader.Gives field.2 value.2)
          (Outline.named members) values →
            ReadAs inner (.object members) (.obj (Members.putAll [] values))

section ReadAs

variable {inner : Option (Reader Json)} {reader : Reader Json} {outline : Outline} {json : Json}
  {text start rest behind : List Char}

/-- A value is put under its key. -/
theorem exactMember_putMember (exact : reader.Exact) :
    ExactMember (putMember reader) fun key outline known final =>
      ∃ value, reader.Gives outline value ∧ final = Members.put key value known := by
  intro known final key outline text next start rest behind colon gap spells delimited read
  obtain ⟨value, found, rfl⟩ := Step.map_eq_ok read
  rw [behindColon_read colon] at found
  obtain ⟨same, given⟩ := exact.read gap spells delimited found
  exact ⟨same, value, given, rfl⟩

/-- Values that are put one after the other are put all together. -/
theorem exists_putAll_of_folds {known final : Members Json} {fields : Members Outline}
    (folds : Folds (fun key outline known final =>
      ∃ value, reader.Gives outline value ∧ final = Members.put key value known)
      known fields final) :
    ∃ values, List.Forall₂ (fun field value => field.1 = value.1 ∧ reader.Gives field.2 value.2)
      fields values ∧ final = Members.putAll known values := by
  induction folds with
  | nil => exact ⟨[], .nil, rfl⟩
  | @cons _ _ _ key _ _ takes _ ih =>
      obtain ⟨value, given, rfl⟩ := takes
      obtain ⟨values, all, rfl⟩ := ih
      exact ⟨(key, value) :: values, .cons ⟨rfl, given⟩ all, rfl⟩

theorem valueWith_quote (inner : Option (Reader Json)) (text : List Char) :
    (valueWith inner).read ('"' :: text) =
      (textBody text).map fun chars => Json.str (String.ofList chars) := by
  simp [valueWith, scalar, skipBlanks_of_not_blank, isBlank]

theorem valueWith_bracket (reader : Reader Json) (text : List Char) :
    (valueWith (some reader)).read ('[' :: text) = (items reader text).map Json.arr := by
  simp [valueWith, skipBlanks_of_not_blank, isBlank]

theorem valueWith_brace (reader : Reader Json) (text : List Char) :
    (valueWith (some reader)).read ('\x7b' :: text) =
      (members (putMember reader) [] text).map Json.obj := by
  simp [valueWith, skipBlanks_of_not_blank, isBlank]

theorem valueWith_bare {c : Char} (starts : StartsBare c) (text : List Char) :
    (valueWith inner).read (c :: text) = scalar (c :: text) := by
  obtain ⟨solid, _, bracket, brace, _⟩ := starts.solid
  simp [valueWith, skipBlanks_of_not_blank solid, bracket, brace]

theorem valueWith_read (exact : ∀ reader ∈ inner, reader.Exact) (spells : Spells outline text rest)
    (delimited : Delimited rest) (read : (valueWith inner).read text = .ok (json, behind)) :
    behind = rest ∧ ReadAs inner outline json := by
  cases outline with
  | scalar chars =>
      cases spells with
      | scalar scalar =>
          -- A scalar is skipped up to where it is read, and skipping it stops where it ends.
          obtain ⟨c, more, rfl, starts⟩ := scalar.exists_cons
          rw [List.cons_append, valueWith_bare starts, ← List.cons_append] at read
          have skipped := (skipHead_of_scalar read).symm.trans (scalar.skipHead delimited)
          obtain ⟨_, rfl⟩ := Prod.mk.inj (Except.ok.inj skipped)
          exact ⟨rfl, .scalar delimited read⟩
  | text raw =>
      cases spells with
      | text isRaw =>
          rw [valueWith_quote] at read
          obtain ⟨chars, body, rfl⟩ := Step.map_eq_ok read
          obtain ⟨same, meant⟩ := isRaw.textBody body
          exact ⟨same, .text meant⟩
  | list items =>
      obtain ⟨inside, rfl⟩ := spells.list_cons
      cases inner with
      | none => simp [valueWith, spells.skipBlanks_eq] at read
      | some reader =>
          rw [valueWith_bracket] at read
          obtain ⟨values, items, rfl⟩ := Step.map_eq_ok read
          obtain ⟨same, all⟩ := items_read (exact reader rfl) spells items
          exact ⟨same, .list rfl all⟩
  | object members =>
      obtain ⟨inside, rfl⟩ := spells.object_cons
      cases inner with
      | none => simp [valueWith, spells.skipBlanks_eq] at read
      | some reader =>
          rw [valueWith_brace] at read
          obtain ⟨values, members, rfl⟩ := Step.map_eq_ok read
          obtain ⟨same, _, folds⟩ :=
            members_read (exactMember_putMember (exact reader rfl)) spells members
          obtain ⟨values, all, rfl⟩ := exists_putAll_of_folds folds
          exact ⟨same, .object rfl all⟩

theorem exact_valueWith (exact : ∀ reader ∈ inner, reader.Exact) : (valueWith inner).Exact where
  skips gap := by simp only [valueWith, gap.skipBlanks_eq]
  stops spells delimited read := (valueWith_read exact spells delimited read).1

end ReadAs

/-! ## Values with a bounded depth -/

section Levels

variable {levels : Nat} {outline part : Outline} {json : Json}

def innerReader? : Nat → Option (Reader Json)
  | 0 => none
  | levels + 1 => some (value levels)

theorem value_eq (levels : Nat) : value levels = valueWith (innerReader? levels) := by
  cases levels <;> rfl

theorem exact_value (levels : Nat) : (value levels).Exact := by
  induction levels with
  | zero => exact exact_valueWith fun reader none => by cases none
  | succ levels ih =>
      refine exact_valueWith fun reader inner => ?_
      obtain rfl := Option.some.inj inner
      exact ih

theorem readAs_of_gives (given : (value levels).Gives outline json) :
    ReadAs (innerReader? levels) outline json := by
  obtain ⟨text, rest, spells, delimited, read⟩ := given
  rw [value_eq] at read
  refine (valueWith_read (fun reader inner => ?_) spells delimited read).2
  cases levels with
  | zero => cases inner
  | succ levels =>
      obtain rfl := Option.some.inj inner
      exact exact_value levels

end Levels

end DriverUplift.Json
