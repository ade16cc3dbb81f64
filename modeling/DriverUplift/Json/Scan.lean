import DriverUplift.Json.Fault
import DriverUplift.Text.Hexadecimal

/-!
# Scalars of JSON texts

The words, texts and numbers of JSON, read from the front of a text.  Every
successful reading leaves less of the text than there was; `Shortens` says so,
and the loops above this level end because of it.
-/

namespace DriverUplift.Json

/-- What a reading step gives: a value and the unread text, or a fault. -/
abbrev Step (α : Type) := Except Fault (α × List Char)

def isBlank (c : Char) : Bool :=
  c == ' ' || c == '\n' || c == '\t' || c == '\r'

def skipBlanks (text : List Char) : List Char :=
  text.dropWhile isBlank

theorem length_dropWhile_le {α : Type} (p : α → Bool) (xs : List α) :
    (xs.dropWhile p).length ≤ xs.length := by
  induction xs with
  | nil => simp
  | cons x xs ih =>
      simp only [List.dropWhile_cons]
      split
      · exact Nat.le_succ_of_le ih
      · exact Nat.le_refl _

/-- Skipping blanks never makes a text longer. -/
theorem length_skipBlanks_le (text : List Char) :
    (skipBlanks text).length ≤ text.length :=
  length_dropWhile_le isBlank text

def word : List Char → List Char → Except Fault (List Char)
  | [], text => .ok text
  | _ :: _, [] => .error (.atEnd .endInValue)
  | expected :: more, c :: text =>
      if c = expected then word more text else .error (.onNext .expectedWord (c :: text))

theorem length_word_le {expected text rest : List Char} (h : word expected text = .ok rest) :
    rest.length ≤ text.length := by
  induction expected generalizing text with
  | nil =>
      simp only [word, Except.ok.injEq] at h
      simp [h]
  | cons e expected ih =>
      cases text with
      | nil => simp [word] at h
      | cons c text =>
          simp only [word] at h
          split at h
          · exact Nat.le_succ_of_le (ih h)
          · simp at h

def fourDigits? : List Char → Option (Nat × List Char)
  | a :: b :: c :: d :: rest =>
      match Text.hexDigit? a, Text.hexDigit? b, Text.hexDigit? c, Text.hexDigit? d with
      | some a, some b, some c, some d => some (((a * 16 + b) * 16 + c) * 16 + d, rest)
      | _, _, _, _ => none
  | _ => none

/-- Read four hexadecimal digits; four bytes are taken whatever they hold. -/
def codeUnit (text : List Char) : Step Nat :=
  if byteCount (text.take 4) < 4 then .error (.atEnd .endInText)
  else
    match fourDigits? text with
    | some (unit, rest) => .ok (unit, rest)
    | none => .error ⟨.invalidEscape, text, 4⟩

theorem length_codeUnit_lt {text rest : List Char} {unit : Nat}
    (h : codeUnit text = .ok (unit, rest)) : rest.length < text.length := by
  unfold codeUnit at h
  split at h
  · simp at h
  · split at h
    · rename_i h4
      unfold fourDigits? at h4
      split at h4
      · split at h4
        · simp only [Option.some.injEq, Prod.mk.injEq] at h4
          simp only [Except.ok.injEq, Prod.mk.injEq] at h
          rw [← h.2, ← h4.2]
          simp only [List.length_cons]
          omega
        · simp at h4
      · simp at h4
    · simp at h

def isLeading (unit : Nat) : Bool :=
  0xd800 ≤ unit && unit ≤ 0xdbff

def isTrailing (unit : Nat) : Bool :=
  0xdc00 ≤ unit && unit ≤ 0xdfff

def joinUnits (leading trailing : Nat) : Char :=
  Char.ofNat ((leading - 0xd800) * 0x400 + (trailing - 0xdc00) + 0x10000)

def trailingUnit (leading : Nat) : List Char → Step Char
  | [] => .error (.atEnd .endInText)
  | '\\' :: text =>
      match text with
      | [] => .error (.atEnd .endInText)
      | 'u' :: text =>
          match codeUnit text with
          | .error fault => .error fault
          | .ok (trailing, rest) =>
              if isTrailing trailing then .ok (joinUnits leading trailing, rest)
              else .error (.behind .loneSurrogate rest)
      | c :: text => .error (.onNext .unfinishedSurrogate (c :: text))
  | c :: text => .error (.onNext .unfinishedSurrogate (c :: text))

def unicodeEscape (text : List Char) : Step Char :=
  match codeUnit text with
  | .error fault => .error fault
  | .ok (unit, rest) =>
      if isTrailing unit then .error (.behind .loneSurrogate rest)
      else if isLeading unit then trailingUnit unit rest
      else .ok (Char.ofNat unit, rest)

def shortEscape? : Char → Option Char
  | '"' => some '"'
  | '\\' => some '\\'
  | '/' => some '/'
  | 'b' => some '\x08'
  | 'f' => some '\x0c'
  | 'n' => some '\n'
  | 'r' => some '\r'
  | 't' => some '\t'
  | _ => none

def escape : List Char → Step Char
  | [] => .error (.atEnd .endInText)
  | c :: text =>
      if c = 'u' then unicodeEscape text
      else
        match shortEscape? c with
        | some meant => .ok (meant, text)
        | none => .error (.onNext .invalidEscape (c :: text))

theorem length_trailingUnit_lt {leading : Nat} {text rest : List Char} {c : Char}
    (h : trailingUnit leading text = .ok (c, rest)) : rest.length < text.length := by
  unfold trailingUnit at h
  split at h
  · simp at h
  · split at h
    · simp at h
    · split at h
      · simp at h
      · rename_i read
        split at h
        · simp only [Except.ok.injEq, Prod.mk.injEq] at h
          have := length_codeUnit_lt read
          rw [← h.2]
          simp only [List.length_cons]
          omega
        · simp at h
    · simp at h
  · simp at h

theorem length_unicodeEscape_lt {text rest : List Char} {c : Char}
    (h : unicodeEscape text = .ok (c, rest)) : rest.length < text.length := by
  unfold unicodeEscape at h
  split at h
  · simp at h
  · rename_i read
    have shorter := length_codeUnit_lt read
    split at h
    · simp at h
    · split at h
      · exact Nat.lt_trans (length_trailingUnit_lt h) shorter
      · simp only [Except.ok.injEq, Prod.mk.injEq] at h
        exact h.2 ▸ shorter

theorem length_escape_lt {text rest : List Char} {c : Char}
    (h : escape text = .ok (c, rest)) : rest.length < text.length := by
  cases text with
  | nil => simp [escape] at h
  | cons d text =>
      simp only [escape] at h
      split at h
      · exact Nat.lt_succ_of_lt (length_unicodeEscape_lt h)
      · split at h
        · simp only [Except.ok.injEq, Prod.mk.injEq] at h
          simp [h.2]
        · simp at h

def textBody (text : List Char) : Step (List Char) :=
  match text with
  | [] => .error (.atEnd .endInText)
  | c :: rest =>
      if c = '"' then .ok ([], rest)
      else if c = '\\' then
        match _read : escape rest with
        | .error fault => .error fault
        | .ok (meant, rest) =>
            match textBody rest with
            | .error fault => .error fault
            | .ok (chars, rest) => .ok (meant :: chars, rest)
      else if c.toNat < 0x20 then .error (.onNext .controlCharacter (c :: rest))
      else
        match textBody rest with
        | .error fault => .error fault
        | .ok (chars, rest) => .ok (c :: chars, rest)
termination_by text.length
decreasing_by
  · have := length_escape_lt _read
    simp only [List.length_cons]
    omega
  · simp

theorem length_textBody_lt {text rest chars : List Char}
    (h : textBody text = .ok (chars, rest)) : rest.length < text.length := by
  fun_induction textBody text generalizing chars rest
  all_goals simp only [reduceCtorEq, Except.ok.injEq, Prod.mk.injEq] at h
  · simp [← h.2]
  · rename_i read _ _ body _ ih
    have := length_escape_lt read
    have := ih body
    simp only [← h.2, List.length_cons]
    omega
  · rename_i body ih
    have := ih body
    simp only [← h.2, List.length_cons]
    omega

def digitValue (c : Char) : Nat :=
  c.toNat - '0'.toNat

/-- The greatest integer that a number may be; also the bound of significands. -/
def greatestInteger : Nat := 18446744073709551615

def leastIntegerSize : Nat := 9223372036854775808

def greatestExponent : Nat := 2147483647

/--
Append digits to a number as long as it stays within a bound.  The result is
the number, how many digits it took, and the unread text.
-/
def extend (bound : Nat) : Nat → List Char → Nat × Nat × List Char
  | number, [] => (number, 0, [])
  | number, c :: text =>
      if c.isDigit ∧ number * 10 + digitValue c ≤ bound then
        let (number, taken, rest) := extend bound (number * 10 + digitValue c) text
        (number, taken + 1, rest)
      else (number, 0, c :: text)

theorem length_extend_le (bound number : Nat) (text : List Char) :
    (extend bound number text).2.2.length ≤ text.length := by
  induction text generalizing number with
  | nil => simp [extend]
  | cons c text ih =>
      simp only [extend]
      split
      · exact Nat.le_succ_of_le (ih _)
      · exact Nat.le_refl _

def skipDigits (text : List Char) : List Char :=
  text.dropWhile Char.isDigit

theorem length_skipDigits_le (text : List Char) :
    (skipDigits text).length ≤ text.length :=
  length_dropWhile_le Char.isDigit text

def realNumber (negative : Bool) (significand : Nat) (exponent : Int) (rest : List Char) :
    Step Number :=
  match Binary64.ofDecimal negative significand exponent with
  | some value => .ok (.real value, rest)
  | none => .error (.behind .numberOutOfRange rest)

def exponentDigits (negative : Bool) (significand : Nat) (start : Int) (down : Bool)
    (text : List Char) : Step Number :=
  match text with
  | [] => .error (.atEnd .endInValue)
  | c :: text =>
      if !c.isDigit then .error (.onNext .invalidNumber (c :: text))
      else
        let (size, _, rest) := extend greatestExponent (digitValue c) text
        match rest with
        | [] => realNumber negative significand (if down then start - size else start + size) rest
        | d :: more =>
            if d.isDigit then
              if significand ≠ 0 ∧ !down then .error (.behind .numberOutOfRange more)
              else .ok (.real (Binary64.zero negative), skipDigits more)
            else
              realNumber negative significand (if down then start - size else start + size) rest

def exponentPart (negative : Bool) (significand : Nat) (start : Int) : List Char → Step Number
  | '+' :: text => exponentDigits negative significand start false text
  | '-' :: text => exponentDigits negative significand start true text
  | text => exponentDigits negative significand start false text

def isExponentMark (c : Char) : Bool :=
  c == 'e' || c == 'E'

def scaled (negative : Bool) (significand : Nat) (start : Int) (text : List Char) :
    Step Number :=
  match text with
  | [] => realNumber negative significand start []
  | c :: rest =>
      if isExponentMark c then exponentPart negative significand start rest
      else realNumber negative significand start (c :: rest)

def fraction (negative : Bool) (significand : Nat) (start : Int) (text : List Char) :
    Step Number :=
  match text with
  | [] => .error (.atEnd .endInValue)
  | c :: _ =>
      if !c.isDigit then .error (.onNext .invalidNumber text)
      else
        let (significand, taken, rest) := extend greatestInteger significand text
        scaled negative significand (start - taken) (skipDigits rest)

def integerNumber (negative : Bool) (size : Nat) : Number :=
  if !negative then .integer size
  else if 0 < size ∧ size ≤ leastIntegerSize then .integer (-size)
  else .real (((Binary64.round size).getD (Binary64.zero true)).withSign true)

/-- Read what follows the integer digits of a number, some of which may have been dropped. -/
def afterInteger (negative : Bool) (significand dropped : Nat) (text : List Char) :
    Step Number :=
  match text with
  | [] =>
      if dropped = 0 then .ok (integerNumber negative significand, [])
      else realNumber negative significand dropped []
  | c :: rest =>
      if c = '.' then fraction negative significand dropped rest
      else if isExponentMark c then exponentPart negative significand dropped rest
      else if dropped = 0 then .ok (integerNumber negative significand, c :: rest)
      else realNumber negative significand dropped (c :: rest)

def unsigned (negative : Bool) (text : List Char) : Step Number :=
  match text with
  | [] => .error (.atEnd .endInValue)
  | c :: rest =>
      if c = '0' then
        match rest with
        | d :: _ =>
            if d.isDigit then .error (.onNext .invalidNumber rest)
            else afterInteger negative 0 0 rest
        | [] => afterInteger negative 0 0 []
      else if c.isDigit then
        let (significand, _, more) := extend greatestInteger (digitValue c) rest
        afterInteger negative significand (more.takeWhile Char.isDigit).length (skipDigits more)
      else .error (.onNext .invalidNumber (c :: rest))

def number (text : List Char) : Step Number :=
  match text with
  | [] => unsigned false []
  | c :: rest => if c = '-' then unsigned true rest else unsigned false (c :: rest)

section Shortens

variable {negative down : Bool} {significand dropped : Nat} {start : Int}
  {text rest : List Char} {value : Number}

theorem rest_of_realNumber (h : realNumber negative significand start text = .ok (value, rest)) :
    rest = text := by
  unfold realNumber at h
  split at h <;> simp_all

theorem length_exponentDigits_lt
    (h : exponentDigits negative significand start down text = .ok (value, rest)) :
    rest.length < text.length := by
  unfold exponentDigits at h
  cases text with
  | nil => simp at h
  | cons c text =>
      have taken := length_extend_le greatestExponent (digitValue c) text
      simp only at h
      split at h
      · simp at h
      · split at h
        · rename_i empty
          rw [rest_of_realNumber h, empty]
          simp
        · rename_i d more more_eq
          rw [more_eq] at taken
          simp only [List.length_cons] at taken ⊢
          split at h
          · split at h
            · simp at h
            · simp only [Except.ok.injEq, Prod.mk.injEq] at h
              have := length_skipDigits_le more
              rw [← h.2]
              omega
          · rw [rest_of_realNumber h, more_eq, List.length_cons]
            omega

theorem length_exponentPart_lt
    (h : exponentPart negative significand start text = .ok (value, rest)) :
    rest.length < text.length := by
  unfold exponentPart at h
  split at h
  · exact Nat.lt_succ_of_lt (length_exponentDigits_lt h)
  · exact Nat.lt_succ_of_lt (length_exponentDigits_lt h)
  · exact length_exponentDigits_lt h

theorem length_scaled_le (h : scaled negative significand start text = .ok (value, rest)) :
    rest.length ≤ text.length := by
  unfold scaled at h
  split at h
  · exact Nat.le_of_eq (congrArg List.length (rest_of_realNumber h))
  · split at h
    · exact Nat.le_succ_of_le (Nat.le_of_lt (length_exponentPart_lt h))
    · exact Nat.le_of_eq (congrArg List.length (rest_of_realNumber h))

theorem length_fraction_le (h : fraction negative significand start text = .ok (value, rest)) :
    rest.length ≤ text.length := by
  unfold fraction at h
  cases text with
  | nil => simp at h
  | cons c text =>
      simp only at h
      split at h
      · simp at h
      · exact Nat.le_trans (length_scaled_le h)
          (Nat.le_trans (length_skipDigits_le _) (length_extend_le _ _ _))

theorem length_afterInteger_le
    (h : afterInteger negative significand dropped text = .ok (value, rest)) :
    rest.length ≤ text.length := by
  unfold afterInteger at h
  cases text with
  | nil =>
      simp only at h
      split at h
      · simp_all
      · simp [rest_of_realNumber h]
  | cons c text =>
      simp only at h
      split at h
      · exact Nat.le_succ_of_le (length_fraction_le h)
      · split at h
        · exact Nat.le_succ_of_le (Nat.le_of_lt (length_exponentPart_lt h))
        · split at h
          · simp_all
          · simp [rest_of_realNumber h]

theorem length_unsigned_lt (h : unsigned negative text = .ok (value, rest)) :
    rest.length < text.length := by
  unfold unsigned at h
  cases text with
  | nil => simp at h
  | cons c text =>
      simp only at h
      split at h
      · cases text with
        | nil => exact Nat.lt_succ_of_le (length_afterInteger_le h)
        | cons d text =>
            simp only at h
            split at h
            · simp at h
            · exact Nat.lt_succ_of_le (length_afterInteger_le h)
      · split at h
        · exact Nat.lt_succ_of_le (Nat.le_trans (length_afterInteger_le h)
            (Nat.le_trans (length_skipDigits_le _) (length_extend_le _ _ _)))
        · simp at h

theorem length_number_lt (h : number text = .ok (value, rest)) :
    rest.length < text.length := by
  unfold number at h
  cases text with
  | nil => exact length_unsigned_lt h
  | cons c text =>
      simp only at h
      split at h
      · exact Nat.lt_succ_of_lt (length_unsigned_lt h)
      · exact length_unsigned_lt h

end Shortens

end DriverUplift.Json
