import DriverUplift.Json.Parser
import DriverUplift.Json.Printer
import DriverUplift.Proofs.Json.Rule

/-!
# Reading back scalars

The text of a word, of a text or of a whole number reads back as the value that
it was printed from, and what stands behind it stays unread.  A number has no
closing mark, so what stands behind it must not go on with it.
-/

namespace DriverUplift.Json

/-! ## Texts -/

theorem textBody_quote (rest : List Char) : textBody ('"' :: rest) = .ok ([], rest) := by
  rw [textBody]
  simp

theorem textBody_escape {text behind rest chars : List Char} {meant : Char}
    (escaped : escape text = .ok (meant, behind)) (body : textBody behind = .ok (chars, rest)) :
    textBody ('\\' :: text) = .ok (meant :: chars, rest) := by
  rw [textBody]
  simp only [show ('\\' : Char) ≠ '"' by decide, if_false, if_true]
  split
  · simp_all
  · simp_all

theorem textBody_plain {c : Char} {text rest chars : List Char} (quote : c ≠ '"')
    (slash : c ≠ '\\') (printable : ¬ c.toNat < 0x20)
    (body : textBody text = .ok (chars, rest)) : textBody (c :: text) = .ok (c :: chars, rest) := by
  rw [textBody]
  simp [quote, slash, printable, body]

theorem hexDigit?_digitChar : ∀ digit < 16, Text.hexDigit? (Nat.digitChar digit) = some digit := by
  decide

/-- Four characters have at least four bytes. -/
theorem codeUnit_of_fourDigits {a b c d : Char} {rest : List Char} {unit : Nat}
    (digits : fourDigits? (a :: b :: c :: d :: rest) = some (unit, rest)) :
    codeUnit (a :: b :: c :: d :: rest) = .ok (unit, rest) := by
  have bytes : ¬ byteCount ((a :: b :: c :: d :: rest).take 4) < 4 := by
    have := a.utf8Size_pos
    have := b.utf8Size_pos
    have := c.utf8Size_pos
    have := d.utf8Size_pos
    simp only [List.take_succ_cons, List.take_zero, byteCount]
    omega
  rw [codeUnit, if_neg bytes, digits]

/-- The code of a control character reads back as the character. -/
theorem unicodeEscape_control {c : Char} (control : c.toNat < 0x20) (rest : List Char) :
    unicodeEscape
      ('0' :: '0' :: Nat.digitChar (c.toNat / 16) :: Nat.digitChar (c.toNat % 16) :: rest) =
        .ok (c, rest) := by
  have zero : Text.hexDigit? '0' = some 0 := by decide
  have high := hexDigit?_digitChar (c.toNat / 16) (by omega)
  have low := hexDigit?_digitChar (c.toNat % 16) (by omega)
  have value : ((0 * 16 + 0) * 16 + c.toNat / 16) * 16 + c.toNat % 16 = c.toNat := by omega
  have digits : fourDigits?
      ('0' :: '0' :: Nat.digitChar (c.toNat / 16) :: Nat.digitChar (c.toNat % 16) :: rest) =
        some (c.toNat, rest) := by
    simp only [fourDigits?, zero, high, low, value]
  have trailing : isTrailing c.toNat = false := by simp [isTrailing]; omega
  have leading : isLeading c.toNat = false := by simp [isLeading]; omega
  simp [unicodeEscape, codeUnit_of_fourDigits digits, trailing, leading, Char.ofNat_toNat]

/-- Whatever is written for a character reads back as the character. -/
theorem textBody_escapeChar (c : Char) {text rest chars : List Char}
    (body : textBody text = .ok (chars, rest)) :
    textBody (escapeChar c ++ text) = .ok (c :: chars, rest) := by
  unfold escapeChar
  split
  case h_8 _ quote slash _ _ _ _ _ =>
    by_cases control : c.toNat < 0x20
    · simp only [control, if_true, List.cons_append, List.nil_append]
      exact textBody_escape (by simp [escape, unicodeEscape_control control]) body
    · simp only [control, if_false, List.cons_append, List.nil_append]
      exact textBody_plain quote slash control body
  all_goals exact textBody_escape (by simp [escape, shortEscape?]) body

theorem textBody_printed (text rest : List Char) :
    textBody (text.flatMap escapeChar ++ '"' :: rest) = .ok (text, rest) := by
  induction text with
  | nil => exact textBody_quote rest
  | cons c text ih =>
      rw [List.flatMap_cons, List.append_assoc]
      exact textBody_escapeChar c ih

/-! ## Numbers -/

def continuesNumber (c : Char) : Bool :=
  c.isDigit || c == '.' || isExponentMark c

/-- No number goes on here. -/
def Delimited (text : List Char) : Prop :=
  ∀ c ∈ text.head?, continuesNumber c = false

theorem delimited_nil : Delimited [] := by
  simp [Delimited]

theorem delimited_cons {c : Char} (ends : continuesNumber c = false) (text : List Char) :
    Delimited (c :: text) := by
  simpa [Delimited] using ends

theorem delimited_cons_iff {c : Char} {text : List Char} :
    Delimited (c :: text) ↔ c.isDigit = false ∧ c ≠ '.' ∧ isExponentMark c = false := by
  simp [Delimited, continuesNumber, and_assoc]

section Numbers

variable {rest : List Char} (delimited : Delimited rest)

include delimited

theorem skipDigits_delimited : skipDigits rest = rest := by
  cases rest with
  | nil => rfl
  | cons c rest =>
      have ends := (delimited_cons_iff.mp delimited).1
      simp [skipDigits, ends]

theorem takeWhile_delimited : rest.takeWhile Char.isDigit = [] := by
  cases rest with
  | nil => rfl
  | cons c rest =>
      have ends := (delimited_cons_iff.mp delimited).1
      simp [ends]

/-- All digits are taken if the number that they write stays within the bound. -/
theorem extend_digits (bound : Nat) {number : Nat} {digits : List Char}
    (all : ∀ c ∈ digits, c.isDigit = true) (small : Nat.ofDigitChars 10 digits number ≤ bound) :
    extend bound number (digits ++ rest) =
      (Nat.ofDigitChars 10 digits number, digits.length, rest) := by
  induction digits generalizing number with
  | nil =>
      cases rest with
      | nil => simp [extend]
      | cons c rest =>
          have ends := (delimited_cons_iff.mp delimited).1
          simp [extend, ends]
  | cons c digits ih =>
      have step : Nat.ofDigitChars 10 (c :: digits) number =
          Nat.ofDigitChars 10 digits (number * 10 + digitValue c) := by
        rw [Nat.ofDigitChars_cons, Nat.mul_comm 10 number]
        rfl
      have grows : number * 10 + digitValue c ≤ bound := by
        have := @Nat.ofDigitChars_eq_ofDigitChars_zero digits (number * 10 + digitValue c)
        have := Nat.le_mul_of_pos_left (number * 10 + digitValue c)
          (Nat.pow_pos (n := digits.length) (show 0 < 10 by decide))
        omega
      have digit := all c (List.mem_cons_self ..)
      have inner := ih (fun d mem => all d (List.mem_cons_of_mem _ mem)) (step ▸ small)
      simp [extend, digit, grows, inner, step]

theorem afterInteger_delimited (negative : Bool) (size : Nat) :
    afterInteger negative size 0 rest = .ok (integerNumber negative size, rest) := by
  cases rest with
  | nil => simp [afterInteger]
  | cons c rest =>
      obtain ⟨_, point, mark⟩ := delimited_cons_iff.mp delimited
      simp [afterInteger, point, mark]

end Numbers

/-- A positive number is not written with a leading zero. -/
theorem head_toDigits_ne_zero {n : Nat} (positive : 0 < n) {c : Char} {digits : List Char}
    (written : Nat.toDigits 10 n = c :: digits) : c ≠ '0' := by
  induction n using Nat.strongRecOn generalizing c digits with
  | ind n ih =>
      by_cases small : n < 10
      · rw [Nat.toDigits_of_lt_base small] at written
        obtain ⟨rfl, _⟩ := List.cons.inj written
        have nonzero : ∀ n < 10, 0 < n → Nat.digitChar n ≠ '0' := by decide
        exact nonzero n small positive
      · rw [Nat.toDigits_of_base_le (by decide) (Nat.le_of_not_lt small)] at written
        cases front : Nat.toDigits 10 (n / 10) with
        | nil => exact absurd front Nat.toDigits_ne_nil
        | cons d more =>
            rw [front] at written
            obtain ⟨rfl, _⟩ := List.cons.inj written
            exact ih (n / 10) (by omega) (by omega) front

/-- The digits of a number that is not too large read back as the number. -/
theorem unsigned_toDigits {n : Nat} (bound : n ≤ greatestInteger) (negative : Bool)
    {rest : List Char} (delimited : Delimited rest) :
    unsigned negative (Nat.toDigits 10 n ++ rest) = .ok (integerNumber negative n, rest) := by
  have isDigit : ∀ c ∈ Nat.toDigits 10 n, c.isDigit = true := fun c mem =>
    Nat.isDigit_of_mem_toDigits (by decide) (by decide) mem
  by_cases zero : n = 0
  · subst zero
    rw [Nat.toDigits_zero]
    cases rest with
    | nil => simp [unsigned, afterInteger_delimited delimited_nil]
    | cons c rest =>
        have ends := (delimited_cons_iff.mp delimited).1
        simp [unsigned, ends, afterInteger_delimited delimited]
  · cases written : Nat.toDigits 10 n with
    | nil => exact absurd written Nat.toDigits_ne_nil
    | cons c digits =>
        have nonzero := head_toDigits_ne_zero (Nat.pos_of_ne_zero zero) written
        rw [written] at isDigit
        have digit := isDigit c (List.mem_cons_self ..)
        have value : Nat.ofDigitChars 10 digits (digitValue c) = n := by
          have := Nat.ofDigitChars_ten_toDigits (n := n)
          rw [written, Nat.ofDigitChars_cons] at this
          simpa [digitValue] using this
        have taken := extend_digits delimited greatestInteger
          (fun d mem => isDigit d (List.mem_cons_of_mem _ mem))
          (Nat.le_trans (Nat.le_of_eq value) bound)
        simp only [List.cons_append, unsigned, nonzero, if_false, digit, if_true, taken, value,
          takeWhile_delimited delimited, skipDigits_delimited delimited, List.length_nil]
        exact afterInteger_delimited delimited negative n

theorem number_printInteger {value : Int} (lower : -9223372036854775808 ≤ value)
    (upper : value < 18446744073709551616) {rest : List Char} (delimited : Delimited rest) :
    number (printInteger value ++ rest) = .ok (.integer value, rest) := by
  unfold printInteger
  rw [Int.toString_eq_repr, Int.repr_eq_if]
  split
  · rename_i nonneg
    have bound : value.toNat ≤ greatestInteger := by
      simp only [greatestInteger]
      omega
    have read := unsigned_toDigits bound false delimited
    rw [Nat.toList_repr]
    cases written : Nat.toDigits 10 value.toNat with
    | nil => exact absurd written Nat.toDigits_ne_nil
    | cons c digits =>
        -- The first digit is no sign, so the number is read as one without a sign.
        have digit : c.isDigit = true := Nat.isDigit_of_mem_toDigits (by decide) (by decide)
          (written ▸ List.mem_cons_self ..)
        have sign : c ≠ '-' := by
          rintro rfl
          simp at digit
        rw [written] at read
        simpa [number, sign, integerNumber, Int.toNat_of_nonneg nonneg] using read
  · have bound : (-value).toNat ≤ greatestInteger := by
      simp only [greatestInteger]
      omega
    have size : 0 < (-value).toNat ∧ (-value).toNat ≤ leastIntegerSize := by
      simp only [leastIntegerSize]
      omega
    have same : -((-value).toNat : Int) = value := by omega
    have read := unsigned_toDigits bound true delimited
    simp only [integerNumber, Bool.not_true, Bool.false_eq_true, if_false, size, and_self,
      if_true, same] at read
    simpa [String.toList_append, number] using read

/-- The double that `-0` stands for has the text `-0.0`, which stands for it as well. -/
theorem number_print_negativeZero {rest : List Char} (delimited : Delimited rest) :
    number ((Number.real (Binary64.zero true)).print ++ rest) =
      .ok (.real (Binary64.zero true), rest) := by
  have printed : (Number.real (Binary64.zero true)).print = ['-', '0', '.', '0'] := by
    decide +kernel
  have scaledDown : Binary64.ofDecimal true 0 (-1) = some (Binary64.zero true) := by
    decide +kernel
  have digit : extend greatestInteger 0 ('0' :: rest) = (0, 1, rest) :=
    @extend_digits rest delimited greatestInteger 0 ['0'] (by simp)
      (by simp [Nat.ofDigitChars_cons])
  have reading : realNumber true 0 (-1) rest = .ok (.real (Binary64.zero true), rest) := by
    simp [realNumber, scaledDown]
  have unscaled : scaled true 0 (-1) rest = .ok (.real (Binary64.zero true), rest) := by
    cases rest with
    | nil => exact reading
    | cons c rest =>
        have mark := (delimited_cons_iff.mp delimited).2.2
        simpa [scaled, mark] using reading
  rw [printed]
  simpa [number, unsigned, afterInteger, fraction, digit, skipDigits_delimited delimited]
    using unscaled

/-- The text of a whole number reads back as the number. -/
theorem number_print {value : Number} (whole : value.IsWhole) {rest : List Char}
    (delimited : Delimited rest) : number (value.print ++ rest) = .ok (value, rest) := by
  cases value with
  | integer value => exact number_printInteger whole.1 whole.2 delimited
  | real value =>
      obtain rfl : value = Binary64.zero true := whole
      exact number_print_negativeZero delimited

end DriverUplift.Json
