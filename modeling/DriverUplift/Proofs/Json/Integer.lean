import DriverUplift.Proofs.Json.Place

/-!
# Integer literals

An integer literal is read as the integer that it writes where that is in the range of
one of the two kinds of 64 bits, and then it prints as the same digits.  Elsewhere, and for
`-0`, it is read as a double, whose text is never that of an integer.
-/

namespace DriverUplift.Json

/-- An integer literal, of any length, and the number that it writes. -/
inductive WritesInteger : List Char → Int → Prop where
  | positive {digits : List Char} :
      IsInteger digits → WritesInteger digits (Nat.ofDigitChars 10 digits 0)
  | negative {digits : List Char} :
      IsInteger digits → WritesInteger ('-' :: digits) (-(Nat.ofDigitChars 10 digits 0 : Nat))

/-- The literal is read as an integer: it is not `-0`, and its number has a kind. -/
def IsExact (literal : List Char) (value : Int) : Prop :=
  literal ≠ ['-', '0'] ∧ -2 ^ 63 ≤ value ∧ value < 2 ^ 64

/-! ## Digits and numbers -/

section Digits

variable {c : Char} {digits more rest behind : List Char}

theorem toNat_of_digit (digit : c.isDigit = true) : 48 ≤ c.toNat ∧ c.toNat ≤ 57 := by
  simp only [Char.isDigit, Bool.and_eq_true, decide_eq_true_eq, ge_iff_le] at digit
  exact digit

theorem digitValue_lt (digit : c.isDigit = true) : digitValue c < 10 := by
  have range := toNat_of_digit digit
  have zero : '0'.toNat = 48 := rfl
  simp only [digitValue]
  omega

theorem digitChar_digitValue (digit : c.isDigit = true) : Nat.digitChar (digitValue c) = c := by
  have range := toNat_of_digit digit
  have zero : '0'.toNat = 48 := rfl
  refine Char.toNat_inj.mp ?_
  rw [Nat.toNat_digitChar_of_lt_ten (digitValue_lt digit), digitValue]
  omega

/-- Digits behind those of a positive number make the digits of a greater one. -/
theorem toDigits_append_digits {n : Nat} (positive : 0 < n)
    (all : ∀ d ∈ more, d.isDigit = true) :
    Nat.toDigits 10 n ++ more = Nat.toDigits 10 (Nat.ofDigitChars 10 more n) := by
  induction more generalizing n with
  | nil => rw [Nat.ofDigitChars_nil, List.append_nil]
  | cons d more ih =>
      have digit := all d (List.mem_cons_self ..)
      have one := Nat.toDigits_append_toDigits (show 1 < 10 by decide) positive (digitValue_lt digit)
      rw [Nat.toDigits_of_lt_base (digitValue_lt digit), digitChar_digitValue digit] at one
      have inner := @ih (10 * n + digitValue d) (by omega)
        fun e mem => all e (List.mem_cons_of_mem _ mem)
      rw [List.append_cons, one, inner, Nat.ofDigitChars_cons]
      rfl

/-- Digits that do not start with a zero are those of the number that they write. -/
theorem toDigits_ofDigitChars (digit : c.isDigit = true) (nonzero : c ≠ '0')
    (all : ∀ d ∈ more, d.isDigit = true) :
    Nat.toDigits 10 (Nat.ofDigitChars 10 (c :: more) 0) = c :: more := by
  have positive : 0 < digitValue c := by
    refine Nat.pos_of_ne_zero fun zero => nonzero ?_
    rw [← digitChar_digitValue digit, zero]
    rfl
  have whole := toDigits_append_digits positive all
  rw [Nat.toDigits_of_lt_base (digitValue_lt digit), digitChar_digitValue digit] at whole
  rw [Nat.ofDigitChars_cons, Nat.mul_zero, Nat.zero_add]
  exact whole.symm

theorem IsInteger.eq_toDigits (integer : IsInteger digits) :
    digits = Nat.toDigits 10 (Nat.ofDigitChars 10 digits 0) := by
  rcases integer with rfl | ⟨all, head⟩
  · rfl
  · obtain ⟨c, more, rfl, digit, all⟩ := all.exists_cons
    exact (toDigits_ofDigitChars digit (by simpa using head) all).symm

theorem IsInteger.eq_printInteger (integer : IsInteger digits) :
    digits = printInteger (Nat.ofDigitChars 10 digits 0 : Nat) := by
  rw [printInteger_natCast, Nat.toString_eq_repr, Nat.toList_repr]
  exact integer.eq_toDigits

/-- Digits whose number is above the bound are not all taken. -/
theorem extend_stops {bound number : Nat} (all : ∀ d ∈ digits, d.isDigit = true)
    (within : number ≤ bound) (large : bound < Nat.ofDigitChars 10 digits number)
    (rest : List Char) :
    ∃ d left, (extend bound number (digits ++ rest)).2.2 = d :: left ∧ d.isDigit = true := by
  induction digits generalizing number with
  | nil =>
      rw [Nat.ofDigitChars_nil] at large
      omega
  | cons d digits ih =>
      have digit := all d (List.mem_cons_self ..)
      rw [List.cons_append, extend]
      split
      · rename_i taken
        have step : Nat.ofDigitChars 10 (d :: digits) number =
            Nat.ofDigitChars 10 digits (number * 10 + digitValue d) := by
          rw [Nat.ofDigitChars_cons, Nat.mul_comm 10 number]
          rfl
        exact ih (fun e mem => all e (List.mem_cons_of_mem _ mem)) taken.2 (step ▸ large)
      · exact ⟨d, _, rfl, digit⟩

end Digits

/-! ## Reading literals -/

section Reading

variable {negative : Bool} {digits literal rest behind : List Char} {value : Int} {number : Number}

theorem exists_of_realNumber {significand : Nat} {exponent : Int}
    (read : realNumber negative significand exponent rest = .ok (number, behind)) :
    ∃ x, number = .real x := by
  unfold realNumber at read
  split at read
  · rename_i x _
    exact ⟨x, (Prod.mk.inj (Except.ok.inj read)).1.symm⟩
  · cases read

/-- An integer some of whose digits were dropped is a double. -/
theorem exists_of_afterInteger {significand dropped : Nat} (some_ : dropped ≠ 0)
    (delimited : Delimited rest)
    (read : afterInteger negative significand dropped rest = .ok (number, behind)) :
    ∃ x, number = .real x := by
  cases rest with
  | nil =>
      simp only [afterInteger, some_, if_false] at read
      exact exists_of_realNumber read
  | cons c rest =>
      obtain ⟨_, point, mark⟩ := delimited_cons_iff.mp delimited
      simp only [afterInteger, point, mark, some_, if_false, Bool.false_eq_true] at read
      exact exists_of_realNumber read

/-- An integer that is too large for any kind is a double. -/
theorem exists_of_large (integer : IsInteger digits)
    (large : greatestInteger < Nat.ofDigitChars 10 digits 0) (delimited : Delimited rest)
    (read : unsigned negative (digits ++ rest) = .ok (number, behind)) :
    ∃ x, number = .real x := by
  rcases integer with rfl | ⟨all, head⟩
  · simp [Nat.ofDigitChars_cons, Nat.ofDigitChars_nil] at large
  · obtain ⟨c, more, rfl, digit, all⟩ := all.exists_cons
    have nonzero : c ≠ '0' := by simpa using head
    have within : digitValue c ≤ greatestInteger :=
      Nat.le_trans (Nat.le_of_lt (digitValue_lt digit)) (by decide)
    rw [Nat.ofDigitChars_cons, Nat.mul_zero, Nat.zero_add] at large
    obtain ⟨d, left, stops, further⟩ := extend_stops all within large rest
    have skipped := skipDigits_extend greatestInteger (digitValue c) (more ++ rest)
    rw [skipDigits_append all delimited.head] at skipped
    simp only [List.cons_append, unsigned, nonzero, if_false, digit, if_true, skipped] at read
    refine exists_of_afterInteger ?_ delimited read
    rw [stops, List.takeWhile_cons_of_pos further]
    simp

theorem number_of_digits (integer : IsInteger digits) (rest : List Char) :
    Json.number (digits ++ rest) = unsigned false (digits ++ rest) := by
  obtain ⟨c, more, rfl, digit⟩ := integer.exists_cons
  have sign : c ≠ '-' := by
    rintro rfl
    simp at digit
  simp [Json.number, sign]

/-- Digits without a sign are exact up to the greatest integer. -/
theorem read_of_isInteger (integer : IsInteger digits) (delimited : Delimited rest)
    (read : Json.number (digits ++ rest) = .ok (number, behind)) {n : Nat}
    (written : Nat.ofDigitChars 10 digits 0 = n) :
    (IsExact digits n ∧ number = .integer n ∧ digits = printInteger n) ∨
      ¬IsExact digits n ∧ ∃ x, number = .real x := by
  have bound : greatestInteger = 2 ^ 64 - 1 := rfl
  have printed : digits = printInteger n := written ▸ integer.eq_printInteger
  by_cases small : n ≤ greatestInteger
  · have found := @number_printInteger n (by omega) (by omega) rest delimited
    rw [← printed, read] at found
    obtain ⟨rfl, _⟩ := Prod.mk.inj (Except.ok.inj found)
    refine .inl ⟨⟨?_, by omega, by omega⟩, rfl, printed⟩
    rintro rfl
    obtain ⟨c, more, same, digit⟩ := integer.exists_cons
    obtain rfl := (List.cons.inj same).1
    simp at digit
  · rw [number_of_digits integer] at read
    exact .inr ⟨fun exact => by have := exact.2.2; omega,
      exists_of_large integer (by omega) delimited read⟩

/-- Digits behind a sign are exact down to the least integer, but for a zero. -/
theorem read_of_negative (integer : IsInteger digits) (delimited : Delimited rest)
    (read : Json.number ('-' :: digits ++ rest) = .ok (number, behind)) {n : Nat}
    (written : Nat.ofDigitChars 10 digits 0 = n) :
    (IsExact ('-' :: digits) (-n) ∧ number = .integer (-n) ∧ '-' :: digits = printInteger (-n)) ∨
      ¬IsExact ('-' :: digits) (-n) ∧ ∃ x, number = .real x := by
  have bound : greatestInteger = 2 ^ 64 - 1 := rfl
  have least : leastIntegerSize = 2 ^ 63 := rfl
  have printed : digits = Nat.toDigits 10 n := written ▸ integer.eq_toDigits
  have behindSign : unsigned true (digits ++ rest) = .ok (number, behind) := by
    simpa [Json.number] using read
  by_cases small : n ≤ greatestInteger
  · have found := unsigned_toDigits small true delimited
    rw [← printed, behindSign] at found
    obtain ⟨rfl, _⟩ := Prod.mk.inj (Except.ok.inj found)
    by_cases kind : 0 < n ∧ n ≤ leastIntegerSize
    · refine .inl ⟨⟨?_, by omega, by omega⟩, by simp [integerNumber, kind], ?_⟩
      · intro same
        have zero : Nat.ofDigitChars 10 ['0'] 0 = 0 := rfl
        rw [(List.cons.inj same).2] at written
        omega
      · rw [printInteger_neg kind.1, Nat.toString_eq_repr, Nat.toList_repr, ← printed]
    · refine .inr ⟨fun exact => ?_, by simp [integerNumber, kind]⟩
      have lower := exact.2.1
      obtain rfl : n = 0 := by omega
      exact exact.1 (by rw [printed, Nat.toDigits_zero])
  · exact .inr ⟨fun exact => by have := exact.2.1; omega,
      exists_of_large integer (by omega) delimited behindSign⟩

/-- A literal is read as its number where it is exact, and as a double elsewhere. -/
theorem WritesInteger.read (writes : WritesInteger literal value) (delimited : Delimited rest)
    (read : Json.number (literal ++ rest) = .ok (number, behind)) :
    (IsExact literal value ∧ number = .integer value ∧ literal = printInteger value) ∨
      ¬IsExact literal value ∧ ∃ x, number = .real x := by
  cases writes with
  | positive integer => exact read_of_isInteger integer delimited read rfl
  | negative integer => exact read_of_negative integer delimited read rfl

theorem WritesInteger.exists_cons (writes : WritesInteger literal value) :
    ∃ c more, literal = c :: more ∧ (c = '-' ∨ c.isDigit = true) := by
  cases writes with
  | positive integer =>
      obtain ⟨c, more, same, digit⟩ := integer.exists_cons
      exact ⟨c, more, same, .inr digit⟩
  | negative _ => exact ⟨'-', _, rfl, .inl rfl⟩

theorem scalar_number {c : Char} (starts : c = '-' ∨ c.isDigit = true) (text : List Char) :
    scalar (c :: text) = (Json.number (c :: text)).map Json.num := by
  have others : c ≠ 'n' ∧ c ≠ 't' ∧ c ≠ 'f' ∧ c ≠ '"' := by
    refine ⟨?_, ?_, ?_, ?_⟩ <;>
      · rintro rfl
        simp at starts
  simp only [scalar, others, starts, if_false, if_true]

/-- What an integer literal is read as, wherever it stands. -/
theorem WritesInteger.gives {levels : Nat} {json : Json} (writes : WritesInteger literal value)
    (given : (Json.value levels).Gives (.scalar literal) json) :
    (IsExact literal value ∧ json = .num (.integer value) ∧ literal = printInteger value) ∨
      ¬IsExact literal value ∧ ∃ x, json = .num (.real x) := by
  cases readAs_of_gives given with
  | scalar delimited scalar =>
      obtain ⟨c, more, same, starts⟩ := writes.exists_cons
      rw [same, List.cons_append, scalar_number starts, ← List.cons_append, ← same] at scalar
      obtain ⟨number, read, rfl⟩ := Step.map_eq_ok scalar
      rcases writes.read delimited read with ⟨exact, rfl, printed⟩ | ⟨inexact, x, rfl⟩
      · exact .inl ⟨exact, rfl, printed⟩
      · exact .inr ⟨inexact, x, rfl⟩

end Reading

/-! ## Texts of doubles -/

/-- Behind the sign of an integer literal there are digits only. -/
theorem WritesInteger.mem {literal : List Char} {value : Int} (writes : WritesInteger literal value)
    {c : Char} (mem : c ∈ literal) : c = '-' ∨ c.isDigit = true := by
  have digit {digits : List Char} (integer : IsInteger digits) (mem : c ∈ digits) :
      c.isDigit = true := by
    rcases integer with rfl | ⟨all, _⟩
    · obtain rfl := List.mem_singleton.mp mem
      decide
    · exact all.2 c mem
  cases writes with
  | positive integer => exact .inr (digit integer mem)
  | negative integer => exact (List.mem_cons.mp mem).imp_right (digit integer)

/-- A fraction has a point, and an exponent has a mark. -/
theorem exists_mem_of_isReal {chars : List Char} (real : Decimal.IsReal chars) :
    ∃ c ∈ chars, c ≠ '-' ∧ c.isDigit = false := by
  obtain ⟨whole, part, power, _, fraction, exponent, either, rfl⟩ := real
  rcases fraction with rfl | ⟨digits, _, rfl⟩
  · rcases exponent with rfl | ⟨mark, sign, digits, marks, _, _, rfl⟩
    · simp at either
    · refine ⟨mark, by simp, ?_⟩
      simp only [isExponentMark, Bool.or_eq_true, beq_iff_eq] at marks
      rcases marks with rfl | rfl <;> decide
  · exact ⟨'.', by simp, by decide, by decide⟩

/-- The text of a double is never that of an integer. -/
theorem not_writesInteger_text (x : Binary64) (value : Int) : ¬WritesInteger x.text value := by
  intro writes
  obtain ⟨chars, real, written⟩ := x.exists_isReal
  obtain ⟨c, mem, sign, digit⟩ := exists_mem_of_isReal real
  have inside : c ∈ x.text := by
    rw [written]
    split
    · exact List.mem_cons_of_mem _ mem
    · exact mem
  rcases writes.mem inside with same | isDigit
  · exact sign same
  · rw [isDigit] at digit
    cases digit

end DriverUplift.Json
