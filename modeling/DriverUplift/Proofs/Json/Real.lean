import DriverUplift.Proofs.Json.Outline
import Mathlib.Algebra.Order.Field.Power
import Mathlib.Tactic.Linarith
import Mathlib.Tactic.Positivity

/-!
# The text of a double

The text of a double is a number of the grammar, and it is never that of an integer: it
always has a fraction or an exponent.  For that the digits must not be those of zero
where zeros are appended to them; the shortest decimal of a positive double has no
such digits, since zero does not round to it.
-/

namespace DriverUplift

open Json

/-! ## Digits -/

namespace Decimal

theorem isDigit_of_mem {n : Nat} {c : Char} (mem : c ∈ (toString n).toList) : c.isDigit = true := by
  rw [Nat.toString_eq_repr, Nat.toList_repr] at mem
  exact Nat.isDigit_of_mem_toDigits (by decide) (by decide) mem

theorem isDigits_toString (n : Nat) : IsDigits (toString n).toList := by
  refine ⟨?_, fun c mem => isDigit_of_mem mem⟩
  rw [Nat.toString_eq_repr, Nat.toList_repr]
  exact Nat.toDigits_ne_nil

theorem head_toString {n : Nat} (positive : n ≠ 0) : (toString n).toList.head? ≠ some '0' := by
  rw [Nat.toString_eq_repr, Nat.toList_repr]
  intro zero
  obtain ⟨more, written⟩ := List.head?_eq_some_iff.mp zero
  exact head_toDigits_ne_zero (Nat.pos_of_ne_zero positive) written rfl

/-- One digit is an integer, be it a zero or not. -/
theorem isInteger_singleton {c : Char} (digit : c.isDigit = true) : IsInteger [c] := by
  by_cases zero : c = '0'
  · exact .inl (by rw [zero])
  · exact .inr ⟨⟨by simp, by simpa using digit⟩, by simpa using zero⟩

theorem isInteger_of_head {digits : List Char} (all : IsDigits digits)
    (head : digits.head? ≠ some '0') : IsInteger digits :=
  .inr ⟨all, head⟩

/-! ## Texts of decimals -/

def IsReal (chars : List Char) : Prop :=
  ∃ whole part power, IsInteger whole ∧ IsFraction part ∧ IsExponent power ∧
    (part ≠ [] ∨ power ≠ []) ∧ chars = whole ++ (part ++ power)

theorem isFraction_cons {digits : List Char} (all : IsDigits digits) : IsFraction ('.' :: digits) :=
  .inr ⟨digits, all, rfl⟩

/-- With a power of ten behind it the text is real whatever its front is. -/
theorem isReal_scientific {whole part : List Char} (integer : IsInteger whole)
    (fraction : IsFraction part) (up : Prop) [Decidable up] (n : Nat) :
    IsReal (whole ++ part ++ 'e' :: (if up then ['+'] else ['-']) ++ (toString n).toList) := by
  refine ⟨whole, part, 'e' :: ((if up then ['+'] else ['-']) ++ (toString n).toList), integer,
    fraction, .inr ⟨'e', if up then ['+'] else ['-'], (toString n).toList, rfl, ?_,
      isDigits_toString n, rfl⟩, .inr (by simp), by simp⟩
  by_cases h : up
  · simp [h]
  · simp [h]

theorem isReal_plain {whole digits : List Char} (integer : IsInteger whole)
    (all : IsDigits digits) : IsReal (whole ++ '.' :: digits) :=
  ⟨whole, '.' :: digits, [], integer, isFraction_cons all, .inl rfl, .inl (by simp), by simp⟩

/-- Zeros may only be appended to the digits of a positive number. -/
def Writable (d : Decimal) : Prop :=
  d.digits = 0 → d.exponent ≤ 0

theorem isInteger_toString (n : Nat) : IsInteger (toString n).toList := by
  by_cases zero : n = 0
  · subst zero
    exact .inl rfl
  · exact isInteger_of_head (isDigits_toString n) (head_toString zero)

theorem isInteger_zeros {n zeros : Nat} (writable : n = 0 → zeros = 0) :
    IsInteger ((toString n).toList ++ List.replicate zeros '0') := by
  by_cases zero : n = 0
  · rw [writable zero, List.replicate_zero, List.append_nil]
    exact isInteger_toString n
  · obtain ⟨c, more, same, _, _⟩ := (isDigits_toString n).exists_cons
    refine isInteger_of_head ⟨by simp, fun d mem => ?_⟩ ?_
    · rcases List.mem_append.mp mem with mem | mem
      · exact isDigit_of_mem mem
      · rw [List.eq_of_mem_replicate mem]
        rfl
    · have head := head_toString zero
      rw [same] at head ⊢
      exact head

/-- A front of the digits of a number with more than one of them. -/
theorem isInteger_take {n count : Nat} (some_ : 0 < count)
    (fewer : count < (toString n).toList.length) : IsInteger ((toString n).toList.take count) := by
  have positive : n ≠ 0 := by
    rintro rfl
    have : (toString 0).toList.length = 1 := rfl
    omega
  have head := head_toString positive
  obtain ⟨c, more, same, _, _⟩ := (isDigits_toString n).exists_cons
  obtain ⟨count, rfl⟩ := Nat.exists_eq_add_of_lt some_
  refine isInteger_of_head ⟨by simp, fun d mem => isDigit_of_mem (List.mem_of_mem_take mem)⟩ ?_
  rw [same] at head ⊢
  simpa using head

theorem isDigits_drop {n count : Nat} (fewer : count < (toString n).toList.length) :
    IsDigits ((toString n).toList.drop count) :=
  ⟨by simpa using fewer, fun _ mem => isDigit_of_mem (List.mem_of_mem_drop mem)⟩

theorem isDigits_zeros (n zeros : Nat) :
    IsDigits (List.replicate zeros '0' ++ (toString n).toList) := by
  refine ⟨fun nothing => (isDigits_toString n).1 (List.append_eq_nil_iff.mp nothing).2, ?_⟩
  intro d mem
  rcases List.mem_append.mp mem with mem | mem
  · rw [List.eq_of_mem_replicate mem]
    rfl
  · exact isDigit_of_mem mem

/-- The first digit stands in front of the point, if there is more than one. -/
theorem exists_mantissa (n : Nat) :
    ∃ whole part, IsInteger whole ∧ IsFraction part ∧
      (match (toString n).toList with
        | first :: second :: rest => first :: '.' :: second :: rest
        | short => short) = whole ++ part := by
  split
  · rename_i first second rest same
    have all := isDigits_toString n
    rw [same] at all
    have digit := all.2 first (List.mem_cons_self ..)
    have behind : IsDigits (second :: rest) :=
      ⟨by simp, fun c mem => all.2 c (List.mem_cons_of_mem _ mem)⟩
    exact ⟨[first], '.' :: second :: rest, isInteger_singleton digit, isFraction_cons behind, rfl⟩
  · exact ⟨_, [], isInteger_toString n, .inl rfl, (List.append_nil _).symm⟩

/-- The text of a decimal is real in each of its four forms. -/
theorem Writable.isReal_text {d : Decimal} (writable : d.Writable) : IsReal d.text := by
  obtain ⟨whole, part, integer, fraction, front⟩ := exists_mantissa d.digits
  unfold text
  extract_lets digits leading sign mantissa
  have place : leading = (digits.length : Int) - 1 + d.exponent := rfl
  have front : mantissa = whole ++ part := front
  split
  · rw [front]
    simpa using isReal_scientific integer fraction (0 ≤ leading) leading.natAbs
  · split
    · have zeros : d.digits = 0 → d.exponent.toNat = 0 := fun zero => by
        have := writable zero
        omega
      exact isReal_plain (isInteger_zeros zeros) ⟨by simp, by simp⟩
    · split
      · have fewer : leading.toNat + 1 < digits.length := by omega
        exact isReal_plain (isInteger_take (Nat.succ_pos _) fewer) (isDigits_drop fewer)
      · exact isReal_plain (.inl rfl) (isDigits_zeros d.digits (-leading - 1).toNat)

/-! ## The shortest decimal -/

theorem digits_strip {fuel : Nat} {d : Decimal} (positive : d.digits ≠ 0) :
    (strip fuel d).digits ≠ 0 := by
  induction fuel generalizing d with
  | zero => exact positive
  | succ fuel ih =>
      rw [strip]
      split
      · rename_i tens
        exact ih (show d.digits / 10 ≠ 0 by omega)
      · exact positive

section Shortest

variable {x : Binary64}

/-- The numbers that round to a positive double are positive. -/
theorem roundingInterval_pos (positive : x.mantissa ≠ 0) : 0 < (roundingInterval x).1 := by
  have place : (0 : Rat) < 2 ^ x.exponent := by positivity
  have size : (2 : Rat) ^ x.exponent ≤ x.magnitude := by
    have one : (1 : Rat) ≤ x.mantissa := by exact_mod_cast Nat.one_le_iff_ne_zero.mpr positive
    exact le_mul_of_one_le_left place.le one
  simp only [roundingInterval]
  split <;> linarith

theorem roundsTo_zero (positive : x.mantissa ≠ 0) : roundsTo x 0 = false := by
  have low := roundingInterval_pos positive
  unfold roundsTo
  split
  rename_i least greatest interval
  rw [interval] at low
  simp [low.not_ge, low.not_gt]

theorem digits_of_withDigits? (positive : x.mantissa ≠ 0) {leading : Int} {count : Nat}
    {d : Decimal} (found : withDigits? x leading count = some d) : d.digits ≠ 0 := by
  have rounds {digits : Nat} {place : Int} (rounds : roundsTo x (value ⟨digits, place⟩) = true) :
      digits ≠ 0 := by
    rintro rfl
    simp [value, roundsTo_zero positive] at rounds
  unfold withDigits? at found
  extract_lets place below low high left right at found
  split at found
  · cases found
  · rename_i lowRounds _
    exact Option.some.inj found ▸ rounds lowRounds
  · exact Option.some.inj found ▸ Nat.succ_ne_zero below
  · rename_i lowRounds _
    obtain rfl := Option.some.inj found
    split
    · exact rounds lowRounds
    · exact Nat.succ_ne_zero below

theorem writable_shortest (x : Binary64) : (shortest x).Writable := by
  unfold shortest
  split
  · exact fun _ => Int.le_refl 0
  · rename_i positive
    extract_lets leading found
    cases search : found with
    | none => exact fun _ => Int.le_refl 0
    | some d =>
        obtain ⟨fewer, _, taken⟩ := List.exists_of_findSome?_eq_some search
        exact fun zero => absurd zero (digits_strip (digits_of_withDigits? positive taken))

end Shortest

end Decimal

/-! ## Texts of doubles -/

/-- A double is written with a fraction or an exponent, behind its sign. -/
theorem Binary64.exists_isReal (x : Binary64) :
    ∃ chars, Decimal.IsReal chars ∧ x.text = (if x.negative then '-' :: chars else chars) :=
  ⟨_, (Decimal.writable_shortest x).isReal_text, rfl⟩

end DriverUplift
