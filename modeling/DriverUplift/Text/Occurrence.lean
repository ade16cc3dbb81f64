/-!
# Occurrences of a pattern in a text

Texts are lists of characters here.  `strip?` looks for a pattern at the front
of a text, `remove` deletes every occurrence from left to right, and
`trimEnd` drops one trailing character as often as it is repeated.
-/

namespace DriverUplift.Text

def strip? : List Char → List Char → Option (List Char)
  | [], text => some text
  | _ :: _, [] => none
  | p :: pattern, c :: text => if p = c then strip? pattern text else none

@[simp]
theorem strip?_nil (text : List Char) : strip? [] text = some text := by
  cases text <;> rfl

@[simp]
theorem strip?_append (pattern rest : List Char) :
    strip? pattern (pattern ++ rest) = some rest := by
  induction pattern with
  | nil => simp
  | cons p pattern ih => simp [strip?, ih]

/-- Stripping undoes nothing but a concatenation. -/
theorem strip?_eq_some_iff {pattern text rest : List Char} :
    strip? pattern text = some rest ↔ text = pattern ++ rest := by
  constructor
  · intro h
    induction pattern generalizing text with
    | nil => simpa using h
    | cons p pattern ih =>
        cases text with
        | nil => simp [strip?] at h
        | cons c text =>
            by_cases same : p = c
            · simp only [strip?, same, if_true] at h
              simp [same, ih h]
            · simp [strip?, same] at h
  · rintro rfl
    exact strip?_append pattern rest

/--
Delete every occurrence of the pattern, scanning from the left and never
rescanning what has been kept.  The counter says how many characters of the
occurrence that was found last are still to be dropped.
-/
def removeFrom (pattern : List Char) : Nat → List Char → List Char
  | _, [] => []
  | pending + 1, _ :: text => removeFrom pattern pending text
  | 0, c :: text =>
      match strip? pattern (c :: text) with
      | some _ => removeFrom pattern (pattern.length - 1) text
      | none => c :: removeFrom pattern 0 text

def remove (pattern text : List Char) : List Char :=
  removeFrom pattern 0 text

def trimEnd (mark : Char) (text : List Char) : List Char :=
  (text.reverse.dropWhile (· == mark)).reverse

theorem trimEnd_append_replicate (mark : Char) (text : List Char) (count : Nat) :
    trimEnd mark (text ++ List.replicate count mark) = trimEnd mark text := by
  unfold trimEnd
  rw [List.reverse_append, List.reverse_replicate]
  congr 1
  induction count with
  | zero => rfl
  | succ count ih =>
      rw [List.replicate_succ, List.cons_append, List.dropWhile_cons_of_pos (by simp), ih]

end DriverUplift.Text
