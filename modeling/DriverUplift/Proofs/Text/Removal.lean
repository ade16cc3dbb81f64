import DriverUplift.Text.Occurrence

/-!
# Removing a pattern

Removal takes an occurrence away where the text starts with one, and keeps a
character where it does not.  Nothing is left of a text exactly if it is the
pattern again and again.
-/

namespace DriverUplift.Text

variable {pattern : List Char}

theorem strip?_eq_none_iff {text : List Char} : strip? pattern text = none ↔ ¬pattern <+: text := by
  rw [Option.eq_none_iff_forall_ne_some]
  constructor
  · rintro absent ⟨rest, rfl⟩
    exact absent rest (strip?_append pattern rest)
  · intro absent rest found
    exact absent ⟨rest, (strip?_eq_some_iff.mp found).symm⟩

/-- What is still to be dropped of an occurrence can be dropped at once. -/
theorem removeFrom_eq (pattern : List Char) (pending : Nat) (text : List Char) :
    removeFrom pattern pending text = remove pattern (text.drop pending) := by
  induction text generalizing pending with
  | nil => cases pending <;> rfl
  | cons c text ih =>
      cases pending with
      | zero => rfl
      | succ pending => exact ih pending

/-- An occurrence at the front is taken away. -/
theorem remove_append (nonempty : pattern ≠ []) (rest : List Char) :
    remove pattern (pattern ++ rest) = remove pattern rest := by
  cases pattern with
  | nil => exact absurd rfl nonempty
  | cons p tail =>
      have stripped := strip?_append (p :: tail) rest
      rw [List.cons_append] at stripped ⊢
      rw [remove, removeFrom, stripped]
      simp [removeFrom_eq]

/-- A character at which no occurrence starts is kept. -/
theorem remove_cons {c : Char} {text : List Char} (absent : strip? pattern (c :: text) = none) :
    remove pattern (c :: text) = c :: remove pattern text := by
  rw [remove, removeFrom, absent, ← remove]

/-- A text is read as removal reads it: an occurrence or a character at a time. -/
theorem removal_induction {motive : List Char → Prop} (nonempty : pattern ≠ [])
    (nil : motive [])
    (drop : ∀ rest, motive rest → motive (pattern ++ rest))
    (keep : ∀ c text, strip? pattern (c :: text) = none → motive text → motive (c :: text)) :
    ∀ text, motive text
  | [] => nil
  | c :: text => by
      cases stripped : strip? pattern (c :: text) with
      | none => exact keep c text stripped (removal_induction nonempty nil drop keep text)
      | some rest =>
          have split := strip?_eq_some_iff.mp stripped
          have shorter : rest.length < (c :: text).length := by
            rw [split, List.length_append]
            exact Nat.lt_add_of_pos_left (List.length_pos_iff.mpr nonempty)
          rw [split]
          exact drop rest (removal_induction nonempty nil drop keep rest)
termination_by text => text.length
decreasing_by
  · exact Nat.lt_succ_self _
  · exact shorter

/-- What is left of a text is no longer than the text. -/
theorem length_remove_le (nonempty : pattern ≠ []) (text : List Char) :
    (remove pattern text).length ≤ text.length := by
  induction text using removal_induction nonempty with
  | nil => exact Nat.le_refl 0
  | drop rest ih =>
      rw [remove_append nonempty, List.length_append]
      exact Nat.le_add_left_of_le ih
  | keep c text absent ih =>
      rw [remove_cons absent]
      exact Nat.succ_le_succ ih

/-- A text stays as it is exactly if the pattern does not occur in it. -/
theorem remove_eq_self_iff (nonempty : pattern ≠ []) {text : List Char} :
    remove pattern text = text ↔ ¬pattern <:+: text := by
  induction text using removal_induction nonempty with
  | nil => simp [remove, removeFrom, nonempty]
  | drop rest ih =>
      rw [remove_append nonempty]
      refine iff_of_false ?_ fun absent => absent (List.prefix_append pattern rest).isInfix
      intro same
      have longer := congrArg List.length same
      have bound := length_remove_le nonempty rest
      have positive := List.length_pos_iff.mpr nonempty
      rw [List.length_append] at longer
      omega
  | keep c text absent ih =>
      rw [remove_cons absent, List.cons_inj_right, ih, List.infix_cons_iff,
        or_iff_right (strip?_eq_none_iff.mp absent)]

theorem exists_replicate_of_remove (nonempty : pattern ≠ []) {text : List Char} :
    remove pattern text = [] → ∃ count, text = (List.replicate count pattern).flatten := by
  induction text using removal_induction nonempty with
  | nil => exact fun _ => ⟨0, rfl⟩
  | drop rest ih =>
      intro nothing
      rw [remove_append nonempty] at nothing
      obtain ⟨count, again⟩ := ih nothing
      refine ⟨count + 1, ?_⟩
      rw [List.replicate_succ, List.flatten_cons, ← again]
  | keep c text absent ih =>
      intro nothing
      rw [remove_cons absent] at nothing
      cases nothing

/-- Nothing is left of a text exactly if it is the pattern, any number of times. -/
theorem remove_eq_nil_iff (nonempty : pattern ≠ []) {text : List Char} :
    remove pattern text = [] ↔ ∃ count, text = (List.replicate count pattern).flatten := by
  constructor
  · exact exists_replicate_of_remove nonempty
  · rintro ⟨count, rfl⟩
    induction count with
    | zero => rfl
    | succ count ih =>
        rw [List.replicate_succ, List.flatten_cons, remove_append nonempty, ih]

end DriverUplift.Text
