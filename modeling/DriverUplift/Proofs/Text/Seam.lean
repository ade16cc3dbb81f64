import DriverUplift.Proofs.Text.Removal
import Mathlib.Data.List.Infix

/-!
# Seams between texts

Removal works on two texts alone if no occurrence of the pattern goes over the seam
between them.  A pattern that no proper part both starts and ends cannot overlap
itself, so both ends of every occurrence are such seams, and a text can be cut at
whichever occurrence one likes.
-/

namespace DriverUplift.Text

/-- Only the whole pattern, and nothing at all, both starts and ends the pattern. -/
structure Unbordered (pattern : List Char) : Prop where
  ne_nil : pattern ≠ []
  eq_of_border : ∀ border, border <:+ pattern → border <+: pattern → border ≠ [] →
    border = pattern

instance (pattern : List Char) : Decidable (Unbordered pattern) :=
  decidable_of_iff
    (pattern ≠ [] ∧ ∀ border ∈ pattern.tails, border <+: pattern → border ≠ [] → border = pattern)
    ⟨fun h => ⟨h.1, fun border ends => h.2 border ((List.mem_tails border pattern).mpr ends)⟩,
      fun h => ⟨h.ne_nil, fun border ends =>
        h.eq_of_border border ((List.mem_tails border pattern).mp ends)⟩⟩

/-- No occurrence of the pattern goes over the seam between two texts. -/
def Sealed (pattern front rest : List Char) : Prop :=
  ∀ head tail, head ++ tail = pattern → head <:+ front → tail <+: rest → head = [] ∨ tail = []

section Seams

variable {pattern front rest head tail : List Char}

theorem Sealed.of_suffix {less : List Char} (closed : Sealed pattern front rest)
    (ends : less <:+ front) : Sealed pattern less rest := by
  intro head tail joined finish
  exact closed head tail joined (finish.trans ends)

/-- An occurrence that starts in front of a seam ends there too. -/
theorem Sealed.start_iff (closed : Sealed pattern front rest) (nonempty : front ≠ []) :
    pattern <+: front ++ rest ↔ pattern <+: front := by
  constructor
  · rintro ⟨behind, split⟩
    rcases List.append_eq_append_iff.mp split with ⟨more, whole, _⟩ | ⟨tail, joined, start⟩
    · exact ⟨more, whole.symm⟩
    · rcases closed front tail joined.symm List.suffix_rfl ⟨behind, start.symm⟩ with none | none
      · exact absurd none nonempty
      · rw [none, List.append_nil] at joined
        exact joined ▸ List.prefix_rfl
  · intro start
    exact start.trans (List.prefix_append front rest)

/-- Removal works on both sides of a seam alone. -/
theorem remove_append_of_sealed (nonempty : pattern ≠ []) (closed : Sealed pattern front rest) :
    remove pattern (front ++ rest) = remove pattern front ++ remove pattern rest := by
  induction front using removal_induction nonempty with
  | nil => rfl
  | drop front ih =>
      have behind := closed.of_suffix (List.suffix_append pattern front)
      rw [List.append_assoc, remove_append nonempty, remove_append nonempty, ih behind]
  | keep c front absent ih =>
      have behind := closed.of_suffix (List.suffix_cons c front)
      have still : strip? pattern (c :: (front ++ rest)) = none := by
        rw [strip?_eq_none_iff] at absent ⊢
        exact fun start => absent ((closed.start_iff (List.cons_ne_nil c front)).mp start)
      rw [List.cons_append, remove_cons still, remove_cons absent, ih behind, List.cons_append]

namespace Unbordered

variable (unbordered : Unbordered pattern)
include unbordered

/-- Of two parts of the pattern the second starts the pattern only if one of them is empty. -/
theorem eq_nil_of_start (joined : head ++ tail = pattern) (start : tail <+: pattern) :
    head = [] ∨ tail = [] := by
  by_cases empty : tail = []
  · exact .inr empty
  · have whole := unbordered.eq_of_border tail ⟨head, joined⟩ start empty
    rw [whole] at joined
    exact .inl (List.append_left_eq_self.mp joined)

/-- Of two parts of the pattern the first ends the pattern only if one of them is empty. -/
theorem eq_nil_of_end (joined : head ++ tail = pattern) (ends : head <:+ pattern) :
    head = [] ∨ tail = [] := by
  by_cases empty : head = []
  · exact .inl empty
  · have whole := unbordered.eq_of_border head ends ⟨tail, joined⟩ empty
    rw [whole] at joined
    exact .inr (List.append_right_eq_self.mp joined)

/-- No occurrence goes over the front of another one. -/
theorem sealed_append (front rest : List Char) : Sealed pattern front (pattern ++ rest) := by
  intro head tail joined _ start
  apply unbordered.eq_nil_of_start joined
  refine List.prefix_of_prefix_length_le start (List.prefix_append pattern rest) ?_
  exact List.IsSuffix.length_le ⟨head, joined⟩

/-- No occurrence goes over the front of a part that starts the pattern. -/
theorem sealed_of_prefix (front : List Char) (starts : rest <+: pattern) :
    Sealed pattern front rest := by
  intro head tail joined _ start
  exact unbordered.eq_nil_of_start joined (start.trans starts)

/-- No occurrence goes over the end of a part that ends the pattern. -/
theorem sealed_of_suffix (rest : List Char) (ends : front <:+ pattern) :
    Sealed pattern front rest := by
  intro head tail joined finish _
  exact unbordered.eq_nil_of_end joined (finish.trans ends)

/-- Removal works on both sides of any occurrence alone. -/
theorem remove_cut (front rest : List Char) :
    remove pattern (front ++ (pattern ++ rest)) = remove pattern front ++ remove pattern rest := by
  rw [remove_append_of_sealed unbordered.ne_nil (unbordered.sealed_append front rest),
    remove_append unbordered.ne_nil]

/-- Within an occurrence no other one starts. -/
theorem start_drop_iff {skipped : Nat} (within : skipped < pattern.length) :
    pattern <+: pattern.drop skipped ++ rest ↔ skipped = 0 := by
  constructor
  · intro start
    have border : pattern.drop skipped <+: pattern := by
      refine List.prefix_of_prefix_length_le (List.prefix_append _ rest) start ?_
      exact (List.drop_suffix skipped pattern).length_le
    rcases unbordered.eq_nil_of_start (List.take_append_drop skipped pattern) border with
      none | none
    · rcases List.take_eq_nil_iff.mp none with zero | empty
      · exact zero
      · exact absurd empty unbordered.ne_nil
    · exact absurd (List.drop_eq_nil_iff.mp none) (Nat.not_le.mpr within)
  · rintro rfl
    exact List.prefix_append pattern rest

end Unbordered

end Seams

end DriverUplift.Text
