import DriverUplift.Proofs.Text.Seam
import Mathlib.Data.List.Nodup

/-!
# Pieces between occurrences

The occurrences of a pattern that cannot overlap itself lie apart in every text.
What removal leaves of the text is what stands between all of them.
-/

namespace DriverUplift.Text

/-- The places of the pattern in the text, as numbers of characters in front of it. -/
def places (pattern text : List Char) : List Nat :=
  (List.range text.length).filter fun place => pattern.isPrefixOf (text.drop place)

/-- What stands, from a start on, between parts of a given width at given places. -/
def between (width : Nat) (text : List Char) : Nat → List Nat → List (List Char)
  | start, [] => [text.drop start]
  | start, place :: places =>
      (text.take place).drop start :: between width text (place + width) places

def pieces (pattern text : List Char) : List (List Char) :=
  between pattern.length text 0 (places pattern text)

section Pieces

variable {pattern text : List Char}

theorem mem_places_iff (nonempty : pattern ≠ []) {place : Nat} :
    place ∈ places pattern text ↔ pattern <+: text.drop place := by
  rw [places, List.mem_filter, List.mem_range, List.isPrefixOf_iff_prefix, and_iff_right_iff_imp]
  intro start
  by_contra beyond
  rw [List.drop_eq_nil_of_le (Nat.not_lt.mp beyond), List.prefix_nil] at start
  exact nonempty start

/-- The places on both sides of a seam are the places of the two sides. -/
theorem places_append_of_sealed {front rest : List Char} (closed : Sealed pattern front rest) :
    places pattern (front ++ rest) =
      places pattern front ++ (places pattern rest).map (front.length + ·) := by
  have before : ∀ place ∈ List.range front.length,
      pattern.isPrefixOf ((front ++ rest).drop place) = pattern.isPrefixOf (front.drop place) := by
    intro place mem
    have inside := List.mem_range.mp mem
    rw [List.drop_append_of_le_length (Nat.le_of_lt inside), Bool.eq_iff_iff,
      List.isPrefixOf_iff_prefix, List.isPrefixOf_iff_prefix]
    apply (closed.of_suffix (List.drop_suffix place front)).start_iff
    rw [ne_eq, List.drop_eq_nil_iff]
    exact Nat.not_le.mpr inside
  rw [places, List.length_append, List.range_add, List.filter_append, List.filter_congr before,
    List.filter_map]
  simp only [Function.comp_def, List.drop_length_add_append]
  rfl

theorem places_eq_nil (nonempty : pattern ≠ []) (absent : ¬pattern <:+: text) :
    places pattern text = [] := by
  apply List.eq_nil_iff_forall_not_mem.mpr
  intro place mem
  have start := (mem_places_iff nonempty).mp mem
  exact absent (start.isInfix.trans (List.drop_suffix place text).isInfix)

theorem pieces_eq_self (nonempty : pattern ≠ []) (absent : ¬pattern <:+: text) :
    pieces pattern text = [text] := by
  rw [pieces, places_eq_nil nonempty absent, between, List.drop_zero]

/-- A text without the pattern is one piece; any other one is cut at an occurrence. -/
theorem cut_induction {motive : List Char → Prop} (nonempty : pattern ≠ [])
    (free : ∀ text, ¬pattern <:+: text → motive text)
    (cut : ∀ front rest, motive front → motive rest → motive (front ++ (pattern ++ rest)))
    (text : List Char) : motive text := by
  by_cases occurs : pattern <:+: text
  · obtain ⟨front, rest, rfl⟩ := occurs
    have positive := List.length_pos_iff.mpr nonempty
    rw [List.append_assoc]
    exact cut front rest (cut_induction nonempty free cut front)
      (cut_induction nonempty free cut rest)
  · exact free text occurs
termination_by text.length
decreasing_by all_goals subst_vars; simp only [List.length_append]; omega

theorem between_append (width : Nat) (front rest : List Char) (start : Nat) (first more : List Nat)
    (inside : ∀ place ∈ first, place ≤ front.length) :
    between width (front ++ rest) start (first ++ front.length :: more) =
      between width front start first ++
        between width (front ++ rest) (front.length + width) more := by
  induction first generalizing start with
  | nil => simp [between]
  | cons place first ih =>
      obtain ⟨here, later⟩ := List.forall_mem_cons.mp inside
      rw [List.cons_append, between, between, ih (place + width) later, List.cons_append,
        List.take_append_of_le_length here]

theorem between_shift (width : Nat) (front rest : List Char) (start : Nat) (more : List Nat) :
    between width (front ++ rest) (front.length + start) (more.map (front.length + ·)) =
      between width rest start more := by
  induction more generalizing start with
  | nil => rw [List.map_nil, between, between, List.drop_length_add_append]
  | cons place more ih =>
      rw [List.map_cons, between, between, List.take_length_add_append,
        List.drop_length_add_append, Nat.add_assoc, ih]

theorem le_of_mem_places {place : Nat} (mem : place ∈ places pattern text) :
    place ≤ text.length :=
  Nat.le_of_lt (List.mem_range.mp (List.mem_filter.mp mem).1)

theorem pieces_ne_nil (pattern text : List Char) : pieces pattern text ≠ [] := by
  rw [pieces]
  cases places pattern text <;> exact List.cons_ne_nil _ _

theorem intercalate_append (separator : List Char) {left right : List (List Char)}
    (leftNonempty : left ≠ []) (rightNonempty : right ≠ []) :
    separator.intercalate (left ++ right) =
      separator.intercalate left ++ (separator ++ separator.intercalate right) := by
  induction left with
  | nil => exact absurd rfl leftNonempty
  | cons part left ih =>
      by_cases last : left = []
      · rw [last, List.cons_append, List.nil_append, List.intercalate_cons_of_ne_nil rightNonempty,
          List.intercalate_singleton, List.append_assoc]
      · have more : left ++ right ≠ [] := List.append_ne_nil_of_left_ne_nil last right
        rw [List.cons_append, List.intercalate_cons_of_ne_nil more,
          List.intercalate_cons_of_ne_nil last, ih last]
        simp only [List.append_assoc]

namespace Unbordered

variable (unbordered : Unbordered pattern)
include unbordered

/-- A text behind the pattern keeps its places, and the pattern itself adds one. -/
theorem places_pattern_append (rest : List Char) :
    places pattern (pattern ++ rest) = 0 :: (places pattern rest).map (pattern.length + ·) := by
  have alone : ∀ place ∈ List.range pattern.length,
      pattern.isPrefixOf ((pattern ++ rest).drop place) = (place == 0) := by
    intro place mem
    have inside := List.mem_range.mp mem
    rw [List.drop_append_of_le_length (Nat.le_of_lt inside), Bool.eq_iff_iff,
      List.isPrefixOf_iff_prefix, beq_iff_eq, unbordered.start_drop_iff inside]
  have zero : 0 ∈ List.range pattern.length :=
    List.mem_range.mpr (List.length_pos_iff.mpr unbordered.ne_nil)
  rw [places, List.length_append, List.range_add, List.filter_append, List.filter_congr alone,
    List.filter_beq, List.count_eq_one_of_mem List.nodup_range zero, List.filter_map]
  simp only [Function.comp_def, List.drop_length_add_append]
  rfl

/-- The places of a text that is cut at an occurrence. -/
theorem places_cut (front rest : List Char) :
    places pattern (front ++ (pattern ++ rest)) =
      places pattern front ++ front.length ::
        (places pattern rest).map (front.length + pattern.length + ·) := by
  rw [places_append_of_sealed (unbordered.sealed_append front rest),
    unbordered.places_pattern_append, List.map_cons, List.map_map, Nat.add_zero]
  simp only [Function.comp_def, Nat.add_assoc]

/-- The pieces of a text that is cut at an occurrence are those of the two sides. -/
theorem pieces_cut (front rest : List Char) :
    pieces pattern (front ++ (pattern ++ rest)) = pieces pattern front ++ pieces pattern rest := by
  have inside : ∀ place ∈ places pattern front, place ≤ front.length :=
    fun _ mem => le_of_mem_places mem
  have behind := between_shift pattern.length (front ++ pattern) rest 0 (places pattern rest)
  rw [List.append_assoc, List.length_append, Nat.add_zero] at behind
  rw [pieces, unbordered.places_cut, between_append _ _ _ _ _ _ inside, behind, pieces, pieces]

/-- What is left of a text is what stands between all occurrences. -/
theorem remove_eq_flatten_pieces (text : List Char) :
    remove pattern text = (pieces pattern text).flatten := by
  induction text using cut_induction unbordered.ne_nil with
  | free text absent =>
      rw [(remove_eq_self_iff unbordered.ne_nil).mpr absent,
        pieces_eq_self unbordered.ne_nil absent, List.flatten_singleton]
  | cut front rest ihFront ihRest =>
      rw [unbordered.remove_cut, unbordered.pieces_cut, List.flatten_append, ihFront, ihRest]

/-- The pieces are the text again once the pattern is put between them. -/
theorem intercalate_pieces (text : List Char) :
    pattern.intercalate (pieces pattern text) = text := by
  induction text using cut_induction unbordered.ne_nil with
  | free text absent =>
      rw [pieces_eq_self unbordered.ne_nil absent, List.intercalate_singleton]
  | cut front rest ihFront ihRest =>
      rw [unbordered.pieces_cut, intercalate_append pattern (pieces_ne_nil pattern front)
        (pieces_ne_nil pattern rest), ihFront, ihRest]

/-- The pattern does not occur in any of the pieces. -/
theorem not_infix_of_mem_pieces {text piece : List Char} (mem : piece ∈ pieces pattern text) :
    ¬pattern <:+: piece := by
  induction text using cut_induction unbordered.ne_nil with
  | free text absent =>
      rw [pieces_eq_self unbordered.ne_nil absent, List.mem_singleton] at mem
      exact mem ▸ absent
  | cut front rest ihFront ihRest =>
      rw [unbordered.pieces_cut, List.mem_append] at mem
      rcases mem with mem | mem
      · exact ihFront mem
      · exact ihRest mem

/-- Each occurrence ends before the next one starts. -/
theorem places_apart (text : List Char) :
    (places pattern text).Pairwise fun place next => place + pattern.length ≤ next := by
  refine (List.pairwise_lt_range.filter _).imp_of_mem fun {place next} mem nextMem lower => ?_
  by_contra near
  -- The next occurrence would start within this one.
  obtain ⟨rest, split⟩ := (mem_places_iff unbordered.ne_nil).mp mem
  have start := (mem_places_iff unbordered.ne_nil).mp nextMem
  have within : next - place < pattern.length := by omega
  have shift : next = place + (next - place) := by omega
  rw [shift, ← List.drop_drop, ← split, List.drop_append_of_le_length (Nat.le_of_lt within)]
    at start
  have same := (unbordered.start_drop_iff within).mp start
  omega

end Unbordered

end Pieces

example : pieces "cmclang-".toList "1cmclang-cmclang-2".toList = [['1'], [], ['2']] := by
  decide

end DriverUplift.Text
