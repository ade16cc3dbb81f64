import DriverUplift.Proofs.Text.Pieces

/-!
# Patterns that removal joins

Removal does not look again at what it has joined.  The pattern therefore occurs in
what is left of a text exactly if it stands in the text in several parts, with whole
copies of it between them.
-/

namespace DriverUplift.Text

/--
The text holds the pattern cut into parts, none of which is the whole of it, with a copy of
the pattern put between any two neighbours.
-/
def Interrupted (pattern text : List Char) : Prop :=
  ∃ parts : List (List Char),
    parts.flatten = pattern ∧ pattern ∉ parts ∧ pattern.intercalate parts <:+: text

section Cuts

variable {parts : List (List Char)} {front rest : List Char}

/-- Where a joined text is cut, one of its parts is cut. -/
theorem exists_cut_of_flatten (nonempty : parts ≠ []) (joined : parts.flatten = front ++ rest) :
    ∃ left head tail right, parts = left ++ (head ++ tail) :: right ∧
      front = left.flatten ++ head ∧ rest = tail ++ right.flatten := by
  induction parts generalizing front with
  | nil => exact absurd rfl nonempty
  | cons part parts ih =>
      rw [List.flatten_cons] at joined
      rcases List.append_eq_append_iff.mp joined with ⟨more, rfl, split⟩ | ⟨tail, rfl, rfl⟩
      · by_cases last : parts = []
        · rw [last, List.flatten_nil, List.nil_eq_append_iff] at split
          obtain ⟨rfl, rfl⟩ := split
          exact ⟨[], part, [], [], by simp [last]⟩
        · obtain ⟨left, head, tail, right, rfl, rfl, rfl⟩ := ih last split
          exact ⟨part :: left, head, tail, right, by simp⟩
      · exact ⟨[], front, tail, parts, rfl, rfl, rfl⟩

/-- A part of an interleaved text can be cut. -/
theorem intercalate_cut (separator head tail : List Char) (left right : List (List Char)) :
    separator.intercalate (left ++ (head ++ tail) :: right) =
      separator.intercalate (left ++ [head]) ++ separator.intercalate (tail :: right) := by
  induction left with
  | nil => cases right <;> simp
  | cons part left ih =>
      have more (part : List Char) (behind : List (List Char)) : left ++ part :: behind ≠ [] :=
        List.append_ne_nil_of_right_ne_nil left (List.cons_ne_nil part behind)
      rw [List.cons_append, List.cons_append, List.intercalate_cons_of_ne_nil (more _ _),
        List.intercalate_cons_of_ne_nil (more _ _), ih]
      simp only [List.append_assoc]

/-- Texts around an interleaved text go to its first and its last part. -/
theorem append_intercalate_append (separator before first last after : List Char)
    (middle : List (List Char)) :
    before ++ separator.intercalate (first :: (middle ++ [last])) ++ after =
      separator.intercalate ((before ++ first) :: (middle ++ [last ++ after])) := by
  have atFront := intercalate_cut separator before first [] (middle ++ [last ++ after])
  have atEnd := intercalate_cut separator last after (first :: middle) []
  simp only [List.nil_append, List.cons_append, List.intercalate_singleton] at atFront atEnd
  rw [atFront, atEnd, List.append_assoc]

/-- What stands in a joined text stands in it as parts of the parts of that text. -/
theorem exists_parts_of_flatten {middle : List Char} (nonempty : parts ≠ [])
    (joined : parts.flatten = front ++ (middle ++ rest)) :
    ∃ inner : List (List Char), inner.flatten = middle ∧
      (∀ part ∈ inner, ∃ outer ∈ parts, part <:+: outer) ∧
      ∀ separator : List Char, separator.intercalate inner <:+: separator.intercalate parts := by
  obtain ⟨left, head, tail, right, rfl, -, behind⟩ := exists_cut_of_flatten nonempty joined
  rw [← List.flatten_cons] at behind
  obtain ⟨passed, last, more, after, cut, rfl, -⟩ :=
    exists_cut_of_flatten (List.cons_ne_nil tail right) behind.symm
  refine ⟨passed ++ [last], by simp, ?_, ?_⟩
  · intro part mem
    have inside : ∃ outer ∈ tail :: right, part <:+: outer := by
      rw [cut]
      rcases List.mem_append.mp mem with mem | mem
      · exact ⟨part, List.mem_append_left _ mem, List.infix_rfl⟩
      · rw [List.mem_singleton.mp mem]
        exact ⟨last ++ more, by simp, (List.prefix_append last more).isInfix⟩
    obtain ⟨outer, mem, occurs⟩ := inside
    rcases List.mem_cons.mp mem with rfl | mem
    · exact ⟨head ++ outer, by simp, occurs.trans (List.suffix_append head outer).isInfix⟩
    · exact ⟨outer, by simp [mem], occurs⟩
  · intro separator
    rw [intercalate_cut, cut, intercalate_cut, ← List.append_assoc]
    exact List.infix_append _ _ _

end Cuts

/-- What is joined from several parts has a first and a last one. -/
theorem exists_ends {pattern : List Char} {parts : List (List Char)} (nonempty : pattern ≠ [])
    (whole : parts.flatten = pattern) (proper : pattern ∉ parts) :
    ∃ first middle last, parts = first :: (middle ++ [last]) := by
  cases parts with
  | nil => exact absurd whole.symm nonempty
  | cons first others =>
      rcases List.eq_nil_or_concat others with rfl | ⟨middle, last, rfl⟩
      · rw [List.flatten_singleton] at whole
        exact absurd (List.mem_singleton.mpr whole.symm) proper
      · exact ⟨first, middle, last, by rw [List.concat_eq_append]⟩

namespace Unbordered

variable {pattern text : List Char} (unbordered : Unbordered pattern)
include unbordered

/-- Removal works on all parts of an interleaved text alone. -/
theorem remove_intercalate (parts : List (List Char)) :
    remove pattern (pattern.intercalate parts) = (parts.map (remove pattern)).flatten := by
  induction parts with
  | nil => rfl
  | cons part parts ih =>
      by_cases last : parts = []
      · simp [last]
      · rw [List.intercalate_cons_of_ne_nil last, List.append_assoc, unbordered.remove_cut, ih,
          List.map_cons, List.flatten_cons]

/-- What occurs in the joined pieces goes over the places between some of them. -/
theorem interrupted_of_infix (occurs : pattern <:+: remove pattern text) :
    Interrupted pattern text := by
  obtain ⟨front, rest, joined⟩ := occurs
  rw [unbordered.remove_eq_flatten_pieces, List.append_assoc] at joined
  obtain ⟨parts, whole, inside, interleaved⟩ :=
    exists_parts_of_flatten (pieces_ne_nil pattern text) joined.symm
  refine ⟨parts, whole, ?_, ?_⟩
  · intro mem
    obtain ⟨piece, mem, occurs⟩ := inside pattern mem
    exact unbordered.not_infix_of_mem_pieces mem occurs
  · have spread := interleaved pattern
    rw [unbordered.intercalate_pieces] at spread
    exact spread

/-- Parts of the pattern hold no copy of it, unless it is one of them. -/
theorem remove_part {parts : List (List Char)} (whole : parts.flatten = pattern)
    (proper : pattern ∉ parts) {part : List Char} (mem : part ∈ parts) :
    remove pattern part = part := by
  rw [remove_eq_self_iff unbordered.ne_nil]
  intro occurs
  have inside : part <:+: pattern := whole ▸ List.infix_of_mem_flatten mem
  exact proper (occurs.eq_of_length_le inside.length_le ▸ mem)

/-- The parts of the pattern are joined by removal, whatever stands around them. -/
theorem infix_of_interrupted (interrupted : Interrupted pattern text) :
    pattern <:+: remove pattern text := by
  obtain ⟨parts, whole, proper, before, after, rfl⟩ := interrupted
  obtain ⟨first, middle, last, rfl⟩ := exists_ends unbordered.ne_nil whole proper
  have kept : ∀ part ∈ first :: (middle ++ [last]), remove pattern part = part :=
    fun _ mem => unbordered.remove_part whole proper mem
  have joined : first ++ (middle.flatten ++ last) = pattern := by
    simpa using whole
  -- What stands around the parts makes no occurrence with the first or the last of them.
  have onLeft : remove pattern (before ++ first) = remove pattern before ++ first := by
    have starts : first <+: pattern := ⟨middle.flatten ++ last, joined⟩
    rw [remove_append_of_sealed unbordered.ne_nil (unbordered.sealed_of_prefix before starts),
      kept first (by simp)]
  have onRight : remove pattern (last ++ after) = last ++ remove pattern after := by
    have ends : last <:+ pattern := ⟨first ++ middle.flatten, by rw [List.append_assoc, joined]⟩
    rw [remove_append_of_sealed unbordered.ne_nil (unbordered.sealed_of_suffix after ends),
      kept last (by simp)]
  have inMiddle : middle.map (remove pattern) = middle := by
    rw [List.map_congr_left fun part mem => kept part (by simp [mem]), List.map_id']
  have removed : remove pattern
      (before ++ pattern.intercalate (first :: (middle ++ [last])) ++ after) =
        remove pattern before ++ (first ++ (middle.flatten ++ last)) ++ remove pattern after := by
    rw [append_intercalate_append, unbordered.remove_intercalate, List.map_cons, List.map_append,
      List.map_singleton, onLeft, onRight, inMiddle]
    simp only [List.flatten_cons, List.flatten_append, List.flatten_nil, List.append_nil,
      List.append_assoc]
  rw [removed, joined]
  exact List.infix_append _ _ _

/-- The pattern occurs in what is left exactly if the text holds it interrupted by copies. -/
theorem infix_remove_iff : pattern <:+: remove pattern text ↔ Interrupted pattern text :=
  ⟨unbordered.interrupted_of_infix, unbordered.infix_of_interrupted⟩

/-- A second removal changes nothing exactly if the text does not hold the pattern interrupted. -/
theorem remove_remove_eq_iff :
    remove pattern (remove pattern text) = remove pattern text ↔ ¬Interrupted pattern text := by
  rw [remove_eq_self_iff unbordered.ne_nil, unbordered.infix_remove_iff]

end Unbordered

example : Interrupted "cmclang-".toList "cmcmclang-clang-1".toList :=
  ⟨["cm".toList, "clang-".toList], by decide⟩

end DriverUplift.Text
