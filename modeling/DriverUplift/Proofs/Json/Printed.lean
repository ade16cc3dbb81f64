import DriverUplift.Proofs.Json.Real
import DriverUplift.Proofs.Json.Reading

/-!
# What is printed spells an outline

The indented text of any value is one of the grammar, and its outline can be told from
the value: a scalar is written as it prints, a text and a key as they are escaped.
-/

namespace DriverUplift.Json

-- The recursion of the printer.
mutual

def outline : Json → Outline
  | null => .scalar ['n', 'u', 'l', 'l']
  | bool value => .scalar (printBool value)
  | num value => .scalar value.print
  | str value => .text (value.toList.flatMap escapeChar)
  | arr items => .list (outlineItems items)
  | obj members => .object (outlineMembers members)

def outlineItems : List Json → List Outline
  | [] => []
  | item :: rest => outline item :: outlineItems rest

/-- The outlines of members, with their keys as they are escaped. -/
def outlineMembers : List (String × Json) → List (List Char × Outline)
  | [] => []
  | (key, value) :: rest =>
      (key.toList.flatMap escapeChar, outline value) :: outlineMembers rest

end

@[simp]
theorem outlineItems_eq_map (items : List Json) : outlineItems items = items.map outline := by
  induction items with
  | nil => rfl
  | cons item items ih => rw [outlineItems, ih, List.map_cons]

/-! ## Scalars -/

theorem isScalar_printBool (value : Bool) : IsScalar (printBool value) := by
  cases value
  · exact .false
  · exact .true

theorem printInteger_natCast (n : Nat) : printInteger n = (toString n).toList := rfl

theorem printInteger_neg {n : Nat} (positive : 0 < n) :
    printInteger (-n) = '-' :: (toString n).toList := by
  obtain ⟨n, rfl⟩ := Nat.exists_eq_add_one_of_ne_zero positive.ne'
  rw [printInteger, Int.toString_eq_repr, Int.repr_eq_if, if_neg (by omega), String.toList_append,
    show (-(-((n + 1 : Nat) : Int))).toNat = n + 1 by omega]
  rfl

theorem IsInteger.isScalar {digits : List Char} (integer : IsInteger digits) : IsScalar digits := by
  simpa using IsScalar.number integer (.inl rfl) (.inl rfl)

theorem IsInteger.isScalar_negative {digits : List Char} (integer : IsInteger digits) :
    IsScalar ('-' :: digits) := by
  simpa using IsScalar.negative integer (.inl rfl) (.inl rfl)

theorem isScalar_printInteger (value : Int) : IsScalar (printInteger value) := by
  obtain ⟨n, rfl | rfl⟩ := value.eq_nat_or_neg
  · exact (Decimal.isInteger_toString n).isScalar
  · rcases Nat.eq_zero_or_pos n with rfl | positive
    · exact (Decimal.isInteger_toString 0).isScalar
    · rw [printInteger_neg positive]
      exact (Decimal.isInteger_toString n).isScalar_negative

theorem isScalar_text (x : Binary64) : IsScalar x.text := by
  obtain ⟨chars, ⟨whole, part, power, integer, fraction, exponent, _, rfl⟩, written⟩ :=
    x.exists_isReal
  rw [written]
  split
  · exact .negative integer fraction exponent
  · exact .number integer fraction exponent

theorem isScalar_print (value : Number) : IsScalar value.print := by
  cases value with
  | integer value => exact isScalar_printInteger value
  | real value => exact isScalar_text value

/-! ## Texts -/

/-- What is written for a control character may stand between quotes. -/
theorem isRaw_control {c : Char} (control : c.toNat < 0x20) {raw : List Char} (isRaw : IsRaw raw) :
    IsRaw ('\\' :: 'u' :: '0' :: '0' :: Nat.digitChar (c.toNat / 16) ::
      Nat.digitChar (c.toNat % 16) :: raw) := by
  have zero : Text.hexDigit? '0' = some 0 := by decide
  have high := hexDigit?_digitChar (c.toNat / 16) (by omega)
  have low := hexDigit?_digitChar (c.toNat % 16) (by omega)
  have digits : fourDigits?
      ('0' :: '0' :: Nat.digitChar (c.toNat / 16) :: Nat.digitChar (c.toNat % 16) :: raw) =
        some (((0 * 16 + 0) * 16 + c.toNat / 16) * 16 + c.toNat % 16, raw) := by
    simp only [fourDigits?, zero, high, low]
  exact .unicode digits isRaw

theorem isRaw_escapeChar (c : Char) {raw : List Char} (isRaw : IsRaw raw) :
    IsRaw (escapeChar c ++ raw) := by
  unfold escapeChar
  split
  case h_8 _ quote slash _ _ _ _ _ =>
    split
    · rename_i control
      exact isRaw_control control isRaw
    · rename_i printable
      exact .plain quote slash printable isRaw
  all_goals exact .short rfl isRaw

theorem isRaw_printed (text : List Char) : IsRaw (text.flatMap escapeChar) := by
  induction text with
  | nil => exact .nil
  | cons c text ih =>
      rw [List.flatMap_cons]
      exact isRaw_escapeChar c ih

/-- A printed text means the text. -/
theorem meaning?_printed (text : String) :
    meaning? (text.toList.flatMap escapeChar) = some text := by
  simp only [meaning?, textBody_printed, String.ofList_toList]

/-- The members of a printed object have the keys of the object. -/
theorem named_outlineMembers (members : Members Json) :
    Outline.named (outlineMembers members) =
      members.map fun member => (member.1, member.2.outline) := by
  induction members with
  | nil => rfl
  | cons member members ih =>
      rw [Outline.named] at ih ⊢
      simp only [outlineMembers, List.filterMap_cons, meaning?_printed, Option.map_some, ih,
        List.map_cons]

/-! ## Whole values -/

theorem gap_newLine (level : Nat) (text : List Char) : Gap (newLine level ++ text) text := by
  have spaces (count : Nat) : Gap (List.replicate count ' ' ++ text) text := by
    induction count with
    | zero => exact .none
    | succ count ih => exact .blank rfl ih
  exact .blank rfl (spaces (2 * level))

section Texts

variable (level : Nat) (rest : List Char)

theorem indented_arr_append (item : Json) (items : List Json) :
    indented level (.arr (item :: items)) ++ rest =
      '[' :: (newLine (level + 1) ++ (indented (level + 1) item ++
        (moreIndentedItems (level + 1) items ++ (newLine level ++ ']' :: rest)))) := by
  simp [indented, indentedItems_cons]

theorem moreIndentedItems_cons_append (item : Json) (items : List Json) (text : List Char) :
    moreIndentedItems level (item :: items) ++ text =
      ',' :: (newLine level ++ (indented level item ++ (moreIndentedItems level items ++ text))) := by
  simp [moreIndentedItems]

theorem indented_obj_append (key : String) (value : Json) (members : Members Json) :
    indented level (.obj ((key, value) :: members)) ++ rest =
      '\x7b' :: (newLine (level + 1) ++ '"' :: keyTail key (':' :: ' ' ::
        (indented (level + 1) value ++
          (moreIndentedMembers (level + 1) members ++ (newLine level ++ '\x7d' :: rest))))) := by
  rw [← printText_append]
  simp [indented, indentedMembers_cons]

theorem moreIndentedMembers_cons_append (key : String) (value : Json) (members : Members Json)
    (text : List Char) :
    moreIndentedMembers level ((key, value) :: members) ++ text =
      ',' :: (newLine level ++ '"' :: keyTail key (':' :: ' ' :: (indented level value ++
        (moreIndentedMembers level members ++ text)))) := by
  rw [← printText_append]
  simp [moreIndentedMembers]

end Texts

mutual

/-- The text of a value spells its outline, whatever stands behind. -/
theorem spells_indented (json : Json) (level : Nat) (rest : List Char) :
    Spells json.outline (indented level json ++ rest) rest := by
  match json with
  | .null => exact .scalar .null
  | .bool value => exact .scalar (isScalar_printBool value)
  | .num value => exact .scalar (isScalar_print value)
  | .str value =>
      rw [indented, printText_append]
      exact .text (isRaw_printed value.toList)
  | .arr [] => exact .emptyList .none
  | .arr (item :: items) =>
      rw [indented_arr_append]
      exact .list (gap_newLine ..) (spells_indented item _ _) (spellsItems_indented items _ _ _)
  | .obj [] => exact .emptyObject .none
  | .obj ((key, value) :: members) =>
      rw [indented_obj_append]
      exact .object (gap_newLine ..) (spellsMember_indented key value _ _)
        (spellsMembers_indented members _ _ _)

theorem spellsItems_indented (items : List Json) (level outer : Nat) (rest : List Char) :
    SpellsItems (outlineItems items)
      (moreIndentedItems level items ++ (newLine outer ++ ']' :: rest)) rest := by
  match items with
  | [] => exact .close (gap_newLine ..)
  | item :: items =>
      rw [moreIndentedItems_cons_append]
      exact .next .none (gap_newLine ..) (spells_indented item _ _)
        (spellsItems_indented items _ _ _)

theorem spellsMember_indented (key : String) (value : Json) (level : Nat) (rest : List Char) :
    SpellsMember (key.toList.flatMap escapeChar) value.outline
      (keyTail key (':' :: ' ' :: (indented level value ++ rest))) rest :=
  .member (isRaw_printed key.toList) .none (.blank rfl .none) (spells_indented value _ _)

theorem spellsMembers_indented (members : Members Json) (level outer : Nat) (rest : List Char) :
    SpellsMembers (outlineMembers members)
      (moreIndentedMembers level members ++ (newLine outer ++ '\x7d' :: rest)) rest := by
  match members with
  | [] => exact .close (gap_newLine ..)
  | (key, value) :: members =>
      rw [moreIndentedMembers_cons_append]
      exact .next .none (gap_newLine ..) (spellsMember_indented key value _ _)
        (spellsMembers_indented members _ _ _)

end

/-- An indented text with a line end is a whole text. -/
theorem spellsWhole_indented (json : Json) : SpellsWhole json.outline (indented 0 json ++ ['\n']) :=
  ⟨_, ['\n'], .none, spells_indented json 0 ['\n'], .blank rfl .none⟩

end DriverUplift.Json
