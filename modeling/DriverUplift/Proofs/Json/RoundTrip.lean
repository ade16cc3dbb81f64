import DriverUplift.Proofs.Json.Scalar

/-!
# Reading back what was printed

A legible document is the value of its own indented text.  Printing puts every
item and every member behind a line of its own; reading skips these blanks, so
the depth at which a value is printed plays no part.
-/

namespace DriverUplift.Json

/-! ## Blanks -/

theorem skipBlanks_newLine (level : Nat) (text : List Char) :
    skipBlanks (newLine level ++ text) = skipBlanks text := by
  refine List.dropWhile_append_of_pos fun c mem => ?_
  rcases List.mem_cons.mp mem with rfl | mem
  · rfl
  · rw [List.eq_of_mem_replicate mem]
    rfl

theorem skipBlanks_of_not_blank {c : Char} (solid : isBlank c = false) (text : List Char) :
    skipBlanks (c :: text) = c :: text := by
  simp [skipBlanks, solid]

theorem delimited_newLine (level : Nat) (text : List Char) : Delimited (newLine level ++ text) :=
  delimited_cons (by decide) _

/-! ## Scalars -/

/-- A text that starts with a number starts with a sign or a digit. -/
theorem head_of_number {text rest : List Char} {value : Number}
    (read : number text = .ok (value, rest)) :
    ∃ c more, text = c :: more ∧ (c = '-' ∨ c.isDigit) := by
  cases text with
  | nil => simp [number, unsigned] at read
  | cons c more =>
      refine ⟨c, more, rfl, ?_⟩
      by_cases sign : c = '-'
      · exact .inl sign
      · by_cases digit : c.isDigit
        · exact .inr digit
        · have nonzero : c ≠ '0' := by
            rintro rfl
            simp at digit
          simp [number, sign, unsigned, nonzero, digit] at read

def startsScalar (c : Char) : Prop :=
  c = 'n' ∨ c = 't' ∨ c = 'f' ∨ c = '"' ∨ c = '-' ∨ c.isDigit

theorem startsScalar.solid {c : Char} (starts : startsScalar c) :
    isBlank c = false ∧ c ≠ ']' ∧ c ≠ '[' ∧ c ≠ '\x7b' := by
  have digit : c.isDigit →
      isBlank c = false ∧ c ≠ ']' ∧ c ≠ '[' ∧ c ≠ '\x7b' := by
    intro digit
    refine ⟨?_, ?_, ?_, ?_⟩
    · by_contra blank
      simp only [isBlank, Bool.not_eq_false, Bool.or_eq_true, beq_iff_eq] at blank
      rcases blank with ((rfl | rfl) | rfl) | rfl <;> simp at digit
    all_goals
      rintro rfl
      simp at digit
  rcases starts with rfl | rfl | rfl | rfl | rfl | isDigit
  case inr.inr.inr.inr.inr => exact digit isDigit
  all_goals decide

/-- A printed scalar reads back, and its first character tells that it is one. -/
theorem scalar_indented {json : Json} (plain : json.isContainer = false) {depth : Nat}
    (whole : wholeNumbers depth json) (level : Nat) {rest : List Char}
    (delimited : Delimited rest) :
    scalar (indented level json ++ rest) = .ok (json, rest) ∧
      ∃ c more, indented level json = c :: more ∧ startsScalar c := by
  cases json with
  | null => exact ⟨by simp [indented, scalar, word, Except.map], _, _, rfl, by simp [startsScalar]⟩
  | bool value =>
      cases value with
      | false =>
          exact ⟨by simp [indented, printBool, scalar, word, Except.map], _, _, rfl,
            by simp [startsScalar]⟩
      | true =>
          exact ⟨by simp [indented, printBool, scalar, word, Except.map], _, _, rfl,
            by simp [startsScalar]⟩
  | num value =>
      have read := number_print whole delimited
      have alone := number_print whole delimited_nil
      rw [List.append_nil] at alone
      obtain ⟨c, more, printed, sign⟩ := head_of_number alone
      have others : c ≠ 'n' ∧ c ≠ 't' ∧ c ≠ 'f' ∧ c ≠ '"' := by
        refine ⟨?_, ?_, ?_, ?_⟩ <;>
          · rintro rfl
            simp at sign
      rw [printed] at read
      refine ⟨?_, c, more, by rw [indented, printed], ?_⟩
      · rw [indented, printed]
        simp only [List.cons_append] at read ⊢
        simp [scalar, others, sign, read, Step.map]
      · rcases sign with sign | sign <;> simp [startsScalar, sign]
  | str value =>
      refine ⟨?_, _, _, rfl, by simp [startsScalar]⟩
      have body := textBody_printed value.toList rest
      simp [indented, printText, scalar, body, Step.map]
  | arr items => simp [isContainer] at plain
  | obj members => simp [isContainer] at plain

/-! ## Readers of printed values -/

/--
The reader gives the value for its printed text, whatever the depth at which it
was printed, the blanks before it and the text behind it.
-/
structure ReadsBack (reader : Reader Json) (json : Json) : Prop where
  starts : ∀ level, ∃ c more, indented level json = c :: more ∧ isBlank c = false ∧ c ≠ ']'
  reads : ∀ {level : Nat} {text rest : List Char}, Delimited rest →
    skipBlanks text = indented level json ++ rest → reader.read text = .ok (json, rest)

section ReadsBack

variable {reader : Reader Json} {json : Json}

theorem ReadsBack.skipBlanks_eq (back : ReadsBack reader json) (level : Nat) (rest : List Char) :
    skipBlanks (indented level json ++ rest) = indented level json ++ rest := by
  obtain ⟨c, more, printed, solid, _⟩ := back.starts level
  rw [printed]
  exact skipBlanks_of_not_blank solid _

theorem ReadsBack.read (back : ReadsBack reader json) (level : Nat) {rest : List Char}
    (delimited : Delimited rest) : reader.read (indented level json ++ rest) = .ok (json, rest) :=
  back.reads delimited (back.skipBlanks_eq level rest)

theorem ReadsBack.firstItem (back : ReadsBack reader json) (level : Nat) (rest : List Char) :
    firstItem (newLine level ++ (indented level json ++ rest)) =
      .ok (.enter (indented level json ++ rest)) := by
  obtain ⟨c, more, printed, _, open_⟩ := back.starts level
  rw [Json.firstItem, skipBlanks_newLine, back.skipBlanks_eq, printed]
  simp [open_]

theorem ReadsBack.nextItem (back : ReadsBack reader json) (level : Nat) (rest : List Char) :
    nextItem (',' :: newLine level ++ (indented level json ++ rest)) =
      .ok (.enter (indented level json ++ rest)) := by
  obtain ⟨c, more, printed, _, open_⟩ := back.starts level
  rw [Json.nextItem, List.cons_append, skipBlanks_of_not_blank (by decide)]
  simp only [show (',' : Char) ≠ ']' by decide, if_false, if_true]
  rw [skipBlanks_newLine, back.skipBlanks_eq, printed]
  simp [open_]

end ReadsBack

/-! ## Lists -/

def moreIndentedItems (level : Nat) (items : List Json) : List Char :=
  items.flatMap fun item => ',' :: newLine level ++ indented level item

theorem indentedItems_cons (level : Nat) (item : Json) (items : List Json) :
    indentedItems level (item :: items) =
      newLine level ++ (indented level item ++ moreIndentedItems level items) := by
  induction items generalizing item with
  | nil => simp [indentedItems, moreIndentedItems]
  | cons next items ih =>
      rw [indentedItems, ih next]
      · simp [moreIndentedItems]
      · simp

theorem nextItem_close (level : Nat) (rest : List Char) :
    nextItem (newLine level ++ ']' :: rest) = .ok (.close rest) := by
  rw [nextItem, skipBlanks_newLine, skipBlanks_of_not_blank (by decide)]
  simp

theorem moreItems_of_close {α : Type} {item : Reader α} {text rest : List Char}
    (turn : nextItem text = .ok (.close rest)) : moreItems item text = .ok ([], rest) := by
  rw [moreItems]
  split <;> simp_all

theorem moreItems_of_enter {α : Type} {item : Reader α} {text next rest : List Char} {value : α}
    (turn : nextItem text = .ok (.enter next)) (read : item.read next = .ok (value, rest)) :
    moreItems item text = (moreItems item rest).map (value :: ·) := by
  rw [moreItems]
  split
  · simp_all
  · simp_all
  · split <;> simp_all

theorem delimited_moreItems (level outer : Nat) (items : List Json) (rest : List Char) :
    Delimited (moreIndentedItems level items ++ (newLine outer ++ rest)) := by
  cases items with
  | nil => exact delimited_newLine outer rest
  | cons item items => exact delimited_cons (by decide) _

theorem moreItems_indented {reader : Reader Json} {items : List Json}
    (back : ∀ item ∈ items, ReadsBack reader item) (level outer : Nat) (rest : List Char) :
    moreItems reader (moreIndentedItems level items ++ (newLine outer ++ ']' :: rest)) =
      .ok (items, rest) := by
  induction items with
  | nil => exact moreItems_of_close (nextItem_close outer rest)
  | cons item items ih =>
      have first := back item (List.mem_cons_self ..)
      have inner := ih fun other mem => back other (List.mem_cons_of_mem _ mem)
      have split : moreIndentedItems level (item :: items) ++ (newLine outer ++ ']' :: rest) =
          ',' :: newLine level ++ (indented level item ++
            (moreIndentedItems level items ++ (newLine outer ++ ']' :: rest))) := by
        simp [moreIndentedItems]
      rw [split, moreItems_of_enter (first.nextItem level _)
        (first.read level (delimited_moreItems level outer items _)), inner]
      rfl

theorem items_indented {reader : Reader Json} {item : Json} {items : List Json}
    (back : ∀ other ∈ item :: items, ReadsBack reader other) (level outer : Nat)
    (rest : List Char) :
    Json.items reader (indentedItems level (item :: items) ++ (newLine outer ++ ']' :: rest)) =
      .ok (item :: items, rest) := by
  have first := back item (List.mem_cons_self ..)
  have more := moreItems_indented (fun other mem => back other (List.mem_cons_of_mem _ mem))
    level outer rest
  rw [indentedItems_cons, List.append_assoc, List.append_assoc, Json.items, first.firstItem]
  simp only [first.read level (delimited_moreItems level outer items _), more]
  rfl

/-! ## Objects -/

def moreIndentedMembers (level : Nat) (members : Members Json) : List Char :=
  members.flatMap fun member =>
    ',' :: newLine level ++ printText member.1 ++ ':' :: ' ' :: indented level member.2

theorem indentedMembers_cons (level : Nat) (key : String) (value : Json)
    (members : Members Json) :
    indentedMembers level ((key, value) :: members) =
      newLine level ++ (printText key ++ (':' :: ' ' ::
        (indented level value ++ moreIndentedMembers level members))) := by
  induction members generalizing key value with
  | nil => simp [indentedMembers, moreIndentedMembers]
  | cons next members ih =>
      obtain ⟨nextKey, nextValue⟩ := next
      rw [indentedMembers, ih nextKey nextValue]
      · simp [moreIndentedMembers]
      · simp

/-- The text of a key behind its opening quote, and then the text behind it. -/
def keyTail (key : String) (text : List Char) : List Char :=
  key.toList.flatMap escapeChar ++ '"' :: text

theorem printText_append (key : String) (text : List Char) :
    printText key ++ text = '"' :: keyTail key text := by
  simp [printText, keyTail]

theorem firstKey_printText (level : Nat) (key : String) (text : List Char) :
    firstKey (newLine level ++ (printText key ++ text)) = .ok (.enter (keyTail key text)) := by
  rw [firstKey, skipBlanks_newLine, printText_append, skipBlanks_of_not_blank (by decide)]
  simp

theorem nextKey_printText (level : Nat) (key : String) (text : List Char) :
    nextKey (',' :: newLine level ++ (printText key ++ text)) =
      .ok (.enter (keyTail key text)) := by
  rw [nextKey, List.cons_append, skipBlanks_of_not_blank (by decide)]
  simp only [show (',' : Char) ≠ '\x7d' by decide, if_false, if_true]
  rw [skipBlanks_newLine, printText_append, skipBlanks_of_not_blank (by decide)]
  simp

theorem nextKey_close (level : Nat) (rest : List Char) :
    nextKey (newLine level ++ '\x7d' :: rest) = .ok (.close rest) := by
  rw [nextKey, skipBlanks_newLine, skipBlanks_of_not_blank (by decide)]
  simp

theorem moreMembers_of_close {σ : Type} {member : σ → String → Reader σ} {state : σ}
    {text rest : List Char} (turn : nextKey text = .ok (.close rest)) :
    moreMembers member state text = .ok (state, rest) := by
  rw [moreMembers]
  split <;> simp_all

theorem moreMembers_of_enter {σ : Type} {member : σ → String → Reader σ} {state after : σ}
    {text next rest : List Char} (turn : nextKey text = .ok (.enter next))
    (read : memberStep member state next = .ok (after, rest)) :
    moreMembers member state text = moreMembers member after rest := by
  rw [moreMembers]
  split
  · simp_all
  · simp_all
  · split <;> simp_all

/-- One member is read from behind the quote of its key and put into the known ones. -/
theorem memberStep_printed {reader : Reader Json} {value : Json} (back : ReadsBack reader value)
    (known : Members Json) (key : String) (level : Nat) {rest : List Char}
    (delimited : Delimited rest) :
    memberStep (putMember reader) known
        (keyTail key (':' :: ' ' :: (indented level value ++ rest))) =
      .ok (Members.put key value known, rest) := by
  have blank : skipBlanks (' ' :: (indented level value ++ rest)) = indented level value ++ rest :=
    back.skipBlanks_eq level rest
  have read := back.reads delimited blank
  have behind : (behindColon reader).read (':' :: ' ' :: (indented level value ++ rest)) =
      .ok (value, rest) := by
    simp only [behindColon, colon, skipBlanks_of_not_blank (show isBlank ':' = false by decide),
      if_true]
    exact read
  simp only [memberStep, keyTail, textBody_printed, String.ofList_toList, putMember, Reader.map,
    behind]
  rfl

theorem delimited_moreMembers (level outer : Nat) (members : Members Json) (rest : List Char) :
    Delimited (moreIndentedMembers level members ++ (newLine outer ++ rest)) := by
  cases members with
  | nil => exact delimited_newLine outer rest
  | cons member members => exact delimited_cons (by decide) _

theorem moreMembers_indented {reader : Reader Json} {members : Members Json}
    (back : ∀ member ∈ members, ReadsBack reader member.2) (known : Members Json)
    (level outer : Nat) (rest : List Char) :
    moreMembers (putMember reader) known
        (moreIndentedMembers level members ++ (newLine outer ++ '\x7d' :: rest)) =
      .ok (Members.putAll known members, rest) := by
  induction members generalizing known with
  | nil => exact moreMembers_of_close (nextKey_close outer rest)
  | cons member members ih =>
      obtain ⟨key, value⟩ := member
      have inner := ih (fun other mem => back other (List.mem_cons_of_mem _ mem))
        (Members.put key value known)
      have split : moreIndentedMembers level ((key, value) :: members) ++
          (newLine outer ++ '\x7d' :: rest) =
          ',' :: newLine level ++ (printText key ++ (':' :: ' ' :: (indented level value ++
            (moreIndentedMembers level members ++ (newLine outer ++ '\x7d' :: rest))))) := by
        simp [moreIndentedMembers]
      rw [split, moreMembers_of_enter (nextKey_printText level key _)
        (memberStep_printed (back (key, value) (List.mem_cons_self ..)) known key level
          (delimited_moreMembers level outer members _)), inner]
      rfl

/-- Members with distinct keys are read back as they are. -/
theorem members_indented {reader : Reader Json} {member : String × Json} {members : Members Json}
    (nodup : (Members.keys (member :: members)).Nodup)
    (back : ∀ other ∈ member :: members, ReadsBack reader other.2) (level outer : Nat)
    (rest : List Char) :
    Json.members (putMember reader) []
        (indentedMembers level (member :: members) ++ (newLine outer ++ '\x7d' :: rest)) =
      .ok (member :: members, rest) := by
  obtain ⟨key, value⟩ := member
  have first := memberStep_printed (back (key, value) (List.mem_cons_self ..)) [] key level
    (delimited_moreMembers level outer members ('\x7d' :: rest))
  have more := moreMembers_indented
    (fun other mem => back other (List.mem_cons_of_mem _ mem)) [(key, value)] level outer rest
  have whole : Members.putAll [(key, value)] members = (key, value) :: members :=
    Members.putAll_eq_append nodup
  simp only [indentedMembers_cons, List.append_assoc, List.cons_append, Json.members,
    firstKey_printText, first, Members.put, more, whole]

/-! ## Values -/

theorem value_of_scalar {inner : Option (Reader Json)} {json : Json} {depth : Nat}
    (plain : json.isContainer = false) (whole : wholeNumbers depth json) :
    ReadsBack (valueWith inner) json where
  starts level := by
    obtain ⟨_, c, more, printed, starts⟩ := scalar_indented plain whole level delimited_nil
    exact ⟨c, more, printed, starts.solid.1, starts.solid.2.1⟩
  reads {level text rest} delimited skipped := by
    obtain ⟨read, c, more, printed, starts⟩ := scalar_indented plain whole level delimited
    obtain ⟨_, _, bracket, brace⟩ := starts.solid
    rw [printed, List.cons_append] at skipped read
    simp only [valueWith, skipped, bracket, brace, or_self, if_false]
    exact read

/-- A legible list reads back if its items do, one level further down. -/
theorem value_of_items {reader : Reader Json} {items : List Json}
    (back : ∀ item ∈ items, ReadsBack reader item) :
    ReadsBack (valueWith (some reader)) (.arr items) where
  starts level := by
    cases items with
    | nil => exact ⟨'[', _, rfl, by decide, by decide⟩
    | cons item items => exact ⟨'[', _, rfl, by decide, by decide⟩
  reads {level text rest} _ skipped := by
    cases items with
    | nil =>
        simp only [indented, List.cons_append, List.nil_append] at skipped
        simp [valueWith, skipped, Json.items, Json.firstItem, skipBlanks_of_not_blank,
          show isBlank ']' = false by decide, Step.map]
    | cons item items =>
        have inner := items_indented back (level + 1) level rest
        simp only [indented, List.cons_append, List.append_assoc, List.nil_append] at skipped inner
        simp only [valueWith, skipped, inner, true_or, if_true]
        rfl

theorem value_of_members {reader : Reader Json} {members : Members Json}
    (nodup : (Members.keys members).Nodup)
    (back : ∀ member ∈ members, ReadsBack reader member.2) :
    ReadsBack (valueWith (some reader)) (.obj members) where
  starts level := by
    cases members with
    | nil => exact ⟨'\x7b', _, rfl, by decide, by decide⟩
    | cons member members => exact ⟨'\x7b', _, rfl, by decide, by decide⟩
  reads {level text rest} _ skipped := by
    have open_ : ('\x7b' : Char) ≠ '[' := by decide
    cases members with
    | nil =>
        simp only [indented, List.cons_append, List.nil_append] at skipped
        simp [valueWith, skipped, Json.members, Json.firstKey, skipBlanks_of_not_blank,
          show isBlank '\x7d' = false by decide, Step.map]
    | cons member members =>
        have inner := members_indented nodup back (level + 1) level rest
        simp only [indented, List.cons_append, List.append_assoc, List.nil_append] at skipped inner
        simp only [valueWith, skipped, inner, open_, false_or, if_true, if_false]
        rfl

/-- What is legible reads back, as long as the reader goes down to the limit. -/
theorem value_of_legible {levels depth : Nat} (bound : depth + levels = depthLimit) {json : Json}
    (obeys : Obeys legible depth json) : ReadsBack (value levels) json := by
  induction levels generalizing depth json with
  | zero =>
      have plain : json.isContainer = false := by
        by_contra container
        have := obeys.here.1.2 (by simpa using container)
        omega
      exact value_of_scalar plain obeys.here.2
  | succ levels ih =>
      cases json with
      | arr items => exact value_of_items fun item mem => ih (by omega) (obeys.item mem)
      | obj members =>
          exact value_of_members obeys.here.1.1 fun member mem => ih (by omega) (obeys.member mem)
      | _ => exact value_of_scalar rfl obeys.here.2

/-- A legible document is the value of its own indented text. -/
theorem parse_indented {json : Json} (obeys : Obeys legible 0 json) {rest : List Char}
    (delimited : Delimited rest) (blank : skipBlanks rest = []) :
    parse (String.ofList (indented 0 json ++ rest)) = .ok json := by
  have back : ReadsBack (value depthLimit) json := value_of_legible (Nat.zero_add _) obeys
  simp only [parse, whole, String.toList_ofList, back.read 0 delimited, blank]

end DriverUplift.Json
