import DriverUplift.Json.Parser
import DriverUplift.Json.Skip

/-!
# Records in JSON texts

A record is read while the text is scanned, so the first fault in the text is
the one that is reported.  It may be written as an object, whose other members
are skipped, or as a list that holds the fields in their order.
-/

namespace DriverUplift.Json

/-- What is reported about a value of the wrong kind, at a text without leading blanks. -/
def mismatch (expected : String) (text : List Char) : Fault :=
  match text with
  | [] => .atEnd .endInValue
  | c :: _ =>
      if c = '[' then .behind (.wrongType .list expected) text
      else if c = '\x7b' then .behind (.wrongType .object expected) text
      else
        match scalar text with
        | .error fault => fault
        | .ok (value, rest) => .behind (.wrongType value.found expected) rest

def textReader : Reader String where
  read text :=
    match skipBlanks text with
    | [] => .error (mismatch "a string" [])
    | c :: rest =>
        if c = '"' then (textBody rest).map String.ofList
        else .error (mismatch "a string" (c :: rest))
  shortens {text _ _} h := by
    have blanks := length_skipBlanks_le text
    split at h
    · simp at h
    · rename_i start
      rw [start] at blanks
      split at h
      · obtain ⟨_, body, _⟩ := Step.map_eq_ok h
        exact Nat.lt_of_lt_of_le (Nat.lt_succ_of_lt (length_textBody_lt body)) blanks
      · simp at h

def listReader {α : Type} (item : Reader α) : Reader (List α) where
  read text :=
    match skipBlanks text with
    | [] => .error (mismatch "a sequence" [])
    | c :: rest =>
        if c = '[' then items item rest else .error (mismatch "a sequence" (c :: rest))
  shortens {text _ _} h := by
    have blanks := length_skipBlanks_le text
    split at h
    · simp at h
    · rename_i start
      rw [start] at blanks
      split at h
      · exact Nat.lt_of_lt_of_le (Nat.lt_succ_of_lt (length_items_lt h)) blanks
      · simp at h

/-- A field of a record: its key, whether it must be there, and how it is read and stored. -/
structure Slot (α : Type) where
  key : String
  required : Bool
  value : Reader (α → α)

/-- A kind of record: its name, a record without any field, and its fields in order. -/
structure Layout (α : Type) where
  name : String
  blank : α
  slots : List (Slot α)

namespace Layout

variable {α : Type}

def expected (layout : Layout α) : String :=
  "struct " ++ layout.name

/-- What messages call a list that holds the fields of such a record. -/
def expectedItems (layout : Layout α) : String :=
  let count := layout.slots.length
  layout.expected ++ " with " ++ toString count ++ (if count = 1 then " element" else " elements")

/-- A key that comes a second time is blamed together with a brace right behind it. -/
def duplicate (key : String) (text : List Char) : Fault :=
  match skipBlanks text with
  | [] => .atEnd (.duplicateField key)
  | c :: rest => .behind (.duplicateField key) (if c = '\x7d' then rest else c :: rest)

/-- Read the value of a key: store it if the key is a field, and skip it if not. -/
def member (layout : Layout α) (state : α × List String) (key : String) :
    Reader (α × List String) :=
  match layout.slots.find? (·.key == key) with
  | none => (behindColon skip).map fun _ => state
  | some slot =>
      if state.2.contains key then
        ⟨fun text => .error (duplicate key text), fun h => by simp at h⟩
      else (behindColon slot.value).map fun store => (store state.1, key :: state.2)

def fromObject (layout : Layout α) (text : List Char) : Step α :=
  match members layout.member (layout.blank, []) text with
  | .error fault => .error fault
  | .ok ((record, seen), rest) =>
      match layout.slots.find? fun slot => slot.required && !seen.contains slot.key with
      | some slot => .error (.behind (.missingField slot.key) rest)
      | none => .ok (record, rest)

def closeItems (record : α) (text : List Char) : Step α :=
  match skipBlanks text with
  | [] => .error (.atEnd .endInList)
  | c :: rest =>
      if c = ']' then .ok (record, rest)
      else if c = ',' then
        match skipBlanks rest with
        | [] => .error (.atEnd .trailingCharacters)
        | d :: more =>
            .error (.onNext (if d = ']' then .trailingComma else .trailingCharacters) (d :: more))
      else .error (.onNext .trailingCharacters (c :: rest))

/--
Read the remaining fields of a record that is written as a list.  Where the
list ends too early, the first required field that is left out is blamed.
-/
def fromItems (expected : String) (record : α) (index : Nat) (slots : List (Slot α))
    (text : List Char) : Step α :=
  match slots with
  | [] => closeItems record text
  | slot :: more =>
      match if index = 0 then firstItem text else nextItem text with
      | .error fault => .error fault
      | .ok (.close rest) =>
          match (slot :: more).findIdx? (·.required) with
          | some ahead => .error (.behind (.tooShort (index + ahead) expected) rest)
          | none => .ok (record, rest)
      | .ok (.enter next) =>
          match slot.value.read next with
          | .error fault => .error fault
          | .ok (store, rest) => fromItems expected (store record) (index + 1) more rest

theorem length_fromObject_lt {layout : Layout α} {text rest : List Char} {record : α}
    (h : layout.fromObject text = .ok (record, rest)) : rest.length < text.length := by
  unfold fromObject at h
  split at h
  · simp at h
  · rename_i inside
    split at h
    · simp at h
    · simp only [Except.ok.injEq, Prod.mk.injEq] at h
      exact h.2 ▸ length_members_lt inside

theorem length_closeItems_lt {record final : α} {text rest : List Char}
    (h : closeItems record text = .ok (final, rest)) : rest.length < text.length := by
  have blanks := length_skipBlanks_le text
  unfold closeItems at h
  split at h
  · simp at h
  · rename_i start
    rw [start, List.length_cons] at blanks
    split at h
    · simp only [Except.ok.injEq, Prod.mk.injEq] at h
      rw [← h.2]
      omega
    · split at h
      · split at h <;> simp at h
      · simp at h

theorem length_fromItems_lt {expected : String} {record final : α} {index : Nat}
    {slots : List (Slot α)} {text rest : List Char}
    (h : fromItems expected record index slots text = .ok (final, rest)) :
    rest.length < text.length := by
  induction slots generalizing record index text with
  | nil => exact length_closeItems_lt (by simpa [fromItems] using h)
  | cons slot more ih =>
      have closed : ∀ {behind}, (if index = 0 then firstItem text else nextItem text) =
          .ok (.close behind) → behind.length < text.length := by
        intro behind turn
        split at turn
        · exact length_firstItem_close turn
        · exact length_nextItem_lt turn
      have entered : ∀ {next}, (if index = 0 then firstItem text else nextItem text) =
          .ok (.enter next) → next.length ≤ text.length := by
        intro next turn
        split at turn
        · exact length_firstItem_le turn
        · exact Nat.le_of_lt (length_nextItem_lt turn)
      simp only [fromItems] at h
      split at h
      · simp at h
      · rename_i turn
        split at h
        · simp at h
        · simp only [Except.ok.injEq, Prod.mk.injEq] at h
          exact h.2 ▸ closed turn
      · rename_i turn
        split at h
        · simp at h
        · rename_i read
          have one := entered turn
          have two := slot.value.shortens read
          have three := ih h
          omega

def reader (layout : Layout α) : Reader α where
  read text :=
    match skipBlanks text with
    | [] => .error (mismatch layout.expected [])
    | c :: rest =>
        if c = '\x7b' then layout.fromObject rest
        else if c = '[' then
          fromItems layout.expectedItems layout.blank 0 layout.slots rest
        else .error (mismatch layout.expected (c :: rest))
  shortens {text _ _} h := by
    have blanks := length_skipBlanks_le text
    split at h
    · simp at h
    · rename_i start
      rw [start] at blanks
      refine Nat.lt_of_lt_of_le ?_ blanks
      split at h
      · exact Nat.lt_succ_of_lt (length_fromObject_lt h)
      · split at h
        · exact Nat.lt_succ_of_lt (length_fromItems_lt h)
        · simp at h

end Layout

def Slot.mandatory {α β : Type} (key : String) (value : Reader β) (store : β → α → α) : Slot α :=
  ⟨key, true, value.map store⟩

def Slot.optional {α β : Type} (key : String) (value : Reader β) (store : β → α → α) : Slot α :=
  ⟨key, false, value.map store⟩

end DriverUplift.Json
