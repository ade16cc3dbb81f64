import DriverUplift.Json.Reader

/-!
# Parsing JSON values

A whole text is one value between blanks.  Lists and objects may be nested up
to a limit; of two members with one key the later gives the value and the
earlier the place.
-/

namespace DriverUplift.Json

def scalar (text : List Char) : Step Json :=
  match text with
  | [] => .error (.atEnd .endInValue)
  | c :: rest =>
      if c = 'n' then (word ['u', 'l', 'l'] rest).map (Json.null, ·)
      else if c = 't' then (word ['r', 'u', 'e'] rest).map (Json.bool true, ·)
      else if c = 'f' then (word ['a', 'l', 's', 'e'] rest).map (Json.bool false, ·)
      else if c = '"' then (textBody rest).map fun chars => Json.str (String.ofList chars)
      else if c = '-' ∨ c.isDigit then (number (c :: rest)).map Json.num
      else .error (.onNext .expectedValue (c :: rest))

theorem length_of_map_word {expected text rest : List Char} {read value : Json}
    (h : (word expected text).map (read, ·) = .ok (value, rest)) : rest.length ≤ text.length := by
  cases matched : word expected text with
  | error => simp [matched, Except.map] at h
  | ok behind =>
      simp only [matched, Except.map, Except.ok.injEq, Prod.mk.injEq] at h
      exact h.2 ▸ length_word_le matched

theorem length_scalar_lt {text rest : List Char} {value : Json}
    (h : scalar text = .ok (value, rest)) : rest.length < text.length := by
  unfold scalar at h
  cases text with
  | nil => simp at h
  | cons c text =>
      simp only at h
      split at h
      · exact Nat.lt_succ_of_le (length_of_map_word h)
      split at h
      · exact Nat.lt_succ_of_le (length_of_map_word h)
      split at h
      · exact Nat.lt_succ_of_le (length_of_map_word h)
      split at h
      · obtain ⟨_, body, _⟩ := Step.map_eq_ok h
        exact Nat.lt_succ_of_lt (length_textBody_lt body)
      split at h
      · obtain ⟨_, digits, _⟩ := Step.map_eq_ok h
        exact length_number_lt digits
      · simp at h

def behindColon {α : Type} (reader : Reader α) : Reader α where
  read text :=
    match colon text with
    | .error fault => .error fault
    | .ok rest => reader.read rest
  shortens h := by
    split at h
    · simp at h
    · rename_i start
      exact Nat.lt_trans (reader.shortens h) (length_colon_lt start)

def putMember (value : Reader Json) (known : Members Json) (key : String) :
    Reader (Members Json) :=
  (behindColon value).map fun found => Members.put key found known

/-- Read a value, given a reader for what is inside lists and objects, if they are allowed. -/
def valueWith (inner : Option (Reader Json)) : Reader Json where
  read text :=
    match skipBlanks text with
    | [] => .error (.atEnd .endInValue)
    | c :: rest =>
        if c = '[' ∨ c = '\x7b' then
          match inner with
          | none => .error (.onNext .tooDeep (c :: rest))
          | some value =>
              if c = '[' then (items value rest).map Json.arr
              else (members (putMember value) [] rest).map Json.obj
        else scalar (c :: rest)
  shortens {text _ _} h := by
    have blanks := length_skipBlanks_le text
    split at h
    · simp at h
    · rename_i start
      rw [start] at blanks
      refine Nat.lt_of_lt_of_le ?_ blanks
      split at h
      · split at h
        · simp at h
        · split at h
          · obtain ⟨_, inside, _⟩ := Step.map_eq_ok h
            exact Nat.lt_succ_of_lt (length_items_lt inside)
          · obtain ⟨_, inside, _⟩ := Step.map_eq_ok h
            exact Nat.lt_succ_of_lt (length_members_lt inside)
      · exact length_scalar_lt h

/-- Read a value with at most so many lists and objects inside each other. -/
def value : Nat → Reader Json
  | 0 => valueWith none
  | depth + 1 => valueWith (some (value depth))

def depthLimit : Nat := 127

/-- Read a whole text with a reader; only blanks may follow. -/
def whole {α : Type} (reader : Reader α) (text : List Char) : Except Error α :=
  match reader.read text with
  | .error fault => .error (fault.locate text)
  | .ok (value, rest) =>
      match skipBlanks rest with
      | [] => .ok value
      | c :: more => .error ((Fault.onNext .trailingCharacters (c :: more)).locate text)

def parse (text : String) : Except Error Json :=
  whole (value depthLimit) text.toList

end DriverUplift.Json
