import DriverUplift.Text.Occurrence

/-!
# Timestamps

The profile of dates and times that the API promises: a calendar date, a mark,
a time of day, an optional fraction of a second, and an offset.  A text is only
checked; its parts are not kept.
-/

namespace DriverUplift.Timestamp

def digits? : Nat → Nat → List Char → Option (Nat × List Char)
  | 0, number, text => some (number, text)
  | _ + 1, _, [] => none
  | count + 1, number, c :: text =>
      if c.isDigit then digits? count (number * 10 + (c.toNat - '0'.toNat)) text else none

def bounded? (count low high : Nat) (text : List Char) : Option (Nat × List Char) :=
  match digits? count 0 text with
  | some (number, rest) => if low ≤ number ∧ number ≤ high then some (number, rest) else none
  | none => none

def oneOf? (marks : List Char) : List Char → Option (List Char)
  | [] => none
  | c :: text => if c ∈ marks then some text else none

def isLeapYear (year : Nat) : Bool :=
  year % 4 == 0 && (year % 100 != 0 || year % 400 == 0)

def daysInMonth (year month : Nat) : Nat :=
  if month = 2 then (if isLeapYear year then 29 else 28)
  else if month ∈ [4, 6, 9, 11] then 30
  else 31

def date? (text : List Char) : Option (List Char) := do
  let (year, text) ← digits? 4 0 text
  let text ← oneOf? ['-'] text
  let (month, text) ← bounded? 2 1 12 text
  let text ← oneOf? ['-'] text
  let (_, text) ← bounded? 2 1 (daysInMonth year month) text
  pure text

/-- Read a time of day; a sixtieth second is allowed in every minute. -/
def time? (text : List Char) : Option (List Char) := do
  let (_, text) ← bounded? 2 0 23 text
  let text ← oneOf? [':'] text
  let (_, text) ← bounded? 2 0 59 text
  let text ← oneOf? [':'] text
  let (_, text) ← bounded? 2 0 60 text
  pure text

def fraction? (text : List Char) : Option (List Char) :=
  match text with
  | '.' :: rest =>
      match rest with
      | c :: more => if c.isDigit then some (more.dropWhile Char.isDigit) else none
      | [] => none
  | _ => some text

/-- Read an offset of less than a day, or the letter for none. -/
def offset? (text : List Char) : Option (List Char) :=
  match oneOf? ['Z', 'z'] text with
  | some rest => some rest
  | none => do
      let text ← oneOf? ['+', '-', '\u2212'] text
      let (_, text) ← bounded? 2 0 23 text
      let text ← oneOf? [':'] text
      let (_, text) ← bounded? 2 0 59 text
      pure text

def read? (text : List Char) : Option (List Char) := do
  let text ← date? text
  let text ← oneOf? ['T', 't', ' '] text
  let text ← time? text
  let text ← fraction? text
  offset? text

def isValid (text : String) : Bool :=
  read? text.toList == some []

end DriverUplift.Timestamp
