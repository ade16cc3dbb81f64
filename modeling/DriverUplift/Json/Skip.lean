import DriverUplift.Json.Reader

/-!
# Skipping values

A value that nobody asks for is only checked for its form.  Skipping keeps the
containers that are still open in a list instead of nesting calls, so no limit
of depth applies; numbers have no range, and escapes may write halves of pairs.
-/

namespace DriverUplift.Json

/-- A container that is open around the text that is being skipped. -/
inductive Container where
  | list
  | object
  deriving DecidableEq

namespace Container

def closing : Container → Char
  | list => ']'
  | object => '\x7d'

def endProblem : Container → Problem
  | list => .endInList
  | object => .endInObject

def commaProblem : Container → Problem
  | list => .expectedListComma
  | object => .expectedObjectComma

end Container

def skipEscape (text : List Char) : Except Fault (List Char) :=
  match text with
  | [] => .error (.atEnd .endInText)
  | c :: rest =>
      if c = 'u' then
        match codeUnit rest with
        | .error fault => .error fault
        | .ok (_, rest) => .ok rest
      else if (shortEscape? c).isSome then .ok rest
      else .error (.onNext .invalidEscape (c :: rest))

theorem length_skipEscape_lt {text rest : List Char} (h : skipEscape text = .ok rest) :
    rest.length < text.length := by
  unfold skipEscape at h
  cases text with
  | nil => simp at h
  | cons c text =>
      simp only at h
      split at h
      · split at h
        · simp at h
        · rename_i read
          simp only [Except.ok.injEq] at h
          exact h ▸ Nat.lt_succ_of_lt (length_codeUnit_lt read)
      · split at h
        · simp_all
        · simp at h

def skipText (text : List Char) : Except Fault (List Char) :=
  match text with
  | [] => .error (.atEnd .endInText)
  | c :: rest =>
      if c = '"' then .ok rest
      else if c = '\\' then
        match _read : skipEscape rest with
        | .error fault => .error fault
        | .ok rest => skipText rest
      else if c.toNat < 0x20 then .error (.behind .controlCharacter (c :: rest))
      else skipText rest
termination_by text.length
decreasing_by
  · have := length_skipEscape_lt _read
    simp only [List.length_cons]
    omega
  · simp

theorem length_skipText_lt {text rest : List Char} (h : skipText text = .ok rest) :
    rest.length < text.length := by
  fun_induction skipText text with
  | case1 => simp at h
  | case2 => simp_all
  | case3 => simp at h
  | case4 =>
      rename_i read _ ih
      have := length_skipEscape_lt read
      have := ih h
      simp only [List.length_cons]
      omega
  | case5 => simp at h
  | case6 =>
      rename_i ih
      exact Nat.lt_succ_of_lt (ih h)

def skipExponent (text : List Char) : Except Fault (List Char) :=
  let digits := match text with
    | '+' :: rest => rest
    | '-' :: rest => rest
    | _ => text
  match digits with
  | [] => .error (.atEnd .invalidNumber)
  | c :: rest =>
      if c.isDigit then .ok (skipDigits rest) else .error (.onNext .invalidNumber (c :: rest))

def skipScale (text : List Char) : Except Fault (List Char) :=
  match text with
  | [] => .ok []
  | c :: rest => if isExponentMark c then skipExponent rest else .ok (c :: rest)

def skipFraction (text : List Char) : Except Fault (List Char) :=
  match text with
  | [] => .error (.atEnd .invalidNumber)
  | c :: rest =>
      if c.isDigit then skipScale (skipDigits rest)
      else .error (.onNext .invalidNumber (c :: rest))

def skipAfterInteger (text : List Char) : Except Fault (List Char) :=
  match text with
  | [] => .ok []
  | c :: rest => if c = '.' then skipFraction rest else skipScale (c :: rest)

def skipUnsigned (text : List Char) : Except Fault (List Char) :=
  match text with
  | [] => .error (.atEnd .invalidNumber)
  | c :: rest =>
      if c = '0' then
        match rest with
        | [] => .ok []
        | d :: _ =>
            if d.isDigit then .error (.onNext .invalidNumber rest) else skipAfterInteger rest
      else if c.isDigit then skipAfterInteger (skipDigits rest)
      else .error (.onNext .invalidNumber (c :: rest))

section Numbers

variable {text rest : List Char}

theorem length_skipExponent_le (h : skipExponent text = .ok rest) :
    rest.length ≤ text.length := by
  have step : ∀ {digits : List Char}, (match digits with
      | [] => .error (.atEnd .invalidNumber)
      | c :: rest =>
          if c.isDigit then .ok (skipDigits rest)
          else .error (.onNext .invalidNumber (c :: rest)) : Except Fault (List Char)) = .ok rest →
      rest.length ≤ digits.length := by
    intro digits h
    cases digits with
    | nil => simp at h
    | cons c digits =>
        simp only at h
        split at h
        · simp only [Except.ok.injEq] at h
          exact h ▸ Nat.le_succ_of_le (length_skipDigits_le _)
        · simp at h
  unfold skipExponent at h
  split at h
  · exact Nat.le_succ_of_le (step h)
  · exact Nat.le_succ_of_le (step h)
  · exact step h

theorem length_skipScale_le (h : skipScale text = .ok rest) : rest.length ≤ text.length := by
  unfold skipScale at h
  split at h
  · simp_all
  · split at h
    · exact Nat.le_succ_of_le (length_skipExponent_le h)
    · simp_all

theorem length_skipFraction_le (h : skipFraction text = .ok rest) :
    rest.length ≤ text.length := by
  unfold skipFraction at h
  split at h
  · simp at h
  · split at h
    · exact Nat.le_succ_of_le
        (Nat.le_trans (length_skipScale_le h) (length_skipDigits_le _))
    · simp at h

theorem length_skipAfterInteger_le (h : skipAfterInteger text = .ok rest) :
    rest.length ≤ text.length := by
  unfold skipAfterInteger at h
  split at h
  · simp_all
  · split at h
    · exact Nat.le_succ_of_le (length_skipFraction_le h)
    · exact length_skipScale_le h

theorem length_skipUnsigned_lt (h : skipUnsigned text = .ok rest) :
    rest.length < text.length := by
  unfold skipUnsigned at h
  cases text with
  | nil => simp at h
  | cons c text =>
      simp only at h
      split at h
      · cases text with
        | nil => simp_all
        | cons d text =>
            simp only at h
            split at h
            · simp at h
            · exact Nat.lt_succ_of_le (length_skipAfterInteger_le h)
      · split at h
        · exact Nat.lt_succ_of_le
            (Nat.le_trans (length_skipAfterInteger_le h) (length_skipDigits_le _))
        · simp at h

end Numbers

def skipHead (text : List Char) : Except Fault (Option Container × List Char) :=
  match text with
  | [] => .error (.atEnd .endInValue)
  | c :: rest =>
      if c = '[' then .ok (some .list, rest)
      else if c = '\x7b' then .ok (some .object, rest)
      else if c = 'n' then (word ['u', 'l', 'l'] rest).map (none, ·)
      else if c = 't' then (word ['r', 'u', 'e'] rest).map (none, ·)
      else if c = 'f' then (word ['a', 'l', 's', 'e'] rest).map (none, ·)
      else if c = '"' then (skipText rest).map (none, ·)
      else if c = '-' then (skipUnsigned rest).map (none, ·)
      else if c.isDigit then (skipUnsigned (c :: rest)).map (none, ·)
      else .error (.onNext .expectedValue (c :: rest))

inductive SkipTurn where
  | done (rest : List Char)
  | part (container : Container) (outer : List Container) (text : List Char)

/--
Close the containers that end here.  A container that was only just opened
takes its first part without a comma before it.
-/
def settle : Bool → List Container → List Char → Except Fault SkipTurn
  | _, [], text => .ok (.done text)
  | fresh, container :: outer, text =>
      match skipBlanks text with
      | [] => .error (.atEnd container.endProblem)
      | c :: rest =>
          if c = container.closing then settle false outer rest
          else if fresh then .ok (.part container outer (c :: rest))
          else if c = ',' then .ok (.part container outer rest)
          else .error (.onNext container.commaProblem (c :: rest))

/-- Skip what stands before a value in a container: nothing in a list, a key in an object. -/
def skipKey (container : Container) (text : List Char) : Except Fault (List Char) :=
  match container with
  | .list => .ok text
  | .object =>
      match skipBlanks text with
      | [] => .error (.atEnd .endInObject)
      | c :: rest =>
          if c = '"' then
            match skipText rest with
            | .error fault => .error fault
            | .ok rest => colon rest
          else .error (.onNext .keyNotText (c :: rest))

theorem length_of_map_none {read : Except Fault (List Char)} {opened : Option Container}
    {rest : List Char} (h : read.map (none, ·) = .ok (opened, rest)) : read = .ok rest := by
  cases read with
  | error => simp [Except.map] at h
  | ok behind => simp_all [Except.map]

theorem length_skipHead_lt {text rest : List Char} {opened : Option Container}
    (h : skipHead text = .ok (opened, rest)) : rest.length < text.length := by
  unfold skipHead at h
  cases text with
  | nil => simp at h
  | cons c text =>
      simp only at h
      split at h
      · simp_all
      split at h
      · simp_all
      split at h
      · exact Nat.lt_succ_of_le (length_word_le (length_of_map_none h))
      split at h
      · exact Nat.lt_succ_of_le (length_word_le (length_of_map_none h))
      split at h
      · exact Nat.lt_succ_of_le (length_word_le (length_of_map_none h))
      split at h
      · exact Nat.lt_succ_of_lt (length_skipText_lt (length_of_map_none h))
      split at h
      · exact Nat.lt_succ_of_lt (length_skipUnsigned_lt (length_of_map_none h))
      split at h
      · exact length_skipUnsigned_lt (length_of_map_none h)
      · simp at h

def SkipTurn.unread : SkipTurn → List Char
  | done rest => rest
  | part _ _ text => text

theorem length_settle_le {fresh : Bool} {stack : List Container} {text : List Char}
    {turn : SkipTurn} (h : settle fresh stack text = .ok turn) :
    turn.unread.length ≤ text.length := by
  induction stack generalizing fresh text with
  | nil =>
      simp only [settle, Except.ok.injEq] at h
      exact h ▸ Nat.le_refl _
  | cons container outer ih =>
      have blanks := length_skipBlanks_le text
      simp only [settle] at h
      split at h
      · simp at h
      · rename_i start
        rw [start, List.length_cons] at blanks
        split at h
        · have := ih h
          omega
        · split at h
          · simp only [Except.ok.injEq] at h
            subst h
            simpa [SkipTurn.unread] using blanks
          · split at h
            · simp only [Except.ok.injEq] at h
              subst h
              simp only [SkipTurn.unread]
              omega
            · simp at h

theorem length_skipKey_le {container : Container} {text rest : List Char}
    (h : skipKey container text = .ok rest) : rest.length ≤ text.length := by
  unfold skipKey at h
  split at h
  · simp_all
  · have blanks := length_skipBlanks_le text
    split at h
    · simp at h
    · rename_i start
      rw [start, List.length_cons] at blanks
      split at h
      · split at h
        · simp at h
        · rename_i key
          have := length_skipText_lt key
          have := length_colon_lt h
          omega
      · simp at h

/-- Skip a value, and after it all that is needed to close what is open. -/
def skipWithin (stack : List Container) (text : List Char) : Except Fault (List Char) :=
  match _head : skipHead (skipBlanks text) with
  | .error fault => .error fault
  | .ok (opened, rest) =>
      match _turn : settle opened.isSome (opened.toList ++ stack) rest with
      | .error fault => .error fault
      | .ok (.done rest) => .ok rest
      | .ok (.part container outer next) =>
          match _key : skipKey container next with
          | .error fault => .error fault
          | .ok next => skipWithin (container :: outer) next
termination_by text.length
decreasing_by
  have one := length_skipBlanks_le text
  have two := length_skipHead_lt _head
  have three := length_settle_le _turn
  have four := length_skipKey_le _key
  simp only [SkipTurn.unread] at three
  omega

theorem length_skipWithin_lt {stack : List Container} {text rest : List Char}
    (h : skipWithin stack text = .ok rest) : rest.length < text.length := by
  fun_induction skipWithin stack text with
  | case1 => simp at h
  | case2 => simp at h
  | case3 stack text opened behind head closed turn =>
      have one := length_skipBlanks_le text
      have two := length_skipHead_lt head
      have three := length_settle_le turn
      simp only [SkipTurn.unread, Except.ok.injEq] at three h
      subst h
      omega
  | case4 => simp at h
  | case5 stack text opened behind head container outer next turn start key ih =>
      have one := length_skipBlanks_le text
      have two := length_skipHead_lt head
      have three := length_settle_le turn
      have four := length_skipKey_le key
      have five := ih h
      simp only [SkipTurn.unread] at three
      omega

def skip : Reader Unit where
  read text := (skipWithin [] text).map ((), ·)
  shortens {text rest _} h := by
    cases read : skipWithin [] text with
    | error => simp [read, Except.map] at h
    | ok behind =>
        simp only [read, Except.map, Except.ok.injEq, Prod.mk.injEq] at h
        exact h.2 ▸ length_skipWithin_lt read

end DriverUplift.Json
