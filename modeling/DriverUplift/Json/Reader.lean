import DriverUplift.Json.Scan

/-!
# Readers and the two containers

A reader takes a value from the front of a text and always takes something.
Given readers for what is inside, `items` reads a list up to its closing
bracket and `members` reads an object up to its closing brace.
-/

namespace DriverUplift.Json

/-- A step that leaves less of the text than there was. -/
structure Reader (α : Type) where
  read : List Char → Step α
  shortens : ∀ {text rest : List Char} {value : α},
    read text = .ok (value, rest) → rest.length < text.length

def Step.map {α β : Type} (f : α → β) : Step α → Step β
  | .error fault => .error fault
  | .ok (value, rest) => .ok (f value, rest)

theorem Step.map_eq_ok {α β : Type} {f : α → β} {step : Step α} {value : β} {rest : List Char}
    (h : step.map f = .ok (value, rest)) : ∃ given, step = .ok (given, rest) ∧ f given = value := by
  match step, h with
  | .ok (given, _), h =>
      simp only [Step.map, Except.ok.injEq, Prod.mk.injEq] at h
      exact ⟨given, by rw [h.2], h.1⟩

def Reader.map {α β : Type} (f : α → β) (reader : Reader α) : Reader β where
  read text := (reader.read text).map f
  shortens h := by
    obtain ⟨given, read, _⟩ := Step.map_eq_ok h
    exact reader.shortens read

/-- Inside a container: it ends here, or one more part starts here. -/
inductive Turn where
  | close (rest : List Char)
  | enter (text : List Char)

def Turn.unread : Turn → List Char
  | close rest => rest
  | enter text => text

def firstItem (text : List Char) : Except Fault Turn :=
  match skipBlanks text with
  | [] => .error (.atEnd .endInList)
  | c :: rest => .ok (if c = ']' then .close rest else .enter (c :: rest))

def nextItem (text : List Char) : Except Fault Turn :=
  match skipBlanks text with
  | [] => .error (.atEnd .endInList)
  | c :: rest =>
      if c = ']' then .ok (.close rest)
      else if c = ',' then
        match skipBlanks rest with
        | [] => .error (.atEnd .endInValue)
        | d :: more =>
            if d = ']' then .error (.onNext .trailingComma (d :: more))
            else .ok (.enter (d :: more))
      else .error (.onNext .expectedListComma (c :: rest))

def firstKey (text : List Char) : Except Fault Turn :=
  match skipBlanks text with
  | [] => .error (.atEnd .endInObject)
  | c :: rest =>
      if c = '\x7d' then .ok (.close rest)
      else if c = '"' then .ok (.enter rest)
      else .error (.onNext .keyNotText (c :: rest))

def nextKey (text : List Char) : Except Fault Turn :=
  match skipBlanks text with
  | [] => .error (.atEnd .endInObject)
  | c :: rest =>
      if c = '\x7d' then .ok (.close rest)
      else if c = ',' then
        match skipBlanks rest with
        | [] => .error (.atEnd .endInValue)
        | d :: more =>
            if d = '"' then .ok (.enter more)
            else if d = '\x7d' then .error (.onNext .trailingComma (d :: more))
            else .error (.onNext .keyNotText (d :: more))
      else .error (.onNext .expectedObjectComma (c :: rest))

def colon (text : List Char) : Except Fault (List Char) :=
  match skipBlanks text with
  | [] => .error (.atEnd .endInObject)
  | c :: rest => if c = ':' then .ok rest else .error (.onNext .expectedColon (c :: rest))

section Shortens

variable {text rest : List Char} {turn : Turn}

theorem length_firstItem_le (h : firstItem text = .ok turn) :
    turn.unread.length ≤ text.length := by
  have blanks := length_skipBlanks_le text
  unfold firstItem at h
  split at h
  · simp at h
  · rename_i start
    rw [start, List.length_cons] at blanks
    simp only [Except.ok.injEq] at h
    subst h
    split <;> simp only [Turn.unread, List.length_cons] <;> omega

theorem length_firstItem_close (h : firstItem text = .ok (.close rest)) :
    rest.length < text.length := by
  have blanks := length_skipBlanks_le text
  unfold firstItem at h
  split at h
  · simp at h
  · rename_i start
    rw [start, List.length_cons] at blanks
    simp only [Except.ok.injEq] at h
    split at h
    · simp only [Turn.close.injEq] at h
      subst h
      omega
    · simp at h

theorem length_nextItem_lt (h : nextItem text = .ok turn) :
    turn.unread.length < text.length := by
  have blanks := length_skipBlanks_le text
  unfold nextItem at h
  split at h
  · simp at h
  · rename_i c tail start
    rw [start, List.length_cons] at blanks
    split at h
    · simp only [Except.ok.injEq] at h
      subst h
      simp only [Turn.unread]
      omega
    · split at h
      · have inner := length_skipBlanks_le tail
        split at h
        · simp at h
        · rename_i next
          rw [next] at inner
          split at h
          · simp at h
          · simp only [Except.ok.injEq] at h
            subst h
            simp only [Turn.unread]
            omega
      · simp at h

theorem length_firstKey_lt (h : firstKey text = .ok turn) :
    turn.unread.length < text.length := by
  have blanks := length_skipBlanks_le text
  unfold firstKey at h
  split at h
  · simp at h
  · rename_i start
    rw [start, List.length_cons] at blanks
    split at h
    · simp only [Except.ok.injEq] at h
      subst h
      simp only [Turn.unread]
      omega
    · split at h
      · simp only [Except.ok.injEq] at h
        subst h
        simp only [Turn.unread]
        omega
      · simp at h

theorem length_nextKey_lt (h : nextKey text = .ok turn) :
    turn.unread.length < text.length := by
  have blanks := length_skipBlanks_le text
  unfold nextKey at h
  split at h
  · simp at h
  · rename_i c tail start
    rw [start, List.length_cons] at blanks
    split at h
    · simp only [Except.ok.injEq] at h
      subst h
      simp only [Turn.unread]
      omega
    · split at h
      · have inner := length_skipBlanks_le tail
        split at h
        · simp at h
        · rename_i next
          rw [next, List.length_cons] at inner
          split at h
          · simp only [Except.ok.injEq] at h
            subst h
            simp only [Turn.unread]
            omega
          · split at h <;> simp at h
      · simp at h

theorem length_colon_lt (h : colon text = .ok rest) : rest.length < text.length := by
  have blanks := length_skipBlanks_le text
  unfold colon at h
  split at h
  · simp at h
  · rename_i start
    rw [start, List.length_cons] at blanks
    split at h
    · simp only [Except.ok.injEq] at h
      subst h
      omega
    · simp at h

end Shortens

section Items

variable {α : Type}

def moreItems (item : Reader α) (text : List Char) : Step (List α) :=
  match _turn : nextItem text with
  | .error fault => .error fault
  | .ok (.close rest) => .ok ([], rest)
  | .ok (.enter next) =>
      match _read : item.read next with
      | .error fault => .error fault
      | .ok (value, rest) => (moreItems item rest).map (value :: ·)
termination_by text.length
decreasing_by
  have one := length_nextItem_lt _turn
  have two := item.shortens _read
  simp only [Turn.unread] at one
  omega

def items (item : Reader α) (text : List Char) : Step (List α) :=
  match firstItem text with
  | .error fault => .error fault
  | .ok (.close rest) => .ok ([], rest)
  | .ok (.enter next) =>
      match item.read next with
      | .error fault => .error fault
      | .ok (value, rest) => (moreItems item rest).map (value :: ·)

theorem length_moreItems_lt {item : Reader α} {text rest : List Char} {values : List α}
    (h : moreItems item text = .ok (values, rest)) : rest.length < text.length := by
  fun_induction moreItems item text generalizing values rest with
  | case1 => simp at h
  | case2 text closed turn =>
      simp only [Except.ok.injEq, Prod.mk.injEq] at h
      exact h.2 ▸ length_nextItem_lt turn
  | case3 => simp at h
  | case4 text next turn value behind read ih =>
      obtain ⟨_, more, _⟩ := Step.map_eq_ok h
      have one := length_nextItem_lt turn
      have two := item.shortens read
      have three := ih more
      simp only [Turn.unread] at one
      omega

theorem length_items_lt {item : Reader α} {text rest : List Char} {values : List α}
    (h : items item text = .ok (values, rest)) : rest.length < text.length := by
  unfold items at h
  split at h
  · simp at h
  · rename_i turn
    simp only [Except.ok.injEq, Prod.mk.injEq] at h
    exact h.2 ▸ length_firstItem_close turn
  · rename_i turn
    split at h
    · simp at h
    · rename_i read
      obtain ⟨_, more, _⟩ := Step.map_eq_ok h
      have one := length_firstItem_le turn
      have two := item.shortens read
      have three := length_moreItems_lt more
      simp only [Turn.unread] at one
      omega

end Items

section Members

variable {σ : Type}

/--
Read one member behind the quote of its key.  What the member does to the state
is up to `member`, which starts behind the key.
-/
def memberStep (member : σ → String → Reader σ) (state : σ) (text : List Char) : Step σ :=
  match textBody text with
  | .error fault => .error fault
  | .ok (key, rest) => (member state (String.ofList key)).read rest

theorem length_memberStep_lt {member : σ → String → Reader σ} {state after : σ}
    {text rest : List Char} (h : memberStep member state text = .ok (after, rest)) :
    rest.length < text.length := by
  unfold memberStep at h
  split at h
  · simp at h
  · rename_i key
    exact Nat.lt_trans ((member _ _).shortens h) (length_textBody_lt key)

def moreMembers (member : σ → String → Reader σ) (state : σ) (text : List Char) : Step σ :=
  match _turn : nextKey text with
  | .error fault => .error fault
  | .ok (.close rest) => .ok (state, rest)
  | .ok (.enter next) =>
      match _read : memberStep member state next with
      | .error fault => .error fault
      | .ok (state, rest) => moreMembers member state rest
termination_by text.length
decreasing_by
  have one := length_nextKey_lt _turn
  have two := length_memberStep_lt _read
  simp only [Turn.unread] at one
  omega

def members (member : σ → String → Reader σ) (state : σ) (text : List Char) : Step σ :=
  match firstKey text with
  | .error fault => .error fault
  | .ok (.close rest) => .ok (state, rest)
  | .ok (.enter next) =>
      match memberStep member state next with
      | .error fault => .error fault
      | .ok (state, rest) => moreMembers member state rest

theorem length_moreMembers_lt {member : σ → String → Reader σ} {state after : σ}
    {text rest : List Char} (h : moreMembers member state text = .ok (after, rest)) :
    rest.length < text.length := by
  fun_induction moreMembers member state text with
  | case1 => simp at h
  | case2 state text closed turn =>
      simp only [Except.ok.injEq, Prod.mk.injEq] at h
      exact h.2 ▸ length_nextKey_lt turn
  | case3 => simp at h
  | case4 state text next turn inner behind read ih =>
      have one := length_nextKey_lt turn
      have two := length_memberStep_lt read
      have three := ih h
      simp only [Turn.unread] at one
      omega

theorem length_members_lt {member : σ → String → Reader σ} {state after : σ}
    {text rest : List Char} (h : members member state text = .ok (after, rest)) :
    rest.length < text.length := by
  unfold members at h
  split at h
  · simp at h
  · rename_i turn
    simp only [Except.ok.injEq, Prod.mk.injEq] at h
    exact h.2 ▸ length_firstKey_lt turn
  · rename_i turn
    split at h
    · simp at h
    · rename_i read
      have one := length_firstKey_lt turn
      have two := length_memberStep_lt read
      have three := length_moreMembers_lt h
      simp only [Turn.unread] at one
      omega

end Members

end DriverUplift.Json
