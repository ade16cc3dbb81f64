import DriverUplift.Pattern.Class
import DriverUplift.Text.Alphanumeric

/-!
# Usable patterns

A pattern is usable if it can be read and matched and is not nested too deep.
It is read from left to right; of what has been read, only the nesting and the
names of the groups are kept.
-/

namespace DriverUplift.Pattern

/-- A part of a pattern: how deep it is nested, and whether it may be repeated. -/
structure Part where
  depth : Nat
  isRepeatable : Bool
  deriving Repr

structure Group where
  mode : Mode
  /-- The parts side by side, the last one first. -/
  parts : List Part
  /-- How deep the alternatives before these parts are nested. -/
  branches : List Nat
  deriving Repr

namespace Group

def start (mode : Mode) : Group := ⟨mode, [], []⟩

def push (part : Part) (group : Group) : Group :=
  { group with parts := part :: group.parts }

def partsDepth (group : Group) : Nat :=
  OpenClass.depthOfAll (group.parts.map (·.depth))

def depth (group : Group) : Nat :=
  if group.branches.isEmpty then group.partsDepth
  else max group.partsDepth (group.branches.foldl max 0) + 1

def repeated? (group : Group) : Option Group :=
  match group.parts with
  | ⟨depth, true⟩ :: parts => some { group with parts := ⟨depth + 1, true⟩ :: parts }
  | _ => none

def branch (group : Group) : Group :=
  { group with parts := [], branches := group.partsDepth :: group.branches }

end Group

/-! ## Flags -/

def flagLetters : List Char := ['i', 'm', 's', 'U', 'u', 'R', 'x']

/-- Whether letters switch flags: each at most once, on, or off behind a minus sign. -/
def areFlags (letters : List Char) : Bool :=
  letters.all (fun c => c == '-' || flagLetters.contains c) && letters.eraseDups == letters &&
    letters.getLast? != some '-'

def flagState (letters : List Char) (flag : Char) (before : Bool) : Bool :=
  if (letters.takeWhile (· != '-')).contains flag then true
  else before && !letters.contains flag

def Mode.switch (mode : Mode) (letters : List Char) : Mode :=
  ⟨flagState letters 'u' mode.unicode, flagState letters 'x' mode.spaced⟩

/-! ## Names -/

def isGroupName : List Char → Bool
  | [] => false
  | first :: rest =>
      (first == '_' || Text.isAlphabetic first) &&
        rest.all fun c => c == '_' || c == '.' || c == '[' || c == ']' || Text.isAlphanumeric c

/-! ## Reading -/

structure State where
  current : Group
  /-- The groups around the current one, from the inside. -/
  outer : List Group
  names : List (List Char)
  deriving Repr

namespace State

def push (part : Part) (state : State) : State :=
  { state with current := state.current.push part }

def enter (mode : Mode) (state : State) : State :=
  { state with current := .start mode, outer := state.current :: state.outer }

def leave? (state : State) : Option State :=
  match state.outer with
  | [] => none
  | around :: outer =>
      some { state with current := around.push ⟨state.current.depth + 1, true⟩, outer }

def enterNamed? (state : State) (text : List Char) : Option (State × List Char) :=
  let name := text.takeWhile (· != '>')
  match text.dropWhile (· != '>') with
  | _ :: rest =>
      if isGroupName name && !state.names.contains name then
        some ({ state.enter state.current.mode with names := name :: state.names }, rest)
      else none
  | [] => none

/-- Read letters that switch flags, for the rest of the current group or for a new one. -/
def switch? (state : State) (text : List Char) : Option (State × List Char) :=
  let ends := fun c => c == ':' || c == ')'
  let letters := text.takeWhile (!ends ·)
  let mode := state.current.mode.switch letters
  if !areFlags letters then none
  else
    match text.dropWhile (!ends ·) with
    | ':' :: rest => some (state.enter mode, rest)
    | _ :: rest =>
        if letters.isEmpty then none
        else some ({ state with current := { state.current.push ⟨0, false⟩ with mode } }, rest)
    | [] => none

def open? (state : State) (text : List Char) : Option (State × List Char) :=
  match state.current.mode.skip text with
  | '?' :: 'P' :: '<' :: rest => state.enterNamed? rest
  | '?' :: '<' :: rest => state.enterNamed? rest
  | '?' :: rest => state.switch? rest
  | rest => some (state.enter state.current.mode, rest)

def atom? (state : State) (text : List Char) : Option (State × List Char) :=
  match Class.readAtom? state.current.mode text with
  | some (atom, rest) =>
      if atom.isUsable state.current.mode then some (state.push ⟨0, true⟩, rest) else none
  | none => none

def step? (state : State) (c : Char) (rest : List Char) : Option (State × List Char) :=
  match c with
  | '(' => state.open? rest
  | ')' => state.leave?.map (·, rest)
  | '|' => some ({ state with current := state.current.branch }, rest)
  | '[' =>
      (Class.read? state.current.mode rest).map fun (depth, rest) =>
        (state.push ⟨depth, true⟩, rest)
  | '?' | '*' | '+' =>
      let rest := if rest.head? == some '?' then rest.drop 1 else rest
      state.current.repeated?.map fun current => ({ state with current }, rest)
  | '\x7b' => none
  | '.' => if state.current.mode.unicode then some (state.push ⟨0, true⟩, rest) else none
  | c => state.atom? (c :: rest)

/-- Read what is left of a pattern, in at most so many steps, and say how deep the pattern is nested. -/
def readFrom? : Nat → State → List Char → Option Nat
  | 0, _, _ => none
  | steps + 1, state, text =>
      match state.current.mode.skip text with
      | [] => if state.outer.isEmpty then some state.current.depth else none
      | c :: rest =>
          match state.step? c rest with
          | some (state, rest) => readFrom? steps state rest
          | none => none

end State

def depthLimit : Nat := 250

def isUsable (text : List Char) : Bool :=
  match State.readFrom? (text.length + 1) ⟨.start .initial, [], []⟩ text with
  | some depth => depth ≤ depthLimit
  | none => false

end DriverUplift.Pattern
