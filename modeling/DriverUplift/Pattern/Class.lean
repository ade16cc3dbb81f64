import DriverUplift.Pattern.Atom

/-!
# Classes of characters

A class lists characters between brackets: one by one, in ranges, by the names
of other classes, and in classes within it.  Operations combine what stands
before them with what follows.  Reading a class says how deep it is nested.
-/

namespace DriverUplift.Pattern

structure OpenClass where
  /-- Whether nothing but minus signs has been read. -/
  isFresh : Bool
  /-- How deep each item is nested, the last one first. -/
  items : List Nat
  /-- How deep what stands before the last operation is nested. -/
  left : Option Nat
  deriving Repr

namespace OpenClass

def push (item : Nat) (here : OpenClass) : OpenClass :=
  { here with isFresh := false, items := item :: here.items }

/-- How deep things side by side are nested: one thing counts as itself. -/
def depthOfAll : List Nat → Nat
  | [] => 0
  | [depth] => depth
  | depths => depths.foldl max 0 + 1

def depth (here : OpenClass) : Nat :=
  match here.left with
  | none => depthOfAll here.items
  | some left => max left (depthOfAll here.items) + 1

def operate (here : OpenClass) : OpenClass :=
  ⟨false, [], some here.depth⟩

end OpenClass

namespace Class

def asciiNames : List String :=
  ["alnum", "alpha", "ascii", "blank", "cntrl", "digit", "graph", "lower", "print", "punct",
    "space", "upper", "word", "xdigit"]

/-- Read the name of a class behind its bracket, and whether the class is all but the named one. -/
def readName? (text : List Char) : Option (Bool × List Char) :=
  match text with
  | ':' :: text =>
      let negated := text.head? == some '^'
      let text := if negated then text.drop 1 else text
      match text.dropWhile (· != ':') with
      | ':' :: ']' :: rest =>
          if asciiNames.contains (String.ofList (text.takeWhile (· != ':'))) then
            some (negated, rest)
          else none
      | _ => none
  | _ => none

/-- Read the start of a class behind its bracket.  What is left of all bytes is no text. -/
def readStart? (mode : Mode) (text : List Char) : Option (OpenClass × List Char) :=
  match mode.skip text with
  | '^' :: rest => if mode.unicode then some (⟨true, [], none⟩, rest) else none
  | rest => some (⟨true, [], none⟩, rest)

def readAtom? (mode : Mode) : List Char → Option (Atom × List Char)
  | [] => none
  | '\\' :: text => Atom.readEscaped? mode text
  | c :: text => some (.char c false, text)

def isRange (mode : Mode) : Atom → Atom → Bool
  | .char first firstIsByte, .char last lastIsByte =>
      first ≤ last && (Atom.char first firstIsByte).fitsClass mode &&
        (Atom.char last lastIsByte).fitsClass mode
  | _, _ => false

def readItem? (mode : Mode) (text : List Char) : Option (List Char) := do
  let (first, rest) ← readAtom? mode text
  match mode.skip rest with
  | '-' :: behind =>
      match mode.peek? behind with
      | some ']' | some '-' => if first.fitsClass mode then some ('-' :: behind) else none
      | _ =>
          let (last, rest) ← readAtom? mode (mode.skip behind)
          if isRange mode first last then some rest else none
  | rest => if first.fitsClass mode then some rest else none

def isOperation (c : Char) : Bool :=
  c == '&' || c == '-' || c == '~'

def readFrom? (mode : Mode) :
    Nat → OpenClass → List OpenClass → List Char → Option (Nat × List Char)
  | 0, _, _, _ => none
  | steps + 1, here, outer, text =>
      match mode.skip text with
      | [] => none
      | '[' :: rest =>
          match readName? rest with
          | some (negated, rest) =>
              if (Atom.named negated).fitsClass mode then
                readFrom? mode steps (here.push 0) outer rest
              else none
          | none =>
              match readStart? mode rest with
              | some (inner, rest) =>
                  readFrom? mode steps inner ({ here with isFresh := false } :: outer) rest
              | none => none
      | c :: rest =>
          if here.isFresh && c == '-' then
            readFrom? mode steps { here.push 0 with isFresh := true } outer rest
          else if c == ']' && !(here.isFresh && here.items.isEmpty) then
            match outer with
            | [] => some (here.depth + 1, rest)
            | around :: outer => readFrom? mode steps (around.push (here.depth + 1)) outer rest
          else if c == ']' then readFrom? mode steps (here.push 0) outer rest
          else if isOperation c && rest.head? == some c then
            readFrom? mode steps here.operate outer (rest.drop 1)
          else
            match readItem? mode (c :: rest) with
            | some rest => readFrom? mode steps (here.push 0) outer rest
            | none => none

/-- Read a class behind its bracket: how deep it is nested, and what follows it. -/
def read? (mode : Mode) (text : List Char) : Option (Nat × List Char) :=
  match readStart? mode text with
  | some (here, rest) => readFrom? mode (rest.length + 1) here [] rest
  | none => none

end Class

end DriverUplift.Pattern
