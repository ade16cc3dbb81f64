import DriverUplift.Text.Blank
import DriverUplift.Text.Hexadecimal

/-!
# Atoms of patterns

A pattern describes texts.  Its atoms are characters, known classes of them, and
borders between them, most of which are written with a backslash.  Nothing is
ever written between braces, because patterns stand in braces themselves.
-/

namespace DriverUplift.Pattern

structure Mode where
  /-- Whether it describes characters, and not bytes. -/
  unicode : Bool
  /-- Whether blanks and comments in it are left out. -/
  spaced : Bool
  deriving DecidableEq, Repr

namespace Mode

def initial : Mode := ⟨true, false⟩

/-- Leave out blanks and comments, which a number sign starts and a line end closes. -/
def skipFrom (inComment : Bool) : List Char → List Char
  | [] => []
  | c :: text =>
      if inComment then skipFrom (c != '\n') text
      else if Text.isBlank c then skipFrom false text
      else if c == '#' then skipFrom true text
      else c :: text

def skip (mode : Mode) (text : List Char) : List Char :=
  if mode.spaced then skipFrom false text else text

/--
The character that decides what a minus sign in front of a text means.  Of a
comment only the sign that starts it is passed over.
-/
def peek? (mode : Mode) (text : List Char) : Option Char :=
  if mode.spaced then
    let behind := match text.dropWhile Text.isBlank with
      | '#' :: comment => comment.dropWhile Text.isBlank
      | other => other
    behind.head?.or text.head?
  else text.head?

end Mode

inductive Atom where
  /-- A character, and whether it is written as a byte. -/
  | char (c : Char) (isByte : Bool)
  /-- The digits, the blanks or the characters of words, or all others. -/
  | named (negated : Bool)
  /-- The characters of a general category, which a letter names. -/
  | category (letter : Char)
  /-- The start or the end of a text. -/
  | border
  /-- The start or the end of a word, or any other place. -/
  | wordBorder
  deriving DecidableEq, Repr

namespace Atom

def categories : List Char := ['c', 'l', 'm', 'n', 'p', 's', 'z']

/--
Whether an atom can be matched.  The borders of words are known for bytes only,
categories for characters only, and bytes must be whole characters.
-/
def isUsable (mode : Mode) : Atom → Bool
  | char c isByte => mode.unicode || !isByte || c.toNat < 0x80
  | named negated => mode.unicode || !negated
  | category letter => mode.unicode && categories.contains letter.toLower
  | border => true
  | wordBorder => !mode.unicode

def fitsClass (mode : Mode) : Atom → Bool
  | char c _ => mode.unicode || c.toNat < 0x80
  | border => false
  | wordBorder => false
  | atom => atom.isUsable mode

/-- Whether a backslash in front of a character takes its meaning from it. -/
def isEscapable (c : Char) : Bool :=
  c.toNat < 0x80 && !c.isAlphanum && c != '<' && c != '>'

def controls : List (Char × Char) :=
  [('a', '\x07'), ('f', '\x0c'), ('t', '\t'), ('n', '\n'), ('r', '\r'), ('v', '\x0b')]

def numberSizes : List (Char × Nat) :=
  [('x', 2), ('u', 4), ('U', 8)]

def readDigits? (mode : Mode) : Nat → List Char → Option (List Char × List Char)
  | 0, text => some ([], text)
  | size + 1, text =>
      match mode.skip text with
      | c :: rest =>
          if Text.isHexDigit c then
            (readDigits? mode size rest).map fun (digits, rest) => (c :: digits, rest)
          else none
      | [] => none

def readNumber? (mode : Mode) (size : Nat) (text : List Char) : Option (Atom × List Char) :=
  (readDigits? mode size text).bind fun (digits, rest) =>
    let code := Text.hexNumber digits
    if code.isValidChar then some (char (Char.ofNat code) (size == 2), rest) else none

def readCategory? (mode : Mode) (text : List Char) : Option (Atom × List Char) :=
  match mode.skip text with
  | [] => none
  | c :: rest => if c == '\x7b' || c == '\\' then none else some (category c, rest)

def readEscaped? (mode : Mode) : List Char → Option (Atom × List Char)
  | [] => none
  | c :: text =>
      if isEscapable c then some (char c false, text)
      else
        match numberSizes.lookup c, controls.lookup c with
        | some size, _ => readNumber? mode size text
        | none, some control => some (char control false, text)
        | none, none =>
            if c == 'p' || c == 'P' then readCategory? mode text
            else if c == 'd' || c == 's' || c == 'w' then some (named false, text)
            else if c == 'D' || c == 'S' || c == 'W' then some (named true, text)
            else if c == 'A' || c == 'z' then some (border, text)
            else if c == 'b' || c == 'B' || c == '<' || c == '>' then some (wordBorder, text)
            else none

end Atom

end DriverUplift.Pattern
