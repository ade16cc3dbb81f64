/-!
# Printable texts

A message that repeats what it was given must not steer the terminal it is
shown on.  Escape sequences are left out of it, and so are control characters
other than white space.  A text without control characters stays as it is.
-/

namespace DriverUplift.Text

/-- What a place in a text belongs to, as a terminal reads it. -/
inductive Region where
  | plain
  /-- Directly behind an escape character. -/
  | escape
  /-- Inside an escape sequence that has more than one character. -/
  | intermediate
  /-- Inside a control sequence, which a letter ends. -/
  | sequence
  /-- Inside a command to the window, which a bell ends. -/
  | window
  /-- At the start of a text for a device. -/
  | device
  /-- Among the parameters of a text for a device. -/
  | deviceParameters
  /-- Behind the parameters of a text for a device. -/
  | deviceIntermediate
  /-- Inside the body of a text for a device. -/
  | deviceBody
  deriving DecidableEq, Repr

def isLayout (c : Char) : Bool :=
  c == '\t' || c == '\n' || c == '\x0c' || c == '\r'

def isControl (c : Char) : Bool :=
  c.toNat < 0x20 || c == '\x7f'

def endsDevice (c : Char) : Bool :=
  (String.singleton c).toUTF8.toList.contains 0x9c

namespace Region

def opened (c : Char) : Region :=
  if c.toNat < 0x30 then intermediate
  else if c == '[' then sequence
  else if c == ']' then window
  else if c == 'P' then device
  else if c == 'X' || c == '^' || c == '_' then deviceBody
  else plain

def behindGraphic (region : Region) (c : Char) : Region :=
  match region with
  | plain => plain
  | escape => opened c
  | intermediate => if c.toNat < 0x30 then intermediate else plain
  | sequence => if c.toNat < 0x40 then sequence else plain
  | window => window
  | device =>
      if c.toNat < 0x30 then deviceIntermediate
      else if c.toNat < 0x40 then deviceParameters
      else deviceBody
  | deviceParameters =>
      if c.toNat < 0x30 then deviceIntermediate
      else if c.toNat < 0x3c then deviceParameters
      else deviceBody
  | deviceIntermediate => if c.toNat < 0x30 then deviceIntermediate else deviceBody
  | deviceBody => deviceBody

def behindForeign (region : Region) (c : Char) : Region :=
  if region == deviceBody && endsDevice c then plain else region

def behindControl (region : Region) (c : Char) : Region :=
  if c == '\x1b' then escape
  else if c == '\x18' || c == '\x1a' then plain
  else if region == window && c == '\x07' then plain
  else region

def laysOut (region : Region) : Bool :=
  match region with
  | plain | escape | intermediate | sequence => true
  | window | device | deviceParameters | deviceIntermediate | deviceBody => false

end Region

/-- What becomes of an escape sequence that white space interrupts. -/
inductive Interruption where
  /-- The sequence is over. -/
  | ends
  /-- The sequence goes on behind the next control character. -/
  | suspends
  deriving DecidableEq, Repr

def Interruption.remembered (interruption : Interruption) (region : Region) : Region :=
  match interruption with
  | ends => .plain
  | suspends => region

/--
The characters that are shown of a text that starts in a region.  While text is
running, everything is shown up to the next control character.
-/
def shownFrom (interruption : Interruption) (region : Region) (running : Bool) :
    List Char → List Char
  | [] => []
  | c :: text =>
      if isLayout c && (running || region.laysOut) then
        let region := if running then region else interruption.remembered region
        c :: shownFrom interruption region true text
      else if isControl c then shownFrom interruption (region.behindControl c) false text
      else if running || region == .plain then
        c :: shownFrom interruption (if 0x7f < c.toNat then .plain else region) true text
      else if 0x7f < c.toNat then shownFrom interruption (region.behindForeign c) false text
      else shownFrom interruption (region.behindGraphic c) false text

def printable (interruption : Interruption) (text : String) : String :=
  String.ofList (shownFrom interruption .plain true text.toList)

end DriverUplift.Text
