import DriverUplift.Json.Basic
import DriverUplift.Number.Decimal

/-!
# Printing JSON values

The compact form has no blanks at all.  The indented form puts every item and
every member on a line of its own, two spaces deeper than its container, and a
blank behind the colon; an empty container stays on one line in both.
-/

namespace DriverUplift.Json

def escapeChar (c : Char) : List Char :=
  match c with
  | '"' => ['\\', '"']
  | '\\' => ['\\', '\\']
  | '\x08' => ['\\', 'b']
  | '\x0c' => ['\\', 'f']
  | '\n' => ['\\', 'n']
  | '\r' => ['\\', 'r']
  | '\t' => ['\\', 't']
  | c =>
      if c.toNat < 0x20 then
        ['\\', 'u', '0', '0', Nat.digitChar (c.toNat / 16), Nat.digitChar (c.toNat % 16)]
      else [c]

def printText (text : String) : List Char :=
  '"' :: text.toList.flatMap escapeChar ++ ['"']

def printInteger (value : Int) : List Char :=
  (toString value).toList

def Number.print : Number → List Char
  | integer value => printInteger value
  | real value => value.text

def printBool (value : Bool) : List Char :=
  if value then ['t', 'r', 'u', 'e'] else ['f', 'a', 'l', 's', 'e']

mutual

/-- The text of a value without blanks. -/
def compact : Json → List Char
  | null => ['n', 'u', 'l', 'l']
  | bool value => printBool value
  | num value => value.print
  | str value => printText value
  | arr items => '[' :: compactItems items ++ [']']
  | obj members => '\x7b' :: compactMembers members ++ ['\x7d']

def compactItems : List Json → List Char
  | [] => []
  | [item] => compact item
  | item :: rest => compact item ++ ',' :: compactItems rest

def compactMembers : List (String × Json) → List Char
  | [] => []
  | [(key, value)] => printText key ++ ':' :: compact value
  | (key, value) :: rest => printText key ++ ':' :: compact value ++ ',' :: compactMembers rest

end

def newLine (depth : Nat) : List Char :=
  '\n' :: List.replicate (2 * depth) ' '

mutual

/-- The indented text of a value that stands at a depth. -/
def indented (depth : Nat) : Json → List Char
  | null => ['n', 'u', 'l', 'l']
  | bool value => printBool value
  | num value => value.print
  | str value => printText value
  | arr [] => ['[', ']']
  | arr (item :: rest) =>
      '[' :: indentedItems (depth + 1) (item :: rest) ++ newLine depth ++ [']']
  | obj [] => ['\x7b', '\x7d']
  | obj (member :: rest) =>
      '\x7b' :: indentedMembers (depth + 1) (member :: rest) ++ newLine depth ++ ['\x7d']

def indentedItems (depth : Nat) : List Json → List Char
  | [] => []
  | [item] => newLine depth ++ indented depth item
  | item :: rest => newLine depth ++ indented depth item ++ ',' :: indentedItems depth rest

def indentedMembers (depth : Nat) : List (String × Json) → List Char
  | [] => []
  | [(key, value)] => newLine depth ++ printText key ++ ':' :: ' ' :: indented depth value
  | (key, value) :: rest =>
      newLine depth ++ printText key ++ ':' :: ' ' :: indented depth value ++
        ',' :: indentedMembers depth rest

end

def toCompact (json : Json) : String :=
  String.ofList json.compact

def toIndented (json : Json) : String :=
  String.ofList (indented 0 json)

end DriverUplift.Json
