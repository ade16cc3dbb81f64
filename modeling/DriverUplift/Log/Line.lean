import DriverUplift.Log.Event
import DriverUplift.Text.Quoted
import DriverUplift.Text.Styled

/-!
# Log lines

An event is one line: its level, aligned to the right, its target, and its
message.  Characters that a terminal would obey are written by their codes.
-/

namespace DriverUplift.Log

def lineChar (c : Char) : List Char :=
  match c with
  | '\x1b' => "\\x1b".toList
  | '\x07' => "\\x07".toList
  | '\x08' => "\\x08".toList
  | '\x0c' => "\\x0c".toList
  | '\x7f' => "\\x7f".toList
  | c =>
      if 0x80 ≤ c.toNat ∧ c.toNat ≤ 0x9f then
        '\\' :: 'u' :: '\x7b' :: Text.hex c.toNat ++ ['\x7d']
      else [c]

/-- A message without characters that a terminal would obey. -/
def lineText (message : String) : String :=
  String.ofList (message.toList.flatMap lineChar)

def alignedName (level : Level) : String :=
  String.ofList (List.replicate (5 - level.name.length) ' ') ++ level.name

def colour : Level → Nat
  | .error => 31
  | .warn => 33
  | .info => 32
  | .debug => 34
  | .trace => 35

def dimmed : Nat := 2

def Event.line (coloured : Bool) (event : Event) : String :=
  let message := lineText event.message ++ "\n"
  if coloured then
    Text.framed [colour event.level] (alignedName event.level) ++ " " ++
      Text.framed [dimmed] event.target ++ Text.framed [dimmed] ":" ++ " " ++ message
  else alignedName event.level ++ " " ++ event.target ++ ": " ++ message

end DriverUplift.Log
