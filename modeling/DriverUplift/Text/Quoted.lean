import DriverUplift.Text.Graphic
import DriverUplift.Text.Hexadecimal

/-!
# Quoted texts

Messages show a text between double quotes.  A quote or a backslash is escaped,
four controls have names, and every other character that is not graphic is
written by its code point.
-/

namespace DriverUplift.Text

def quoteChar (c : Char) : List Char :=
  match c with
  | '\x00' => ['\\', '0']
  | '\t' => ['\\', 't']
  | '\r' => ['\\', 'r']
  | '\n' => ['\\', 'n']
  | '"' => ['\\', '"']
  | '\\' => ['\\', '\\']
  | c => if isGraphic c then [c] else '\\' :: 'u' :: '\x7b' :: hex c.toNat ++ ['\x7d']

def quoted (text : String) : String :=
  String.ofList ('"' :: text.toList.flatMap quoteChar ++ ['"'])

end DriverUplift.Text
