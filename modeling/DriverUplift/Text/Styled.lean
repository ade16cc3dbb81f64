import DriverUplift.Text.Printable

/-!
# Styled texts

A styled text is a sequence of pieces.  On a terminal each piece is framed by
the codes of its style; elsewhere only what is printable of it is shown.
-/

namespace DriverUplift.Text

inductive Style where
  | ordinary
  | problem
  | heading
  | literal
  | invalid
  | valid
  deriving DecidableEq, Repr

def terminalCode (number : Nat) : String :=
  "\x1b[" ++ toString number ++ "m"

def framed (numbers : List Nat) (text : String) : String :=
  String.join (numbers.map terminalCode) ++ text ++ terminalCode 0

/-- How a terminal shows a style: 1 is bold, 4 underlined, 31 red, 32 green and 33 yellow. -/
def Style.numbers : Style → List Nat
  | ordinary => []
  | problem => [1, 31]
  | heading => [1, 4]
  | literal => [1]
  | invalid => [33]
  | valid => [32]

abbrev Styled := List (Style × String)

namespace Styled

def ofString (text : String) : Styled :=
  [(.ordinary, text)]

def coloured (text : Styled) : String :=
  String.join (text.map fun (style, piece) =>
    match style with
    | .ordinary => piece
    | style => framed style.numbers piece)

def plain (interruption : Interruption) (text : Styled) : String :=
  String.join (text.map fun (_, piece) => printable interruption piece)

def joinWith (separator : String) : List Styled → Styled
  | [] => []
  | [text] => text
  | text :: rest => text ++ ofString separator ++ joinWith separator rest

def length (text : Styled) : Nat :=
  text.foldl (fun n piece => n + piece.2.length) 0

end Styled

end DriverUplift.Text
