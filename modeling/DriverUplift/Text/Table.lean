import DriverUplift.Text.Hexadecimal
import DriverUplift.Text.Split

/-!
# Tables of code points

What a standard says about many code points is kept as a text: entries with
blanks between them, each a code point or a range of them, and after an equals
sign the code points that the first one stands for.  All numbers are
hexadecimal.  The ends of a range are joined by a minus sign, or by a slash if
only every second code point belongs to it.
-/

namespace DriverUplift.Text

/-- An entry of a table: evenly spaced code points, and what the first of them stands for. -/
structure Row where
  first : Nat
  last : Nat
  step : Nat
  image : List Nat
  deriving DecidableEq, Repr

namespace Row

def holds (row : Row) (code : Nat) : Bool :=
  row.first ≤ code && code ≤ row.last && (code - row.first) % row.step == 0

/-- What a code point of a row stands for: a single image moves along with the code point. -/
def imageOf (row : Row) (code : Nat) : List Nat :=
  match row.image with
  | [one] => [one + (code - row.first)]
  | image => image

def ofChars (entry : List Char) : Row :=
  let joins := fun c => c == '-' || c == '/'
  let source := entry.takeWhile (· != '=')
  let first := hexNumber (source.takeWhile (!joins ·))
  let image := ((splitWhere (· == '+') ((entry.dropWhile (· != '=')).drop 1)).filter
    (!·.isEmpty)).map hexNumber
  match source.dropWhile (!joins ·) with
  | [] => ⟨first, first, 1, image⟩
  | mark :: last => ⟨first, hexNumber last, if mark == '/' then 2 else 1, image⟩

end Row

/-- The rows of a table, which hold each code point at most once. -/
abbrev Table := List Row

namespace Table

def ofString (text : String) : Table :=
  ((splitWhere (fun c => c == ' ' || c == '\n') text.toList).filter (!·.isEmpty)).map Row.ofChars

def holds (table : Table) (code : Nat) : Bool :=
  table.any (·.holds code)

def imageOf? (table : Table) (code : Nat) : Option (List Nat) :=
  (table.find? (·.holds code)).map (·.imageOf code)

def sourceOf? (table : Table) (image : List Nat) : Option Nat :=
  (table.find? (·.image == image)).map (·.first)

end Table

end DriverUplift.Text
