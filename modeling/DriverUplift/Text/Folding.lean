import DriverUplift.Text.Folding.Rows

/-!
# Folded characters

Texts that differ in case, width or font only have the same folded form.
Characters that stay invisible are left out of it.
-/

namespace DriverUplift.Text

/-- The characters that fold a character; none if it is ignored. -/
def foldedChar (c : Char) : List Char :=
  match foldingTable.imageOf? c.toNat with
  | some image => image.map Char.ofNat
  | none => [c]

def folded (text : List Char) : List Char :=
  text.flatMap foldedChar

end DriverUplift.Text
