/-!
# Splitting texts

A text is split at separators into the parts between them, some of which may be
empty.
-/

namespace DriverUplift.Text

/-- Split a text at the characters of a class; the separators are dropped. -/
def splitWhere (separates : Char → Bool) (text : List Char) : List (List Char) :=
  text.foldr (fun c parts =>
    if separates c then [] :: parts
    else
      match parts with
      | [] => [[c]]
      | part :: more => (c :: part) :: more) [[]]

end DriverUplift.Text
