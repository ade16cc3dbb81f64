import DriverUplift.Number.Binary64

/-!
# Similarity of words

Two words are similar as far as they share characters in nearly the same
places.  The measure lies between zero and one, and each step of it is rounded
to a double, which decides how near ties come out.
-/

namespace DriverUplift.Text

def nearest (q : Rat) : Rat :=
  ((Binary64.round q).map Binary64.magnitude).getD 0

/-- How far apart the places of a shared character may be. -/
def searchRange (a b : List Char) : Nat :=
  max a.length b.length / 2 - 1

def freePlace? (b : List Char) (range place : Nat) (c : Char) (used : List Nat) : Option Nat :=
  (List.range b.length).find? fun j =>
    place ≤ j + range && j ≤ place + range && b[j]? == some c && !used.contains j

/--
Pair the characters of the first word, from the given place on, with places in
the second.  The result holds the paired characters in order and the places.
-/
def pairUp (b : List Char) (range : Nat) : Nat → List Char → List Nat → List Char × List Nat
  | _, [], used => ([], used)
  | place, c :: a, used =>
      match freePlace? b range place c used with
      | some j =>
          let (shared, used) := pairUp b range (place + 1) a (j :: used)
          (c :: shared, used)
      | none => pairUp b range (place + 1) a used

def similarity (a b : List Char) : Rat :=
  if a.isEmpty && b.isEmpty then 1
  else
    let (shared, places) := pairUp b (searchRange a b) 0 a []
    let other := (List.range b.length).filterMap fun j =>
      if places.contains j then b[j]? else none
    let count := shared.length
    if count = 0 then 0
    else
      let moved := ((shared.zip other).filter fun pair => pair.1 != pair.2).length / 2
      let ofFirst := nearest ((count : Rat) / a.length)
      let ofSecond := nearest ((count : Rat) / b.length)
      let inOrder := nearest (((count - moved : Nat) : Rat) / count)
      nearest (nearest (nearest (ofFirst + ofSecond) + inOrder) / 3)

end DriverUplift.Text
