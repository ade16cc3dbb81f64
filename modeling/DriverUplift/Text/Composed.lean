import DriverUplift.Text.Composed.Rows

/-!
# Composed texts

A text that writes a letter with its marks in several characters means the same
as one that writes them in one.  Its composed form uses as few characters as
there are composed ones: the letters are taken apart, the marks are put in
order, and what fits together is joined again.  Syllables of Hangul are composed
by arithmetic.
-/

namespace DriverUplift.Text

/-- The combining class of a character: zero unless it is a mark that may change places. -/
def combiningClass (c : Char) : Nat :=
  ((combiningClasses.find? fun entry => entry.2.holds c.toNat).map (·.1)).getD 0

namespace Hangul

def firstSyllable : Nat := 0xac00

def firstLead : Nat := 0x1100

def firstVowel : Nat := 0x1161

/-- The code point before the first trailing consonant; it counts as having none. -/
def noTrail : Nat := 0x11a7

def leads : Nat := 19

def vowels : Nat := 21

/-- How many trailing consonants there are, with none at all counted too. -/
def trails : Nat := 28

def parts? (code : Nat) : Option (List Nat) :=
  let index := code - firstSyllable
  if code < firstSyllable || leads * vowels * trails ≤ index then none
  else
    let start := [firstLead + index / (vowels * trails), firstVowel + index / trails % vowels]
    if index % trails = 0 then some start else some (start ++ [noTrail + index % trails])

def join? (first second : Nat) : Option Nat :=
  if firstLead ≤ first && first < firstLead + leads
      && firstVowel ≤ second && second < firstVowel + vowels then
    some (firstSyllable + ((first - firstLead) * vowels + (second - firstVowel)) * trails)
  else if firstSyllable ≤ first && first < firstSyllable + leads * vowels * trails
      && (first - firstSyllable) % trails == 0 && noTrail < second && second < noTrail + trails then
    some (first + (second - noTrail))
  else none

end Hangul

def partsOf (code : Nat) : List Nat :=
  ((Hangul.parts? code).or (compositionTable.imageOf? code)).getD [code]

def joined? (first second : Char) : Option Char :=
  ((Hangul.join? first.toNat second.toNat).or
    (compositionTable.sourceOf? (partsOf first.toNat ++ [second.toNat]))).map Char.ofNat

/-- Put a character before marks that are in order, behind those of lower classes. -/
def placeMark (c : Char) : List Char → List Char
  | [] => [c]
  | mark :: text =>
      if 0 < combiningClass mark && combiningClass mark < combiningClass c then
        mark :: placeMark c text
      else c :: mark :: text

def takenApart (text : List Char) : List Char :=
  (text.flatMap fun c => (partsOf c.toNat).map Char.ofNat).foldr placeMark []

/--
Join a character with what follows it.  The marks between, which did not fit
it, keep away all marks whose class is not higher than theirs.
-/
def joinFrom (start : Char) (between : List Char) : List Char → List Char
  | [] => start :: between
  | c :: text =>
      let free := match between.getLast? with
        | none => true
        | some mark => combiningClass mark < combiningClass c
      match if free then joined? start c else none with
      | some whole => joinFrom whole between text
      | none =>
          if combiningClass c = 0 then start :: between ++ joinFrom c [] text
          else joinFrom start (between ++ [c]) text

def composed (text : List Char) : List Char :=
  let apart := takenApart text
  let marks := apart.takeWhile fun c => combiningClass c != 0
  match apart.dropWhile fun c => combiningClass c != 0 with
  | [] => marks
  | c :: text => marks ++ joinFrom c [] text

end DriverUplift.Text
