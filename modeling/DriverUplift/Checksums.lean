import DriverUplift.Text.Occurrence

/-!
# Checksum listings

A release ships listings of its packages.  The compiler that the release was
built against is named there as `intel-igc-core_<version>_amd64`, and the
leftmost such name decides.
-/

namespace DriverUplift.Checksums

def assetEnding : String := ".sum"

def isListing (asset : String) : Bool :=
  assetEnding.toList.isSuffixOf asset.toList

def packageStem : List Char := "intel-igc-core_".toList

def architectureMark : List Char := "_amd64".toList

/-- A version is made of ASCII digits and dots. -/
def isVersionChar (c : Char) : Bool :=
  c.isDigit || c == '.'

/-- The version of a package name at the very front of the text. -/
def versionAtFront? (text : List Char) : Option (List Char) :=
  match Text.strip? packageStem text with
  | none => none
  | some rest =>
      match Text.strip? architectureMark (rest.dropWhile isVersionChar) with
      | none => none
      | some _ => some (rest.takeWhile isVersionChar)

def leftmostVersion? : List Char → Option (List Char)
  | [] => none
  | c :: text =>
      match versionAtFront? (c :: text) with
      | some version => some version
      | none => leftmostVersion? text

def igcVersion? (listing : String) : Option String :=
  (leftmostVersion? listing.toList).map String.ofList

end DriverUplift.Checksums
