import DriverUplift.Text.Occurrence

/-!
# Tags and versions

The rules that turn a release tag, a version or a commit hash into the strings
that a manifest records.
-/

namespace DriverUplift.Tag

def igcMark : String := "igc-"

def igcDevMark : String := "igc-dev-"

def cmMark : String := "cmclang-"

def artifactMark : String := "IGC_Ubuntu22.04_llvm14_clang-"

def shortLength : Nat := 7

/-- The abbreviated form of a commit hash; a shorter hash stays whole. -/
def shortSha (sha : String) : String :=
  String.ofList (sha.toList.take shortLength)

/-- The version of a CM compiler release: its tag without any mark. -/
def cmVersion (tag : String) : String :=
  String.ofList (Text.remove cmMark.toList tag.toList)

def igc (version : String) : String :=
  igcMark ++ version

def igcDev (short : String) : String :=
  igcDevMark ++ short

def artifactName (short : String) : String :=
  artifactMark ++ short

end DriverUplift.Tag
