/-!
# The command line interface

One table describes the program, its flags and its only operand.  The help
text, the manual page and the parser are all made from it.
-/

namespace DriverUplift.CommandLine

def programName : String := "igfx-uplift"

def programVersion : String := "0.3.0"

def programAbout : String := "Uplift Intel GPU driver versions in the dependency manifest"

/-- The flags, in the order in which they are described. -/
inductive Flag where
  | manifest
  | apiUrl
  | strict
  | verbose
  | version
  | help
  deriving DecidableEq, Repr

namespace Flag

def all : List Flag := [manifest, apiUrl, strict, verbose, version, help]

/-- The long name of a flag, without its dashes. -/
def long : Flag → String
  | manifest => "manifest"
  | apiUrl => "api-url"
  | strict => "strict"
  | verbose => "verbose"
  | version => "version"
  | help => "help"

def letter? : Flag → Option Char
  | manifest => some 'm'
  | verbose => some 'v'
  | help => some 'h'
  | _ => none

def valueName? : Flag → Option String
  | manifest => some "PATH"
  | apiUrl => some "URL"
  | _ => none

def about : Flag → String
  | manifest => "Manifest to rewrite [default: ../dependencies.json next to the executable]"
  | apiUrl => "GitHub API base URL [default: $IGFX_UPLIFT_API_URL or https://api.github.com]"
  | strict => "Fail when the IGC version cannot be found in the compute-runtime checksums"
  | verbose => "Make the operation more talkative"
  | version => "Print version"
  | help => "Print help"

def takesValue (flag : Flag) : Bool :=
  flag.valueName?.isSome

def shown (flag : Flag) : String :=
  match flag.valueName? with
  | some name => "--" ++ flag.long ++ " <" ++ name ++ ">"
  | none => "--" ++ flag.long

def ofLong? (name : String) : Option Flag :=
  all.find? (·.long == name)

def ofLetter? (letter : Char) : Option Flag :=
  all.find? (·.letter? == some letter)

end Flag

namespace Operand

def name : String := "PLATFORM"

/-- The platform that is meant when the operand is left out. -/
def default : String := "ERROR_PLATFORM"

def about : String := "Platform section of the manifest to update (e.g. linux)"

def defaultNote : String := "[default: " ++ default ++ "]"

end Operand

structure Options where
  platform : String := Operand.default
  manifest : Option String := none
  apiUrl : Option String := none
  strict : Bool := false
  verbose : Bool := false
  deriving DecidableEq, Repr

end DriverUplift.CommandLine
