import DriverUplift.CommandLine.Flag
import DriverUplift.Text.Styled

/-!
# Help and usage errors

What the program says about its command line: the help text, the version, and
one message for each way in which a command line can be wrong.  Messages are
styled; arguments are repeated in pieces of their own.
-/

namespace DriverUplift.CommandLine

open Text (Style Styled)

inductive Usage where
  /-- That there are flags and an operand. -/
  | general
  /-- Which flags there are, in order, and whether there is an operand. -/
  | spelled (flags : List Flag) (operand : Bool)
  /-- Some flags, and all that sets an option as alternatives. -/
  | alternatives (flags : List Flag)
  deriving DecidableEq, Repr

/-- The flags that set an option, rather than ask for a text. -/
def Flag.settings : List Flag :=
  Flag.all.filter fun flag => flag ≠ .version ∧ flag ≠ .help

def Flag.styled (flag : Flag) : Styled :=
  match flag.valueName? with
  | some name => [(.literal, "--" ++ flag.long), (.ordinary, " <" ++ name ++ ">")]
  | none => [(.literal, "--" ++ flag.long)]

def Operand.optional : String :=
  "[" ++ Operand.name ++ "]"

def settingsText : String :=
  "<" ++ String.intercalate "|" (Operand.name :: Flag.settings.map Flag.shown) ++ ">"

namespace Usage

def parts : Usage → List Styled
  | general => [Styled.ofString "[OPTIONS]", Styled.ofString Operand.optional]
  | spelled flags operand =>
      flags.map Flag.styled ++
        [Styled.ofString (if operand then "<" ++ Operand.name ++ ">" else Operand.optional)]
  | alternatives flags => flags.map Flag.styled ++ [Styled.ofString settingsText]

def line (usage : Usage) : Styled :=
  Styled.joinWith " " ([(.heading, "Usage:")] :: [(.literal, programName)] :: usage.parts)

end Usage

inductive Tip where
  | similar (flag : Flag)
  | escape
  deriving DecidableEq, Repr

/-- Why a command line gives no options. -/
inductive UsageError where
  | help
  | version
  | missingValue (flag : Flag)
  | repeated (flag : Flag)
  | unexpectedValue (flag : Flag) (value : String) (usage : Usage)
  | unknown (argument : String) (tip : Option Tip) (usage : Usage)
  deriving DecidableEq, Repr

def helpEntry (flag : Flag) : Styled :=
  let letter : Styled := match flag.letter? with
    | some letter => [(.literal, String.ofList ['-', letter]), (.ordinary, ", ")]
    | none => Styled.ofString "    "
  letter ++ flag.styled

def helpWidth : Nat :=
  (Flag.all.map fun flag => (helpEntry flag).length).foldl max 0

def helpLine (flag : Flag) : Styled :=
  let entry := helpEntry flag
  let blanks := String.ofList (List.replicate (helpWidth + 2 - entry.length) ' ')
  Styled.ofString "  " ++ entry ++ Styled.ofString (blanks ++ flag.about)

def helpText : Styled :=
  let operand := "  " ++ Operand.optional ++ "  " ++ Operand.about ++ " " ++ Operand.defaultNote
  let lines : List Styled :=
    [Styled.ofString programAbout, [], Usage.general.line, [], [(.heading, "Arguments:")],
      Styled.ofString operand, [], [(.heading, "Options:")]] ++ Flag.all.map helpLine
  Styled.joinWith "\n" lines ++ Styled.ofString "\n"

def versionText : String :=
  programName ++ " " ++ programVersion ++ "\n"

def helpHint : Styled :=
  [(.ordinary, "For more information, try '"), (.literal, "--help"), (.ordinary, "'.\n")]

def problem (text : Styled) : Styled :=
  (.problem, "error:") :: (.ordinary, " ") :: text

def Tip.line (argument : String) (tip : Tip) : Styled :=
  let advice : Styled := match tip with
    | similar flag =>
        [(.ordinary, " a similar argument exists: '"), (.valid, "--" ++ flag.long),
          (.ordinary, "'")]
    | escape =>
        [(.ordinary, " to pass '"), (.invalid, argument), (.ordinary, "' as a value, use '"),
          (.valid, "-- " ++ argument), (.ordinary, "'")]
  (.ordinary, "  ") :: (.valid, "tip:") :: advice

def UsageError.paragraphs : UsageError → List Styled
  | help => [helpText]
  | version => [Styled.ofString versionText]
  | missingValue flag =>
      [problem [(.ordinary, "a value is required for '"), (.invalid, flag.shown),
        (.ordinary, "' but none was supplied")], helpHint]
  | repeated flag =>
      [problem [(.ordinary, "the argument '"), (.invalid, flag.shown),
        (.ordinary, "' cannot be used multiple times")], Usage.general.line, helpHint]
  | unexpectedValue flag value usage =>
      [problem [(.ordinary, "unexpected value '"), (.invalid, value), (.ordinary, "' for '"),
        (.literal, flag.shown), (.ordinary, "' found; no more were expected")],
        usage.line, helpHint]
  | unknown argument tip usage =>
      problem [(.ordinary, "unexpected argument '"), (.invalid, argument),
        (.ordinary, "' found")] ::
        (tip.toList.map (Tip.line argument) ++ [usage.line, helpHint])

def UsageError.text (error : UsageError) : Styled :=
  Styled.joinWith "\n\n" error.paragraphs

def UsageError.message (error : UsageError) : String :=
  error.text.plain .ends

/-- Whether the text answers a question, and so is no error. -/
def UsageError.isAnswer : UsageError → Bool
  | help => true
  | version => true
  | _ => false

end DriverUplift.CommandLine
