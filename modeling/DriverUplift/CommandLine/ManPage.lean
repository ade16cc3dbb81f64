import DriverUplift.CommandLine.Flag
import DriverUplift.Disk

/-!
# The manual page

The manual page is made from the table of flags.  Dashes are escaped in it
wherever they are part of the running text.
-/

namespace DriverUplift.CommandLine.ManPage

def roff (text : String) : String :=
  String.ofList (text.toList.flatMap fun c => if c = '-' then ['\\', '-'] else [c])

def bold (text : String) : String :=
  "\\fB" ++ roff text ++ "\\fR"

def italic (text : String) : String :=
  "\\fI" ++ roff text ++ "\\fR"

def names (flag : Flag) : List String :=
  (flag.letter?.toList.map fun letter => bold (String.ofList ['-', letter])) ++
    [bold ("--" ++ flag.long)]

def synopsisEntry (flag : Flag) : String :=
  "[" ++ String.intercalate "|" (names flag) ++ "] "

def operand : String :=
  "[" ++ italic Operand.name ++ "]"

def optionLines (flag : Flag) : List String :=
  let value := match flag.valueName? with
    | some name => " " ++ italic ("<" ++ name ++ ">")
    | none => ""
  [".TP", String.intercalate ", " (names flag) ++ value, roff flag.about]

def lines : List String :=
  [".ie \\n(.g .ds Aq \\(aq",
   ".el .ds Aq '",
   ".TH " ++ programName ++ " 1  \"" ++ programName ++ " " ++ programVersion ++ "\" ",
   ".SH NAME",
   roff programName ++ " \\- " ++ roff programAbout,
   ".SH SYNOPSIS",
   bold programName ++ " " ++ String.join (Flag.all.map synopsisEntry) ++ operand ++ " ",
   ".SH DESCRIPTION",
   roff programAbout,
   ".SH OPTIONS"] ++
  Flag.all.flatMap optionLines ++
  [".TP",
   operand ++ " " ++ Operand.defaultNote,
   roff Operand.about,
   ".SH VERSION",
   "v" ++ programVersion]

def text : String :=
  String.intercalate "\n" lines ++ "\n"

def fileName : String := programName ++ ".1"

def folder : String := "man"

/-- Where a page of a given name lies; an absolute name stands for itself. -/
def path (page : String) : String :=
  if page.toList.head? = some '/' then page else folder ++ "/" ++ page

/-- Write a page into the folder of the manual pages, which is made if need be. -/
def write (disk : Disk) (page : String) (content : Content) : Except FileError Disk :=
  match disk.makeFolder folder with
  | .error error => .error error
  | .ok made => made.write (path page) content

end DriverUplift.CommandLine.ManPage
