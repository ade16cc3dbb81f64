import DriverUplift.CommandLine.Usage
import DriverUplift.Text.Occurrence
import DriverUplift.Text.Similarity

/-!
# Parsing the command line

Arguments are taken from left to right.  A flag that waits for its value, and
an operand, stay pending until something else is accepted; only then are they
checked, so the first problem that is reported is not always the leftmost.
-/

namespace DriverUplift.CommandLine

/-- What has been read but not yet accepted. -/
inductive Pending where
  | nothing
  | flag (flag : Flag) (value : Option String)
  | operand (value : String)
  deriving DecidableEq, Repr

structure Progress where
  /-- The flags in order, with their values; a switch has an empty one. -/
  given : List (Flag × String) := []
  operand : Option String := none
  pending : Pending := .nothing
  /-- Whether everything that follows is an operand. -/
  trailing : Bool := false
  deriving DecidableEq, Repr

namespace Progress

def has (progress : Progress) (flag : Flag) : Bool :=
  progress.given.any (·.1 == flag)

/-- The usage line that spells out what has been accepted, and the flags that may have been meant. -/
def usage (progress : Progress) (meant : List Flag) : Usage :=
  let flags := progress.given.map (·.1)
  let shown := flags ++ meant.filter (!flags.contains ·)
  if shown.isEmpty && progress.operand.isNone then .general
  else .spelled shown progress.operand.isSome

/--
The usage line for a switch that was given a value.  As soon as anything has
been accepted, all that sets an option is one group of alternatives.
-/
def switchUsage (progress : Progress) (flag : Flag) : Usage :=
  if progress.given.isEmpty && progress.operand.isNone then .spelled [flag] false
  else .alternatives (if Flag.settings.contains flag then [] else [flag])

/--
Accept a flag.  A flag that is there already is withdrawn and refused, and an
empty path is refused although the flag counts as given.
-/
def accept (progress : Progress) (flag : Flag) (value : String) :
    Progress × Option UsageError :=
  if progress.has flag then
    ({ progress with given := progress.given.filter (·.1 != flag) }, some (.repeated flag))
  else
    ({ progress with given := progress.given ++ [(flag, value)] },
      if flag = .manifest ∧ value = "" then some (.missingValue flag) else none)

def settle (progress : Progress) : Progress × Option UsageError :=
  let rest := { progress with pending := .nothing }
  match progress.pending with
  | .nothing => (rest, none)
  | .operand value => ({ rest with operand := some value }, none)
  | .flag flag none => (rest, some (.missingValue flag))
  | .flag flag (some value) => rest.accept flag value

def take (progress : Progress) (flag : Flag) (value : String) : Except UsageError Progress :=
  match progress.settle with
  | (_, some error) => .error error
  | (settled, none) =>
      match flag with
      | .help => .error .help
      | .version => .error .version
      | flag =>
          match settled.accept flag value with
          | (_, some error) => .error error
          | (accepted, none) => .ok accepted

def await (progress : Progress) (flag : Flag) : Except UsageError Progress :=
  match progress.settle with
  | (_, some error) => .error error
  | (settled, none) => .ok { settled with pending := .flag flag none }

def readOperand (progress : Progress) (argument : String) : Except UsageError Progress :=
  match progress.operand, progress.pending with
  | none, .operand _ => .error (.unknown argument none .general)
  | some _, _ => .error (.unknown argument none .general)
  | none, _ =>
      match progress.settle with
      | (_, some error) => .error error
      | (settled, none) => .ok { settled with pending := .operand argument }

def similarityBound : Rat := Text.nearest (7 / 10)

/-- The most similar flag; of equally similar ones the last. -/
def similar? (name : String) : Option Flag :=
  let rated := Flag.all.map fun flag => (flag, Text.similarity name.toList flag.long.toList)
  let near := rated.filter fun entry => similarityBound < entry.2
  (near.foldl (fun best entry =>
    match best with
    | some (_, rating) => if rating ≤ entry.2 then some entry else best
    | none => some entry) none).map (·.1)

def unknownLong (progress : Progress) (name : String) : UsageError :=
  let settled := progress.settle.1
  match similar? name with
  | some flag => .unknown ("--" ++ name) (some (.similar flag)) (settled.usage [flag])
  | none => .unknown ("--" ++ name) (some .escape) (settled.usage [])

def readLong (progress : Progress) (name : String) (value : Option String) :
    Except UsageError Progress :=
  match Flag.ofLong? name with
  | none => .error (progress.unknownLong name)
  | some flag =>
      match flag.takesValue, value with
      | true, some value => progress.take flag value
      | true, none => progress.await flag
      | false, some value => .error (.unexpectedValue flag value (progress.switchUsage flag))
      | false, none => progress.take flag ""

def readLetters (progress : Progress) : List Char → Except UsageError Progress
  | [] => .ok progress
  | letter :: rest =>
      match Flag.ofLetter? letter with
      | none => .error (.unknown (String.ofList ['-', letter]) (some .escape) .general)
      | some flag =>
          if flag.takesValue then
            match rest with
            | [] => progress.await flag
            | '=' :: value => progress.take flag (String.ofList value)
            | value => progress.take flag (String.ofList value)
          else
            match progress.take flag "" with
            | .error error => .error error
            | .ok taken => readLetters taken rest

end Progress

inductive Shape where
  | separator
  | long (name : String) (value : Option String)
  | letters (letters : List Char)
  | plain

def shape (argument : String) : Shape :=
  match argument.toList with
  | ['-', '-'] => .separator
  | '-' :: '-' :: rest =>
      let name := String.ofList (rest.takeWhile (· != '='))
      match rest.dropWhile (· != '=') with
      | _ :: value => .long name (some (String.ofList value))
      | [] => .long name none
  | '-' :: letter :: rest => .letters (letter :: rest)
  | _ => .plain

namespace Progress

def read (progress : Progress) (argument : String) : Except UsageError Progress :=
  if progress.trailing then progress.readOperand argument
  else
    match shape argument with
    | .separator => .ok { progress with trailing := true }
    | .long name value => progress.readLong name value
    | .letters letters => progress.readLetters letters
    | .plain =>
        match progress.pending with
        | .flag flag none => .ok { progress with pending := .flag flag (some argument) }
        | _ => progress.readOperand argument

def readAll (progress : Progress) : List String → Except UsageError Progress
  | [] =>
      match progress.settle with
      | (_, some error) => .error error
      | (settled, none) => .ok settled
  | argument :: rest =>
      match progress.read argument with
      | .error error => .error error
      | .ok progress => progress.readAll rest

def options (progress : Progress) : Options where
  platform := progress.operand.getD Operand.default
  manifest := progress.given.lookup .manifest
  apiUrl := progress.given.lookup .apiUrl
  strict := progress.has .strict
  verbose := progress.has .verbose

end Progress

def parse (arguments : List String) : Except UsageError Options :=
  match ({} : Progress).readAll arguments with
  | .error error => .error error
  | .ok progress => .ok progress.options

end DriverUplift.CommandLine
