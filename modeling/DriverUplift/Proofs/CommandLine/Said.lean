import DriverUplift.Proofs.CommandLine.Named

/-!
# What a command line says

Without the checks, and without anything that waits to be accepted, what arguments say is
told from left to right: an argument gives values to flags, or is the value that the flag
in front of it waits for, or is an operand.  Parsing checks that, and if it succeeds the
options are what was said.
-/

namespace DriverUplift.CommandLine

/-- Flags with their values, operands, and the flag whose value is the next argument. -/
structure Said where
  given : List (Flag × String) := []
  operands : List String := []
  waiting : Option Flag := none

namespace Said

def take (said : Said) (flag : Flag) (value : String) : Said :=
  ⟨said.given ++ [(flag, value)], said.operands, none⟩

def await (said : Said) (flag : Flag) : Said :=
  { said with waiting := some flag }

def addOperands (said : Said) (operands : List String) : Said :=
  ⟨said.given, said.operands ++ operands, none⟩

def long (said : Said) (name : String) (value : Option String) : Said :=
  match Flag.ofLong? name with
  | none => said
  | some flag =>
      match flag.takesValue, value with
      | true, some value => said.take flag value
      | true, none => said.await flag
      | false, _ => said.take flag ""

/-- A group of letters; a flag that takes a value takes the rest of the group, but for an equals
sign, and waits if there is none. -/
def letters (said : Said) : List Char → Said
  | [] => said
  | letter :: rest =>
      match Flag.ofLetter? letter with
      | none => said
      | some flag =>
          if flag.takesValue then
            match rest with
            | [] => said.await flag
            | '=' :: value => said.take flag (String.ofList value)
            | value => said.take flag (String.ofList value)
          else (said.take flag "").letters rest

def read (said : Said) (argument : String) : Said :=
  match shape argument with
  | .separator => said
  | .long name value => said.long name value
  | .letters group => said.letters group
  | .plain =>
      match said.waiting with
      | some flag => said.take flag argument
      | none => said.addOperands [argument]

/-- All arguments; behind the separator there are only operands. -/
def readAll (said : Said) : List String → Said
  | [] => said
  | argument :: rest =>
      if argument = "--" then said.addOperands rest else (said.read argument).readAll rest

/-- The options that are said: of several operands or values the first, and of none the usual. -/
def options (said : Said) : Options where
  platform := said.operands.head?.getD Operand.default
  manifest := said.given.lookup .manifest
  apiUrl := said.given.lookup .apiUrl
  strict := said.given.any (·.1 == .strict)
  verbose := said.given.any (·.1 == .verbose)

theorem addOperands_nil {said : Said} (idle : said.waiting = none) : said.addOperands [] = said := by
  simp [addOperands, ← idle]

theorem addOperands_addOperands (said : Said) (first second : List String) :
    (said.addOperands first).addOperands second = said.addOperands (first ++ second) := by
  simp [addOperands]

end Said

/-! ## Parsing -/

namespace Progress

def said (progress : Progress) : Said :=
  match progress.pending with
  | .nothing => ⟨progress.given, progress.operand.toList, none⟩
  | .flag flag none => ⟨progress.given, progress.operand.toList, some flag⟩
  | .flag flag (some value) =>
      ⟨progress.given ++ [(flag, value)], progress.operand.toList, none⟩
  | .operand operand => ⟨progress.given, [operand], none⟩

variable {progress after settled : Progress} {flag : Flag} {argument value : String}
  {arguments : List String}

/-- Accepting what is pending does not change what was said. -/
theorem said_of_settle (settles : progress.settle = (settled, none)) :
    progress.said = ⟨settled.given, settled.operand.toList, none⟩ := by
  obtain ⟨waiting, rfl⟩ | ⟨operand, waiting, rfl⟩ | ⟨flag, value, waiting, _, rfl⟩ :=
    settle_cases settles <;> simp [said, waiting]

theorem said_take (taken : progress.take flag value = .ok after) :
    after.said = progress.said.take flag value := by
  obtain ⟨settled, settles, _, rfl⟩ := exists_of_take taken
  rw [said_of_settle settles]
  simp only [said, (settle_adds settles).2, Said.take]

theorem said_await (awaits : progress.await flag = .ok after) :
    after.said = progress.said.await flag := by
  obtain ⟨settled, settles, rfl⟩ := exists_of_await awaits
  rw [said_of_settle settles]
  rfl

/-- An operand is the first one, and no flag waits for it. -/
theorem said_readOperand (read : progress.readOperand argument = .ok after) :
    progress.said.waiting = none ∧ after.said = progress.said.addOperands [argument] := by
  obtain ⟨none_yet, other, settled, settles, rfl⟩ := exists_of_readOperand read
  have operand := operand_of_settle settles
  rw [said_of_settle settles]
  refine ⟨rfl, ?_⟩
  cases waiting : progress.pending with
  | operand operand => exact absurd waiting (other operand)
  | nothing | flag _ _ =>
      rw [waiting] at operand
      simp [said, Said.addOperands, operand, none_yet]

theorem said_readLong {name : String} {value : Option String}
    (read : progress.readLong name value = .ok after) :
    after.said = progress.said.long name value := by
  obtain ⟨flag, found, how⟩ := exists_of_readLong read
  simp only [Said.long, found]
  obtain ⟨_, takes, rfl, taken⟩ | ⟨takes, rfl, awaits⟩ | ⟨switch, rfl, taken⟩ := how
  · simpa only [takes] using said_take taken
  · simpa only [takes] using said_await awaits
  · simpa only [switch] using said_take taken

theorem said_readLetters {letters : List Char} (read : progress.readLetters letters = .ok after) :
    after.said = progress.said.letters letters := by
  induction letters generalizing progress with
  | nil => rw [← Except.ok.inj read, Said.letters]
  | cons letter rest ih =>
      rw [readLetters] at read
      rw [Said.letters]
      -- A flag that takes a value ends the group; behind a switch the group goes on.
      cases found : Flag.ofLetter? letter with
      | none => simp [found] at read
      | some flag =>
          simp only [found] at read ⊢
          split at read
          · rename_i takes
            rw [if_pos takes]
            cases rest with
            | nil => exact said_await read
            | cons sign value =>
                by_cases equals : sign = '='
                · subst equals
                  exact said_take read
                · have unsigned : ∀ value', sign :: value = '=' :: value' → False :=
                    fun _ same => equals (List.cons.inj same).1
                  simp only at read ⊢
                  exact said_take read
          · rename_i switch
            rw [if_neg switch]
            cases taking : progress.take flag "" with
            | error error => simp [taking] at read
            | ok taken =>
                simp only [taking] at read
                rw [ih read, said_take taking]

/-- Reading an argument in front of the separator adds what it says. -/
theorem said_read (leading : progress.trailing = false) (other : argument ≠ "--")
    (read : progress.read argument = .ok after) : after.said = progress.said.read argument := by
  rw [Progress.read, if_neg (by simp [leading])] at read
  unfold Said.read
  cases looks : shape argument with
  | separator => exact absurd (shape_eq_separator_iff.mp looks) other
  | long name value =>
      rw [looks] at read
      exact said_readLong read
  | letters group =>
      rw [looks] at read
      exact said_readLetters read
  | plain =>
      simp only [looks] at read ⊢
      split at read
      · rename_i flag waiting
        obtain rfl := Except.ok.inj read
        simp [said, waiting, Said.take]
      · obtain ⟨idle, said⟩ := said_readOperand read
        simpa only [idle] using said

theorem said_readAll_trailing (trailing : progress.trailing = true)
    (read : progress.readAll arguments = .ok after) :
    progress.said.addOperands arguments = ⟨after.given, after.operand.toList, none⟩ := by
  induction arguments generalizing progress with
  | nil =>
      rw [said_of_settle (settle_of_readAll_nil read)]
      exact Said.addOperands_nil rfl
  | cons argument arguments ih =>
      obtain ⟨next, first, more⟩ := exists_of_readAll_cons read
      have still := (read_trailing trailing first).trailing_eq.trans trailing
      rw [Progress.read, if_pos trailing] at first
      rw [← ih still more, (said_readOperand first).2, Said.addOperands_addOperands]
      rfl

theorem said_readAll (leading : progress.trailing = false)
    (read : progress.readAll arguments = .ok after) :
    progress.said.readAll arguments = ⟨after.given, after.operand.toList, none⟩ := by
  induction arguments generalizing progress with
  | nil => exact said_of_settle (settle_of_readAll_nil read)
  | cons argument arguments ih =>
      obtain ⟨next, first, more⟩ := exists_of_readAll_cons read
      rw [Said.readAll]
      by_cases separates : argument = "--"
      · subst separates
        rw [read_separator leading] at first
        obtain rfl := Except.ok.inj first
        rw [if_pos rfl]
        exact @said_readAll_trailing { progress with trailing := true } _ _ rfl more
      · have still := (read_adds leading separates first).trailing_eq.trans leading
        rw [if_neg separates, ← said_read leading separates first]
        exact ih still more

end Progress

/-- A command line that is accepted gives the options that it says. -/
theorem options_of_parse {arguments : List String} {options : Options}
    (parsed : parse arguments = .ok options) :
    options = (({} : Said).readAll arguments).options := by
  obtain ⟨final, read, rfl, _, _⟩ := exists_of_parse parsed
  have said := Progress.said_readAll rfl read
  rw [show ({} : Said) = ({} : Progress).said from rfl, said]
  cases operand : final.operand <;> simp [Progress.options, Said.options, operand, Progress.has]

/-- A flag in a group takes the rest of it, and a separator ends the flags. -/
example :
    (({} : Said).readAll ["-vma=b", "--", "-v"]).options =
      ⟨"-v", some "a=b", none, false, true⟩ := by
  decide

end DriverUplift.CommandLine
