import DriverUplift.CommandLine.Parse

/-!
# Flags that a command line names

Which flags an argument names can be told from its spelling alone.  Whatever is read
counts the flags that the arguments in front of a separator name, in their order, and
a command line that gives options names none of them twice.
-/

namespace DriverUplift.CommandLine

/-! ## Names -/

/-- The flags in a group of letters; one that takes a value takes the rest of the group. -/
def lettersNamed : List Char → List Flag
  | [] => []
  | letter :: rest =>
      match Flag.ofLetter? letter with
      | none => []
      | some flag => flag :: if flag.takesValue then [] else lettersNamed rest

def Shape.flags : Shape → List Flag
  | .long name _ => (Flag.ofLong? name).toList
  | .letters group => lettersNamed group
  | .separator => []
  | .plain => []

/-- The flags that arguments name in front of the first separator. -/
def flagsNamed (arguments : List String) : List Flag :=
  (arguments.takeWhile (· ≠ "--")).flatMap fun argument => (shape argument).flags

theorem shape_separator : shape "--" = .separator := rfl

/-- Only the separator looks like one. -/
theorem shape_eq_separator_iff {argument : String} :
    shape argument = .separator ↔ argument = "--" := by
  constructor
  · intro separates
    have chars : argument.toList = ['-', '-'] := by
      unfold shape at separates
      split at separates
      · assumption
      · dsimp only at separates
        split at separates <;> cases separates
      all_goals cases separates
    rw [← String.ofList_toList (s := argument), chars]
  · rintro rfl
    exact shape_separator

theorem flagsNamed_separator (rest : List String) : flagsNamed ("--" :: rest) = [] := by
  simp [flagsNamed]

theorem flagsNamed_cons {argument : String} (other : argument ≠ "--") (rest : List String) :
    flagsNamed (argument :: rest) = (shape argument).flags ++ flagsNamed rest := by
  simp [flagsNamed, other]

/-! ## What is read so far -/

def Pending.flags : Pending → List Flag
  | .flag waiting _ => [waiting]
  | .nothing => []
  | .operand _ => []

namespace Progress

def flags (progress : Progress) : List Flag :=
  progress.given.map (·.1) ++ progress.pending.flags

def Distinct (progress : Progress) : Prop :=
  (progress.given.map (·.1)).Nodup

/-- From one progress to a later one that adds these flags. -/
structure Adds (before : Progress) (added : List Flag) (after : Progress) : Prop where
  flags_eq : after.flags = before.flags ++ added
  distinct : before.Distinct → after.Distinct
  trailing_eq : after.trailing = before.trailing

variable {progress after : Progress} {flag : Flag} {value argument : String}

theorem has_eq_true_iff : progress.has flag = true ↔ flag ∈ progress.given.map (·.1) := by
  simp [has, List.any_eq_true]

/-- Where nothing waits, the flags are those that have been accepted. -/
theorem flags_of_idle (idle : progress.pending = .nothing) :
    progress.flags = progress.given.map (·.1) := by
  simp [flags, idle, Pending.flags]

/-- A flag that is new keeps the flags distinct. -/
theorem distinct_of_given_eq (given : after.given = progress.given ++ [(flag, value)])
    (absent : progress.has flag = false) (start : progress.Distinct) : after.Distinct := by
  have fresh : flag ∉ progress.given.map (·.1) := by
    rw [← has_eq_true_iff, absent]
    simp
  rw [Distinct, given]
  simpa [Distinct, List.nodup_append] using ⟨start, fun key value mem same =>
    fresh (List.mem_map.mpr ⟨(key, value), mem, same⟩)⟩

theorem Adds.trans {middle : Progress} {first second : List Flag}
    (one : progress.Adds first middle) (two : middle.Adds second after) :
    progress.Adds (first ++ second) after where
  flags_eq := by rw [two.flags_eq, one.flags_eq, List.append_assoc]
  distinct start := two.distinct (one.distinct start)
  trailing_eq := two.trailing_eq.trans one.trailing_eq

/-! ## What a step does if it succeeds -/

/-- A flag is accepted once, and then it is the last one that was given. -/
theorem accept_eq (accepted : progress.accept flag value = (after, none)) :
    progress.has flag = false ∧
      after = { progress with given := progress.given ++ [(flag, value)] } := by
  unfold accept at accepted
  cases there : progress.has flag with
  | true => simp [there] at accepted
  | false =>
      rw [there] at accepted
      simp only [Bool.false_eq_true, if_false, Prod.mk.injEq] at accepted
      exact ⟨rfl, accepted.1.symm⟩

/-- What is pending is nothing, an operand, or a flag with its value that is new. -/
theorem settle_cases (settles : progress.settle = (after, none)) :
    (progress.pending = .nothing ∧ after = { progress with pending := .nothing }) ∨
      (∃ operand, progress.pending = .operand operand ∧
        after = { progress with operand := some operand, pending := .nothing }) ∨
      ∃ flag value, progress.pending = .flag flag (some value) ∧ progress.has flag = false ∧
        after = { progress with
          given := progress.given ++ [(flag, value)], pending := .nothing } := by
  unfold settle at settles
  cases waiting : progress.pending with
  | nothing =>
      simp only [waiting, Prod.mk.injEq, and_true] at settles
      exact .inl ⟨rfl, settles.symm⟩
  | operand operand =>
      simp only [waiting, Prod.mk.injEq, and_true] at settles
      exact .inr (.inl ⟨operand, rfl, settles.symm⟩)
  | flag flag value? =>
      cases value? with
      | none => simp [waiting] at settles
      | some value =>
          simp only [waiting] at settles
          obtain ⟨absent, rfl⟩ := accept_eq settles
          exact .inr (.inr ⟨flag, value, rfl, absent, rfl⟩)

/-- An operand that is pending is accepted, and an earlier one stays. -/
theorem operand_of_settle (settles : progress.settle = (after, none)) :
    after.operand = match progress.pending with
      | .operand platform => some platform
      | _ => progress.operand := by
  obtain ⟨waiting, rfl⟩ | ⟨operand, waiting, rfl⟩ | ⟨flag, value, waiting, _, rfl⟩ :=
    settle_cases settles <;> simp only [waiting]

/-- A flag is taken behind what is pending. -/
theorem exists_of_take (taken : progress.take flag value = .ok after) :
    ∃ settled : Progress, progress.settle = (settled, none) ∧ settled.has flag = false ∧
      after = { settled with given := settled.given ++ [(flag, value)] } := by
  unfold take at taken
  split at taken
  · cases taken
  · rename_i settled settles
    split at taken
    · cases taken
    · cases taken
    · split at taken
      · cases taken
      · rename_i accepted accepts
        obtain rfl := Except.ok.inj taken
        exact ⟨settled, settles, accept_eq accepts⟩

/-- A flag waits behind what is pending. -/
theorem exists_of_await (awaits : progress.await flag = .ok after) :
    ∃ settled : Progress, progress.settle = (settled, none) ∧
      after = { settled with pending := .flag flag none } := by
  unfold await at awaits
  split at awaits
  · cases awaits
  · rename_i settled settles
    exact ⟨settled, settles, (Except.ok.inj awaits).symm⟩

/-- An operand waits behind what is pending, and there was none before. -/
theorem exists_of_readOperand (read : progress.readOperand argument = .ok after) :
    progress.operand = none ∧ (∀ operand, progress.pending ≠ .operand operand) ∧
      ∃ settled : Progress, progress.settle = (settled, none) ∧
        after = { settled with pending := .operand argument } := by
  unfold readOperand at read
  split at read
  · cases read
  · cases read
  · rename_i none_yet other
    split at read
    · cases read
    · rename_i settled settles
      exact ⟨none_yet, other, settled, settles, (Except.ok.inj read).symm⟩

/-- A long flag is taken with its value, or waits for it. -/
theorem exists_of_readLong {name : String} {value : Option String}
    (read : progress.readLong name value = .ok after) :
    ∃ flag, Flag.ofLong? name = some flag ∧
      ((∃ text, flag.takesValue = true ∧ value = some text ∧
          progress.take flag text = .ok after) ∨
        (flag.takesValue = true ∧ value = none ∧ progress.await flag = .ok after) ∨
        (flag.takesValue = false ∧ value = none ∧ progress.take flag "" = .ok after)) := by
  unfold readLong at read
  cases found : Flag.ofLong? name with
  | none => simp [found] at read
  | some flag =>
      refine ⟨flag, rfl, ?_⟩
      simp only [found] at read
      cases takes : flag.takesValue <;> cases value <;> simp only [takes] at read
      · exact .inr (.inr ⟨rfl, rfl, read⟩)
      · cases read
      · exact .inr (.inl ⟨rfl, rfl, read⟩)
      · exact .inl ⟨_, rfl, rfl, read⟩

/-! ## Flags that a step adds -/

/-- Accepting what is pending adds nothing to it. -/
theorem settle_adds (settles : progress.settle = (after, none)) :
    progress.Adds [] after ∧ after.pending = .nothing := by
  obtain ⟨waiting, rfl⟩ | ⟨operand, waiting, rfl⟩ | ⟨flag, value, waiting, absent, rfl⟩ :=
    settle_cases settles
  · exact ⟨⟨by simp [flags, waiting, Pending.flags], id, rfl⟩, rfl⟩
  · exact ⟨⟨by simp [flags, waiting, Pending.flags], id, rfl⟩, rfl⟩
  · refine ⟨⟨by simp [flags, waiting, Pending.flags], fun start => ?_, rfl⟩, rfl⟩
    exact distinct_of_given_eq rfl absent start

theorem take_adds (taken : progress.take flag value = .ok after) : progress.Adds [flag] after := by
  obtain ⟨settled, settles, absent, rfl⟩ := exists_of_take taken
  obtain ⟨adds, idle⟩ := settle_adds settles
  refine adds.trans ⟨by simp [flags, idle, Pending.flags], fun start => ?_, rfl⟩
  exact distinct_of_given_eq rfl absent start

theorem await_adds (awaits : progress.await flag = .ok after) : progress.Adds [flag] after := by
  obtain ⟨settled, settles, rfl⟩ := exists_of_await awaits
  obtain ⟨adds, idle⟩ := settle_adds settles
  exact adds.trans ⟨by simp [flags, idle, Pending.flags], id, rfl⟩

theorem readOperand_adds (read : progress.readOperand argument = .ok after) :
    progress.Adds [] after := by
  obtain ⟨_, _, settled, settles, rfl⟩ := exists_of_readOperand read
  obtain ⟨adds, idle⟩ := settle_adds settles
  exact adds.trans ⟨by simp [flags, idle, Pending.flags], id, rfl⟩

theorem readLong_adds {name : String} {value : Option String}
    (read : progress.readLong name value = .ok after) :
    progress.Adds (Flag.ofLong? name).toList after := by
  obtain ⟨flag, found, how⟩ := exists_of_readLong read
  rw [found]
  obtain ⟨_, _, _, taken⟩ | ⟨_, _, awaits⟩ | ⟨_, _, taken⟩ := how
  · exact take_adds taken
  · exact await_adds awaits
  · exact take_adds taken

theorem readLetters_adds {letters : List Char} (read : progress.readLetters letters = .ok after) :
    progress.Adds (lettersNamed letters) after := by
  induction letters generalizing progress with
  | nil =>
      obtain rfl := Except.ok.inj read
      exact ⟨(List.append_nil _).symm, id, rfl⟩
  | cons letter rest ih =>
      rw [readLetters] at read
      rw [lettersNamed]
      cases found : Flag.ofLetter? letter with
      | none => simp [found] at read
      | some flag =>
          simp only [found] at read ⊢
          split at read
          · rename_i takes
            rw [if_pos takes]
            split at read
            · exact await_adds read
            · exact take_adds read
            · exact take_adds read
          · rename_i switch
            rw [if_neg switch]
            split at read
            · cases read
            · rename_i taken taking
              exact (take_adds taking).trans (ih read)

/-! ## Arguments -/

theorem read_trailing (trailing : progress.trailing = true)
    (read : progress.read argument = .ok after) : progress.Adds [] after := by
  rw [Progress.read, if_pos trailing] at read
  exact readOperand_adds read

/-- An argument that is no separator adds the flags that it names. -/
theorem read_adds (leading : progress.trailing = false) (other : argument ≠ "--")
    (read : progress.read argument = .ok after) :
    progress.Adds (shape argument).flags after := by
  rw [Progress.read, if_neg (by simp [leading])] at read
  cases looks : shape argument with
  | separator => exact absurd (shape_eq_separator_iff.mp looks) other
  | long name value =>
      rw [looks] at read
      exact readLong_adds read
  | letters letters =>
      rw [looks] at read
      exact readLetters_adds read
  | plain =>
      simp only [looks] at read
      split at read
      · rename_i flag waiting
        obtain rfl := Except.ok.inj read
        exact ⟨by simp [flags, waiting, Shape.flags, Pending.flags], id, rfl⟩
      · exact readOperand_adds read

theorem read_separator (leading : progress.trailing = false) :
    progress.read "--" = .ok { progress with trailing := true } := by
  rw [Progress.read, if_neg (by simp [leading]), shape_separator]

/-- What has been accepted in the end, each flag once. -/
structure Ends (progress : Progress) (added : List Flag) (final : Progress) : Prop where
  given_eq : final.given.map (·.1) = progress.flags ++ added
  distinct : progress.Distinct → final.Distinct

variable {arguments : List String} {final : Progress} {first second : List Flag}

theorem Adds.ends (adds : progress.Adds first after) (ends : after.Ends second final) :
    progress.Ends (first ++ second) final where
  given_eq := by rw [ends.given_eq, adds.flags_eq, List.append_assoc]
  distinct start := ends.distinct (adds.distinct start)

theorem settle_of_readAll_nil (read : progress.readAll [] = .ok final) :
    progress.settle = (final, none) := by
  rw [readAll] at read
  split at read
  · cases read
  · rename_i settled settles
    exact Except.ok.inj read ▸ settles

theorem readAll_nil (read : progress.readAll [] = .ok final) : progress.Ends [] final := by
  obtain ⟨adds, idle⟩ := settle_adds (settle_of_readAll_nil read)
  exact ⟨by rw [← flags_of_idle idle, adds.flags_eq], adds.distinct⟩

theorem exists_of_readAll_cons (read : progress.readAll (argument :: arguments) = .ok final) :
    ∃ next, progress.read argument = .ok next ∧ next.readAll arguments = .ok final := by
  rw [readAll] at read
  split at read
  · cases read
  · rename_i next found
    exact ⟨next, found, read⟩

/-- Behind a separator no flag is named. -/
theorem readAll_trailing (trailing : progress.trailing = true)
    (read : progress.readAll arguments = .ok final) : progress.Ends [] final := by
  induction arguments generalizing progress with
  | nil => exact readAll_nil read
  | cons argument arguments ih =>
      obtain ⟨next, first, more⟩ := exists_of_readAll_cons read
      have adds := read_trailing trailing first
      exact adds.ends (ih (adds.trailing_eq.trans trailing) more)

theorem readAll_ends (leading : progress.trailing = false)
    (read : progress.readAll arguments = .ok final) :
    progress.Ends (flagsNamed arguments) final := by
  induction arguments generalizing progress with
  | nil => exact readAll_nil read
  | cons argument arguments ih =>
      obtain ⟨next, first, more⟩ := exists_of_readAll_cons read
      by_cases separates : argument = "--"
      · subst separates
        rw [read_separator leading] at first
        obtain rfl := Except.ok.inj first
        rw [flagsNamed_separator]
        obtain ⟨given, distinct⟩ := readAll_trailing rfl more
        exact ⟨given, distinct⟩
      · have adds := read_adds leading separates first
        rw [flagsNamed_cons separates]
        exact adds.ends (ih (adds.trailing_eq.trans leading) more)

end Progress

/-! ## Command lines that give options -/

section Parse

variable {arguments : List String} {options : Options}

/-- Options come from a progress that has accepted the flags that are named, each once. -/
theorem exists_of_parse (parsed : parse arguments = .ok options) :
    ∃ final : Progress, ({} : Progress).readAll arguments = .ok final ∧ final.options = options ∧
      final.given.map (·.1) = flagsNamed arguments ∧ final.Distinct := by
  unfold parse at parsed
  split at parsed
  · cases parsed
  · rename_i final read
    have ends := Progress.readAll_ends rfl read
    exact ⟨final, read, Except.ok.inj parsed, by simpa [Progress.flags, Pending.flags] using
      ends.given_eq, ends.distinct List.nodup_nil⟩

/-- No flag is named twice on a command line that is accepted. -/
theorem nodup_flagsNamed (parsed : parse arguments = .ok options) :
    (flagsNamed arguments).Nodup := by
  obtain ⟨final, _, _, given, distinct⟩ := exists_of_parse parsed
  exact given ▸ distinct

end Parse

end DriverUplift.CommandLine
