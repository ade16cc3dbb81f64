import DriverUplift.Proofs.CommandLine.Named
import Mathlib.Data.List.Perm.Basic
import Mathlib.Data.List.Nodup
import Mathlib.Data.List.TakeWhile

/-!
# Arrangements of a command line

The options of a command line may be written in any order, and a path in any of five
ways; the operand may stand between them, or behind a separator whatever it looks like.
All arrangements of one choice of options give the same options.
-/

namespace DriverUplift.CommandLine

/-! ## Settings -/

inductive Spelling where
  /-- `--manifest=PATH` -/
  | equals
  /-- `--manifest PATH`, in two arguments -/
  | argument
  /-- `-m PATH`, in two arguments -/
  | letter
  /-- `-m=PATH` -/
  | letterEquals
  /-- `-mPATH` -/
  | attached
  deriving DecidableEq, Repr

/-- The paths that can be written so: no empty ones, and behind an equals sign of the long flag
any other; elsewhere the path must not start like a flag or like the equals sign itself. -/
def Spelling.Allows (spelling : Spelling) (path : String) : Prop :=
  path ≠ "" ∧
    (spelling = .equals ∨ path.toList.head? ≠ some '-' ∧ path.toList.head? ≠ some '=')

inductive Setting where
  | manifest (spelling : Spelling) (path : String)
  | apiUrl (url : String)
  | strict
  | verbose (short : Bool)
  deriving DecidableEq, Repr

namespace Setting

def flag : Setting → Flag
  | manifest _ _ => .manifest
  | apiUrl _ => .apiUrl
  | strict => .strict
  | verbose _ => .verbose

def value : Setting → String
  | manifest _ path => path
  | apiUrl url => url
  | strict => ""
  | verbose _ => ""

def entry (setting : Setting) : Flag × String :=
  (setting.flag, setting.value)

def arguments : Setting → List String
  | manifest .equals path => ["--manifest=" ++ path]
  | manifest .argument path => ["--manifest", path]
  | manifest .letter path => ["-m", path]
  | manifest .letterEquals path => ["-m=" ++ path]
  | manifest .attached path => ["-m" ++ path]
  | apiUrl url => ["--api-url=" ++ url]
  | strict => ["--strict"]
  | verbose true => ["-v"]
  | verbose false => ["--verbose"]

def Sound : Setting → Prop
  | manifest spelling path => spelling.Allows path
  | _ => True

/-- No setting asks for a text. -/
theorem flag_mem_settings (setting : Setting) : setting.flag ∈ Flag.settings := by
  cases setting with
  | manifest _ _ => exact (by decide : Flag.manifest ∈ Flag.settings)
  | apiUrl _ => exact (by decide : Flag.apiUrl ∈ Flag.settings)
  | strict => decide
  | verbose _ => exact (by decide : Flag.verbose ∈ Flag.settings)

end Setting

structure Choice where
  manifest : Option (Spelling × String) := none
  apiUrl : Option String := none
  strict : Bool := false
  /-- Whether by its letter, if it is given. -/
  verbose : Option Bool := none

namespace Choice

def settings (choice : Choice) : List Setting :=
  choice.manifest.toList.map (fun written => .manifest written.1 written.2) ++
    (choice.apiUrl.toList.map .apiUrl ++
      ((if choice.strict then [.strict] else []) ++ choice.verbose.toList.map .verbose))

def options (choice : Choice) (platform : String) : Options where
  platform := platform
  manifest := choice.manifest.map (·.2)
  apiUrl := choice.apiUrl
  strict := choice.strict
  verbose := choice.verbose.isSome

end Choice

/-! ## What arguments look like -/

section Shapes

variable {text : String}

theorem shape_of_head (head : text.toList.head? ≠ some '-') : shape text = .plain := by
  unfold shape
  split
  · rename_i same
    simp [same] at head
  · rename_i same
    simp [same] at head
  · rename_i same
    simp [same] at head
  · rfl

theorem shape_manifest (path : String) :
    shape ("--manifest=" ++ path) = .long "manifest" (some path) := by
  simp [shape, String.toList_append]

theorem shape_apiUrl (url : String) : shape ("--api-url=" ++ url) = .long "api-url" (some url) := by
  simp [shape, String.toList_append]

theorem shape_letter (path : String) : shape ("-m" ++ path) = .letters ('m' :: path.toList) := by
  simp [shape, String.toList_append]

theorem shape_letterEquals (path : String) :
    shape ("-m=" ++ path) = .letters ('m' :: '=' :: path.toList) := by
  simp [shape, String.toList_append]

end Shapes

/-! ## What stands -/

namespace Progress

/-- Once what is pending is accepted, these flags have been given, and this operand; flags are
still allowed. -/
structure Stands (progress : Progress) (given : List (Flag × String)) (operand : Option String) :
    Prop where
  settles : progress.settle = (⟨given, operand, .nothing, false⟩, none)
  leading : progress.trailing = false

variable {progress : Progress} {given : List (Flag × String)} {operand : Option String}
  {flag : Flag} {value path : String} {setting : Setting} {settings : List Setting}

/-- Nothing has been read at the beginning. -/
theorem stands_start : ({} : Progress).Stands [] none :=
  ⟨rfl, rfl⟩

theorem stands_idle (given : List (Flag × String)) (operand : Option String) :
    (⟨given, operand, .nothing, false⟩ : Progress).Stands given operand :=
  ⟨rfl, rfl⟩

/-- No flag waits for a value that is still to come. -/
theorem Stands.pending_ne (stands : progress.Stands given operand) (flag : Flag) :
    progress.pending ≠ .flag flag none := by
  intro waiting
  have settles := stands.settles
  simp [settle, waiting] at settles

/-- A flag that is new, with a value that it can have, is accepted. -/
theorem accept_fresh (fresh : flag ∉ given.map (·.1)) (fits : flag = .manifest → value ≠ "")
    (pending : Pending) :
    (⟨given, operand, pending, false⟩ : Progress).accept flag value =
      (⟨given ++ [(flag, value)], operand, pending, false⟩, none) := by
  have absent : (⟨given, operand, pending, false⟩ : Progress).has flag = false := by
    rw [← Bool.not_eq_true, has_eq_true_iff]
    exact fresh
  have allowed : ¬(flag = .manifest ∧ value = "") := fun refused => fits refused.1 refused.2
  simp only [accept, absent, Bool.false_eq_true, if_false, if_neg allowed]

theorem Stands.take (stands : progress.Stands given operand) (fresh : flag ∉ given.map (·.1))
    (fits : flag = .manifest → value ≠ "") (sets : flag ∈ Flag.settings) :
    progress.take flag value = .ok ⟨given ++ [(flag, value)], operand, .nothing, false⟩ := by
  have accepted := @accept_fresh given operand flag value fresh fits .nothing
  cases flag with
  | version | help => exact absurd sets (by decide)
  | manifest | apiUrl | strict | verbose =>
      simp only [Progress.take, stands.settles, accepted]

theorem Stands.await (stands : progress.Stands given operand) (flag : Flag) :
    progress.await flag = .ok ⟨given, operand, .flag flag none, false⟩ := by
  simp only [Progress.await, stands.settles]

/-- A value that waits to be accepted counts as given. -/
theorem stands_waiting (fresh : flag ∉ given.map (·.1)) (fits : flag = .manifest → value ≠ "") :
    (⟨given, operand, .flag flag (some value), false⟩ : Progress).Stands
      (given ++ [(flag, value)]) operand where
  settles := by
    simp only [settle]
    exact accept_fresh fresh fits .nothing
  leading := rfl

/-! ## Reading what is arranged -/

/-- Reading these arguments leads to where these flags have been given, and this operand. -/
def LeadsTo (progress : Progress) (arguments : List String) (given : List (Flag × String))
    (operand : Option String) : Prop :=
  ∃ after : Progress, after.Stands given operand ∧
    ∀ rest, progress.readAll (arguments ++ rest) = after.readAll rest

variable {argument name : String} {first second : List String} {letters : List Char}
  {more : List (Flag × String)} {final : Option String}

theorem readAll_cons {after : Progress} (read : progress.read argument = .ok after)
    (rest : List String) : progress.readAll (argument :: rest) = after.readAll rest := by
  rw [readAll, read]

theorem Stands.leadsTo_nil (stands : progress.Stands given operand) :
    progress.LeadsTo [] given operand :=
  ⟨progress, stands, fun _ => rfl⟩

theorem LeadsTo.append (one : progress.LeadsTo first given operand)
    (next : ∀ after : Progress, after.Stands given operand → after.LeadsTo second more final) :
    progress.LeadsTo (first ++ second) more final := by
  obtain ⟨middle, stands, read⟩ := one
  obtain ⟨after, ends, readMore⟩ := next middle stands
  refine ⟨after, ends, fun rest => ?_⟩
  rw [List.append_assoc, read, readMore]

section Settings

variable (stands : progress.Stands given operand)

include stands

theorem Stands.read_eq :
    progress.read argument =
      match shape argument with
      | .separator => .ok { progress with trailing := true }
      | .long name value => progress.readLong name value
      | .letters letters => progress.readLetters letters
      | .plain => progress.readOperand argument := by
  rw [Progress.read, if_neg (by simp [stands.leading])]
  cases shape argument with
  | plain =>
      dsimp only
      split
      · rename_i flag waiting
        exact absurd waiting (stands.pending_ne flag)
      · rfl
  | _ => rfl

/-- A flag that takes its value, or none, in one argument. -/
theorem Stands.leadsTo_take (fresh : flag ∉ given.map (·.1))
    (fits : flag = .manifest → value ≠ "") (sets : flag ∈ Flag.settings)
    (read : progress.read argument = progress.take flag value) :
    progress.LeadsTo [argument] (given ++ [(flag, value)]) operand := by
  rw [stands.take fresh fits sets] at read
  exact ⟨_, stands_idle _ _, readAll_cons read⟩

/-- A flag that waits for its value in the next argument. -/
theorem Stands.leadsTo_await (fresh : flag ∉ given.map (·.1)) (filled : path ≠ "")
    (head : path.toList.head? ≠ some '-') (read : progress.read argument = progress.await flag) :
    progress.LeadsTo [argument, path] (given ++ [(flag, path)]) operand := by
  have awaited : (⟨given, operand, .flag flag none, false⟩ : Progress).read path =
      .ok ⟨given, operand, .flag flag (some path), false⟩ := by
    simp only [Progress.read, shape_of_head head, Bool.false_eq_true, if_false]
  rw [stands.await] at read
  refine ⟨_, stands_waiting fresh fun _ => filled, fun rest => ?_⟩
  exact (readAll_cons read _).trans (readAll_cons awaited rest)

theorem Stands.read_manifest (path : String) :
    progress.read ("--manifest=" ++ path) = progress.take .manifest path := by
  rw [stands.read_eq, shape_manifest]
  rfl

theorem Stands.read_attached (filled : path ≠ "") (sign : path.toList.head? ≠ some '=') :
    progress.read ("-m" ++ path) = progress.take .manifest path := by
  have named : Flag.ofLetter? 'm' = some .manifest := rfl
  have takes : Flag.manifest.takesValue = true := rfl
  rw [stands.read_eq, shape_letter]
  dsimp only
  rw [readLetters]
  simp only [named, takes, if_true]
  split
  · rename_i empty
    exact absurd (String.toList_eq_nil_iff.mp empty) filled
  · rename_i same
    simp [same] at sign
  · rw [String.ofList_toList]

theorem Stands.read_letterEquals (path : String) :
    progress.read ("-m=" ++ path) = progress.take .manifest path := by
  rw [stands.read_eq, shape_letterEquals]
  show progress.take .manifest (String.ofList path.toList) = _
  rw [String.ofList_toList]

theorem Stands.read_verbose : progress.read "-v" = progress.take .verbose "" := by
  have group : shape "-v" = .letters ['v'] := rfl
  have named : Flag.ofLetter? 'v' = some .verbose := rfl
  have switch : Flag.verbose.takesValue = false := rfl
  rw [stands.read_eq, group]
  dsimp only
  rw [readLetters]
  simp only [named, switch, Bool.false_eq_true, if_false]
  cases progress.take .verbose "" <;> rfl

/-- A setting whose flag is new adds the flag with its value. -/
theorem Stands.leadsTo_setting (fresh : setting.flag ∉ given.map (·.1)) (sound : setting.Sound) :
    progress.LeadsTo setting.arguments (given ++ [setting.entry]) operand := by
  have sets := setting.flag_mem_settings
  cases setting with
  | manifest spelling path =>
      obtain ⟨filled, other⟩ := sound
      cases spelling with
      | equals => exact stands.leadsTo_take fresh (fun _ => filled) sets (stands.read_manifest path)
      | argument =>
          obtain ⟨dash, _⟩ := other.resolve_left (by decide)
          exact stands.leadsTo_await fresh filled dash (stands.read_eq.trans rfl)
      | letter =>
          obtain ⟨dash, _⟩ := other.resolve_left (by decide)
          exact stands.leadsTo_await fresh filled dash (stands.read_eq.trans rfl)
      | letterEquals =>
          exact stands.leadsTo_take fresh (fun _ => filled) sets (stands.read_letterEquals path)
      | attached =>
          obtain ⟨_, sign⟩ := other.resolve_left (by decide)
          exact stands.leadsTo_take fresh (fun _ => filled) sets (stands.read_attached filled sign)
  | apiUrl url =>
      refine stands.leadsTo_take fresh (fun same => by cases same) sets ?_
      rw [stands.read_eq, shape_apiUrl]
      rfl
  | strict =>
      exact stands.leadsTo_take fresh (fun same => by cases same) sets (stands.read_eq.trans rfl)
  | verbose short =>
      cases short with
      | true => exact stands.leadsTo_take fresh (fun same => by cases same) sets stands.read_verbose
      | false =>
          exact stands.leadsTo_take fresh (fun same => by cases same) sets
            (stands.read_eq.trans rfl)

end Settings

/-- Settings of distinct flags add their flags in the order in which they are written. -/
theorem Stands.leadsTo_settings (stands : progress.Stands given operand)
    (distinct : (given.map (·.1) ++ settings.map Setting.flag).Nodup)
    (sound : ∀ setting ∈ settings, setting.Sound) :
    progress.LeadsTo (settings.flatMap Setting.arguments) (given ++ settings.map Setting.entry)
      operand := by
  induction settings generalizing progress given with
  | nil => simpa using stands.leadsTo_nil
  | cons setting settings ih =>
      obtain ⟨here, others⟩ := List.forall_mem_cons.mp sound
      have fresh : setting.flag ∉ given.map (·.1) := by
        intro mem
        exact (List.nodup_append.mp distinct).2.2 _ mem _ (by simp) rfl
      have first := stands.leadsTo_setting fresh here
      rw [List.flatMap_cons, List.map_cons, ← List.singleton_append, ← List.append_assoc]
      refine first.append fun after ends => ih ends ?_ others
      simpa [Setting.entry] using distinct

/-! ## The operand and the end -/

theorem settle_trailing (progress : Progress) (trailing : Bool) :
    ({ progress with trailing } : Progress).settle =
      ({ progress.settle.1 with trailing }, progress.settle.2) := by
  unfold settle
  cases progress.pending with
  | nothing => rfl
  | operand _ => rfl
  | flag flag value =>
      cases value with
      | none => rfl
      | some value =>
          simp only [accept, has]
          by_cases there : progress.given.any (·.1 == flag) = true
          · simp [there]
          · simp [there]

/-- An operand is read where there is none yet. -/
theorem readOperand_of_settle {trailing : Bool}
    (settles : progress.settle = (⟨given, none, .nothing, trailing⟩, none)) (platform : String) :
    progress.readOperand platform = .ok ⟨given, none, .operand platform, trailing⟩ := by
  have none_yet := operand_of_settle settles
  unfold readOperand
  rw [settles]
  split
  · rename_i waiting
    simp [waiting] at none_yet
  · rename_i earlier _
    cases waiting : progress.pending <;> simp_all
  · rfl

theorem Stands.readAll_nil (stands : progress.Stands given operand) :
    progress.readAll [] = .ok ⟨given, operand, .nothing, false⟩ := by
  rw [readAll, stands.settles]

/-- An operand that does not look like a flag stands by itself. -/
theorem Stands.leadsTo_operand (stands : progress.Stands given none) {platform : String}
    (head : platform.toList.head? ≠ some '-') :
    progress.LeadsTo [platform] given (some platform) := by
  have read : progress.read platform = .ok ⟨given, none, .operand platform, false⟩ := by
    rw [stands.read_eq, shape_of_head head]
    exact readOperand_of_settle stands.settles platform
  exact ⟨_, ⟨rfl, rfl⟩, readAll_cons read⟩

/-- Behind a separator the operand may look like anything. -/
theorem Stands.readAll_separator (stands : progress.Stands given none) (platform : String) :
    progress.readAll ["--", platform] = .ok ⟨given, some platform, .nothing, true⟩ := by
  have settles : ({ progress with trailing := true } : Progress).settle =
      (⟨given, none, .nothing, true⟩, none) := by
    rw [settle_trailing, stands.settles]
  rw [readAll_cons (read_separator stands.leading), readAll, Progress.read, if_pos rfl,
    readOperand_of_settle settles]
  rfl

/-! ## The options -/

theorem lookup_eq_some_iff (distinct : (given.map (·.1)).Nodup) :
    given.lookup flag = some value ↔ (flag, value) ∈ given := by
  induction given with
  | nil => simp
  | cons entry given ih =>
      obtain ⟨other, found⟩ := entry
      obtain ⟨fresh, distinct⟩ := List.nodup_cons.mp distinct
      by_cases same : flag = other
      · subst same
        have absent : (flag, value) ∉ given := fun mem => fresh (List.mem_map.mpr ⟨_, mem, rfl⟩)
        simp [absent, eq_comm]
      · simp [List.lookup_cons, beq_eq_false_iff_ne.mpr same, ih distinct, same]

/-- The order in which distinct flags were given does not matter. -/
theorem options_perm {other : List (Flag × String)} (perm : given.Perm other)
    (distinct : (given.map (·.1)).Nodup) (operand : Option String) (trailing : Bool) :
    (⟨given, operand, .nothing, trailing⟩ : Progress).options =
      (⟨other, operand, .nothing, false⟩ : Progress).options := by
  have same (flag : Flag) : given.lookup flag = other.lookup flag := by
    refine Option.ext fun value => ?_
    rw [lookup_eq_some_iff distinct, lookup_eq_some_iff ((perm.map _).nodup_iff.mp distinct),
      perm.mem_iff]
  simp only [options, has, same, perm.any_eq]

end Progress

namespace Choice

theorem options_settings (choice : Choice) (operand : Option String) :
    (⟨choice.settings.map Setting.entry, operand, .nothing, false⟩ : Progress).options =
      choice.options (operand.getD Operand.default) := by
  obtain ⟨manifest, apiUrl, strict, verbose⟩ := choice
  cases manifest <;> cases apiUrl <;> cases strict <;> cases verbose <;> rfl

theorem nodup_flags (choice : Choice) : (choice.settings.map Setting.flag).Nodup := by
  obtain ⟨manifest, apiUrl, strict, verbose⟩ := choice
  cases manifest <;> cases apiUrl <;> cases strict <;> cases verbose <;>
    simp [settings, Setting.flag]

end Choice

/-! ## Any order, any spelling -/

section Arranged

variable {choice : Choice} {arrangement : List Setting}

theorem map_fst_entry (arrangement : List Setting) :
    (arrangement.map Setting.entry).map (·.1) = arrangement.map Setting.flag := by
  simp [Setting.entry]

/-- What reading an arrangement of a choice comes to, with an operand or without one. -/
theorem options_arranged (perm : arrangement.Perm choice.settings) (operand : Option String)
    (trailing : Bool) :
    (⟨arrangement.map Setting.entry, operand, .nothing, trailing⟩ : Progress).options =
      choice.options (operand.getD Operand.default) := by
  have distinct : ((arrangement.map Setting.entry).map (·.1)).Nodup := by
    rw [map_fst_entry]
    exact (perm.map _).nodup_iff.mpr choice.nodup_flags
  rw [Progress.options_perm (perm.map _) distinct, choice.options_settings]

theorem leadsTo_arranged (perm : arrangement.Perm choice.settings)
    (sound : ∀ setting ∈ choice.settings, setting.Sound) :
    ({} : Progress).LeadsTo (arrangement.flatMap Setting.arguments)
      (arrangement.map Setting.entry) none := by
  have distinct : (arrangement.map Setting.flag).Nodup :=
    (perm.map _).nodup_iff.mpr choice.nodup_flags
  simpa using Progress.stands_start.leadsTo_settings (by simpa using distinct)
    fun setting mem => sound setting (perm.mem_iff.mp mem)

end Arranged

/-! ## Options that are given twice -/

section Repeated

variable {setting one two : Setting} {front middle back rest : List String}

/-- Without a separator in between, what is named further on is named behind it. -/
theorem flagsNamed_append (leading : "--" ∉ front) (back : List String) :
    flagsNamed (front ++ back) = flagsNamed front ++ flagsNamed back := by
  have kept : ∀ argument ∈ front, decide (argument ≠ "--") = true := by
    intro argument mem
    rw [decide_eq_true_iff]
    rintro rfl
    exact leading mem
  have whole : front.takeWhile (· ≠ "--") = front := List.takeWhile_eq_self_iff.mpr kept
  rw [flagsNamed, List.takeWhile_append_of_pos kept, List.flatMap_append, flagsNamed, whole,
    flagsNamed]

/-- The first argument of a setting names its flag. -/
theorem flag_mem_flagsNamed (setting : Setting) (rest : List String) :
    setting.flag ∈ flagsNamed (setting.arguments ++ rest) := by
  have named {argument : String} {flags : List Flag} {more : List String}
      (first : (shape argument).flags = setting.flag :: flags) :
      setting.flag ∈ flagsNamed (argument :: more) := by
    have other : argument ≠ "--" := by
      rintro rfl
      cases first
    rw [flagsNamed_cons other, first]
    exact List.mem_append_left _ (List.mem_cons_self ..)
  cases setting with
  | manifest spelling path =>
      cases spelling with
      | equals => exact named (by rw [shape_manifest]; rfl)
      | argument => exact named rfl
      | letter => exact named rfl
      | letterEquals => exact named (by rw [shape_letterEquals]; rfl)
      | attached => exact named (by rw [shape_letter]; rfl)
  | apiUrl url => exact named (by rw [shape_apiUrl]; rfl)
  | strict => exact named rfl
  | verbose short => cases short <;> exact named rfl

theorem not_nodup_of_same_flag (same : one.flag = two.flag)
    (leading : "--" ∉ front ++ (one.arguments ++ middle)) :
    ¬(flagsNamed ((front ++ (one.arguments ++ middle)) ++ (two.arguments ++ back))).Nodup := by
  have inFront : one.flag ∈ flagsNamed (front ++ (one.arguments ++ middle)) := by
    rw [flagsNamed_append fun mem => leading (List.mem_append_left _ mem)]
    exact List.mem_append_right _ (flag_mem_flagsNamed one middle)
  have further := flag_mem_flagsNamed two back
  rw [flagsNamed_append leading]
  exact fun distinct => (List.nodup_append.mp distinct).2.2 _ inFront _ further same

theorem exists_error_of_not_nodup {arguments : List String}
    (repeated : ¬(flagsNamed arguments).Nodup) : ∃ error, parse arguments = .error error := by
  cases parsed : parse arguments with
  | error error => exact ⟨error, rfl⟩
  | ok options => exact absurd (nodup_flagsNamed parsed) repeated

end Repeated

/-! ## Command lines -/

/--
Whatever the order and the spelling of the settings of a choice, they are parsed as just
the options that were chosen, with the usual platform, or with the platform behind a
separator.  A platform that does not start like a flag may stand anywhere between the
settings.  Arguments that name a flag twice are refused, and so are any two settings of one
flag in front of a separator, whatever else there is.
-/
theorem parse_arranged :
    (∀ (choice : Choice) (arrangement : List Setting),
      (∀ setting ∈ choice.settings, setting.Sound) → arrangement.Perm choice.settings →
        parse (arrangement.flatMap Setting.arguments) = .ok (choice.options Operand.default) ∧
        ∀ platform : String,
          parse (arrangement.flatMap Setting.arguments ++ ["--", platform]) =
            .ok (choice.options platform) ∧
          (platform.toList.head? ≠ some '-' → ∀ front back, front ++ back = arrangement →
            parse (front.flatMap Setting.arguments ++
                ([platform] ++ back.flatMap Setting.arguments)) =
              .ok (choice.options platform))) ∧
      (∀ arguments, ¬(flagsNamed arguments).Nodup → ∃ error, parse arguments = .error error) ∧
      ∀ (one two : Setting) (front middle back : List String), one.flag = two.flag →
        "--" ∉ front ++ (one.arguments ++ middle) →
          ∃ error, parse ((front ++ (one.arguments ++ middle)) ++ (two.arguments ++ back)) =
            .error error := by
  refine ⟨fun choice arrangement sound perm => ?_, fun arguments => exists_error_of_not_nodup,
    fun one two front middle back same leading =>
      exists_error_of_not_nodup (not_nodup_of_same_flag same leading)⟩
  obtain ⟨after, stands, read⟩ := leadsTo_arranged perm sound
  refine ⟨?_, fun platform => ⟨?_, fun head front back split => ?_⟩⟩
  · have all := read []
    rw [List.append_nil, stands.readAll_nil] at all
    rw [parse, all]
    exact congrArg Except.ok (options_arranged perm none false)
  · rw [parse, read, stands.readAll_separator]
    exact congrArg Except.ok (options_arranged perm (some platform) true)
  · subst split
    have sounds : ∀ setting ∈ front ++ back, setting.Sound :=
      fun setting mem => sound setting (perm.mem_iff.mp mem)
    have distinct : ((front ++ back).map Setting.flag).Nodup :=
      (perm.map _).nodup_iff.mpr choice.nodup_flags
    rw [List.map_append] at distinct
    have infront := Progress.stands_start.leadsTo_settings
      (by simpa using (List.nodup_append.mp distinct).1)
      fun setting mem => sounds setting (List.mem_append_left _ mem)
    have whole := infront.append fun middle here =>
      (here.leadsTo_operand head).append fun later there =>
        there.leadsTo_settings (by rw [List.nil_append, map_fst_entry]; exact distinct)
          fun setting mem => sounds setting (List.mem_append_right _ mem)
    obtain ⟨final, ends, readWhole⟩ := whole
    have all := readWhole []
    rw [List.append_nil, ends.readAll_nil, List.nil_append, ← List.map_append] at all
    rw [parse, all]
    exact congrArg Except.ok (options_arranged perm (some platform) false)

/-- A path with an equals sign behind its letter, and an address that looks like a flag. -/
def Sample.choice : Choice :=
  ⟨some (.attached, "a=b"), some "--strict", true, some true⟩

theorem parse_arranged_sample :
    (∀ setting ∈ Sample.choice.settings, setting.Sound) ∧
      Sample.choice.settings.reverse.Perm Sample.choice.settings ∧
      parse ["-v", "--strict", "--api-url=--strict", "-ma=b", "--", "-m"] =
        .ok ⟨"-m", some "a=b", some "--strict", true, true⟩ ∧
      parse ["-v", "--strict", "", "--api-url=--strict", "-ma=b"] =
        .ok ⟨"", some "a=b", some "--strict", true, true⟩ ∧
      (∃ error, parse ["-vv"] = .error error) ∧
      ∃ error, parse ["linux", "-m", "a", "-v", "--manifest=b", "--", "-v"] = .error error := by
  have sound : ∀ setting ∈ Sample.choice.settings, setting.Sound := by
    simp [Sample.choice, Choice.settings, Setting.Sound, Spelling.Allows]
  have perm := Sample.choice.settings.reverse_perm
  obtain ⟨arranged, repeated, sameFlag⟩ := parse_arranged
  obtain ⟨_, operand⟩ := arranged Sample.choice _ sound perm
  refine ⟨sound, perm, (operand "-m").1, ?_, repeated _ (by decide), ?_⟩
  · exact (operand "").2 (by simp) [.verbose true, .strict]
      [.apiUrl "--strict", .manifest .attached "a=b"] rfl
  · exact sameFlag (.manifest .letter "a") (.manifest .equals "b") ["linux"] ["-v"] ["--", "-v"] rfl
      (by decide)

end DriverUplift.CommandLine
