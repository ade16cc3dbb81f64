import DriverUplift.Program
import DriverUplift.Proofs.CommandLine.Said
import DriverUplift.Proofs.Json.Place
import DriverUplift.Proofs.Json.Unambiguous
import DriverUplift.Proofs.Uplift.Refusal

/-!
# What a caller can rely on

Once its manifest is known, a command line that is accepted stands for one run of the uplift.
The exit code, the output, the errors and the manifest file tell the same about it: a run that
succeeds exits with zero and prints the version that the file now records, and one that fails
exits with one, prints nothing and ends its errors with the reason.  The log never mixes with
the output.
-/

namespace DriverUplift.Program

open CommandLine (Options Said)
open Github (Client)
open Uplift (Completion Config Outcome)

/-! ## Variables -/

/-- The variables that can be read as texts; of equal names only the first counts. -/
def readable : Members Content → Members String
  | [] => []
  | (name, .text value) :: rest => (name, value) :: readable rest
  | (name, .bytes _) :: rest => (readable rest).filter fun entry => entry.1 != name

/-- A variable whose value is no text is as good as not set. -/
theorem get?_readable (name : String) (environment : Members Content) :
    Members.get? name (readable environment) =
      match Members.get? name environment with
      | some (.text value) => some value
      | _ => none := by
  induction environment with
  | nil => rfl
  | cons entry rest ih =>
      obtain ⟨other, content⟩ := entry
      by_cases same : other = name
      · subst same
        cases content with
        | text value => simp [readable, Members.get?]
        | bytes value =>
            have absent : other ∉ Members.keys (readable ((other, .bytes value) :: rest)) := by
              simp [readable, Members.keys]
            rw [Members.get?_eq_none_iff.mpr absent]
            simp [Members.get?]
      · cases content with
        | text value => simpa [readable, Members.get?, same] using ih
        | bytes value =>
            have kept : (name != other) = true := by simp [Ne.symm same]
            rw [readable, Members.get?_filter (· != other) kept, ih]
            simp [Members.get?, same]

def Call.within (environment : Members Content) (location : Location) (arguments : List String) :
    Call :=
  ⟨arguments, readable environment, location⟩

/-- The root of the API: as given, or else as in the environment if that is a text there, or else
the usual one. -/
def apiRoot (options : Options) (environment : Members Content) : String :=
  match options.apiUrl, Members.get? "IGFX_UPLIFT_API_URL" environment with
  | some url, _ => url
  | none, some (.text url) => url
  | none, _ => "https://api.github.com"

theorem apiBase_readable (options : Options) (environment : Members Content) :
    apiBase options (readable environment) = apiRoot options environment := by
  unfold apiBase apiRoot
  cases options.apiUrl with
  | some url => rfl
  | none =>
      rw [get?_readable, apiVariable]
      cases Members.get? "IGFX_UPLIFT_API_URL" environment with
      | none => rfl
      | some content => cases content <;> rfl

/-! ## The manifest -/

/-- The manifest: as given, or else next to the folder of the executable; and if neither is known,
the reason. -/
def manifestAt (options : Options) (location : Location) : Except String String :=
  match options.manifest, location with
  | some path, _ => .ok path
  | none, .folder folder => .ok <|
      if folder = "" ∨ folder.toList.getLast? = some '/' then folder ++ "../dependencies.json"
      else folder ++ "/../dependencies.json"
  | none, .lost error => .error ("Failed to locate the running executable: " ++ error.words)
  | none, .parentless => .error "Executable path has no parent directory"

theorem join_eq (folder name : String) :
    join folder name =
      if folder = "" ∨ folder.toList.getLast? = some '/' then folder ++ name
      else folder ++ ("/" ++ name) := by
  unfold join
  split
  · next none =>
      have empty : folder = "" := String.toList_eq_nil_iff.mp (List.getLast?_eq_none_iff.mp none)
      rw [if_pos (.inl empty)]
  · next slash => rw [if_pos (.inr slash)]
  · next last other found =>
      have filled : folder ≠ "" := by
        rintro rfl
        cases found
      have slashless : folder.toList.getLast? ≠ some '/' := by
        intro slash
        exact other (Option.some.inj (found.symm.trans slash))
      rw [if_neg (not_or.mpr ⟨filled, slashless⟩), String.append_assoc]

theorem manifestPath_eq_manifestAt (options : Options) (location : Location) :
    manifestPath options location = manifestAt options location := by
  unfold manifestPath manifestAt
  cases options.manifest with
  | some path => rfl
  | none =>
      cases location with
      | folder folder => exact congrArg Except.ok (join_eq folder "../dependencies.json")
      | lost error => rfl
      | parentless => rfl

/-! ## Recorded versions -/

/-- A text is one document without repeated keys, and in the section of a platform it records a
version of the compute runtime. -/
def Records (text platform version : String) : Prop :=
  ∃ document, (∀ outline, Json.SpellsWhole outline text.toList ↔ outline = document) ∧
    document.Unrepeated ∧
      ∃ raw, document.at? [.member platform, .member "compute_runtime", .member "version"] =
          some (.text raw) ∧
        Json.meaning? raw = some version

/-- A completed run records the version that it returns. -/
theorem records_of_completion {client : Client} {config : Config} {disk : Disk}
    (done : Completion client config disk) :
    Records done.result.render config.platform done.version := by
  have distinct := Manifest.distinctKeys_of_parse done.parsed
  have clean := (Manifest.clean_of_platform distinct done.decoded).revise done.trace.edits
  have there : (Json.obj done.result.platforms).at?
      [.member config.platform, .member "compute_runtime", .member "version"] =
        some (.str done.version) := by
    have inDocument : Members.get? config.platform done.result.platforms =
        some (.obj done.revised.toMembers) := by
      rw [Completion.result, Manifest.get?_withPlatform, if_pos rfl]
      rfl
    have inSection : Members.get? "compute_runtime" done.revised.toMembers =
        some (.obj done.revised.computeRuntime.toMembers) :=
      clean.get?_toMembers_key .computeRuntime
    have inEntry : Members.get? "version" done.revised.computeRuntime.toMembers =
        some (.str done.version) :=
      ((clean.entry .computeRuntime).get?_toMembers_key .version).trans
        (Field.toJson?_of_text? done.text?_version)
    simp [Json.at?, Json.child?, inDocument, inSection, inEntry]
  have spells := done.result.spellsWhole_render
  refine ⟨_, fun outline => ⟨fun also => also.unique spells, fun same => same ▸ spells⟩,
    Json.unrepeated_outline (Manifest.obeys_withPlatform Json.tolerant_distinctKeys distinct
      done.decoded done.trace.edits), ?_⟩
  rw [Json.at?_outline, there]
  exact ⟨_, rfl, Json.meaning?_printed done.version⟩

/-! ## What is reported -/

def runWith (write : Writer) (transport : Transport) (call : Call) (disk : Disk) : Result :=
  match CommandLine.parse call.arguments with
  | .error error => ⟨.ofUsage call.environment error, {}, disk⟩
  | .ok options =>
      match manifestPath options call.location with
      | .error reason => ⟨.ofError "" reason, {}, disk⟩
      | .ok path =>
          let outcome := Uplift.runWith write (client transport options call.environment)
            (config options path) disk
          ⟨.ofRun options.verbose call.environment outcome.result outcome.trace, outcome.trace,
            outcome.disk⟩

/-- What the program reports, given a result and the log: the exit code says which of the two it
is, a version is all that is printed, and a failure ends the errors. -/
structure Reports (result : Except Failure String) (log : String) (report : Report) : Prop where
  exitCode : report.exitCode = 0 ↔ ∃ version, result = .ok version
  ok : ∀ version, result = .ok version → report.output = version ++ "\n" ∧ report.errors = log
  error : ∀ failure, result = .error failure →
    report.exitCode = 1 ∧ report.output = "" ∧
      report.errors = log ++ ("error: " ++ (failure.message ++ "\n"))

theorem reports_ofRun (verbose : Bool) (environment : Members String)
    (result : Except Failure String) (trace : Trace) :
    Reports result (logLines verbose environment trace.events)
      (.ofRun verbose environment result trace) := by
  cases result with
  | ok version =>
      refine ⟨by simp [Report.ofRun], fun same found => ?_, fun failure found => by cases found⟩
      obtain rfl := Except.ok.inj found
      exact ⟨rfl, rfl⟩
  | error failure =>
      refine ⟨by simp [Report.ofRun, Report.ofError], fun version found => (by cases found),
        fun same found => ?_⟩
      obtain rfl := Except.error.inj found
      exact ⟨rfl, rfl, by simp [Report.ofRun, Report.ofError, String.append_assoc]⟩

/-- The program did what the uplift did, and reports it. -/
structure Conveys (log : List Log.Event → String) (outcome : Outcome) (result : Result) : Prop where
  trace : result.trace = outcome.trace
  disk : result.disk = outcome.disk
  report : Reports outcome.result (log outcome.trace.events) result.report

/-! ## What is left behind -/

/-- What a run leaves behind with a writer: the text that it wrote, with the version that it
returns, or everything as it was, unless it was the writer that failed. -/
structure Leaves (write : Writer) (config : Config) (before : Disk)
    (result : Except Failure String) (after : Disk) : Prop where
  ok : ∀ version, result = .ok version →
    ∃ text, write (.text text) = (.ok (), after) ∧ Records text config.platform version
  error : ∀ failure, result = .error failure →
    after = before ∨ ∃ text error, (write (.text text)).1 = .error error ∧
      failure = .file config.manifestPath error

section Leaves

variable (client : Client) (config : Config) (disk : Disk)

theorem leaves_runWith (write : Writer) :
    Leaves write config disk (Uplift.runWith write client config disk).result
      (Uplift.runWith write client config disk).disk := by
  cases revised : Uplift.revise client config (disk.read config.manifestPath) with
  | mk result trace =>
      cases result with
      | error failure =>
          rw [Uplift.runWith_of_revise_error revised]
          exact ⟨fun version found => (by cases found), fun _ _ => .inl rfl⟩
      | ok revision =>
          refine ⟨fun version found => ?_, fun failure failed => ?_⟩
          · obtain ⟨done, rfl, rfl⟩ := Completion.exists_of_revise revised
            obtain ⟨wrote, rfl⟩ := Uplift.write_of_runWith_ok revised found
            exact ⟨_, wrote, records_of_completion done⟩
          · obtain ⟨error, wrote, same⟩ := Uplift.exists_of_runWith_error revised failed
            exact .inr ⟨_, error, wrote, same⟩

/-- A run that succeeds leaves a manifest file that records the version. -/
theorem exists_records_of_run {version : String}
    (ok : (Uplift.run client config disk).result = .ok version) :
    ∃ text, (Uplift.run client config disk).disk.read config.manifestPath = .ok text ∧
      Records text config.platform version := by
  obtain ⟨done, rfl⟩ := Completion.exists_of_run ok
  rw [done.run_eq]
  exact ⟨_, done.read_written, records_of_completion done⟩

/-- A run that fails leaves the disk as it was: a file that could be read can be written. -/
theorem disk_of_run_error {failure : Failure}
    (failed : (Uplift.run client config disk).result = .error failure) :
    (Uplift.run client config disk).disk = disk := by
  cases revised : Uplift.revise client config (disk.read config.manifestPath) with
  | mk result trace =>
      cases result with
      | error refusal =>
          rw [Uplift.run_eq_runWith, Uplift.runWith_of_revise_error revised]
      | ok revision =>
          obtain ⟨done, _⟩ := Completion.exists_of_revise revised
          rw [done.run_eq] at failed
          cases failed

end Leaves

/-! ## The program -/

section Run

variable {call : Call} {options : Options} {path reason : String}
  (parsed : CommandLine.parse call.arguments = .ok options) (transport : Transport) (disk : Disk)

include parsed

/-- Without a manifest nothing is asked for or written; the reason is all that is printed. -/
theorem runWith_of_lost (lost : manifestPath options call.location = .error reason)
    (write : Writer) :
    runWith write transport call disk = ⟨.ofError "" reason, {}, disk⟩ := by
  simp only [runWith, parsed, lost]

theorem run_of_lost (lost : manifestPath options call.location = .error reason) :
    run transport call disk = ⟨.ofError "" reason, {}, disk⟩ := by
  simp only [run, runOptions, parsed, lost]

variable (located : manifestPath options call.location = .ok path)

include located

theorem conveys_run :
    Conveys (logLines options.verbose call.environment)
      (Uplift.run (client transport options call.environment) (config options path) disk)
      (run transport call disk) := by
  simp only [run, runOptions, parsed, located]
  exact ⟨rfl, rfl, reports_ofRun ..⟩

theorem conveys_runWith (write : Writer) :
    Conveys (logLines options.verbose call.environment)
      (Uplift.runWith write (client transport options call.environment) (config options path) disk)
      (runWith write transport call disk) := by
  simp only [runWith, parsed, located]
  exact ⟨rfl, rfl, reports_ofRun ..⟩

/-- The program writes with the writer for the manifest file of the disk. -/
theorem run_eq_runWith :
    run transport call disk = runWith (disk.writer path) transport call disk := by
  simp only [run, runWith, runOptions, parsed, located]
  rw [Uplift.run_eq_runWith]
  rfl

end Run

/--
A command line that is accepted gives the options that it says.  If no manifest is given and the
executable cannot be located, the program says why, exits with one and does nothing else.
Otherwise it does with the options what the uplift does with one client and one configuration,
whatever writes the manifest file.  The root of the API is the one that is given, or else the
variable's if that is a text, or else the usual one.  The report tells whether the run has
succeeded, with the version alone as output; the version is the one that the text that was written
records, and a run that fails leaves everything as it was unless it was the writer that failed.
With the writer of the disk the version is recorded in the manifest file, and no run that fails
changes the disk.
-/
theorem run_conveys {arguments : List String} {options : Options}
    (parsed : CommandLine.parse arguments = .ok options) (environment : Members Content)
    (location : Location) (transport : Transport) (disk : Disk) :
    options = (({} : Said).readAll arguments).options ∧
      ∃ (call : Call) (client : Client),
        call = .within environment location arguments ∧
        client = ⟨transport, apiRoot options environment⟩ ∧
        (∀ reason, manifestAt options location = .error reason →
          run transport call disk = ⟨⟨1, "", "error: " ++ (reason ++ "\n")⟩, {}, disk⟩ ∧
            ∀ write, runWith write transport call disk = run transport call disk) ∧
        ∀ path, manifestAt options location = .ok path →
          ∃ config : Config,
            config = ⟨path, options.platform, if options.strict then .strict else .lenient⟩ ∧
            (∀ write,
              Conveys (logLines options.verbose (readable environment))
                  (Uplift.runWith write client config disk) (runWith write transport call disk) ∧
                Leaves write config disk (Uplift.runWith write client config disk).result
                  (runWith write transport call disk).disk) ∧
            run transport call disk =
              runWith (disk.writer config.manifestPath) transport call disk ∧
            Conveys (logLines options.verbose (readable environment))
              (Uplift.run client config disk) (run transport call disk) ∧
            (∀ version, (Uplift.run client config disk).result = .ok version →
              ∃ text, (run transport call disk).disk.read config.manifestPath = .ok text ∧
                Records text config.platform version) ∧
            ∀ failure, (Uplift.run client config disk).result = .error failure →
              (run transport call disk).disk = disk := by
  let call : Call := .within environment location arguments
  have given : CommandLine.parse call.arguments = .ok options := parsed
  have root : client transport options call.environment =
      ⟨transport, apiRoot options environment⟩ := by
    rw [client, ← apiBase_readable]
    rfl
  refine ⟨CommandLine.options_of_parse parsed, call, _, rfl, root, ?lost, ?located⟩
  case lost =>
    intro reason lost
    rw [← manifestPath_eq_manifestAt] at lost
    have said := run_of_lost given transport disk lost
    constructor
    · rw [said]
      simp [Report.ofError, String.append_assoc]
    · intro write
      rw [said, runWith_of_lost given transport disk lost]
  case located =>
    intro path located
    rw [← manifestPath_eq_manifestAt] at located
    have conveys := conveys_run given transport disk located
    refine ⟨config options path, rfl, ?_, run_eq_runWith given transport disk located, conveys,
      ?_, ?_⟩
    · intro write
      have conveysToo := conveys_runWith given transport disk located write
      refine ⟨conveysToo, ?_⟩
      rw [conveysToo.disk]
      exact leaves_runWith _ _ _ _
    · intro version ok
      rw [conveys.disk]
      exact exists_records_of_run _ _ _ ok
    · intro failure failed
      rw [conveys.disk]
      exact disk_of_run_error _ _ _ failed

def Sample.arguments : List String :=
  ["-vm", "manifest.json", "--", "linux"]

/-- A root that is a text, and a log filter that is none. -/
def Sample.environment : Members Content :=
  [("RUST_LOG", .bytes ⟨#[255]⟩), ("IGFX_UPLIFT_API_URL", .text "api")]

theorem run_conveys_sample :
    CommandLine.parse Sample.arguments = .ok ⟨"linux", some "manifest.json", none, false, true⟩ ∧
      (run Uplift.Sample.client.transport (.within Sample.environment "/bin" Sample.arguments)
        Uplift.Sample.disk).report.exitCode = 0 ∧
      (run Uplift.Sample.client.transport (.within Sample.environment "/bin" Sample.arguments)
        Uplift.Sample.disk).report.output = "v2\n" ∧
      CommandLine.parse ["linux"] = .ok ⟨"linux", none, none, false, false⟩ ∧
      (run Uplift.Sample.client.transport (.within Sample.environment (.lost .notFound) ["linux"])
        Uplift.Sample.disk).report = ⟨1, "", "error: Failed to locate the running executable: " ++
          "No such file or directory (os error 2)\n"⟩ := by
  have parsed : CommandLine.parse Sample.arguments =
      .ok ⟨"linux", some "manifest.json", none, false, true⟩ := by
    decide
  have plain : CommandLine.parse ["linux"] = .ok ⟨"linux", none, none, false, false⟩ := by
    decide
  obtain ⟨_, _, _, rfl, rfl, _, located⟩ :=
    run_conveys parsed Sample.environment "/bin" Uplift.Sample.client.transport Uplift.Sample.disk
  obtain ⟨_, rfl, _, _, conveys, _, _⟩ := located "manifest.json" rfl
  have root : apiRoot ⟨"linux", some "manifest.json", none, false, true⟩ Sample.environment =
      "api" := by
    decide
  have ok := @Uplift.Sample.run_eq "linux" rfl
  rw [root] at conveys
  obtain ⟨_, _, _, rfl, rfl, lost, _⟩ := run_conveys plain Sample.environment (.lost .notFound)
    Uplift.Sample.client.transport Uplift.Sample.disk
  refine ⟨parsed, conveys.report.exitCode.mpr ⟨"v2", ok⟩, (conveys.report.ok "v2" ok).1, plain, ?_⟩
  rw [(lost _ rfl).1]
  decide

end DriverUplift.Program
