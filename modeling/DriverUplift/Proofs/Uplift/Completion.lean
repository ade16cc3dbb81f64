import DriverUplift.Proofs.Disk
import DriverUplift.Proofs.Manifest
import DriverUplift.Proofs.Uplift.Findings
import DriverUplift.Uplift.Run

/-!
# Completed runs

A run succeeds exactly when its file can be read, parsed and decoded and the
uplift succeeds.  The completion of a run holds what it came to on the way; what
the run leaves behind is made from that.  A run over a file that another run has
written is completed by the platform it finds there.
-/

namespace DriverUplift.Uplift

open Github (Client)

def beginning (config : Config) : Trace :=
  { events := [opening config] }

/-- What a run comes to on its way to a success. -/
structure Completion (client : Client) (config : Config) (disk : Disk) where
  text : String
  manifest : Manifest
  platform : Platform
  trace : Trace
  read : disk.read config.manifestPath = .ok text
  parsed : Manifest.parse text = .ok manifest
  decoded : manifest.platform config.platform = .ok platform
  uplifted : (upliftPlatform client config.policy).after (beginning config) = (.ok (), trace)

/-- A platform is prepared when its file can be read, parsed and decoded. -/
theorem prepare_eq_ok_iff {config : Config} {source : Except FileError String}
    {manifest : Manifest} {platform : Platform} :
    prepare config source = .ok (manifest, platform) ↔
      ∃ text, source = .ok text ∧ Manifest.parse text = .ok manifest ∧
        manifest.platform config.platform = .ok platform := by
  constructor
  · intro prepared
    unfold prepare Manifest.ofSource at prepared
    cases source with
    | error error => cases prepared
    | ok text =>
        cases parsed : Manifest.parse text with
        | error error => simp [parsed] at prepared
        | ok found =>
            cases decoded : found.platform config.platform with
            | error error => simp [parsed, decoded] at prepared
            | ok read =>
                obtain ⟨rfl, rfl⟩ : found = manifest ∧ read = platform := by
                  simpa [parsed, decoded] using prepared
                exact ⟨text, rfl, parsed, decoded⟩
  · rintro ⟨text, rfl, parsed, decoded⟩
    simp only [prepare, Manifest.ofSource, parsed, decoded]

/-! ## Runs that fail -/

section Fails

variable {client : Client} {config : Config} {disk : Disk} {failure : Failure}

theorem run_of_prepare_error
    (refused : prepare config (disk.read config.manifestPath) = .error failure) :
    run client config disk = ⟨.error failure, beginning config, disk⟩ := by
  simp only [run, revise, refused]
  rfl

theorem run_of_uplift_error {prepared : Manifest × Platform} {trace : Trace}
    (preparing : prepare config (disk.read config.manifestPath) = .ok prepared)
    (failed : (upliftPlatform client config.policy).after (beginning config) =
      (.error failure, trace)) :
    run client config disk = ⟨.error failure, trace, disk⟩ := by
  rw [beginning] at failed
  simp only [run, revise, preparing, failed]

end Fails

namespace Completion

variable {client : Client} {config : Config} {disk : Disk} (done : Completion client config disk)

/-! ## What a completed run leaves behind -/

def revised : Platform :=
  done.platform.revise done.trace.edits

def result : Manifest :=
  done.manifest.withPlatform config.platform done.revised

def version : String :=
  done.revised.computeRuntime.version.text?.getD ""

def written : Disk :=
  match disk.write config.manifestPath (.text done.result.render) with
  | .ok after => after
  | .error _ => disk

theorem write_eq :
    disk.write config.manifestPath (.text done.result.render) = .ok done.written := by
  obtain ⟨after, wrote⟩ := Disk.exists_write done.read (.text done.result.render)
  rw [written, wrote]

theorem prepare_eq :
    prepare config (disk.read config.manifestPath) = .ok (done.manifest, done.platform) :=
  prepare_eq_ok_iff.mpr ⟨done.text, done.read, done.parsed, done.decoded⟩

theorem revise_eq :
    revise client config (disk.read config.manifestPath) =
      (.ok ⟨done.result, done.version⟩, done.trace) := by
  have uplifted := done.uplifted
  rw [beginning] at uplifted
  rw [revise, done.prepare_eq]
  simp only [uplifted, store, Manifest.setPlatform_of_platform done.decoded]
  rfl

/-- A completed run returns the version and writes the result. -/
theorem run_eq :
    run client config disk =
      ⟨.ok done.version, { done.trace with events := done.trace.events ++ [closing config] },
        done.written⟩ := by
  rw [run, done.revise_eq]
  simp only [done.write_eq, conclude]

/-- Every revision is that of a completed run. -/
theorem exists_of_revise {revision : Revision} {trace : Trace}
    (revised : revise client config (disk.read config.manifestPath) = (.ok revision, trace)) :
    ∃ done : Completion client config disk,
      revision = ⟨done.result, done.version⟩ ∧ trace = done.trace := by
  cases preparing : prepare config (disk.read config.manifestPath) with
  | error failure => simp [revise, preparing] at revised
  | ok prepared =>
      obtain ⟨text, read, parsed, decoded⟩ := prepare_eq_ok_iff.mp preparing
      cases uplifting : (upliftPlatform client config.policy).after (beginning config) with
      | mk result trace =>
          cases result with
          | error failure =>
              rw [beginning] at uplifting
              simp [revise, preparing, uplifting] at revised
          | ok _ =>
              let done : Completion client config disk :=
                ⟨text, prepared.1, prepared.2, trace, read, parsed, decoded, uplifting⟩
              obtain ⟨same, rfl⟩ := Prod.mk.inj (revised.symm.trans done.revise_eq)
              exact ⟨done, Except.ok.inj same, rfl⟩

/-- Every run that succeeds is completed. -/
theorem exists_of_run {version : String} (ok : (run client config disk).result = .ok version) :
    ∃ done : Completion client config disk, done.version = version := by
  cases revised : revise client config (disk.read config.manifestPath) with
  | mk result trace =>
      cases result with
      | error failure => simp [run, revised] at ok
      | ok revision =>
          obtain ⟨done, _⟩ := exists_of_revise revised
          rw [done.run_eq] at ok
          exact ⟨done, Except.ok.inj ok⟩

/-- A completed run holds what its file holds. -/
theorem eq_of_read {text : String} {manifest : Manifest}
    (read : disk.read config.manifestPath = .ok text)
    (parsed : Manifest.parse text = .ok manifest) :
    done.text = text ∧ done.manifest = manifest := by
  obtain rfl : done.text = text := Except.ok.inj (done.read.symm.trans read)
  exact ⟨rfl, Except.ok.inj (done.parsed.symm.trans parsed)⟩

/-- A completed run was told what its edits assign. -/
theorem exists_findings :
    ∃ findings : Findings, findings.Reported client.transport.Answers client.apiBase ∧
      done.trace.edits = findings.assignments := by
  obtain ⟨findings, reported, edits⟩ := upliftPlatform_ok done.uplifted
  exact ⟨findings, reported, edits.trans (List.nil_append _)⟩

theorem version_revised {findings : Findings} (edits : done.trace.edits = findings.assignments) :
    done.revised.computeRuntime.version = .text findings.computeRuntime.tag := by
  rw [revised, edits]
  exact findings.version_revise done.platform

theorem version_eq {findings : Findings} (edits : done.trace.edits = findings.assignments) :
    done.version = findings.computeRuntime.tag := by
  rw [version, done.version_revised edits]
  rfl

/-- The version that a completed run returns is in the platform. -/
theorem text?_version : done.revised.computeRuntime.version.text? = some done.version := by
  obtain ⟨findings, _, edits⟩ := done.exists_findings
  rw [done.version_eq edits, done.version_revised edits]
  rfl

/-! ## Reading what was written -/

theorem read_written : done.written.read config.manifestPath = .ok done.result.render :=
  Disk.read_of_write done.read done.write_eq

theorem keys_result : done.result.keys = done.manifest.keys :=
  Manifest.keys_withPlatform (Manifest.mem_keys_of_platform done.decoded) done.revised

theorem platform_result : done.result.platform config.platform = .ok done.revised :=
  Manifest.platform_withPlatform_self
    ((Manifest.clean_of_platform (Manifest.distinctKeys_of_parse done.parsed) done.decoded).revise
      done.trace.edits)

theorem parse_result (legible : done.manifest.Obeys Json.legible) :
    Manifest.parse done.result.render = .ok done.result :=
  Manifest.parse_render
    (Manifest.obeys_withPlatform Json.tolerant_legible legible done.decoded done.trace.edits)

theorem load_written (legible : done.manifest.Obeys Json.legible) :
    Manifest.load done.written config.manifestPath = .ok done.result := by
  rw [Manifest.load, done.read_written, Manifest.ofSource]
  simp only [done.parse_result legible]

/-! ## A run after another -/

/-- A run over what a completed run has written is completed by the platform found there. -/
def follow (legible : done.manifest.Obeys Json.legible) {next : Config}
    (path : next.manifestPath = config.manifestPath) {platform : Platform} {trace : Trace}
    (decoded : done.result.platform next.platform = .ok platform)
    (uplifted : (upliftPlatform client next.policy).after (beginning next) = (.ok (), trace)) :
    Completion client next done.written where
  text := done.result.render
  manifest := done.result
  platform := platform
  trace := trace
  read := by
    rw [path]
    exact done.read_written
  parsed := done.parse_result legible
  decoded := decoded
  uplifted := uplifted

/-- What the run before has written leaves no mark on the disk. -/
theorem write_follow {next : Config} (behind : Completion client next done.written)
    (path : next.manifestPath = config.manifestPath) :
    disk.write config.manifestPath (.text behind.result.render) = .ok behind.written := by
  rw [← Disk.write_of_write done.read done.write_eq, ← path]
  exact behind.write_eq

def again (legible : done.manifest.Obeys Json.legible) : Completion client config done.written :=
  done.follow legible rfl done.platform_result done.uplifted

section Again

variable (legible : done.manifest.Obeys Json.legible)

theorem revised_again : (done.again legible).revised = done.revised :=
  Platform.revise_revise done.platform done.trace.edits

theorem version_again : (done.again legible).version = done.version := by
  rw [version, revised_again, version]

theorem result_again : (done.again legible).result = done.result := by
  rw [result, revised_again]
  exact Manifest.withPlatform_withPlatform done.revised done.revised

theorem written_again : (done.again legible).written = done.written := by
  have wrote := done.write_follow (done.again legible) rfl
  rw [result_again, done.write_eq] at wrote
  exact (Except.ok.inj wrote).symm

end Again

/-! ## Runs for different platforms -/

section Beside

variable {other : Config} (beside : Completion client other disk)
  (path : other.manifestPath = config.manifestPath)

include path in
/-- Runs over the same file read the same manifest. -/
theorem manifest_eq : beside.manifest = done.manifest := by
  have read : disk.read config.manifestPath = .ok beside.text := by
    rw [← path]
    exact beside.read
  exact (done.eq_of_read read beside.parsed).2.symm

/-- A run for another platform, which is the same after this run as before. -/
def next (legible : done.manifest.Obeys Json.legible)
    (distinct : other.platform ≠ config.platform) : Completion client other done.written :=
  done.follow legible path
    (by
      rw [result, Manifest.platform_withPlatform_other distinct, ← done.manifest_eq beside path]
      exact beside.decoded)
    beside.uplifted

/-- Runs for two platforms make the same manifest in either order. -/
theorem result_next (legible : done.manifest.Obeys Json.legible)
    (legibleBeside : beside.manifest.Obeys Json.legible)
    (distinct : other.platform ≠ config.platform) :
    (done.next beside path legible distinct).result =
      (beside.next done path.symm legibleBeside distinct.symm).result := by
  have present := Manifest.mem_keys_of_platform done.decoded
  have besidePresent := Manifest.mem_keys_of_platform beside.decoded
  change (done.manifest.withPlatform config.platform done.revised).withPlatform other.platform
      beside.revised =
    (beside.manifest.withPlatform other.platform beside.revised).withPlatform config.platform
      done.revised
  rw [done.manifest_eq beside path] at besidePresent ⊢
  exact (Manifest.withPlatform_comm distinct.symm present besidePresent _ _).symm

/-- Runs for two platforms leave the same disk behind in either order. -/
theorem written_next (legible : done.manifest.Obeys Json.legible)
    (legibleBeside : beside.manifest.Obeys Json.legible)
    (distinct : other.platform ≠ config.platform) :
    (done.next beside path legible distinct).written =
      (beside.next done path.symm legibleBeside distinct.symm).written := by
  have same := done.result_next beside path legible legibleBeside distinct
  have wrote := done.write_follow (done.next beside path legible distinct) path
  have wroteBeside :=
    beside.write_follow (beside.next done path.symm legibleBeside distinct.symm) path.symm
  rw [← same] at wroteBeside
  refine Except.ok.inj (wrote.symm.trans (Eq.trans ?_ wroteBeside))
  exact congrArg (fun place => disk.write place (.text _)) path.symm

end Beside

end Completion

/-! ## A sample -/

namespace Sample

/-- A section with its components last, with nulls, and with much that is carried along. -/
def linux : Members Json :=
  [("tbb", .obj [("version", .null)]),
   ("level_zero", .obj []),
   ("cm", .obj [("root", .str "\"cm\""), ("url", .null), ("version", .str "1.0.119")]),
   ("igc_dev", .obj
      [("flags", .arr [.bool true, .obj [("b", .num (.integer (-1))), ("a", .arr [])]])]),
   ("igc", .obj [("url", .str "old"), ("github_tag", .null)]),
   ("compute_runtime", .obj [("version", .str "v1")])]

def manifest : Manifest :=
  ⟨[("linux", .obj linux), ("windows", .null), ("wsl", .obj linux)]⟩

def disk : Disk :=
  ⟨"/work", [("manifest.json", .file (.text manifest.render))]⟩

def config (platform : String) : Config :=
  ⟨"manifest.json", platform, .lenient⟩

def answer (url : String) : Except Failure String :=
  if url = "sum" then .ok "intel-igc-core_1.0.2_amd64.deb"
  else if url = Project.graphicsCompiler.successfulRunsUrl "api" "build-IGC" then
    .ok "\x7b\"workflow_runs\":[\x7b\"head_sha\":\"0123456789\",\"updated_at\":\"today\"\x7d]\x7d"
  else if url =
      Project.graphicsCompiler.artifactsUrl "api" "IGC_Ubuntu22.04_llvm14_clang-0123456" then
    .ok ("\x7b\"artifacts\":[\x7b\"name\":\"IGC_Ubuntu22.04_llvm14_clang-0123456\"," ++
      "\"archive_download_url\":\"zip\"\x7d]\x7d")
  else
    .ok ("[\x7b\"tag_name\":\"v2\",\"assets\":" ++
      "[\x7b\"name\":\"a.sum\",\"browser_download_url\":\"sum\"\x7d]\x7d]")

def client : Client :=
  ⟨.fixed answer, "api"⟩

theorem legible_manifest : manifest.Obeys Json.legible := by
  simp [Manifest.Obeys, manifest, linux, Json.obeys_obj_iff, Json.obeys_arr_iff,
    Json.obeys_null_iff, Json.obeys_bool_iff, Json.obeys_num_iff, Json.obeys_str_iff,
    Json.isContainer, Json.legible, Json.accepted, Json.distinctKeys, Json.shallow,
    Json.wholeNumbers, Json.Number.IsWhole, Members.keys, Json.depthLimit]

theorem whole_manifest : manifest.Obeys Json.wholeNumbers :=
  legible_manifest.imp fun _ _ legible => legible.2

theorem read_disk : disk.read "manifest.json" = .ok manifest.render :=
  Disk.read_of_get? (by decide +kernel) (by decide +kernel) (by decide) rfl

theorem parse_render : Manifest.parse manifest.render = .ok manifest :=
  Manifest.parse_render legible_manifest

theorem platform_eq {key : String}
    (found : Members.get? key manifest.platforms = some (.obj linux)) :
    manifest.platform key = .ok (Platform.ofMembers linux) := by
  refine Manifest.platform_eq_ok_iff.mpr ⟨linux, found, ?_, by decide, rfl⟩
  intro component
  cases component <;> decide

def recorded? : Except Failure Unit × Trace → Option String
  | (.ok (), trace) => Edit.latest? .computeRuntime .version trace.edits
  | (.error _, _) => none

theorem uplifts :
    ∃ trace, (upliftPlatform client .lenient).after {} = (.ok (), trace) ∧
      Edit.latest? .computeRuntime .version trace.edits = some "v2" := by
  have evaluated : recorded? ((upliftPlatform client .lenient).after {}) = some "v2" := by
    decide +kernel
  cases uplifted : (upliftPlatform client .lenient).after {} with
  | mk result trace =>
      rw [uplifted] at evaluated
      cases result with
      | ok done => exact ⟨trace, rfl, evaluated⟩
      | error failure => cases evaluated

def completion {client : Client} (fixed : client.transport.IsFixed) {key : String}
    (found : Members.get? key manifest.platforms = some (.obj linux)) {trace : Trace}
    (uplifted : (upliftPlatform client .lenient).after {} = (.ok (), trace)) :
    Completion client (config key) disk where
  text := manifest.render
  manifest := manifest
  platform := Platform.ofMembers linux
  trace := beginning (config key) ++ trace
  read := read_disk
  parsed := parse_render
  decoded := platform_eq found
  uplifted := by
    have steady := steady_upliftPlatform fixed .lenient (beginning (config key))
    rw [uplifted] at steady
    exact steady

/-- The sample run of a section succeeds. -/
theorem run_eq {key : String} (found : Members.get? key manifest.platforms = some (.obj linux)) :
    (run client (config key) disk).result = .ok "v2" := by
  obtain ⟨trace, uplifted, latest⟩ := uplifts
  let done := completion (Transport.isFixed_fixed answer) found uplifted
  have version := done.platform.get_revise done.trace.edits .computeRuntime .version
  rw [show done.trace.edits = trace.edits from rfl, latest] at version
  rw [done.run_eq, Completion.version]
  exact congrArg (fun field : Field => Except.ok (field.text?.getD "")) version

end Sample

end DriverUplift.Uplift
