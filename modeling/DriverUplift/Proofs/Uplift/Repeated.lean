import DriverUplift.Proofs.Uplift.Completion

/-!
# Runs over written files

What a run writes is a file that a run can read.  If all numbers of a manifest
are whole, the file reads back as the document that was written; so a second
run changes nothing, and runs for different platforms may change places.
-/

namespace DriverUplift.Uplift

open Github (Client)

/-! ## Reading the file again -/

/--
The file that a successful run has written can be loaded: its platforms are the
same in the same order, the platform of the run is the one that the uplift has
made, and its compute runtime has the version that the run has returned.
-/
theorem load_run {client : Client} {config : Config} {disk : Disk} {text version : String}
    {manifest : Manifest} (read : disk.read config.manifestPath = .ok text)
    (parsed : Manifest.parse text = .ok manifest) (whole : manifest.Obeys Json.wholeNumbers)
    (ok : (run client config disk).result = .ok version) :
    ∃ (platform : Platform) (trace : Trace) (written : Manifest),
      manifest.platform config.platform = .ok platform ∧
      (upliftPlatform client config.policy).after (beginning config) = (.ok (), trace) ∧
      Manifest.load (run client config disk).disk config.manifestPath = .ok written ∧
      written.keys = manifest.keys ∧
      written.platform config.platform = .ok (platform.revise trace.edits) ∧
      (platform.revise trace.edits).computeRuntime.version.text? = some version := by
  obtain ⟨done, rfl⟩ := Completion.exists_of_run ok
  obtain ⟨rfl, rfl⟩ := done.eq_of_read read parsed
  have legible := Manifest.legible_of_parse parsed whole
  rw [done.run_eq]
  exact ⟨done.platform, done.trace, done.result, done.decoded, done.uplifted,
    done.load_written legible, done.keys_result, done.platform_result, done.text?_version⟩

theorem load_run_sample :
    (run Sample.client (Sample.config "linux") Sample.disk).result = .ok "v2" ∧
      ∃ (platform : Platform) (trace : Trace) (written : Manifest),
        Sample.manifest.platform "linux" = .ok platform ∧
        (upliftPlatform Sample.client .lenient).after (beginning (Sample.config "linux")) =
          (.ok (), trace) ∧
        Manifest.load (run Sample.client (Sample.config "linux") Sample.disk).disk
          "manifest.json" = .ok written ∧
        written.keys = Sample.manifest.keys ∧
        written.platform "linux" = .ok (platform.revise trace.edits) ∧
        (platform.revise trace.edits).computeRuntime.version.text? = some "v2" := by
  have ran : (run Sample.client (Sample.config "linux") Sample.disk).result = .ok "v2" :=
    Sample.run_eq rfl
  exact ⟨ran, load_run Sample.read_disk Sample.parse_render Sample.whole_manifest ran⟩

/-! ## A second run -/

/--
A second run over the file that the first one has written succeeds with the
same version, asks for the same addresses, and leaves the file as it is.  Each
run asks the transport from the start, which therefore need not be fixed.
-/
theorem run_run {client : Client} {config : Config} {disk : Disk} {text version : String}
    {manifest : Manifest} (read : disk.read config.manifestPath = .ok text)
    (parsed : Manifest.parse text = .ok manifest) (whole : manifest.Obeys Json.wholeNumbers)
    (ok : (run client config disk).result = .ok version) :
    (run client config (run client config disk).disk).result = .ok version ∧
      (run client config (run client config disk).disk).trace.requests =
        (run client config disk).trace.requests ∧
      (run client config (run client config disk).disk).disk = (run client config disk).disk ∧
      ∃ written, (run client config disk).disk.read config.manifestPath = .ok written ∧
        (run client config (run client config disk).disk).disk.read config.manifestPath =
          .ok written := by
  obtain ⟨done, rfl⟩ := Completion.exists_of_run ok
  obtain ⟨rfl, rfl⟩ := done.eq_of_read read parsed
  have legible := Manifest.legible_of_parse parsed whole
  rw [done.run_eq, (done.again legible).run_eq, done.version_again legible,
    done.written_again legible]
  exact ⟨rfl, rfl, rfl, done.result.render, done.read_written, done.read_written⟩

theorem run_run_sample :
    (run Sample.client (Sample.config "linux") Sample.disk).result = .ok "v2" ∧
      (run Sample.client (Sample.config "linux")
        (run Sample.client (Sample.config "linux") Sample.disk).disk).result = .ok "v2" ∧
      (run Sample.client (Sample.config "linux")
          (run Sample.client (Sample.config "linux") Sample.disk).disk).trace.requests =
        (run Sample.client (Sample.config "linux") Sample.disk).trace.requests ∧
      (run Sample.client (Sample.config "linux")
          (run Sample.client (Sample.config "linux") Sample.disk).disk).disk =
        (run Sample.client (Sample.config "linux") Sample.disk).disk ∧
      ∃ written,
        (run Sample.client (Sample.config "linux") Sample.disk).disk.read "manifest.json" =
          .ok written ∧
        (run Sample.client (Sample.config "linux")
          (run Sample.client (Sample.config "linux") Sample.disk).disk).disk.read
            "manifest.json" = .ok written := by
  have ran : (run Sample.client (Sample.config "linux") Sample.disk).result = .ok "v2" :=
    Sample.run_eq rfl
  exact ⟨ran, run_run Sample.read_disk Sample.parse_render Sample.whole_manifest ran⟩

/-! ## Runs for different platforms -/

/--
Runs for two platforms succeed in either order, all with the same version, and
in either order they end with the same file.
-/
theorem run_comm {client : Client} {path text left right : String} {policy : Policy} {disk : Disk}
    {manifest : Manifest} {leftPlatform rightPlatform : Platform} (fixed : client.transport.IsFixed)
    (read : disk.read path = .ok text) (parsed : Manifest.parse text = .ok manifest)
    (whole : manifest.Obeys Json.wholeNumbers) (distinct : left ≠ right)
    (decodedLeft : manifest.platform left = .ok leftPlatform)
    (decodedRight : manifest.platform right = .ok rightPlatform)
    (succeeds : ((upliftPlatform client policy).after {}).1 = .ok ()) :
    ∃ version written,
      (run client ⟨path, left, policy⟩ disk).result = .ok version ∧
      (run client ⟨path, right, policy⟩ (run client ⟨path, left, policy⟩ disk).disk).result =
        .ok version ∧
      (run client ⟨path, right, policy⟩ disk).result = .ok version ∧
      (run client ⟨path, left, policy⟩ (run client ⟨path, right, policy⟩ disk).disk).result =
        .ok version ∧
      (run client ⟨path, right, policy⟩ (run client ⟨path, left, policy⟩ disk).disk).disk =
        (run client ⟨path, left, policy⟩ (run client ⟨path, right, policy⟩ disk).disk).disk ∧
      (run client ⟨path, right, policy⟩ (run client ⟨path, left, policy⟩ disk).disk).disk.read
        path = .ok written := by
  have legible := Manifest.legible_of_parse parsed whole
  -- The transport is fixed, so all four runs share one trace.
  obtain ⟨trace, uplifted⟩ :
      ∃ trace, (upliftPlatform client policy).after (beginning ⟨path, left, policy⟩) =
        (.ok (), trace) :=
    ⟨_, by rw [steady_upliftPlatform fixed policy, succeeds]⟩
  let onLeft : Completion client ⟨path, left, policy⟩ disk :=
    ⟨text, manifest, leftPlatform, trace, read, parsed, decodedLeft, uplifted⟩
  let onRight : Completion client ⟨path, right, policy⟩ disk :=
    ⟨text, manifest, rightPlatform, trace, read, parsed, decodedRight, uplifted⟩
  let thenRight := onLeft.next onRight rfl legible distinct.symm
  let thenLeft := onRight.next onLeft rfl legible distinct
  have written : thenRight.written = thenLeft.written :=
    onLeft.written_next onRight rfl legible legible distinct.symm
  obtain ⟨findings, _, edits⟩ := onLeft.exists_findings
  refine ⟨findings.computeRuntime.tag, thenRight.result.render, ?_⟩
  rw [onLeft.run_eq, onRight.run_eq, thenRight.run_eq, thenLeft.run_eq, onLeft.version_eq edits,
    onRight.version_eq edits, thenRight.version_eq edits, thenLeft.version_eq edits]
  exact ⟨rfl, rfl, rfl, rfl, written, thenRight.read_written⟩

theorem run_comm_sample :
    ((upliftPlatform Sample.client .lenient).after {}).1 = .ok () ∧
      ∃ version written,
        (run Sample.client (Sample.config "linux") Sample.disk).result = .ok version ∧
        (run Sample.client (Sample.config "wsl")
          (run Sample.client (Sample.config "linux") Sample.disk).disk).result = .ok version ∧
        (run Sample.client (Sample.config "wsl") Sample.disk).result = .ok version ∧
        (run Sample.client (Sample.config "linux")
          (run Sample.client (Sample.config "wsl") Sample.disk).disk).result = .ok version ∧
        (run Sample.client (Sample.config "wsl")
            (run Sample.client (Sample.config "linux") Sample.disk).disk).disk =
          (run Sample.client (Sample.config "linux")
            (run Sample.client (Sample.config "wsl") Sample.disk).disk).disk ∧
        (run Sample.client (Sample.config "wsl")
          (run Sample.client (Sample.config "linux") Sample.disk).disk).disk.read
            "manifest.json" = .ok written := by
  obtain ⟨trace, uplifted, _⟩ := Sample.uplifts
  have succeeds : ((upliftPlatform Sample.client .lenient).after {}).1 = .ok () := by
    rw [uplifted]
  exact ⟨succeeds, run_comm (Transport.isFixed_fixed Sample.answer) Sample.read_disk
    Sample.parse_render Sample.whole_manifest (by decide) (Sample.platform_eq rfl)
    (Sample.platform_eq rfl) succeeds⟩

end DriverUplift.Uplift
