import DriverUplift.Proofs.Uplift.Completion
import DriverUplift.Proofs.Uplift.Course

/-!
# Runs that fail

A run writes its file once and last.  Whatever happens when it writes, a run
that fails before has left the disk alone, and one whose manifest or platform is
not what it should be has not asked for anything either.
-/

namespace DriverUplift

/-- What an attempt to write comes to: an error or none, and the disk that it leaves behind. -/
abbrev Writer := Content → Except FileError Unit × Disk

def Disk.writer (disk : Disk) (path : String) : Writer := fun content =>
  match disk.write path content with
  | .error error => (.error error, disk)
  | .ok written => (.ok (), written)

namespace Uplift

open Github (Client)

/-! ## Runs with any writer -/

def runWith (write : Writer) (client : Client) (config : Config) (disk : Disk) : Outcome :=
  match revise client config (disk.read config.manifestPath) with
  | (.error failure, trace) => ⟨.error failure, trace, disk⟩
  | (.ok revision, trace) =>
      let (written, after) := write (.text revision.manifest.render)
      let (result, trace) := conclude config revision trace written
      ⟨result, trace, after⟩

theorem run_eq_runWith (client : Client) (config : Config) (disk : Disk) :
    run client config disk = runWith (disk.writer config.manifestPath) client config disk := by
  unfold run runWith Disk.writer
  cases revise client config (disk.read config.manifestPath) with
  | mk result trace =>
      cases result with
      | error failure => rfl
      | ok revision =>
          dsimp only
          cases disk.write config.manifestPath (.text revision.manifest.render) <;> rfl

variable {client : Client} {config : Config} {source : Except FileError String}
  {failure : Failure} {trace : Trace} {disk : Disk}

/-- Without a revision there is nothing to write. -/
theorem runWith_of_revise_error
    (failed : revise client config (disk.read config.manifestPath) = (.error failure, trace))
    (write : Writer) : runWith write client config disk = ⟨.error failure, trace, disk⟩ := by
  simp only [runWith, failed]

/-- With a revision a run fails only if the writer does. -/
theorem exists_of_runWith_error {revision : Revision}
    (revised : revise client config (disk.read config.manifestPath) = (.ok revision, trace))
    {write : Writer} (failed : (runWith write client config disk).result = .error failure) :
    ∃ error, (write (.text revision.manifest.render)).1 = .error error ∧
      failure = .file config.manifestPath error := by
  simp only [runWith, revised] at failed
  cases wrote : (write (.text revision.manifest.render)).1 with
  | ok done => simp [wrote, conclude] at failed
  | error error =>
      rw [wrote] at failed
      exact ⟨error, rfl, (Except.error.inj failed).symm⟩

/-- A run that succeeds has written its revision and returns the version of it. -/
theorem write_of_runWith_ok {revision : Revision}
    (revised : revise client config (disk.read config.manifestPath) = (.ok revision, trace))
    {write : Writer} {version : String}
    (ok : (runWith write client config disk).result = .ok version) :
    write (.text revision.manifest.render) = (.ok (), (runWith write client config disk).disk) ∧
      revision.version = version := by
  simp only [runWith, revised] at ok ⊢
  cases wrote : write (.text revision.manifest.render) with
  | mk written after =>
      rw [wrote] at ok
      cases written with
      | error error => cases ok
      | ok done => exact ⟨rfl, Except.ok.inj ok⟩

/-! ## Why there is no revision -/

/-- A manifest that cannot be loaded, or a platform that is missing, incomplete or malformed. -/
inductive Invalid (config : Config) (source : Except FileError String) : Failure → Prop where
  | unread {error : FileError} :
      source = .error error → Invalid config source (.file config.manifestPath error)
  | unparsed {text : String} {error : ManifestError} :
      source = .ok text → Manifest.parse text = .error error →
        Invalid config source (.manifest error)
  | undecoded {text : String} {manifest : Manifest} {error : ManifestError} :
      source = .ok text → Manifest.parse text = .ok manifest →
        manifest.platform config.platform = .error error → Invalid config source (.manifest error)

theorem invalid_iff : Invalid config source failure ↔ prepare config source = .error failure := by
  constructor
  · intro invalid
    cases invalid with
    | unread unread => simp [prepare, Manifest.ofSource, unread]
    | unparsed read unparsed => simp [prepare, Manifest.ofSource, read, unparsed]
    | undecoded read parsed undecoded =>
        simp [prepare, Manifest.ofSource, read, parsed, undecoded]
  · intro refused
    cases source with
    | error error =>
        obtain rfl := Except.error.inj refused
        exact .unread rfl
    | ok text =>
        cases parsed : Manifest.parse text with
        | error error =>
            simp only [prepare, Manifest.ofSource, parsed, Except.error.injEq] at refused
            subst refused
            exact .unparsed rfl parsed
        | ok manifest =>
            cases decoded : manifest.platform config.platform with
            | error error =>
                simp only [prepare, Manifest.ofSource, parsed, decoded,
                  Except.error.injEq] at refused
                subst refused
                exact .undecoded rfl parsed decoded
            | ok platform => simp [prepare, Manifest.ofSource, parsed, decoded] at refused

theorem revise_of_invalid (invalid : Invalid config source failure) (client : Client) :
    revise client config source = (.error failure, beginning config) := by
  simp only [revise, invalid_iff.mp invalid]
  rfl

/-- Why a run comes to no revision, and what it has asked for by then. -/
inductive Refused (client : Client) (config : Config) (source : Except FileError String) :
    Failure → List String → Prop where
  | invalid {failure : Failure} :
      Invalid config source failure → Refused client config source failure []
  | halted {prepared : Manifest × Platform} {stage : Stage} {failure : Failure} :
      prepare config source = .ok prepared → Stage.Reached client config.policy [] stage →
        Stage.Halts client config.policy [] stage failure →
          Refused client config source failure (stage.asked client [] ++ stage.urls client)

theorem refused_of_revise (failed : revise client config source = (.error failure, trace)) :
    Refused client config source failure trace.requests := by
  cases preparing : prepare config source with
  | error refusal =>
      have invalid := invalid_iff.mpr preparing
      rw [revise_of_invalid invalid] at failed
      obtain ⟨same, rfl⟩ := Prod.mk.inj failed
      exact .invalid (Except.error.inj same ▸ invalid)
  | ok prepared =>
      obtain ⟨manifest, platform⟩ := prepared
      obtain ⟨_, _, _, decoded⟩ := prepare_eq_ok_iff.mp preparing
      obtain ⟨last, reached, ends⟩ := upliftPlatform_ends client config.policy (beginning config)
      cases uplifted : (upliftPlatform client config.policy).after (beginning config) with
      | mk result final =>
          rw [uplifted] at ends
          rw [beginning] at uplifted
          simp only [revise, preparing, uplifted] at failed
          cases ends with
          | done _ _ => simp [store, Manifest.setPlatform_of_platform decoded] at failed
          | halted halts requests _ =>
              obtain ⟨same, rfl⟩ := Prod.mk.inj failed
              obtain rfl := Except.error.inj same
              rw [requests]
              exact .halted preparing reached halts

/-! ## What a failed run leaves behind -/

/--
A run that fails has either come to no revision, and then it has attempted no
write and left the disk as it was, or it has failed to write.  If the manifest
or the platform is invalid, the run fails with that and has asked for nothing.
-/
theorem run_refused (client : Client) (config : Config) (disk : Disk) :
    run client config disk = runWith (disk.writer config.manifestPath) client config disk ∧
      (∀ write failure, (runWith write client config disk).result = .error failure →
        (Refused client config (disk.read config.manifestPath) failure
              (runWith write client config disk).trace.requests ∧
            (runWith write client config disk).disk = disk ∧
            ∀ other, runWith other client config disk = runWith write client config disk) ∨
          ∃ revision error,
            (revise client config (disk.read config.manifestPath)).1 = .ok revision ∧
              (write (.text revision.manifest.render)).1 = .error error ∧
              failure = .file config.manifestPath error) ∧
      ∀ write failure, Invalid config (disk.read config.manifestPath) failure →
        (runWith write client config disk).result = .error failure ∧
          (runWith write client config disk).trace.requests = [] ∧
          (runWith write client config disk).disk = disk := by
  refine ⟨run_eq_runWith client config disk, fun write failure failed => ?_,
    fun write failure invalid => ?_⟩
  · cases revised : revise client config (disk.read config.manifestPath) with
    | mk result trace =>
        cases result with
        | error refusal =>
            have outcome := runWith_of_revise_error revised
            rw [outcome write] at failed ⊢
            obtain rfl := Except.error.inj failed
            exact .inl ⟨refused_of_revise revised, rfl, outcome⟩
        | ok revision =>
            obtain ⟨error, wrote, same⟩ := exists_of_runWith_error revised failed
            exact .inr ⟨revision, error, rfl, wrote, same⟩
  · rw [runWith_of_revise_error (revise_of_invalid invalid client) write]
    exact ⟨rfl, rfl, rfl⟩

end Uplift

end DriverUplift
