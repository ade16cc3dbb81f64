import DriverUplift.Proofs.Uplift.Completion
import DriverUplift.Proofs.Uplift.Policy
import Mathlib.Data.List.Induction

/-!
# Runs over different manifests

An uplift never reads the platform that it revises.  What a manifest holds has
therefore no influence on what a run asks for, on how it ends, or on what it
sets.  The one thing that a run may leave as it was is the compiler, when a lenient
uplift finds no listing that names it.
-/

namespace DriverUplift.Uplift

open Github (Asset Client Release WorkflowRun)

/-! ## Missing the compiler -/

/-- A lenient uplift reads all listings of the newest compute runtime, and none of them
names the compiler. -/
def MissesCompiler (client : Client) (policy : Policy) (before : List String) : Prop :=
  policy = .lenient ∧ ∃ release, Stage.ReadInVain client before release (listings release) []

namespace Stage

variable {client : Client} {policy : Policy} {before : List String} {stage other : Stage}

theorem ReadInVain.one_less {release : Release} {read left : List Asset} {asset : Asset}
    (vain : ReadInVain client before release (read ++ [asset]) left) :
    ReadInVain client before release read (asset :: left) where
  found := vain.found
  split := by rw [vain.split, ← List.append_cons]
  unnamed := by
    rintro earlier early later rfl
    exact vain.unnamed earlier early (later ++ [asset]) (by simp)

/-- Listings that can be read in vain are read. -/
theorem reached_of_readInVain {release : Release} {read left : List Asset}
    (vain : ReadInVain client before release read left) :
    Reached client policy before (checksums release read left) := by
  induction read using List.reverseRecOn generalizing left with
  | nil =>
      obtain rfl : listings release = left := vain.split
      apply Relation.ReflTransGen.single
      apply Passes.computeRuntime
      rw [asked, requests, Client.asked_nil]
      exact vain.found
  | append_singleton read asset ih =>
      obtain ⟨listing, answered, unnamed⟩ := vain.unnamed read asset [] rfl
      exact (ih vain.one_less).tail (.unnamed answered unnamed)

/-- The listings are read only once, so all stages behind hold the same of it. -/
theorem scan_unique {scan found : Scan} (reached : Reached client policy before stage)
    (reachedOther : Reached client policy before other) (known : stage.scan? = some scan)
    (knownOther : other.scan? = some found) : scan = found := by
  rcases Relation.ReflTransGen.total_of_right_unique (passes_rightUnique client policy before)
    reached reachedOther with onward | onward
  · exact Option.some.inj ((scan?_of_reached onward known).symm.trans knownOther)
  · exact Option.some.inj (known.symm.trans (scan?_of_reached onward knownOther))

/-- No version is known behind the listings exactly if the compiler is missed. -/
theorem igcVersion?_eq_none_iff {scan : Scan} (reached : Reached client policy before stage)
    (known : stage.scan? = some scan) :
    scan.igcVersion? = none ↔ MissesCompiler client policy before := by
  constructor
  · intro unnamed
    induction reached with
    | refl => cases known
    | tail reached passes ih =>
        cases passes with
        | computeRuntime | unnamed => cases known
        | named =>
            obtain rfl := Option.some.inj known
            cases unnamed
        | @missed release read lenient =>
            have vain := readInVain_of_reached reached
            obtain rfl : listings release = read := vain.split.trans (List.append_nil read)
            exact ⟨lenient, release, vain⟩
        | nightly | artifact | cm | levelZero => exact ih known
  · rintro ⟨lenient, release, vain⟩
    have missed := (reached_of_readInVain vain).tail (.missed lenient)
    rw [scan_unique reached missed known rfl]

/-- In the end every attribute that is set has a text that does not depend on the platform. -/
theorem exists_text_of_done {scan : Scan} {run : WorkflowRun} {url : String}
    {compiler loader : Release} {component : Component} {attr : Attribute}
    (isSet : attr ≠ .updatedAt ∨ component = .igcDev)
    (named : component = .igc → scan.igcVersion? ≠ none) :
    ∃ value, ∀ start : Platform,
      (((done scan run url compiler loader).platform start).get component).get attr =
        .text value := by
  obtain ⟨release, read, igcVersion?⟩ := scan
  cases component with
  | igc =>
      obtain ⟨version, rfl⟩ := Option.ne_none_iff_exists'.mp (named rfl)
      cases attr with
      | updatedAt => simp at isSet
      | githubTag | version | url => exact ⟨_, fun _ => rfl⟩
  | igcDev => cases attr <;> exact ⟨_, fun _ => rfl⟩
  | computeRuntime | cm | levelZero =>
      cases attr with
      | updatedAt => simp at isSet
      | githubTag | version | url => exact ⟨_, fun _ => rfl⟩

end Stage

/-! ## Two runs -/

/--
What has become of two platforms is the same wherever something is set; if the
compiler was missed, each has kept its own.
-/
structure SetAlike (missed : Prop) (before after otherBefore otherAfter : Platform) : Prop where
  text : ∀ component attr, attr ≠ .updatedAt ∨ component = .igcDev → (component = .igc → ¬missed) →
    ∃ value, (after.get component).get attr = .text value ∧
      (otherAfter.get component).get attr = .text value
  kept : missed → after.igc = before.igc ∧ otherAfter.igc = otherBefore.igc

variable {client : Client} {policy : Policy}

/-- What was reported before has no influence on an uplift. -/
theorem upliftPlatform_alike {start other : Trace} (requests : start.requests = other.requests)
    (edits : start.edits = other.edits) :
    Alike ((upliftPlatform client policy).after start)
      ((upliftPlatform client policy).after other) := by
  obtain ⟨last, reached, ends⟩ := upliftPlatform_ends client policy start
  rw [requests] at reached
  exact ends.alike reached requests edits fun _ _ halts => requests ▸ halts

/-- The edits of an uplift that succeeds set the same in all platforms. -/
theorem setAlike_revise {start trace : Trace} (fresh : start.edits = [])
    (ok : (upliftPlatform client policy).after start = (.ok (), trace))
    (platform other : Platform) :
    SetAlike (MissesCompiler client policy start.requests) platform (platform.revise trace.edits)
      other (other.revise trace.edits) := by
  obtain ⟨last, reached, ends⟩ := upliftPlatform_ends client policy start
  rw [ok] at ends
  have left (platform : Platform) : platform.revise trace.edits = last.platform platform := by
    have revised := ends.revise_eq platform
    rwa [fresh] at revised
  rw [left, left]
  cases ends with
  | done isDone _ =>
      cases last with
      | done scan run url compiler loader =>
          have unnamed_iff := Stage.igcVersion?_eq_none_iff reached rfl
          constructor
          · intro component attr isSet named
            obtain ⟨value, same⟩ := Stage.exists_text_of_done isSet
              fun igc unnamed => named igc (unnamed_iff.mp unnamed)
            exact ⟨value, same platform, same other⟩
          · intro missed
            have unnamed := unnamed_iff.mpr missed
            exact ⟨Stage.igc_platform platform rfl unnamed, Stage.igc_platform other rfl unnamed⟩
      | _ => cases isDone

/--
Runs over any two manifests whose platforms can be read ask for the same
addresses and have the same result, a version or a failure.  After a success
both files hold the same wherever the uplift sets something, and the compiler
is as it was in each if it was missed.
-/
theorem run_independent {client : Client} {config other : Config} {disk otherDisk : Disk}
    {manifest otherManifest : Manifest} {platform otherPlatform : Platform}
    (samePolicy : config.policy = other.policy)
    (prepared : prepare config (disk.read config.manifestPath) = .ok (manifest, platform))
    (otherPrepared :
      prepare other (otherDisk.read other.manifestPath) = .ok (otherManifest, otherPlatform)) :
    (run client config disk).trace.requests = (run client other otherDisk).trace.requests ∧
      (run client config disk).result = (run client other otherDisk).result ∧
      ∀ version, (run client config disk).result = .ok version →
        ∃ (written otherWritten : Manifest) (after otherAfter : Platform),
          (revise client config (disk.read config.manifestPath)).1 = .ok ⟨written, version⟩ ∧
          (revise client other (otherDisk.read other.manifestPath)).1 =
            .ok ⟨otherWritten, version⟩ ∧
          (run client config disk).disk.read config.manifestPath = .ok written.render ∧
          (run client other otherDisk).disk.read other.manifestPath = .ok otherWritten.render ∧
          written.platform config.platform = .ok after ∧
          otherWritten.platform other.platform = .ok otherAfter ∧
          SetAlike (MissesCompiler client config.policy []) platform after
            otherPlatform otherAfter := by
  -- No step looks at the platform, so both uplifts end alike and make the same edits.
  have alike : Alike ((upliftPlatform client config.policy).after (beginning config))
      ((upliftPlatform client other.policy).after (beginning other)) := by
    rw [← samePolicy]
    exact upliftPlatform_alike rfl rfl
  obtain ⟨text, read, parsed, decoded⟩ := prepare_eq_ok_iff.mp prepared
  obtain ⟨otherText, otherRead, otherParsed, otherDecoded⟩ := prepare_eq_ok_iff.mp otherPrepared
  rcases uplifted : (upliftPlatform client config.policy).after (beginning config) with
    ⟨result, trace⟩
  rcases otherUplifted : (upliftPlatform client other.policy).after (beginning other) with
    ⟨otherResult, otherTrace⟩
  rw [uplifted, otherUplifted] at alike
  obtain ⟨rfl, requests, edits⟩ := alike
  cases result with
  | error failure =>
      rw [run_of_uplift_error prepared uplifted, run_of_uplift_error otherPrepared otherUplifted]
      refine ⟨requests, rfl, ?_⟩
      intro version ok
      cases ok
  | ok done =>
      let one : Completion client config disk :=
        ⟨text, manifest, platform, trace, read, parsed, decoded, uplifted⟩
      let two : Completion client other otherDisk :=
        ⟨otherText, otherManifest, otherPlatform, otherTrace, otherRead, otherParsed,
          otherDecoded, otherUplifted⟩
      obtain ⟨findings, _, assigned⟩ := one.exists_findings
      have versions : two.version = one.version := by
        rw [one.version_eq assigned, two.version_eq (edits.symm.trans assigned)]
      have revised : two.revised = otherPlatform.revise trace.edits :=
        congrArg otherPlatform.revise edits.symm
      have set := setAlike_revise rfl uplifted platform otherPlatform
      rw [← revised] at set
      rw [one.run_eq, two.run_eq, one.revise_eq, two.revise_eq, versions]
      refine ⟨requests, rfl, ?_⟩
      intro version ok
      obtain rfl := Except.ok.inj ok
      exact ⟨one.result, two.result, one.revised, two.revised, rfl, rfl, one.read_written,
        two.read_written, one.platform_result, two.platform_result, set⟩

namespace Sample

def entries : Members Json :=
  Component.all.map fun component => (component.key, .obj [])

def bare : Manifest :=
  ⟨[("wsl", .obj entries)]⟩

def bareDisk : Disk :=
  ⟨"/", [("manifest.json", .file (.text bare.render))]⟩

theorem prepare_bare :
    prepare (config "wsl") (bareDisk.read "manifest.json") =
      .ok (bare, Platform.ofMembers entries) := by
  refine prepare_eq_ok_iff.mpr ⟨bare.render, ?_, ?_, ?_⟩
  · exact Disk.read_of_get? (by decide +kernel) (by decide +kernel) (by decide) rfl
  · apply Manifest.parse_render
    simp [Manifest.Obeys, bare, entries, Component.all, Component.key, Json.obeys_obj_iff,
      Json.legible, Json.accepted, Json.distinctKeys, Json.shallow, Json.wholeNumbers,
      Json.isContainer, Members.keys, Json.depthLimit]
  · refine Manifest.platform_eq_ok_iff.mpr ⟨_, rfl, ?_, by decide, rfl⟩
    intro component
    cases component <;> decide

theorem prepare_linux :
    prepare (config "linux") (disk.read "manifest.json") =
      .ok (manifest, Platform.ofMembers linux) :=
  prepare_eq_ok_iff.mpr ⟨manifest.render, read_disk, parse_render, platform_eq rfl⟩

end Sample

theorem run_independent_sample :
    (run Sample.client (Sample.config "linux") Sample.disk).result = .ok "v2" ∧
      (run Sample.client (Sample.config "wsl") Sample.bareDisk).result = .ok "v2" ∧
      (run Sample.client (Sample.config "linux") Sample.disk).trace.requests =
        (run Sample.client (Sample.config "wsl") Sample.bareDisk).trace.requests ∧
      ∃ after otherAfter : Platform,
        SetAlike (MissesCompiler Sample.client .lenient []) (Platform.ofMembers Sample.linux) after
          (Platform.ofMembers Sample.entries) otherAfter := by
  have ran : (run Sample.client (Sample.config "linux") Sample.disk).result = .ok "v2" :=
    Sample.run_eq rfl
  obtain ⟨requests, results, alike⟩ := @run_independent Sample.client (Sample.config "linux")
    (Sample.config "wsl") Sample.disk Sample.bareDisk _ _ _ _ rfl Sample.prepare_linux
    Sample.prepare_bare
  obtain ⟨_, _, after, otherAfter, _, _, _, _, _, _, same⟩ := alike "v2" ran
  exact ⟨ran, results.symm.trans ran, requests, after, otherAfter, same⟩

end DriverUplift.Uplift
