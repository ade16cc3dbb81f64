import DriverUplift.Proofs.Text.Removal
import DriverUplift.Proofs.Uplift.Completion

/-!
# Texts that a run sets

A run that succeeds gives every component a tag, a version and an address; only
the compiler may be left as it was, if no listing names it.  Nothing checks what
the answers say.  A text may therefore be empty, and it is so exactly where it is
taken from a part of the answers that is empty or leaves nothing over.
-/

namespace DriverUplift

/-- The tag, the version and the address are texts, each empty exactly where it is said to be. -/
def Dependency.HasTexts (blank : Attribute → Prop) (dependency : Dependency) : Prop :=
  ∀ attr : Attribute, attr ≠ .updatedAt →
    ∃ value, dependency.get attr = .text value ∧ (value = "" ↔ blank attr)

theorem Project.releaseUrl_ne_empty (project : Project) (tag : String) :
    project.releaseUrl tag ≠ "" := by
  simp [releaseUrl, webBase]

namespace Uplift

open Github (Client)

namespace Findings

/-- What an attribute of a component is made from is empty, or leaves nothing over. -/
def Blank (findings : Findings) : Component → Attribute → Prop
  | .computeRuntime, .githubTag | .computeRuntime, .version => findings.computeRuntime.tag = ""
  | .igc, .version => findings.igcVersion? = some ""
  | .igcDev, .version => findings.nightly.sha = ""
  | .igcDev, .url => findings.artifactUrl = ""
  | .cm, .githubTag => findings.cm.tag = ""
  | .cm, .version =>
      ∃ count, findings.cm.tag.toList = (List.replicate count "cmclang-".toList).flatten
  | .levelZero, .githubTag | .levelZero, .version => findings.levelZero.tag = ""
  | _, _ => False

theorem short_eq_empty_iff (findings : Findings) :
    findings.short = "" ↔ findings.nightly.sha = "" := by
  simp [short]

/-- An attribute is brought up to date with a text of which it is known when it is empty. -/
theorem exists_text? (findings : Findings) {component : Component} {attr : Attribute}
    (kept : attr ≠ .updatedAt) (named : component = .igc → findings.igcVersion? ≠ none) :
    ∃ value, findings.text? component attr = some value ∧
      (value = "" ↔ findings.Blank component attr) := by
  cases component with
  | computeRuntime => cases attr <;> simp [text?, Blank, Project.releaseUrl_ne_empty] at kept ⊢
  | igc =>
      obtain ⟨version, found⟩ := Option.ne_none_iff_exists'.mp (named rfl)
      cases attr <;> simp [text?, Blank, found, Project.releaseUrl_ne_empty] at kept ⊢
  | igcDev => cases attr <;> simp [text?, Blank, short_eq_empty_iff] at kept ⊢
  | cm =>
      cases attr <;> simp [text?, Blank, Text.remove_eq_nil_iff, Project.releaseUrl_ne_empty] at kept ⊢
  | levelZero => cases attr <;> simp [text?, Blank, Project.releaseUrl_ne_empty] at kept ⊢

structure Sets (findings : Findings) (before after : Platform) : Prop where
  others : ∀ component, component ≠ .igc →
    (after.get component).HasTexts (findings.Blank component)
  named : findings.igcVersion? ≠ none → after.igc.HasTexts (findings.Blank .igc)
  unnamed : findings.igcVersion? = none → after.igc = before.igc

theorem hasTexts_revise (findings : Findings) (platform : Platform) {component : Component}
    (named : component = .igc → findings.igcVersion? ≠ none) :
    ((platform.revise findings.assignments).get component).HasTexts
      (findings.Blank component) := by
  intro attr kept
  obtain ⟨value, found, blank⟩ := findings.exists_text? kept named
  refine ⟨value, ?_, blank⟩
  rw [findings.get_revise, found]

theorem sets_revise (findings : Findings) (platform : Platform) :
    findings.Sets platform (platform.revise findings.assignments) where
  others component other := by
    apply findings.hasTexts_revise platform
    intro same
    exact absurd same other
  named found := by
    have texts : ((platform.revise findings.assignments).get .igc).HasTexts
        (findings.Blank .igc) := by
      apply findings.hasTexts_revise platform
      intro _
      exact found
    exact texts
  unnamed missed := by
    apply Dependency.eq_of_get
    · intro attr
      have none : findings.text? .igc attr = none := by
        cases attr <;> simp [text?, missed]
      have revised := findings.get_revise platform .igc attr
      rw [none] at revised
      exact revised
    · exact platform.extra_get_revise findings.assignments .igc

end Findings

/--
A run that succeeds sets the tag, the version and the address of every component to
texts, each of which is empty exactly where what it is made from is blank.  Only the
compiler is left as it was if every listing was read and none names it.
-/
theorem run_sets {client : Client} {config : Config} {disk : Disk} {version : String}
    (ok : (run client config disk).result = .ok version) :
    ∃ (findings : Findings) (manifest written : Manifest) (before after : Platform),
      findings.Reported client.transport.Answers client.apiBase ∧
      prepare config (disk.read config.manifestPath) = .ok (manifest, before) ∧
      (revise client config (disk.read config.manifestPath)).1 = .ok ⟨written, version⟩ ∧
      (run client config disk).disk.read config.manifestPath = .ok written.render ∧
      written.platform config.platform = .ok after ∧
      findings.Sets before after := by
  obtain ⟨done, rfl⟩ := Completion.exists_of_run ok
  obtain ⟨findings, reported, edits⟩ := done.exists_findings
  have sets : findings.Sets done.platform done.revised := by
    rw [Completion.revised, edits]
    exact findings.sets_revise done.platform
  rw [done.run_eq, done.revise_eq]
  exact ⟨findings, done.manifest, done.result, done.platform, done.revised, reported,
    done.prepare_eq, rfl, done.read_written, done.platform_result, sets⟩

theorem run_sets_sample :
    (run Sample.client (Sample.config "linux") Sample.disk).result = .ok "v2" ∧
      ∃ (findings : Findings) (manifest written : Manifest) (before after : Platform),
        findings.Reported Sample.client.transport.Answers "api" ∧
        prepare (Sample.config "linux") (Sample.disk.read "manifest.json") =
          .ok (manifest, before) ∧
        (revise Sample.client (Sample.config "linux") (Sample.disk.read "manifest.json")).1 =
          .ok ⟨written, "v2"⟩ ∧
        (run Sample.client (Sample.config "linux") Sample.disk).disk.read "manifest.json" =
          .ok written.render ∧
        written.platform "linux" = .ok after ∧
        findings.Sets before after := by
  have ran : (run Sample.client (Sample.config "linux") Sample.disk).result = .ok "v2" :=
    Sample.run_eq rfl
  exact ⟨ran, run_sets ran⟩

namespace Sample

/-- Every answer can be decoded, and there is as little in it as can be. -/
def blankAnswer (url : String) : Except Failure String :=
  if url = "sum" then .ok "intel-igc-core__amd64.deb"
  else if url = Project.graphicsCompiler.successfulRunsUrl "api" "build-IGC" then
    .ok "\x7b\"workflow_runs\":[\x7b\"head_sha\":\"\",\"updated_at\":\"\"\x7d]\x7d"
  else if url = Project.graphicsCompiler.artifactsUrl "api" "IGC_Ubuntu22.04_llvm14_clang-" then
    .ok ("\x7b\"artifacts\":[\x7b\"name\":\"IGC_Ubuntu22.04_llvm14_clang-\"," ++
      "\"archive_download_url\":\"\"\x7d]\x7d")
  else if url = Project.cmCompiler.releasesUrl "api" then
    .ok "[\x7b\"tag_name\":\"cmclang-\"\x7d]"
  else
    .ok ("[\x7b\"tag_name\":\"\",\"assets\":" ++
      "[\x7b\"name\":\"a.sum\",\"browser_download_url\":\"sum\"\x7d]\x7d]")

def blankClient : Client :=
  ⟨.fixed blankAnswer, "api"⟩

def blankFindings : Findings :=
  ⟨⟨"", [⟨"a.sum", "sum"⟩]⟩, some "", ⟨"", ""⟩, "", ⟨"cmclang-", []⟩, ⟨"", [⟨"a.sum", "sum"⟩]⟩⟩

def edits? : Except Failure Unit × Trace → Option (List Edit)
  | (.ok (), trace) => some trace.edits
  | (.error _, _) => none

theorem edits?_blank :
    edits? ((upliftPlatform blankClient .lenient).after {}) = some blankFindings.assignments := by
  decide +kernel

theorem exists_blank_uplift :
    ∃ trace, (upliftPlatform blankClient .lenient).after {} = (.ok (), trace) ∧
      trace.edits = blankFindings.assignments := by
  have edited := edits?_blank
  cases uplifted : (upliftPlatform blankClient .lenient).after {} with
  | mk result trace =>
      rw [uplifted] at edited
      cases result with
      | ok done => exact ⟨trace, rfl, Option.some.inj edited⟩
      | error failure => cases edited

theorem blank_version (component : Component) : blankFindings.Blank component .version := by
  cases component with
  | computeRuntime => rfl
  | igc => rfl
  | igcDev => rfl
  | cm => exact ⟨1, by decide⟩
  | levelZero => rfl

end Sample

/--
Answers can be decoded, and a run with them succeeds, although every version that is
made from them is empty; the compiler is not left as it was either.
-/
theorem run_blank_sample :
    ∃ (manifest written : Manifest) (before after : Platform),
      prepare (Sample.config "linux") (Sample.disk.read "manifest.json") =
        .ok (manifest, before) ∧
      (run Sample.blankClient (Sample.config "linux") Sample.disk).result = .ok "" ∧
      (run Sample.blankClient (Sample.config "linux") Sample.disk).disk.read "manifest.json" =
        .ok written.render ∧
      written.platform "linux" = .ok after ∧
      before.igc.version = .absent ∧
      ∀ component, (after.get component).version = .text "" := by
  obtain ⟨trace, uplifted, edits⟩ := Sample.exists_blank_uplift
  have found : Members.get? "linux" Sample.manifest.platforms = some (.obj Sample.linux) := rfl
  let done := Sample.completion (Transport.isFixed_fixed _) found uplifted
  have edited : done.trace.edits = Sample.blankFindings.assignments := edits
  refine ⟨done.manifest, done.result, done.platform, done.revised, done.prepare_eq, ?_, ?_,
    done.platform_result, rfl, ?_⟩
  · rw [done.run_eq]
    exact congrArg Except.ok (done.version_eq edited)
  · rw [done.run_eq]
    exact done.read_written
  · intro component
    have named : component = .igc → Sample.blankFindings.igcVersion? ≠ none := by
      intro _
      exact Option.some_ne_none ""
    obtain ⟨value, text, blank⟩ :=
      Sample.blankFindings.hasTexts_revise done.platform named .version (by decide)
    obtain rfl : value = "" := blank.mpr (Sample.blank_version component)
    rw [Completion.revised, edited]
    exact text

end Uplift

end DriverUplift
