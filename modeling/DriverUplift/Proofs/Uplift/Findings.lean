import DriverUplift.Proofs.Revision
import DriverUplift.Proofs.Uplift.Steps

/-!
# What an uplift finds

An uplift that succeeds has found a release of three projects, a build with its
artifact, and perhaps a compiler version in a checksum listing.  The findings
are what the transport answered, and the edits follow from them alone.
-/

namespace DriverUplift.Uplift

open Github (Artifact Client Release WorkflowRun decode)

structure Findings where
  computeRuntime : Release
  /-- The compiler version of the first checksum listing that names one. -/
  igcVersion? : Option String
  nightly : WorkflowRun
  /-- The address of the artifact that the nightly run has built. -/
  artifactUrl : String
  cm : Release
  levelZero : Release

namespace Findings

def short (findings : Findings) : String :=
  String.ofList (findings.nightly.sha.toList.take 7)

/-- The findings are what is answered at an API root. -/
structure Reported (answers : String → String → Prop) (apiBase : String) (findings : Findings) :
    Prop where
  computeRuntime : Leads answers apiBase .computeRuntime findings.computeRuntime
  igcVersion : Scanned answers (listings findings.computeRuntime) findings.igcVersion?
  nightly : ∃ body rest,
    answers (Project.graphicsCompiler.successfulRunsUrl apiBase "build-IGC") body ∧
      decode WorkflowRun.listLayout.reader body = .ok (findings.nightly :: rest)
  artifact : ∃ body artifacts,
    answers (Project.graphicsCompiler.artifactsUrl apiBase
        ("IGC_Ubuntu22.04_llvm14_clang-" ++ findings.short)) body ∧
      decode Artifact.listLayout.reader body = .ok artifacts ∧
      (artifacts.find? fun artifact =>
        artifact.name = "IGC_Ubuntu22.04_llvm14_clang-" ++ findings.short).map (·.url) =
          some findings.artifactUrl
  cm : Leads answers apiBase .cmCompiler findings.cm
  levelZero : Leads answers apiBase .levelZero findings.levelZero

def igcAssignments (findings : Findings) : List Edit :=
  match findings.igcVersion? with
  | none => []
  | some version =>
      [⟨.igc, .githubTag, "igc-" ++ version⟩,
       ⟨.igc, .version, version⟩,
       ⟨.igc, .url, Project.graphicsCompiler.releaseUrl ("igc-" ++ version)⟩]

def assignments (findings : Findings) : List Edit :=
  [⟨.computeRuntime, .githubTag, findings.computeRuntime.tag⟩,
   ⟨.computeRuntime, .version, findings.computeRuntime.tag⟩,
   ⟨.computeRuntime, .url, Project.computeRuntime.releaseUrl findings.computeRuntime.tag⟩] ++
  findings.igcAssignments ++
  [⟨.igcDev, .githubTag, "igc-dev-" ++ findings.short⟩,
   ⟨.igcDev, .version, findings.short⟩,
   ⟨.igcDev, .updatedAt, findings.nightly.updatedAt⟩,
   ⟨.igcDev, .url, findings.artifactUrl⟩,
   ⟨.cm, .githubTag, findings.cm.tag⟩,
   ⟨.cm, .version, String.ofList (Text.remove "cmclang-".toList findings.cm.tag.toList)⟩,
   ⟨.cm, .url, Project.cmCompiler.releaseUrl findings.cm.tag⟩,
   ⟨.levelZero, .githubTag, findings.levelZero.tag⟩,
   ⟨.levelZero, .version, findings.levelZero.tag⟩,
   ⟨.levelZero, .url, Project.levelZero.releaseUrl findings.levelZero.tag⟩]

end Findings

variable {client : Client} {policy : Policy} {trace final : Trace}

/-- What an uplift that succeeds has found is what its edits assign. -/
theorem upliftPlatform_ok (ok : (upliftPlatform client policy).after trace = (.ok (), final)) :
    ∃ findings : Findings, findings.Reported client.transport.Answers client.apiBase ∧
      final.edits = trace.edits ++ findings.assignments := by
  rw [upliftPlatform_eq] at ok
  obtain ⟨computeRuntime, _, uplifting, ok⟩ := Session.after_bind_ok ok
  obtain ⟨leads, computeRuntimeEdits⟩ := upliftRelease_ok uplifting
  obtain ⟨_, _, upliftingIgc, ok⟩ := Session.after_bind_ok ok
  obtain ⟨version?, scanned, igcEdits⟩ := upliftIgc_ok upliftingIgc
  obtain ⟨_, _, upliftingIgcDev, ok⟩ := Session.after_bind_ok ok
  obtain ⟨nightly, _, ran, unchanged, recording⟩ := upliftIgcDev_ok upliftingIgcDev
  obtain ⟨body, artifacts, url, answered, decoded, found, igcDevEdits⟩ := recordBuild_ok recording
  obtain ⟨cm, _, upliftingCm, ok⟩ := Session.after_bind_ok ok
  obtain ⟨cmLeads, cmEdits⟩ := upliftRelease_ok upliftingCm
  obtain ⟨levelZero, _, upliftingLevelZero, ok⟩ := Session.after_bind_ok ok
  obtain ⟨levelZeroLeads, levelZeroEdits⟩ := upliftRelease_ok upliftingLevelZero
  obtain ⟨_, rfl⟩ := Prod.mk.inj ok
  refine ⟨⟨computeRuntime, version?, nightly, url, cm, levelZero⟩, ?_, ?_⟩
  · exact ⟨leads, scanned, ran, ⟨body, artifacts, answered, decoded, found⟩, cmLeads,
      levelZeroLeads⟩
  · rw [levelZeroEdits, cmEdits, igcDevEdits, unchanged, igcEdits, computeRuntimeEdits]
    cases version? <;>
      simp [Findings.assignments, Findings.igcAssignments, Findings.short,
        Uplift.computeRuntimeEdits, Uplift.igcEdits, Uplift.igcDevEdits, Uplift.cmEdits,
        Uplift.levelZeroEdits, releaseEdits, Tag.igc, Tag.igcMark, Tag.igcDev, Tag.igcDevMark,
        Tag.shortSha, Tag.shortLength, Tag.cmVersion, Tag.cmMark]

namespace Findings

/-- The text that an attribute of a component is brought up to date with, if there is one. -/
def text? (findings : Findings) : Component → Attribute → Option String
  | .computeRuntime, .githubTag | .computeRuntime, .version => some findings.computeRuntime.tag
  | .computeRuntime, .url => some (Project.computeRuntime.releaseUrl findings.computeRuntime.tag)
  | .igc, .githubTag => findings.igcVersion?.map fun version => "igc-" ++ version
  | .igc, .version => findings.igcVersion?
  | .igc, .url => findings.igcVersion?.map fun version =>
      Project.graphicsCompiler.releaseUrl ("igc-" ++ version)
  | .igcDev, .githubTag => some ("igc-dev-" ++ findings.short)
  | .igcDev, .version => some findings.short
  | .igcDev, .updatedAt => some findings.nightly.updatedAt
  | .igcDev, .url => some findings.artifactUrl
  | .cm, .githubTag => some findings.cm.tag
  | .cm, .version => some (String.ofList (Text.remove "cmclang-".toList findings.cm.tag.toList))
  | .cm, .url => some (Project.cmCompiler.releaseUrl findings.cm.tag)
  | .levelZero, .githubTag | .levelZero, .version => some findings.levelZero.tag
  | .levelZero, .url => some (Project.levelZero.releaseUrl findings.levelZero.tag)
  | _, .updatedAt => none

theorem latest?_assignments (findings : Findings) (component : Component) (attr : Attribute) :
    Edit.latest? component attr findings.assignments = findings.text? component attr := by
  unfold assignments igcAssignments
  cases found : findings.igcVersion? <;> cases component <;> cases attr <;>
    simp [Edit.latest?, text?, found]

/-- The assignments bring a platform up to date, and leave what is not found as it was. -/
theorem get_revise (findings : Findings) (platform : Platform) (component : Component)
    (attr : Attribute) :
    ((platform.revise findings.assignments).get component).get attr =
      match findings.text? component attr with
      | some value => .text value
      | none => (platform.get component).get attr := by
  have revised := platform.get_revise findings.assignments component attr
  rw [latest?_assignments] at revised
  exact revised

/-- The version of the compute runtime becomes the tag of its release. -/
theorem version_revise (findings : Findings) (platform : Platform) :
    (platform.revise findings.assignments).computeRuntime.version =
      .text findings.computeRuntime.tag :=
  findings.get_revise platform .computeRuntime .version

end Findings

end DriverUplift.Uplift
