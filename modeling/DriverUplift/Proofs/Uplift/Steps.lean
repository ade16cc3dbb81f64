import DriverUplift.Proofs.Github.Client
import DriverUplift.Uplift.Steps

/-!
# Laws of the steps

An uplift is five steps, one for each component.  A step that succeeds says what
was answered and which edits it has recorded.  With a fixed transport every step
is steady.
-/

namespace DriverUplift.Uplift

open Github (Asset Artifact Client Release WorkflowRun decode)

/-! ## An uplift as five steps -/

def upliftRelease (client : Client) (project : Project) (edits : String → List Edit)
    (label : String) : Session Release := do
  let release ← client.latestRelease project
  Session.edit (edits release.tag)
  Session.say .info (label ++ release.tag)
  pure release

def checkTimestamp (run : WorkflowRun) : Session Unit :=
  if !Timestamp.isValid run.updatedAt then
    Session.say .warn
      ("IGC run " ++ Tag.shortSha run.sha ++ " has an unexpected timestamp: " ++ run.updatedAt)
  else pure ()

def recordBuild (client : Client) (run : WorkflowRun) : Session Unit := do
  Session.edit (igcDevEdits (Tag.shortSha run.sha) run.updatedAt)
  let url ← client.artifactUrl .graphicsCompiler (Tag.artifactName (Tag.shortSha run.sha))
  Session.edit [⟨.igcDev, .url, url⟩]
  Session.say .info ("igc-dev: " ++ Tag.shortSha run.sha)

theorem upliftIgcDev_eq (client : Client) :
    upliftIgcDev client = (do
      let run ← client.latestRun .graphicsCompiler Project.nightlyWorkflow
      checkTimestamp run
      recordBuild client run) := by
  unfold upliftIgcDev
  congr 1
  funext run
  unfold checkTimestamp
  split <;> rfl

theorem upliftPlatform_eq (client : Client) (policy : Policy) :
    upliftPlatform client policy = (do
      let computeRuntime ←
        upliftRelease client .computeRuntime computeRuntimeEdits "compute-runtime: "
      upliftIgc client computeRuntime policy
      upliftIgcDev client
      let _ ← upliftRelease client .cmCompiler cmEdits "cm-compiler: "
      let _ ← upliftRelease client .levelZero levelZeroEdits "level-zero: "
      pure ()) := by
  simp only [upliftPlatform, upliftRelease, bind_assoc, pure_bind, bind_pure_unit]

/-! ## Successful steps -/

/-- The release comes first in what is answered for a project. -/
def Leads (answers : String → String → Prop) (apiBase : String) (project : Project)
    (release : Release) : Prop :=
  ∃ body rest, answers (project.releasesUrl apiBase) body ∧
    decode (Json.listReader Release.layout.reader) body = .ok (release :: rest)

/-- Assets are read in order up to the first listing that names the compiler. -/
inductive Scanned (answers : String → String → Prop) : List Asset → Option String → Prop where
  | nothing : Scanned answers [] none
  | named {asset : Asset} {rest : List Asset} {listing version : String} :
      answers asset.url listing → Checksums.igcVersion? listing = some version →
        Scanned answers (asset :: rest) (some version)
  | unnamed {asset : Asset} {rest : List Asset} {listing : String} {version? : Option String} :
      answers asset.url listing → Checksums.igcVersion? listing = none →
        Scanned answers rest version? → Scanned answers (asset :: rest) version?

variable {client : Client} {policy : Policy} {trace final : Trace}

theorem say_ok {level : Log.Level} {message : String}
    (ok : (Session.say level message).after trace = (.ok (), final)) :
    final.edits = trace.edits := by
  obtain ⟨_, rfl⟩ := Prod.mk.inj ok
  rfl

theorem edit_ok {edits : List Edit} (ok : (Session.edit edits).after trace = (.ok (), final)) :
    final.edits = trace.edits ++ edits := by
  obtain ⟨_, rfl⟩ := Prod.mk.inj ok
  rfl

theorem upliftRelease_ok {project : Project} {edits : String → List Edit} {label : String}
    {release : Release}
    (ok : (upliftRelease client project edits label).after trace = (.ok release, final)) :
    Leads client.transport.Answers client.apiBase project release ∧
      final.edits = trace.edits ++ edits release.tag := by
  obtain ⟨first, asked, lookedUp, ok⟩ := Session.after_bind_ok ok
  obtain ⟨_, edited, editing, ok⟩ := Session.after_bind_ok ok
  obtain ⟨_, said, saying, ok⟩ := Session.after_bind_ok ok
  obtain ⟨result, rfl⟩ := Prod.mk.inj ok
  obtain rfl := Except.ok.inj result
  obtain ⟨body, answered, read, unchanged⟩ := Client.lookup_ok lookedUp
  obtain ⟨rest, decoded⟩ := Github.latestRelease_eq_ok_iff.mp read
  refine ⟨⟨body, rest, answered, decoded⟩, ?_⟩
  rw [say_ok saying, edit_ok editing, unchanged]

theorem findIgcVersion_ok {assets : List Asset} {version? : Option String}
    (ok : (findIgcVersion client assets).after trace = (.ok version?, final)) :
    Scanned client.transport.Answers assets version? ∧ final.edits = trace.edits := by
  induction assets generalizing trace with
  | nil =>
      obtain ⟨result, rfl⟩ := Prod.mk.inj ok
      obtain rfl := Except.ok.inj result
      exact ⟨.nothing, rfl⟩
  | cons asset rest ih =>
      obtain ⟨_, said, saying, ok⟩ := Session.after_bind_ok ok
      obtain ⟨listing, asked, downloaded, ok⟩ := Session.after_bind_ok ok
      obtain ⟨answered, unchanged⟩ := Client.download_ok downloaded
      rw [say_ok saying] at unchanged
      cases found : Checksums.igcVersion? listing with
      | some version =>
          rw [found] at ok
          obtain ⟨result, rfl⟩ := Prod.mk.inj ok
          obtain rfl := Except.ok.inj result
          exact ⟨.named answered found, unchanged⟩
      | none =>
          rw [found] at ok
          obtain ⟨scanned, same⟩ := ih ok
          exact ⟨.unnamed answered found scanned, same.trans unchanged⟩

theorem upliftIgc_ok {release : Release}
    (ok : (upliftIgc client release policy).after trace = (.ok (), final)) :
    ∃ version?, Scanned client.transport.Answers (listings release) version? ∧
      final.edits = trace.edits ++ version?.toList.flatMap igcEdits := by
  obtain ⟨version?, asked, finding, ok⟩ := Session.after_bind_ok ok
  obtain ⟨scanned, unchanged⟩ := findIgcVersion_ok finding
  refine ⟨version?, scanned, ?_⟩
  cases version? with
  | some version =>
      obtain ⟨_, edited, editing, ok⟩ := Session.after_bind_ok ok
      rw [say_ok ok, edit_ok editing, unchanged]
      simp
  | none =>
      cases policy with
      | lenient =>
          rw [say_ok ok, unchanged]
          simp
      | strict => cases ok

theorem checkTimestamp_ok {run : WorkflowRun}
    (ok : (checkTimestamp run).after trace = (.ok (), final)) : final.edits = trace.edits := by
  unfold checkTimestamp at ok
  split at ok
  · exact say_ok ok
  · obtain ⟨_, rfl⟩ := Prod.mk.inj ok
    rfl

theorem recordBuild_ok {run : WorkflowRun}
    (ok : (recordBuild client run).after trace = (.ok (), final)) :
    ∃ body artifacts url,
      client.transport.Answers
        (Project.graphicsCompiler.artifactsUrl client.apiBase
          (Tag.artifactName (Tag.shortSha run.sha))) body ∧
      decode Artifact.listLayout.reader body = .ok artifacts ∧
      (artifacts.find? fun artifact => artifact.name = Tag.artifactName (Tag.shortSha run.sha)).map
        (·.url) = some url ∧
      final.edits = trace.edits ++
        (igcDevEdits (Tag.shortSha run.sha) run.updatedAt ++ [⟨.igcDev, .url, url⟩]) := by
  obtain ⟨_, edited, editing, ok⟩ := Session.after_bind_ok ok
  obtain ⟨url, asked, lookedUp, ok⟩ := Session.after_bind_ok ok
  obtain ⟨_, linked, linking, ok⟩ := Session.after_bind_ok ok
  obtain ⟨body, answered, read, unchanged⟩ := Client.lookup_ok lookedUp
  obtain ⟨artifacts, decoded, found⟩ := Github.artifactUrl_eq_ok_iff.mp read
  refine ⟨body, artifacts, url, answered, decoded, found, ?_⟩
  rw [say_ok ok, edit_ok linking, unchanged, edit_ok editing, List.append_assoc]

theorem upliftIgcDev_ok (ok : (upliftIgcDev client).after trace = (.ok (), final)) :
    ∃ (run : WorkflowRun) (between : Trace),
      (∃ body rest,
        client.transport.Answers
          (Project.graphicsCompiler.successfulRunsUrl client.apiBase Project.nightlyWorkflow) body ∧
        decode WorkflowRun.listLayout.reader body = .ok (run :: rest)) ∧
      between.edits = trace.edits ∧ (recordBuild client run).after between = (.ok (), final) := by
  rw [upliftIgcDev_eq] at ok
  obtain ⟨run, asked, lookedUp, ok⟩ := Session.after_bind_ok ok
  obtain ⟨_, checked, checking, ok⟩ := Session.after_bind_ok ok
  obtain ⟨body, answered, read, unchanged⟩ := Client.lookup_ok lookedUp
  obtain ⟨rest, decoded⟩ := Github.latestRun_eq_ok_iff.mp read
  exact ⟨run, checked, ⟨body, rest, answered, decoded⟩,
    (checkTimestamp_ok checking).trans unchanged, ok⟩

/-! ## Steady steps -/

theorem steady_upliftRelease (fixed : client.transport.IsFixed) (project : Project)
    (edits : String → List Edit) (label : String) :
    Session.Steady (upliftRelease client project edits label) :=
  (Client.steady_lookup fixed _ _).bind fun _ =>
    (Session.steady_edit _).bind fun _ =>
      (Session.steady_say _ _).bind fun _ => Session.steady_pure _

theorem steady_findIgcVersion (fixed : client.transport.IsFixed) (assets : List Asset) :
    Session.Steady (findIgcVersion client assets) := by
  induction assets with
  | nil => exact Session.steady_pure none
  | cons asset rest ih =>
      refine (Session.steady_say _ _).bind fun _ =>
        (Client.steady_download fixed asset.url).bind fun listing => ?_
      cases Checksums.igcVersion? listing with
      | some version => exact Session.steady_pure (some version)
      | none => exact ih

theorem steady_upliftIgc (fixed : client.transport.IsFixed) (release : Release)
    (policy : Policy) : Session.Steady (upliftIgc client release policy) := by
  refine (steady_findIgcVersion fixed (listings release)).bind fun version? => ?_
  cases version? with
  | some version => exact (Session.steady_edit _).bind fun _ => Session.steady_say _ _
  | none =>
      cases policy with
      | lenient => exact Session.steady_say _ _
      | strict => exact Session.steady_throw _

theorem steady_checkTimestamp (run : WorkflowRun) : Session.Steady (checkTimestamp run) := by
  unfold checkTimestamp
  split
  · exact Session.steady_say _ _
  · exact Session.steady_pure ()

theorem steady_upliftIgcDev (fixed : client.transport.IsFixed) :
    Session.Steady (upliftIgcDev client) := by
  rw [upliftIgcDev_eq]
  refine (Client.steady_lookup fixed _ _).bind fun run =>
    (steady_checkTimestamp run).bind fun _ => ?_
  exact (Session.steady_edit _).bind fun _ =>
    (Client.steady_lookup fixed _ _).bind fun _ =>
      (Session.steady_edit _).bind fun _ => Session.steady_say _ _

/-- With a fixed transport an uplift does the same whatever was done before. -/
theorem steady_upliftPlatform (fixed : client.transport.IsFixed) (policy : Policy) :
    Session.Steady (upliftPlatform client policy) := by
  rw [upliftPlatform_eq]
  refine (steady_upliftRelease fixed _ _ _).bind fun release =>
    (steady_upliftIgc fixed release policy).bind fun _ =>
      (steady_upliftIgcDev fixed).bind fun _ => ?_
  exact (steady_upliftRelease fixed _ _ _).bind fun _ =>
    (steady_upliftRelease fixed _ _ _).bind fun _ => Session.steady_pure ()

end DriverUplift.Uplift
