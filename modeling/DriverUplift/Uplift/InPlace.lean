import DriverUplift.Uplift.Steps

/-!
# Uplifting in place

The same steps on the dependencies themselves: a step is handed the dependency
that it sets, and leaves it behind as it has set it, be it that the step fails.
-/

namespace DriverUplift

/-- Something that is being revised, with what was asked and reported meanwhile. -/
@[ext]
structure Draft (σ : Type) where
  content : σ
  requests : List String := []
  events : List Log.Event := []

/-- A computation that may fail and that leaves a draft behind in any case. -/
abbrev Drafting (σ α : Type) := ExceptT Failure (StateM (Draft σ)) α

namespace Drafting

variable {σ α : Type}

def on (draft : Draft σ) (drafting : Drafting σ α) : Except Failure α × Draft σ :=
  drafting.run draft

/-- Look something up or report something; the content stays as it is. -/
def ask (session : Session α) : Drafting σ α := fun draft =>
  let (result, trace) := session.after ⟨draft.requests, draft.events, []⟩
  (result, ⟨draft.content, trace.requests, trace.events⟩)

def say (level : Log.Level) (message : String) : Drafting σ Unit :=
  ask (Session.say level message)

def change (make : σ → σ) : Drafting σ Unit := fun draft =>
  (.ok (), { draft with content := make draft.content })

def focus (component : Component) (drafting : Drafting Dependency α) : Drafting Platform α :=
  fun draft =>
    let (result, revised) :=
      drafting.on ⟨draft.content.get component, draft.requests, draft.events⟩
    (result, ⟨draft.content.set component revised.content, revised.requests, revised.events⟩)

end Drafting

namespace Uplift.InPlace

open Drafting
open Github (Asset Client Release)

def takeRelease (project : Project) (tag version : String) (dependency : Dependency) :
    Dependency :=
  ((dependency.set .githubTag tag).set .version version).set .url (project.releaseUrl tag)

/-- The graphics compiler gets its address first; its tag is made from the version. -/
def takeIgc (version : String) (dependency : Dependency) : Dependency :=
  let tag := Tag.igc version
  ((dependency.set .url (Project.graphicsCompiler.releaseUrl tag)).set .githubTag tag).set .version
    version

/-- Read listings up to the first one that names the compiler; behind the last one the policy
decides. -/
def scan (client : Client) (release : Release) (policy : Policy) :
    List Asset → Drafting Dependency Unit
  | [] =>
      match policy with
      | .lenient =>
          say .warn ("No IGC version found in compute-runtime " ++ release.tag ++
            " checksums, igc left unchanged")
      | .strict => throw (.igcVersionNotFound release.tag)
  | asset :: rest => do
      say .debug ("Scanning " ++ asset.name ++ " for the IGC version")
      let listing ← ask (client.download asset.url)
      match Checksums.igcVersion? listing with
      | some version =>
          change (takeIgc version)
          say .info ("igc: " ++ version)
      | none => scan client release policy rest

def upliftIgc (client : Client) (release : Release) (policy : Policy) : Drafting Dependency Unit :=
  scan client release policy (listings release)

def upliftIgcDev (client : Client) : Drafting Dependency Unit := do
  let run ← ask (client.latestRun .graphicsCompiler Project.nightlyWorkflow)
  let short := Tag.shortSha run.sha
  if !Timestamp.isValid run.updatedAt then
    say .warn ("IGC run " ++ short ++ " has an unexpected timestamp: " ++ run.updatedAt)
  change (·.set .githubTag (Tag.igcDev short))
  change (·.set .version short)
  change (·.set .updatedAt run.updatedAt)
  -- If there is no artifact, the commit and the time stay set.
  let url ← ask (client.artifactUrl .graphicsCompiler (Tag.artifactName short))
  change (·.set .url url)
  say .info ("igc-dev: " ++ short)

def upliftPlatform (client : Client) (policy : Policy) : Drafting Platform Unit := do
  let computeRuntime ← ask (client.latestRelease .computeRuntime)
  focus .computeRuntime
    (change (takeRelease .computeRuntime computeRuntime.tag computeRuntime.tag))
  say .info ("compute-runtime: " ++ computeRuntime.tag)
  focus .igc (upliftIgc client computeRuntime policy)
  focus .igcDev (upliftIgcDev client)
  let cm ← ask (client.latestRelease .cmCompiler)
  focus .cm (change (takeRelease .cmCompiler cm.tag (Tag.cmVersion cm.tag)))
  say .info ("cm-compiler: " ++ cm.tag)
  let levelZero ← ask (client.latestRelease .levelZero)
  focus .levelZero (change (takeRelease .levelZero levelZero.tag levelZero.tag))
  say .info ("level-zero: " ++ levelZero.tag)

end Uplift.InPlace

end DriverUplift
