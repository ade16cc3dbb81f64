import DriverUplift.Checksums
import DriverUplift.Github.Client
import DriverUplift.Tag
import DriverUplift.Timestamp

/-!
# The steps of an uplift

Each step looks up what a component should be and records the edits that make
it so.  The steps run in a fixed order, and the first failure ends them all.
-/

namespace DriverUplift.Uplift

open Github (Asset Client Release)

/-- What happens when no checksum listing names the compiler. -/
inductive Policy where
  /-- The compiler entry stays as it is. -/
  | lenient
  /-- The uplift fails. -/
  | strict
  deriving DecidableEq, Repr

def releaseEdits (component : Component) (project : Project) (tag version : String) : List Edit :=
  [⟨component, .githubTag, tag⟩,
   ⟨component, .version, version⟩,
   ⟨component, .url, project.releaseUrl tag⟩]

/-- The edits for the compute runtime: its version is the tag. -/
def computeRuntimeEdits (tag : String) : List Edit :=
  releaseEdits .computeRuntime .computeRuntime tag tag

/-- The edits for the graphics compiler: its tag is made from the version. -/
def igcEdits (version : String) : List Edit :=
  releaseEdits .igc .graphicsCompiler (Tag.igc version) version

/-- The edits for the CM compiler: its version is the tag without marks. -/
def cmEdits (tag : String) : List Edit :=
  releaseEdits .cm .cmCompiler tag (Tag.cmVersion tag)

def levelZeroEdits (tag : String) : List Edit :=
  releaseEdits .levelZero .levelZero tag tag

/-- The edits for a nightly build that do not depend on its artifact. -/
def igcDevEdits (short updatedAt : String) : List Edit :=
  [⟨.igcDev, .githubTag, Tag.igcDev short⟩,
   ⟨.igcDev, .version, short⟩,
   ⟨.igcDev, .updatedAt, updatedAt⟩]

/-- Download checksum listings one after the other until one names the compiler. -/
def findIgcVersion (client : Client) : List Asset → Session (Option String)
  | [] => pure none
  | asset :: rest => do
      Session.say .debug ("Scanning " ++ asset.name ++ " for the IGC version")
      let listing ← client.download asset.url
      match Checksums.igcVersion? listing with
      | some version => pure (some version)
      | none => findIgcVersion client rest

def listings (release : Release) : List Asset :=
  release.assets.filter fun asset => Checksums.isListing asset.name

def upliftIgc (client : Client) (release : Release) (policy : Policy) : Session Unit := do
  match ← findIgcVersion client (listings release) with
  | some version =>
      Session.edit (igcEdits version)
      Session.say .info ("igc: " ++ version)
  | none =>
      match policy with
      | .lenient =>
          Session.say .warn ("No IGC version found in compute-runtime " ++ release.tag ++
            " checksums, igc left unchanged")
      | .strict => throw (.igcVersionNotFound release.tag)

def upliftIgcDev (client : Client) : Session Unit := do
  let run ← client.latestRun .graphicsCompiler Project.nightlyWorkflow
  let short := Tag.shortSha run.sha
  if !Timestamp.isValid run.updatedAt then
    Session.say .warn ("IGC run " ++ short ++ " has an unexpected timestamp: " ++ run.updatedAt)
  Session.edit (igcDevEdits short run.updatedAt)
  let url ← client.artifactUrl .graphicsCompiler (Tag.artifactName short)
  Session.edit [⟨.igcDev, .url, url⟩]
  Session.say .info ("igc-dev: " ++ short)

def upliftPlatform (client : Client) (policy : Policy) : Session Unit := do
  let computeRuntime ← client.latestRelease .computeRuntime
  Session.edit (computeRuntimeEdits computeRuntime.tag)
  Session.say .info ("compute-runtime: " ++ computeRuntime.tag)
  upliftIgc client computeRuntime policy
  upliftIgcDev client
  let cm ← client.latestRelease .cmCompiler
  Session.edit (cmEdits cm.tag)
  Session.say .info ("cm-compiler: " ++ cm.tag)
  let levelZero ← client.latestRelease .levelZero
  Session.edit (levelZeroEdits levelZero.tag)
  Session.say .info ("level-zero: " ++ levelZero.tag)

end DriverUplift.Uplift
