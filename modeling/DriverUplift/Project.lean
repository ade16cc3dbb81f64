import DriverUplift.Text.Occurrence

/-!
# Tracked projects

The driver stack is built from four repositories.  A project knows its slug,
the web address of a release page, and the three API endpoints that are asked
for releases, workflow runs and build artifacts.
-/

namespace DriverUplift

inductive Project where
  | computeRuntime
  | graphicsCompiler
  | cmCompiler
  | levelZero
  deriving DecidableEq, Repr

namespace Project

def defaultApiBase : String := "https://api.github.com"

def webBase : String := "https://github.com"

def nightlyWorkflow : String := "build-IGC"

/-- The repository in the form `owner/name`. -/
def slug : Project → String
  | computeRuntime => "intel/compute-runtime"
  | graphicsCompiler => "intel/intel-graphics-compiler"
  | cmCompiler => "intel/cm-compiler"
  | levelZero => "oneapi-src/level-zero"

def releaseUrl (project : Project) (tag : String) : String :=
  webBase ++ "/" ++ project.slug ++ "/releases/tag/" ++ tag

def trimBase (base : String) : String :=
  String.ofList (Text.trimEnd '/' base.toList)

theorem trimBase_slashes (base : String) (count : Nat) :
    trimBase (base ++ String.ofList (List.replicate count '/')) = trimBase base := by
  simp [trimBase, Text.trimEnd_append_replicate]

def endpoint (project : Project) (base : String) : String :=
  trimBase base ++ "/repos/" ++ project.slug

/-- The endpoint that lists releases, newest first. -/
def releasesUrl (project : Project) (base : String) : String :=
  project.endpoint base ++ "/releases"

def successfulRunsUrl (project : Project) (base workflow : String) : String :=
  project.endpoint base ++ "/actions/workflows/" ++ workflow ++ ".yml/runs?status=success"

def artifactsUrl (project : Project) (base name : String) : String :=
  project.endpoint base ++ "/actions/artifacts?name=" ++ name

end Project

end DriverUplift
