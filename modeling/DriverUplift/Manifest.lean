import DriverUplift.Json.Parser
import DriverUplift.Json.Printer
import DriverUplift.Platform

/-!
# Dependency manifests

A manifest is a JSON object with one section per platform.  Only the section
that is asked for is read as a platform; the others are kept as they are, and
storing a platform leaves every section in its place.
-/

namespace DriverUplift

structure Manifest where
  platforms : Members Json

inductive ManifestError where
  | invalid (error : Json.Error)
  | notAnObject
  | missingPlatform (platform : String)
  | missingDependency (platform : String) (component : Component)
  | malformedPlatform (platform : String) (problem : Json.Problem)
  deriving DecidableEq

def ManifestError.message : ManifestError → String
  | invalid error => "manifest is not valid JSON: " ++ error.message
  | notAnObject => "manifest top level must be a JSON object"
  | missingPlatform platform => "platform '" ++ platform ++ "' not found in manifest"
  | missingDependency platform component =>
      "platform '" ++ platform ++ "' has no '" ++ component.key ++ "' entry"
  | malformedPlatform platform problem =>
      "platform '" ++ platform ++ "' is malformed: " ++ problem.words

namespace Manifest

def parse (text : String) : Except ManifestError Manifest :=
  match Json.parse text with
  | .error error => .error (.invalid error)
  | .ok (.obj platforms) => .ok ⟨platforms⟩
  | .ok _ => .error .notAnObject

def keys (manifest : Manifest) : List String :=
  Members.keys manifest.platforms

def platform (manifest : Manifest) (key : String) : Except ManifestError Platform :=
  match Members.get? key manifest.platforms with
  | none => .error (.missingPlatform key)
  | some found =>
      match Platform.missing? found with
      | some component => .error (.missingDependency key component)
      | none =>
          match Platform.ofJson found with
          | .error problem => .error (.malformedPlatform key problem)
          | .ok platform => .ok platform

/-- Replace the section of a platform that is there, in its place. -/
def setPlatform (manifest : Manifest) (key : String) (platform : Platform) :
    Except ManifestError Manifest :=
  if Members.has key manifest.platforms then
    .ok ⟨Members.put key platform.toJson manifest.platforms⟩
  else .error (.missingPlatform key)

/-- The text of a manifest: indented, with a line end. -/
def render (manifest : Manifest) : String :=
  String.ofList (Json.indented 0 (.obj manifest.platforms) ++ ['\n'])

/-- Equality of documents, which ignores the order of members. -/
def same (a b : Manifest) : Bool :=
  Json.sameObject a.platforms b.platforms

end Manifest

end DriverUplift
