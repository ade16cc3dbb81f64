import DriverUplift.Failure
import DriverUplift.Json.Record

/-!
# Answers of the API

The records that the API answers with, and what is taken from each list: the
first release, the first workflow run, and the first artifact of a given name.
-/

namespace DriverUplift.Github

open Json (Layout Slot)

structure Asset where
  name : String
  url : String
  deriving DecidableEq, Repr

structure Release where
  tag : String
  assets : List Asset
  deriving DecidableEq, Repr

/-- A run of a workflow; the timestamp is kept as it was written. -/
structure WorkflowRun where
  sha : String
  updatedAt : String
  deriving DecidableEq, Repr

structure Artifact where
  name : String
  url : String
  deriving DecidableEq, Repr

def Asset.layout : Layout Asset where
  name := "Asset"
  blank := ⟨"", ""⟩
  slots :=
    [.mandatory "name" Json.textReader fun name asset => { asset with name },
     .mandatory "browser_download_url" Json.textReader fun url asset => { asset with url }]

/-- How a release is written; it may leave out its assets. -/
def Release.layout : Layout Release where
  name := "Release"
  blank := ⟨"", []⟩
  slots :=
    [.mandatory "tag_name" Json.textReader fun tag release => { release with tag },
     .optional "assets" (Json.listReader Asset.layout.reader)
       fun assets release => { release with assets }]

def WorkflowRun.layout : Layout WorkflowRun where
  name := "WorkflowRun"
  blank := ⟨"", ""⟩
  slots :=
    [.mandatory "head_sha" Json.textReader fun sha run => { run with sha },
     .mandatory "updated_at" Json.textReader fun updatedAt run => { run with updatedAt }]

def Artifact.layout : Layout Artifact where
  name := "Artifact"
  blank := ⟨"", ""⟩
  slots :=
    [.mandatory "name" Json.textReader fun name artifact => { artifact with name },
     .mandatory "archive_download_url" Json.textReader fun url artifact => { artifact with url }]

def WorkflowRun.listLayout : Layout (List WorkflowRun) where
  name := "WorkflowRuns"
  blank := []
  slots := [.mandatory "workflow_runs" (Json.listReader WorkflowRun.layout.reader) fun runs _ => runs]

def Artifact.listLayout : Layout (List Artifact) where
  name := "Artifacts"
  blank := []
  slots := [.mandatory "artifacts" (Json.listReader Artifact.layout.reader) fun found _ => found]

def decode {α : Type} (reader : Json.Reader α) (body : String) : Except Failure α :=
  match Json.whole reader body.toList with
  | .ok value => .ok value
  | .error error => .error (.json error)

/-- The first of several, or a failure that names the list and its address. -/
def firstOf {α : Type} (listing : Listing) (url : String) : List α → Except Failure α
  | [] => .error (.emptyList listing url)
  | first :: _ => .ok first

def latestRelease (url body : String) : Except Failure Release :=
  match decode (Json.listReader Release.layout.reader) body with
  | .error failure => .error failure
  | .ok releases => firstOf .releases url releases

def latestRun (url body : String) : Except Failure WorkflowRun :=
  match decode WorkflowRun.listLayout.reader body with
  | .error failure => .error failure
  | .ok runs => firstOf .workflowRuns url runs

def artifactUrl (name url body : String) : Except Failure String :=
  match decode Artifact.listLayout.reader body with
  | .error failure => .error failure
  | .ok artifacts =>
      firstOf .artifacts url ((artifacts.filter (·.name == name)).map (·.url))

end DriverUplift.Github
