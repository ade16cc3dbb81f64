import DriverUplift.Proofs.Github.Client
import Mathlib.Tactic.MkIffOfInductiveProp

/-!
# Requests

A request is what the API client asks for: a list of releases, of workflow runs
or of artifacts, or a file.  It fails when the transport does, when the answer
cannot be decoded, or when the list has nothing that was asked for.
-/

namespace DriverUplift.Github

inductive Request where
  | releases (project : Project)
  | runs (project : Project) (workflow : String)
  | artifacts (project : Project) (name : String)
  | download (url : String)
  deriving DecidableEq, Repr

namespace Request

def url (apiBase : String) : Request → String
  | releases project => project.releasesUrl apiBase
  | runs project workflow => project.successfulRunsUrl apiBase workflow
  | artifacts project name => project.artifactsUrl apiBase name
  | download url => url

def listing? : Request → Option Listing
  | releases _ => some .releases
  | runs _ _ => some .workflowRuns
  | artifacts _ _ => some .artifacts
  | download _ => none

/-- How much of what a request asks for is in the body of an answer; a download takes all of it. -/
def hits : Request → String → Except Failure Nat
  | releases _, body => (decode (Json.listReader Release.layout.reader) body).map List.length
  | runs _ _, body => (decode WorkflowRun.listLayout.reader body).map List.length
  | artifacts _ name, body =>
      (decode Artifact.listLayout.reader body).map (List.countP (·.name == name))
  | download _, _ => .ok 1

/-- Why a request fails after the given earlier requests. -/
@[mk_iff]
inductive Fails (client : Client) (asked : List String) (request : Request) : Failure → Prop where
  /-- The transport fails. -/
  | unanswered {failure : Failure} :
      client.transport.answer asked (request.url client.apiBase) = .error failure →
        Fails client asked request failure
  /-- The answer cannot be decoded. -/
  | undecoded {body : String} {failure : Failure} :
      client.transport.answer asked (request.url client.apiBase) = .ok body →
        request.hits body = .error failure → Fails client asked request failure
  /-- Nothing in the list is what was asked for. -/
  | empty {body : String} {listing : Listing} :
      client.transport.answer asked (request.url client.apiBase) = .ok body →
        request.hits body = .ok 0 → request.listing? = some listing →
          Fails client asked request (.emptyList listing (request.url client.apiBase))

/-- What cannot be decoded is a fault of its JSON. -/
theorem exists_eq_json {request : Request} {body : String} {failure : Failure}
    (undecoded : request.hits body = .error failure) : ∃ error, failure = .json error := by
  have fault {α : Type} (reader : Json.Reader α) (count : α → Nat)
      (failed : (decode reader body).map count = .error failure) :
      ∃ error, failure = .json error := by
    unfold decode at failed
    split at failed
    · cases failed
    · exact ⟨_, (Except.error.inj failed).symm⟩
  cases request with
  | download url => cases undecoded
  | releases _ | runs _ _ | artifacts _ _ => exact fault _ _ undecoded

/-! ## Failures of requests and of lookups -/

variable {client : Client} {asked : List String} {project : Project} {failure : Failure}

/-- A request fails like the lookup that asks for it, if they find the same answers wanting. -/
theorem fails_iff_consult {α : Type} {request : Request} {url : String}
    {read : String → Except Failure α} (sameUrl : request.url client.apiBase = url)
    (wanting : ∀ body failure, read body = .error failure ↔
      request.hits body = .error failure ∨
        request.hits body = .ok 0 ∧
          ∃ listing, request.listing? = some listing ∧ failure = .emptyList listing url) :
    request.Fails client asked failure ↔ client.consult asked url read = .error failure := by
  subst sameUrl
  rw [fails_iff, Client.consult_eq_error_iff]
  refine or_congr_right ⟨?_, ?_⟩
  · rintro (⟨body, answered, undecoded⟩ | ⟨body, listing, answered, none, listed, rfl⟩)
    · exact ⟨body, answered, (wanting body failure).mpr (.inl undecoded)⟩
    · exact ⟨body, answered, (wanting body _).mpr (.inr ⟨none, listing, listed, rfl⟩)⟩
  · rintro ⟨body, answered, refused⟩
    rcases (wanting body failure).mp refused with undecoded | ⟨none, listing, listed, rfl⟩
    · exact .inl ⟨body, answered, undecoded⟩
    · exact .inr ⟨body, listing, answered, none, listed, rfl⟩

theorem fails_releases_iff :
    (releases project).Fails client asked failure ↔
      client.releaseAfter asked project = .error failure := by
  refine fails_iff_consult rfl fun body failure => ?_
  rw [latestRelease_eq_error_iff, hits]
  cases decode (Json.listReader Release.layout.reader) body <;>
    simp [listing?, Except.map]

theorem fails_runs_iff {workflow : String} :
    (runs project workflow).Fails client asked failure ↔
      client.runAfter asked project workflow = .error failure := by
  refine fails_iff_consult rfl fun body failure => ?_
  rw [latestRun_eq_error_iff, hits]
  cases decode WorkflowRun.listLayout.reader body <;> simp [listing?, Except.map]

theorem fails_artifacts_iff {name : String} :
    (artifacts project name).Fails client asked failure ↔
      client.artifactAfter asked project name = .error failure := by
  refine fails_iff_consult rfl fun body failure => ?_
  rw [artifactUrl_eq_error_iff, hits]
  cases decode Artifact.listLayout.reader body <;>
    simp [listing?, Except.map, List.countP_eq_zero]

/-- Only a transport can make a request fail as a miss does. -/
theorem Fails.answer_eq {request : Request} {tag : String}
    (fails : request.Fails client asked (.igcVersionNotFound tag)) :
    client.transport.answer asked (request.url client.apiBase) =
      .error (.igcVersionNotFound tag) := by
  cases fails with
  | unanswered failed => exact failed
  | undecoded _ undecoded =>
      obtain ⟨error, same⟩ := exists_eq_json undecoded
      cases same

theorem fails_download_iff {url : String} :
    (download url).Fails client asked failure ↔
      client.transport.answer asked url = .error failure := by
  simp [fails_iff, Request.url, hits, listing?]

end Request

/-! ## Requests one after the other -/

namespace Client

def asked (client : Client) (before : List String) (requests : List Request) : List String :=
  before ++ requests.map (·.url client.apiBase)

@[simp]
theorem asked_nil (client : Client) (before : List String) : client.asked before [] = before :=
  List.append_nil before

theorem asked_append (client : Client) (before : List String) (first second : List Request) :
    client.asked before (first ++ second) = client.asked (client.asked before first) second := by
  simp [asked]

theorem asked_prefix {client : Client} {before : List String} {first requests : List Request}
    (isPrefix : first <+: requests) :
    client.asked before first <+: client.asked before requests := by
  obtain ⟨rest, rfl⟩ := isPrefix
  rw [asked_append]
  exact List.prefix_append _ _

/-- Made one after the other, none of the requests fails. -/
def Serves (client : Client) : List String → List Request → Prop
  | _, [] => True
  | before, request :: rest =>
      (∀ failure, ¬request.Fails client before failure) ∧
        client.Serves (client.asked before [request]) rest

theorem serves_append {client : Client} {before : List String} {first second : List Request} :
    client.Serves before (first ++ second) ↔
      client.Serves before first ∧ client.Serves (client.asked before first) second := by
  induction first generalizing before with
  | nil => simp [Serves]
  | cons request rest ih =>
      have history : client.asked (client.asked before [request]) rest =
          client.asked before (request :: rest) := (asked_append client before [request] rest).symm
      rw [List.cons_append, Serves, Serves, ih, history, and_assoc]

end Client

end DriverUplift.Github
