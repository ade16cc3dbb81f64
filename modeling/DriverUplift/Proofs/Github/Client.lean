import DriverUplift.Github.Client
import DriverUplift.Proofs.Session

/-!
# Laws of the API client

A lookup that succeeds was answered with a body that decodes, and took the first
release, the first run, or the first artifact of the name from it.  One that
fails was not answered, or could not decode the body, or found an empty list.
With a fixed transport a lookup is steady.
-/

namespace DriverUplift.Github

/-! ## What is taken from an answer -/

theorem firstOf_eq_ok_iff {α : Type} {listing : Listing} {url : String} {values : List α}
    {value : α} :
    firstOf listing url values = .ok value ↔ ∃ rest, values = value :: rest := by
  cases values with
  | nil => simp [firstOf]
  | cons first rest => simp [firstOf]

theorem firstOf_eq_error_iff {α : Type} {listing : Listing} {url : String} {values : List α}
    {failure : Failure} :
    firstOf listing url values = .error failure ↔
      values = [] ∧ failure = .emptyList listing url := by
  cases values with
  | nil => simp [firstOf, eq_comm]
  | cons first rest => simp [firstOf]

theorem latestRelease_eq_ok_iff {url body : String} {release : Release} :
    latestRelease url body = .ok release ↔
      ∃ rest, decode (Json.listReader Release.layout.reader) body = .ok (release :: rest) := by
  unfold latestRelease
  cases decode (Json.listReader Release.layout.reader) body with
  | error failure => simp
  | ok releases => simp [firstOf_eq_ok_iff]

theorem latestRun_eq_ok_iff {url body : String} {run : WorkflowRun} :
    latestRun url body = .ok run ↔
      ∃ rest, decode WorkflowRun.listLayout.reader body = .ok (run :: rest) := by
  unfold latestRun
  cases decode WorkflowRun.listLayout.reader body with
  | error failure => simp
  | ok runs => simp [firstOf_eq_ok_iff]

theorem artifactUrl_eq_ok_iff {name url body found : String} :
    artifactUrl name url body = .ok found ↔
      ∃ artifacts, decode Artifact.listLayout.reader body = .ok artifacts ∧
        (artifacts.find? fun artifact => artifact.name = name).map (·.url) = some found := by
  unfold artifactUrl
  cases decode Artifact.listLayout.reader body with
  | error failure => simp
  | ok artifacts =>
      simp only [firstOf_eq_ok_iff, Except.ok.injEq, exists_eq_left']
      induction artifacts with
      | nil => simp
      | cons artifact artifacts ih =>
          by_cases hit : artifact.name = name
          · simp [hit]
          · simpa [hit] using ih

theorem latestRelease_eq_error_iff {url body : String} {failure : Failure} :
    latestRelease url body = .error failure ↔
      decode (Json.listReader Release.layout.reader) body = .error failure ∨
        decode (Json.listReader Release.layout.reader) body = .ok [] ∧
          failure = .emptyList .releases url := by
  unfold latestRelease
  cases decode (Json.listReader Release.layout.reader) body with
  | error fault => simp
  | ok releases => simp [firstOf_eq_error_iff]

theorem latestRun_eq_error_iff {url body : String} {failure : Failure} :
    latestRun url body = .error failure ↔
      decode WorkflowRun.listLayout.reader body = .error failure ∨
        decode WorkflowRun.listLayout.reader body = .ok [] ∧
          failure = .emptyList .workflowRuns url := by
  unfold latestRun
  cases decode WorkflowRun.listLayout.reader body with
  | error fault => simp
  | ok runs => simp [firstOf_eq_error_iff]

theorem artifactUrl_eq_error_iff {name url body : String} {failure : Failure} :
    artifactUrl name url body = .error failure ↔
      decode Artifact.listLayout.reader body = .error failure ∨
        ∃ artifacts, decode Artifact.listLayout.reader body = .ok artifacts ∧
          (∀ artifact ∈ artifacts, artifact.name ≠ name) ∧
            failure = .emptyList .artifacts url := by
  unfold artifactUrl
  cases decode Artifact.listLayout.reader body with
  | error fault => simp
  | ok artifacts => simp [firstOf_eq_error_iff, List.filter_eq_nil_iff]

/-! ## Lookups -/

namespace Client

variable {α : Type} {client : Client} {url : String} {trace final : Trace}

theorem download_ok {body : String} (ok : (client.download url).after trace = (.ok body, final)) :
    client.transport.Answers url body ∧ final.edits = trace.edits := by
  rw [download, Session.after_fetch] at ok
  obtain ⟨answered, rfl⟩ := Prod.mk.inj ok
  exact ⟨⟨trace.requests, answered⟩, rfl⟩

/-- A successful lookup was answered, could read the answer, and edited nothing. -/
theorem lookup_ok {read : String → Except Failure α} {value : α}
    (ok : (client.download url >>= fun body => Session.ofExcept (read body)).after trace =
      (.ok value, final)) :
    ∃ body, client.transport.Answers url body ∧ read body = .ok value ∧
      final.edits = trace.edits := by
  obtain ⟨body, between, downloaded, ok⟩ := Session.after_bind_ok ok
  obtain ⟨answered, unchanged⟩ := download_ok downloaded
  obtain ⟨readable, rfl⟩ := Session.after_ofExcept_ok ok
  exact ⟨body, answered, readable, unchanged⟩

/-- What a lookup comes to after the given earlier requests. -/
def consult (client : Client) (asked : List String) (url : String)
    (read : String → Except Failure α) : Except Failure α :=
  match client.transport.answer asked url with
  | .ok body => read body
  | .error failure => .error failure

theorem consult_eq_error_iff {asked : List String} {read : String → Except Failure α}
    {failure : Failure} :
    client.consult asked url read = .error failure ↔
      client.transport.answer asked url = .error failure ∨
        ∃ body, client.transport.answer asked url = .ok body ∧ read body = .error failure := by
  unfold consult
  cases client.transport.answer asked url <;> simp

/-- A lookup comes to what its transport answers now, and leaves one request behind. -/
theorem after_lookup (read : String → Except Failure α) :
    (client.download url >>= fun body => Session.ofExcept (read body)).after trace =
      (client.consult trace.requests url read, trace.asking client.transport url) := by
  rw [Session.after_bind, download, Session.after_fetch, consult]
  cases client.transport.answer trace.requests url with
  | ok body => exact Session.after_ofExcept (read body) _
  | error failure => rfl

def releaseAfter (client : Client) (asked : List String) (project : Project) :
    Except Failure Release :=
  client.consult asked (project.releasesUrl client.apiBase)
    (Github.latestRelease (project.releasesUrl client.apiBase))

def runAfter (client : Client) (asked : List String) (project : Project) (workflow : String) :
    Except Failure WorkflowRun :=
  client.consult asked (project.successfulRunsUrl client.apiBase workflow)
    (Github.latestRun (project.successfulRunsUrl client.apiBase workflow))

def artifactAfter (client : Client) (asked : List String) (project : Project) (name : String) :
    Except Failure String :=
  client.consult asked (project.artifactsUrl client.apiBase name)
    (Github.artifactUrl name (project.artifactsUrl client.apiBase name))

theorem steady_download (fixed : client.transport.IsFixed) (url : String) :
    Session.Steady (client.download url) :=
  Session.steady_fetch fixed url

theorem steady_lookup (fixed : client.transport.IsFixed) (url : String)
    (read : String → Except Failure α) :
    Session.Steady (client.download url >>= fun body => Session.ofExcept (read body)) :=
  (client.steady_download fixed url).bind fun _ => Session.steady_ofExcept _

end Client

end DriverUplift.Github
