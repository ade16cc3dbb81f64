import DriverUplift.Proofs.Uplift.Course

/-!
# The requests of an uplift

The itinerary of an uplift is the list of requests that it would make if none
failed.  An uplift that succeeds makes exactly these, one that fails makes the
first few of them, and nothing is asked for after a request that failed.
-/

namespace DriverUplift.Uplift

open Github (Asset Client Release Request WorkflowRun)

/-! ## The itinerary -/

def namesVersion (client : Client) (asked : List String) (asset : Asset) : Bool :=
  match client.transport.answer asked asset.url with
  | .ok listing => (Checksums.igcVersion? listing).isSome
  | .error _ => false

/-- The downloads up to the first listing that names a version, or all of them. -/
def downloads (client : Client) : List String → List Asset → List Request
  | _, [] => []
  | asked, asset :: left =>
      .download asset.url ::
        if namesVersion client asked asset then []
        else downloads client (client.asked asked [.download asset.url]) left

def afterListings (client : Client) (asked : List String) : List Request :=
  [.runs .graphicsCompiler "build-IGC"] ++
    (match client.runAfter asked .graphicsCompiler "build-IGC" with
      | .ok run =>
          [.artifacts .graphicsCompiler
            ("IGC_Ubuntu22.04_llvm14_clang-" ++ String.ofList (run.sha.toList.take 7))]
      | .error _ => []) ++
    [.releases .cmCompiler, .releases .levelZero]

def listingDownloads (client : Client) (before : List String) : List Request :=
  match client.releaseAfter before .computeRuntime with
  | .ok release =>
      downloads client (client.asked before [.releases .computeRuntime]) (listings release)
  | .error _ => []

/--
The requests of an uplift in order, each made as if none before it had failed; an
answer that cannot be had contributes no further request.
-/
def itinerary (client : Client) (before : List String) : List Request :=
  let upToListings := .releases .computeRuntime :: listingDownloads client before
  upToListings ++ afterListings client (client.asked before upToListings)

namespace Stage

variable {client : Client} {policy : Policy} {before : List String} {stage next : Stage}

def ahead (client : Client) (before : List String) : Stage → List Request
  | computeRuntime => itinerary client before
  | checksums release read left =>
      let rest := downloads client (asked client before (checksums release read left)) left
      rest ++ afterListings client
        (client.asked (asked client before (checksums release read left)) rest)
  | nightly scan => afterListings client (asked client before (nightly scan))
  | artifact _ run => [artifactRequest run, .releases .cmCompiler, .releases .levelZero]
  | cm _ _ _ => [.releases .cmCompiler, .releases .levelZero]
  | levelZero _ _ _ _ => [.releases .levelZero]
  | done _ _ _ _ _ => []

/-- A stage that is passed takes its request from the itinerary. -/
theorem Passes.ahead_eq (passes : Passes client policy before stage next) :
    stage.ahead client before = stage.request?.toList ++ next.ahead client before := by
  have history := passes.asked_eq
  cases passes with
  | computeRuntime found =>
      rw [asked, requests, Client.asked_nil] at found
      rw [ahead, itinerary, listingDownloads, found, ahead, history, asked, requests,
        Client.asked_nil]
      simp [request?, ← Client.asked_append]
  | @named release read left asset listing version answered named =>
      have names : namesVersion client
          (asked client before (checksums release read (asset :: left))) asset = true := by
        simp [namesVersion, answered, named]
      rw [ahead, downloads, if_pos names, ahead, history]
      rfl
  | @unnamed release read left asset listing answered named =>
      have names : ¬namesVersion client
          (asked client before (checksums release read (asset :: left))) asset = true := by
        simp [namesVersion, answered, named]
      rw [ahead, downloads, if_neg names, ahead, history]
      simp [request?, ← Client.asked_append]
  | missed lenient =>
      rw [ahead, downloads, ahead, history]
      rfl
  | nightly found =>
      rw [Project.nightlyWorkflow] at found
      rw [ahead, afterListings, found]
      rfl
  | artifact found => rfl
  | cm found => rfl
  | levelZero found => rfl

/-- What was asked for up to a stage and what is left of it make up the itinerary. -/
theorem requests_append_ahead
    (reached : Reached client policy before stage) :
    stage.requests ++ stage.ahead client before = itinerary client before := by
  induction reached with
  | refl => rfl
  | tail _ passes ih => rw [passes.requests_eq, List.append_assoc, ← passes.ahead_eq, ih]

/-- The request of a stage comes next in the itinerary. -/
theorem exists_ahead_eq (client : Client) (before : List String) {request : Request}
    (asks : stage.request? = some request) :
    ∃ rest, stage.ahead client before = request :: rest := by
  cases stage with
  | checksums release read left =>
      cases left with
      | nil => cases asks
      | cons asset left =>
          obtain rfl := Option.some.inj asks
          exact ⟨_, rfl⟩
  | done scan run url compiler loader => cases asks
  | _ =>
      obtain rfl := Option.some.inj asks
      exact ⟨_, rfl⟩

/-- None of the requests up to a stage has failed. -/
theorem serves_requests
    (reached : Reached client policy before stage) :
    client.Serves before stage.requests := by
  induction reached with
  | refl => trivial
  | @tail stage next _ passes ih =>
      rw [passes.requests_eq, Client.serves_append]
      refine ⟨ih, ?_⟩
      cases asks : stage.request? with
      | none => trivial
      | some request => exact ⟨passes.not_fails asks, trivial⟩

end Stage

/-! ## Roots of the API -/

/-- An uplift depends on the root of the API only up to slashes at its end. -/
theorem upliftPlatform_congr (transport : Transport) {one other : String}
    (same : Project.trimBase one = Project.trimBase other) (policy : Policy) :
    upliftPlatform ⟨transport, one⟩ policy = upliftPlatform ⟨transport, other⟩ policy := by
  have endpoint (project : Project) : project.endpoint one = project.endpoint other := by
    rw [Project.endpoint, same, Project.endpoint]
  have release (project : Project) :
      Client.latestRelease ⟨transport, one⟩ project =
        Client.latestRelease ⟨transport, other⟩ project := by
    simp only [Client.latestRelease, Project.releasesUrl, endpoint, Client.download]
  have run (project : Project) (workflow : String) :
      Client.latestRun ⟨transport, one⟩ project workflow =
        Client.latestRun ⟨transport, other⟩ project workflow := by
    simp only [Client.latestRun, Project.successfulRunsUrl, endpoint, Client.download]
  have artifact (project : Project) (name : String) :
      Client.artifactUrl ⟨transport, one⟩ project name =
        Client.artifactUrl ⟨transport, other⟩ project name := by
    simp only [Client.artifactUrl, Project.artifactsUrl, endpoint, Client.download]
  have scan (assets : List Asset) :
      findIgcVersion ⟨transport, one⟩ assets = findIgcVersion ⟨transport, other⟩ assets := by
    induction assets with
    | nil => rfl
    | cons asset rest ih => simp only [findIgcVersion, Client.download, ih]
  simp only [upliftPlatform, upliftIgc, upliftIgcDev, release, run, artifact, scan]

/-! ## The requests that are made -/

/--
An uplift that succeeds makes the requests of its itinerary.  One that fails makes
the first few of them: either the last one fails and all others are served, or all
listings were read and none names a version under the strict policy.  Slashes at
the end of the API root change nothing.
-/
theorem upliftPlatform_requests (client : Client) (policy : Policy) (trace : Trace) :
    (∃ made : List Request,
      ((upliftPlatform client policy).after trace).2.requests =
          client.asked trace.requests made ∧
        made <+: itinerary client trace.requests ∧
        match ((upliftPlatform client policy).after trace).1 with
        | .ok () => made = itinerary client trace.requests ∧ client.Serves trace.requests made
        | .error failure =>
            (∃ served last, made = served ++ [last] ∧ client.Serves trace.requests served ∧
                last.Fails client (client.asked trace.requests served) failure) ∨
              (policy = .strict ∧ client.Serves trace.requests made ∧
                ∃ release, Stage.ReadInVain client trace.requests release (listings release) [] ∧
                  made = scanRequests (listings release) ∧
                  failure = .igcVersionNotFound release.tag)) ∧
      ∀ count, (upliftPlatform
          { client with apiBase := client.apiBase ++ String.ofList (List.replicate count '/') }
          policy).after trace = (upliftPlatform client policy).after trace := by
  refine ⟨?_, fun count => ?_⟩
  · obtain ⟨last, reached, ends⟩ := upliftPlatform_ends client policy trace
    -- The requests before the last stage and those ahead of it make up the itinerary.
    have whole := Stage.requests_append_ahead reached
    have served := Stage.serves_requests reached
    generalize (upliftPlatform client policy).after trace = ending at ends ⊢
    cases ends with
    | done isDone stands =>
        refine ⟨last.requests, stands.requests, ⟨_, whole⟩, ?_, served⟩
        cases last with
        | done scan run url compiler loader => rw [← whole, Stage.ahead, List.append_nil]
        | _ => cases isDone
    | halted halts requests edits =>
        cases halts with
        | @failed _ request failure asks fails =>
            obtain ⟨rest, ahead⟩ := Stage.exists_ahead_eq client trace.requests asks
            refine ⟨last.requests ++ [request], ?_, ⟨rest, ?_⟩, .inl ⟨_, _, rfl, served, fails⟩⟩
            · rw [requests, Stage.urls, asks, Client.asked_append]
              rfl
            · rw [List.append_assoc, ← whole, ahead]
              rfl
        | @missed release read strict =>
            have vain := Stage.readInVain_of_reached reached
            obtain rfl : listings release = read := vain.split.trans (List.append_nil read)
            refine ⟨scanRequests (listings release), ?_, ⟨_, whole⟩,
              .inr ⟨strict, served, release, vain, rfl, rfl⟩⟩
            rw [requests]
            exact List.append_nil _
  · rw [upliftPlatform_congr client.transport (Project.trimBase_slashes client.apiBase count)]

end DriverUplift.Uplift
