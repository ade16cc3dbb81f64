import DriverUplift.Proofs.Uplift.Stage
import DriverUplift.Proofs.Uplift.Steps

/-!
# The course of an uplift

An uplift goes from stage to stage: what is left to be done at one stage comes to
the same as what is left at the next.  It succeeds at the last stage and fails
where it halts, and its trace then holds the requests and the edits of the stages
before.
-/

namespace DriverUplift.Uplift

open Github (Asset Client Release Request WorkflowRun)

/-! ## What is left to be done -/

def settle (release : Release) (policy : Policy) : Option String → Session Unit
  | some version => do
      Session.edit (igcEdits version)
      Session.say .info ("igc: " ++ version)
  | none =>
      match policy with
      | .lenient =>
          Session.say .warn ("No IGC version found in compute-runtime " ++ release.tag ++
            " checksums, igc left unchanged")
      | .strict => throw (.igcVersionNotFound release.tag)

theorem upliftIgc_eq (client : Client) (release : Release) (policy : Policy) :
    upliftIgc client release policy =
      findIgcVersion client (listings release) >>= settle release policy := by
  unfold upliftIgc
  congr 1

def linkBuild (client : Client) (run : WorkflowRun) : Session Unit := do
  let url ← client.artifactUrl .graphicsCompiler (Tag.artifactName (Tag.shortSha run.sha))
  Session.edit [⟨.igcDev, .url, url⟩]
  Session.say .info ("igc-dev: " ++ Tag.shortSha run.sha)

def upliftLoader (client : Client) : Session Unit := do
  let _ ← upliftRelease client .levelZero levelZeroEdits "level-zero: "
  pure ()

def upliftCompiler (client : Client) : Session Unit := do
  let _ ← upliftRelease client .cmCompiler cmEdits "cm-compiler: "
  upliftLoader client

def Stage.rest (client : Client) (policy : Policy) : Stage → Session Unit
  | computeRuntime => upliftPlatform client policy
  | checksums release _ left => do
      findIgcVersion client left >>= settle release policy
      upliftIgcDev client
      upliftCompiler client
  | nightly _ => do
      upliftIgcDev client
      upliftCompiler client
  | artifact _ run => do
      linkBuild client run
      upliftCompiler client
  | cm _ _ _ => upliftCompiler client
  | levelZero _ _ _ _ => upliftLoader client
  | done _ _ _ _ _ => pure ()

/-! ## One request at a time -/

variable {client : Client} {policy : Policy} {trace start : Trace} {stage next : Stage}

/-- After some requests and edits a session does what another one does. -/
def GoesOn {α : Type} (session : Session α) (trace : Trace) (urls : List String)
    (edits : List Edit) (rest : Session α) : Prop :=
  ∃ between, session.after trace = rest.after between ∧
    between.requests = trace.requests ++ urls ∧ between.edits = trace.edits ++ edits

section GoesOn

variable {α β : Type} {session rest : Session α} {urls : List String} {edits : List Edit}

theorem GoesOn.bind (goesOn : GoesOn session trace urls edits rest) (next : α → Session β) :
    GoesOn (session >>= next) trace urls edits (rest >>= next) := by
  obtain ⟨between, same, requests, edited⟩ := goesOn
  exact ⟨between, by rw [Session.after_bind, Session.after_bind, same], requests, edited⟩

theorem GoesOn.bind_pure {value : α} (goesOn : GoesOn session trace urls edits (pure value))
    (next : α → Session β) : GoesOn (session >>= next) trace urls edits (next value) :=
  pure_bind value next ▸ goesOn.bind next

theorem GoesOn.bind_throw {failure : Failure}
    (goesOn : GoesOn session trace urls edits (throw failure)) (next : α → Session β) :
    GoesOn (session >>= next) trace urls edits (throw failure) :=
  goesOn.bind next

theorem GoesOn.trans {last : Session α} {moreUrls : List String} {moreEdits : List Edit}
    (goesOn : GoesOn session trace urls edits rest)
    (further : ∀ between, GoesOn rest between moreUrls moreEdits last) :
    GoesOn session trace (urls ++ moreUrls) (edits ++ moreEdits) last := by
  obtain ⟨between, same, requests, edited⟩ := goesOn
  obtain ⟨final, sameLast, moreRequests, moreEdited⟩ := further between
  refine ⟨final, same.trans sameLast, ?_, ?_⟩
  · rw [moreRequests, requests, List.append_assoc]
  · rw [moreEdited, edited, List.append_assoc]

end GoesOn

section Lookup

variable {α : Type} {url : String} {read : String → Except Failure α}

theorem lookup_goesOn {value : α} (found : client.consult trace.requests url read = .ok value) :
    GoesOn (client.download url >>= fun body => Session.ofExcept (read body)) trace [url] []
      (pure value) := by
  rw [GoesOn, Client.after_lookup, found]
  exact ⟨_, rfl, rfl, (List.append_nil _).symm⟩

theorem lookup_fails {failure : Failure}
    (failed : client.consult trace.requests url read = .error failure) :
    GoesOn (client.download url >>= fun body => Session.ofExcept (read body)) trace [url] []
      (throw failure) := by
  rw [GoesOn, Client.after_lookup, failed]
  exact ⟨_, rfl, rfl, (List.append_nil _).symm⟩

end Lookup

theorem announce_goesOn (edits : List Edit) (message : String) (trace : Trace) :
    GoesOn (do Session.edit edits; Session.say .info message) trace [] edits (pure ()) :=
  ⟨_, rfl, (List.append_nil _).symm, rfl⟩

theorem upliftRelease_goesOn {project : Project} {release : Release}
    (found : client.releaseAfter trace.requests project = .ok release)
    (edits : String → List Edit) (label : String) :
    GoesOn (upliftRelease client project edits label) trace [project.releasesUrl client.apiBase]
      (edits release.tag) (pure release) := by
  have announced (between : Trace) :=
    (announce_goesOn (edits release.tag) (label ++ release.tag) between).bind_pure
      fun _ => (pure release : Session Release)
  simp only [bind_assoc] at announced
  exact ((lookup_goesOn found).bind_pure _).trans announced

/-- The first listing decides, or the scan goes on with those that are left. -/
theorem findIgcVersion_goesOn (client : Client) (asset : Asset) (left : List Asset)
    (trace : Trace) :
    GoesOn (findIgcVersion client (asset :: left)) trace [asset.url] []
      (match client.transport.answer trace.requests asset.url with
        | .error failure => throw failure
        | .ok listing =>
            match Checksums.igcVersion? listing with
            | some version => pure (some version)
            | none => findIgcVersion client left) := by
  rw [findIgcVersion, GoesOn, Session.after_bind, Session.say, Session.after_report]
  dsimp only
  rw [Session.after_bind, Client.download, Session.after_fetch]
  cases client.transport.answer trace.requests asset.url <;>
    exact ⟨_, rfl, rfl, (List.append_nil _).symm⟩

theorem settle_none_goesOn (release : Release) (trace : Trace) :
    GoesOn (settle release .lenient none) trace [] [] (pure ()) :=
  ⟨_, rfl, (List.append_nil _).symm, (List.append_nil _).symm⟩

theorem checkTimestamp_goesOn (run : WorkflowRun) (trace : Trace) :
    GoesOn (checkTimestamp run) trace [] [] (pure ()) := by
  unfold checkTimestamp
  split <;> exact ⟨_, rfl, (List.append_nil _).symm, (List.append_nil _).symm⟩

theorem linkBuild_goesOn {run : WorkflowRun} {url : String}
    (found : client.artifactAfter trace.requests .graphicsCompiler
      (Tag.artifactName (Tag.shortSha run.sha)) = .ok url) :
    GoesOn (linkBuild client run) trace [(artifactRequest run).url client.apiBase]
      [⟨.igcDev, .url, url⟩] (pure ()) :=
  ((lookup_goesOn found).bind_pure _).trans (announce_goesOn _ _)

theorem recordBuild_goesOn (client : Client) (run : WorkflowRun) (trace : Trace) :
    GoesOn (recordBuild client run) trace [] (igcDevEdits (Tag.shortSha run.sha) run.updatedAt)
      (linkBuild client run) :=
  ⟨_, rfl, (List.append_nil _).symm, rfl⟩

theorem upliftIgcDev_goesOn {run : WorkflowRun}
    (found : client.runAfter trace.requests .graphicsCompiler Project.nightlyWorkflow = .ok run) :
    GoesOn (upliftIgcDev client) trace [nightlyRequest.url client.apiBase]
      (igcDevEdits (Tag.shortSha run.sha) run.updatedAt) (linkBuild client run) := by
  have checked (between : Trace) :
      GoesOn (do checkTimestamp run; recordBuild client run) between []
        (igcDevEdits (Tag.shortSha run.sha) run.updatedAt) (linkBuild client run) :=
    ((checkTimestamp_goesOn run between).bind_pure _).trans (recordBuild_goesOn client run)
  rw [upliftIgcDev_eq]
  exact ((lookup_goesOn found).bind_pure _).trans checked

/-! ## From stage to stage -/

namespace Stage

def urls (client : Client) (stage : Stage) : List String :=
  stage.request?.toList.map (·.url client.apiBase)

/-- What is left to be done at a stage that is passed is what is left to be done at the next. -/
theorem Passes.goesOn {before : List String} (passes : Passes client policy before stage next)
    (history : trace.requests = stage.asked client before) :
    ∃ edits, next.edits = stage.edits ++ edits ∧
      GoesOn (stage.rest client policy) trace (stage.urls client) edits
        (next.rest client policy) := by
  -- In each case the answer was given after the requests before the stage, which are those of
  -- the trace.
  cases passes with
  | computeRuntime found =>
      rw [← history] at found
      refine ⟨_, rfl, ?_⟩
      rw [rest, upliftPlatform_eq]
      exact (upliftRelease_goesOn found computeRuntimeEdits "compute-runtime: ").bind_pure _
  | @named release read left asset listing version answered named =>
      rw [← history] at answered
      have scanned := findIgcVersion_goesOn client asset left trace
      simp only [answered, named] at scanned
      have settled := (scanned.bind_pure (settle release policy)).trans
        (announce_goesOn (igcEdits version) ("igc: " ++ version))
      refine ⟨igcEdits version, ?_, settled.bind_pure _⟩
      simp [edits, Scan.edits]
  | @unnamed release read left asset listing answered named =>
      rw [← history] at answered
      have scanned := findIgcVersion_goesOn client asset left trace
      simp only [answered, named] at scanned
      exact ⟨[], (List.append_nil _).symm, (scanned.bind _).bind _⟩
  | missed lenient =>
      subst lenient
      refine ⟨[], ?_, ?_⟩
      · simp [edits, Scan.edits]
      · exact (settle_none_goesOn _ trace).bind_pure _
  | nightly found =>
      rw [← history] at found
      exact ⟨_, rfl, (upliftIgcDev_goesOn found).bind _⟩
  | artifact found =>
      rw [← history] at found
      exact ⟨_, rfl, (linkBuild_goesOn found).bind_pure _⟩
  | cm found =>
      rw [← history] at found
      exact ⟨_, rfl, (upliftRelease_goesOn found cmEdits "cm-compiler: ").bind_pure _⟩
  | levelZero found =>
      rw [← history] at found
      exact ⟨_, rfl, (upliftRelease_goesOn found levelZeroEdits "level-zero: ").bind_pure _⟩

/-- At a stage that halts, what is left to be done is to fail. -/
theorem Halts.goesOn {before : List String} {failure : Failure}
    (halts : Halts client policy before stage failure)
    (history : trace.requests = stage.asked client before) :
    GoesOn (stage.rest client policy) trace (stage.urls client) [] (throw failure) := by
  cases halts with
  | missed strict =>
      subst strict
      exact ⟨trace, rfl, (List.append_nil _).symm, (List.append_nil _).symm⟩
  | failed asks fails =>
      rw [← history] at fails
      cases stage with
      | computeRuntime =>
          obtain rfl := Option.some.inj asks
          rw [rest, upliftPlatform_eq]
          exact ((lookup_fails (Request.fails_releases_iff.mp fails)).bind_throw _).bind_throw _
      | checksums release read left =>
          cases left with
          | nil => cases asks
          | cons asset left =>
              obtain rfl := Option.some.inj asks
              have scanned := findIgcVersion_goesOn client asset left trace
              simp only [Request.fails_download_iff.mp fails] at scanned
              exact (scanned.bind_throw _).bind_throw _
      | nightly scan =>
          obtain rfl := Option.some.inj asks
          exact ((lookup_fails (Request.fails_runs_iff.mp fails)).bind_throw _).bind_throw _
      | artifact scan run =>
          obtain rfl := Option.some.inj asks
          exact ((lookup_fails (Request.fails_artifacts_iff.mp fails)).bind_throw _).bind_throw _
      | cm scan run url =>
          obtain rfl := Option.some.inj asks
          exact ((lookup_fails (Request.fails_releases_iff.mp fails)).bind_throw _).bind_throw _
      | levelZero scan run url compiler =>
          obtain rfl := Option.some.inj asks
          exact ((lookup_fails (Request.fails_releases_iff.mp fails)).bind_throw _).bind_throw _
      | done scan run url compiler loader => cases asks

/-! ## The whole course -/

/-- The trace holds what was asked and edited before a stage. -/
structure Stands (client : Client) (start : Trace) (stage : Stage) (trace : Trace) : Prop where
  requests : trace.requests = stage.asked client start.requests
  edits : trace.edits = start.edits ++ stage.edits

theorem stands_computeRuntime (client : Client) (start : Trace) :
    Stands client start computeRuntime start where
  requests := (client.asked_nil start.requests).symm
  edits := (List.append_nil start.edits).symm

inductive Ends (client : Client) (policy : Policy) (start : Trace) (last : Stage) :
    Except Failure Unit × Trace → Prop where
  | done {final : Trace} : last.isDone = true → Stands client start last final →
      Ends client policy start last (.ok (), final)
  | halted {failure : Failure} {final : Trace} :
      Halts client policy start.requests last failure →
        final.requests = last.asked client start.requests ++ last.urls client →
          final.edits = start.edits ++ last.edits →
            Ends client policy start last (.error failure, final)

/-- What is left to be done stays the same along the way. -/
theorem exists_after_rest {last : Stage}
    (reached : Relation.ReflTransGen (Passes client policy start.requests) stage last)
    (stands : Stands client start stage trace) :
    ∃ between, Stands client start last between ∧
      (stage.rest client policy).after trace = (last.rest client policy).after between := by
  induction reached with
  | refl => exact ⟨trace, stands, rfl⟩
  | @tail middle last _ passes ih =>
      obtain ⟨between, stands, same⟩ := ih
      obtain ⟨edits, editsNext, after, sameNext, requests, edited⟩ := passes.goesOn stands.requests
      refine ⟨after, ⟨?_, ?_⟩, same.trans sameNext⟩
      · rw [requests, stands.requests, passes.asked_eq, Client.asked, urls]
      · rw [edited, stands.edits, editsNext, List.append_assoc]

theorem after_rest_of_done {last : Stage}
    (reached : Relation.ReflTransGen (Passes client policy start.requests) stage last)
    (stands : Stands client start stage trace) (isDone : last.isDone = true) :
    ∃ final, (stage.rest client policy).after trace = (.ok (), final) ∧
      Stands client start last final := by
  obtain ⟨between, stands, same⟩ := exists_after_rest reached stands
  cases last with
  | done scan run url compiler loader => exact ⟨between, same, stands⟩
  | _ => cases isDone

theorem after_rest_of_halts {last : Stage} {failure : Failure}
    (reached : Relation.ReflTransGen (Passes client policy start.requests) stage last)
    (stands : Stands client start stage trace)
    (halts : Halts client policy start.requests last failure) :
    ∃ final, (stage.rest client policy).after trace = (.error failure, final) ∧
      final.requests = last.asked client start.requests ++ last.urls client ∧
      final.edits = start.edits ++ last.edits := by
  obtain ⟨between, stands, same⟩ := exists_after_rest reached stands
  obtain ⟨final, failed, requests, edits⟩ := halts.goesOn stands.requests
  refine ⟨final, same.trans failed, ?_, ?_⟩
  · rw [requests, stands.requests]
  · rw [edits, stands.edits, List.append_nil]

/-- From every stage an uplift ends where its stages end. -/
theorem exists_ends (policy : Policy) (stands : Stands client start stage trace) :
    ∃ last, Relation.ReflTransGen (Passes client policy start.requests) stage last ∧
      Ends client policy start last ((stage.rest client policy).after trace) := by
  obtain ⟨last, reached, isDone | ⟨failure, halts⟩⟩ :=
    exists_last client policy start.requests stage
  · obtain ⟨final, succeeded, stands⟩ := after_rest_of_done reached stands isDone
    exact ⟨last, reached, succeeded ▸ .done isDone stands⟩
  · obtain ⟨final, failed, requests, edits⟩ := after_rest_of_halts reached stands halts
    exact ⟨last, reached, failed ▸ .halted halts requests edits⟩

end Stage

/-- An uplift that comes to a stage ends there or further on. -/
theorem upliftPlatform_ends_of_reached {start : Trace} {stage : Stage}
    (reached : Stage.Reached client policy start.requests stage) :
    ∃ last, Relation.ReflTransGen (Stage.Passes client policy start.requests) stage last ∧
      Stage.Ends client policy start last ((upliftPlatform client policy).after start) := by
  obtain ⟨between, stands, same⟩ :=
    Stage.exists_after_rest reached (Stage.stands_computeRuntime client start)
  obtain ⟨last, onward, ends⟩ := Stage.exists_ends policy stands
  exact ⟨last, onward, same ▸ ends⟩

/-- An uplift ends where its stages end. -/
theorem upliftPlatform_ends (client : Client) (policy : Policy) (start : Trace) :
    ∃ last, Stage.Reached client policy start.requests last ∧
      Stage.Ends client policy start last ((upliftPlatform client policy).after start) :=
  upliftPlatform_ends_of_reached .refl

end DriverUplift.Uplift
