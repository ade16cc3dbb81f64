import DriverUplift.Proofs.Github.Parts
import DriverUplift.Proofs.Uplift.Independence

/-!
# Runs over answers with the same parts

Two clients whose answers differ in nothing that an uplift takes from them lead it through
the same stages, up to things that it does not look at.  So the runs ask for the same
addresses and have the same result.  The time of the nightly build is copied and never
looked at: if it differs, the files differ there and nowhere else.
-/

namespace DriverUplift

def Platform.timed (platform : Platform) (time : String) : Platform :=
  { platform with igcDev := { platform.igcDev with updatedAt := .text time } }

namespace Uplift

open Github (Artifact Asset Client Release Request WorkflowRun)

/-! ## Stages that differ in what is not looked at -/

/-- The releases have the same tag, and their listings were read with the same outcome. -/
structure SameScan (one other : Scan) : Prop where
  tag : one.release.tag = other.release.tag
  read : one.read = other.read
  igcVersion : one.igcVersion? = other.igcVersion?

/-- Two stages hold the same releases and the same build as far as it counts. -/
inductive Kin (timed : Bool) : Stage → Stage → Prop where
  | computeRuntime : Kin timed .computeRuntime .computeRuntime
  | checksums {release next : Release} {read left : List Asset} :
      release.tag = next.tag →
        Kin timed (.checksums release read left) (.checksums next read left)
  | nightly {scan next : Scan} : SameScan scan next → Kin timed (.nightly scan) (.nightly next)
  | artifact {scan next : Scan} {run nextRun : WorkflowRun} :
      SameScan scan next → run.Same timed nextRun →
        Kin timed (.artifact scan run) (.artifact next nextRun)
  | cm {scan next : Scan} {run nextRun : WorkflowRun} {url : String} :
      SameScan scan next → run.Same timed nextRun →
        Kin timed (.cm scan run url) (.cm next nextRun url)
  | levelZero {scan next : Scan} {run nextRun : WorkflowRun} {url : String}
      {compiler nextCompiler : Release} :
      SameScan scan next → run.Same timed nextRun → compiler.tag = nextCompiler.tag →
        Kin timed (.levelZero scan run url compiler) (.levelZero next nextRun url nextCompiler)
  | done {scan next : Scan} {run nextRun : WorkflowRun} {url : String}
      {compiler nextCompiler loader nextLoader : Release} :
      SameScan scan next → run.Same timed nextRun → compiler.tag = nextCompiler.tag →
        loader.tag = nextLoader.tag →
          Kin timed (.done scan run url compiler loader)
            (.done next nextRun url nextCompiler nextLoader)

namespace Kin

variable {timed : Bool} {one two : Client} {policy : Policy} {before : List String}
  {stage other next : Stage} {failure : Failure}

theorem artifactRequest_eq {run nextRun : WorkflowRun} (same : run.Same timed nextRun) :
    artifactRequest run = artifactRequest nextRun := by
  rw [artifactRequest, artifactRequest, same.sha]

theorem request?_eq (kin : Kin timed stage other) : stage.request? = other.request? := by
  cases kin with
  | artifact _ same => exact congrArg some (artifactRequest_eq same)
  | @checksums _ _ _ left _ => cases left <;> rfl
  | _ => rfl

theorem requests_eq (kin : Kin timed stage other) : stage.requests = other.requests := by
  cases kin with
  | computeRuntime | checksums _ => rfl
  | nightly same | artifact same _ => simp only [Stage.requests, same.read]
  | cm same run | levelZero same run _ | done same run _ _ =>
      simp only [Stage.requests, same.read, artifactRequest_eq run]

theorem isDone_eq (kin : Kin timed stage other) : stage.isDone = other.isDone := by
  cases kin <;> rfl

/-- In the end the platforms are the same but for the time of the nightly compiler. -/
theorem platform_eq (kin : Kin timed stage other) (isDone : stage.isDone = true)
    (start : Platform) :
    ∃ time, other.platform start = (stage.platform start).timed time ∧
      (timed = true → other.platform start = stage.platform start) := by
  cases kin with
  | @done scan next run nextRun url compiler nextCompiler loader nextLoader same sameRun cm zero =>
      have differs : (Stage.done next nextRun url nextCompiler nextLoader).platform start =
          ((Stage.done scan run url compiler loader).platform start).timed nextRun.updatedAt := by
        obtain ⟨release, read, igcVersion?⟩ := scan
        obtain ⟨nextRelease, nextRead, nextVersion?⟩ := next
        obtain ⟨tag, rfl, rfl⟩ := same
        dsimp only at tag
        simp only [Stage.platform, withCompiler, Scan.platform, withRuntime, shortOf,
          Platform.timed, tag, cm, zero, sameRun.sha]
        rfl
      refine ⟨nextRun.updatedAt, differs, fun counts => ?_⟩
      rw [differs, ← sameRun.updatedAt counts]
      rfl
  | _ => cases isDone

variable (base : one.apiBase = two.apiBase)

include base

theorem asked_eq (kin : Kin timed stage other) :
    stage.asked one before = other.asked two before := by
  rw [Stage.asked, Stage.asked, Client.asked, Client.asked, base, kin.requests_eq]

theorem urls_eq (kin : Kin timed stage other) : stage.urls one = other.urls two := by
  rw [Stage.urls, Stage.urls, base, kin.request?_eq]

/-- Where the same answers pass one stage they pass the other, to stages that are alike again. -/
theorem passes (kin : Kin timed stage other) (passes : Stage.Passes one policy before stage next)
    (answers : ∀ request, stage.request? = some request →
      one.SameFor timed two (stage.asked one before) request) :
    ∃ otherNext, Stage.Passes two policy before other otherNext ∧ Kin timed next otherNext := by
  -- Answers may depend on what was asked before, which is the same for both clients.
  have history : stage.asked one before = other.asked two before := kin.asked_eq base
  cases passes with
  | computeRuntime found =>
      obtain ⟨release, found, same⟩ :=
        (Client.releaseAfter_agree base (answers _ rfl)).exists_ok found
      cases kin
      rw [history] at found
      refine ⟨_, .computeRuntime found, ?_⟩
      rw [listings, same.listings rfl]
      exact .checksums same.tag
  | named answered named =>
      rw [Client.download_eq (answers _ rfl)] at answered
      cases kin with
      | checksums tag =>
          rw [history] at answered
          exact ⟨_, .named answered named, .nightly ⟨tag, rfl, rfl⟩⟩
  | unnamed answered unnamed =>
      rw [Client.download_eq (answers _ rfl)] at answered
      cases kin with
      | checksums tag =>
          rw [history] at answered
          exact ⟨_, .unnamed answered unnamed, .checksums tag⟩
  | missed lenient =>
      cases kin with
      | checksums tag => exact ⟨_, .missed lenient, .nightly ⟨tag, rfl, rfl⟩⟩
  | nightly found =>
      obtain ⟨run, found, same⟩ := (Client.runAfter_agree base (answers _ rfl)).exists_ok found
      cases kin with
      | nightly scan =>
          rw [history] at found
          exact ⟨_, .nightly found, .artifact scan same⟩
  | artifact found =>
      obtain ⟨url, found, rfl⟩ :=
        (Client.artifactAfter_agree base (answers _ rfl)).exists_ok found
      cases kin with
      | artifact scan run =>
          rw [history, run.sha] at found
          exact ⟨_, .artifact found, .cm scan run⟩
  | cm found =>
      obtain ⟨release, found, same⟩ :=
        (Client.releaseAfter_agree base (answers _ rfl)).exists_ok found
      cases kin with
      | cm scan run =>
          rw [history] at found
          exact ⟨_, .cm found, .levelZero scan run same.tag⟩
  | levelZero found =>
      obtain ⟨release, found, same⟩ :=
        (Client.releaseAfter_agree base (answers _ rfl)).exists_ok found
      cases kin with
      | levelZero scan run compiler =>
          rw [history] at found
          exact ⟨_, .levelZero found, .done scan run compiler same.tag⟩

/-- Where the same answers halt one stage they halt the other with the same failure. -/
theorem halts (kin : Kin timed stage other) (halts : Stage.Halts one policy before stage failure)
    (answers : ∀ request, stage.request? = some request →
      one.SameFor timed two (stage.asked one before) request) :
    Stage.Halts two policy before other failure := by
  cases halts with
  | failed asks fails =>
      have fails := fails.of_sameFor base (answers _ asks)
      rw [kin.asked_eq base] at fails
      exact .failed (kin.request?_eq ▸ asks) fails
  | missed strict =>
      cases kin with
      | checksums tag =>
          rw [tag]
          exact .missed strict

end Kin

/-! ## Two clients with the same answers -/

/-- At every stage to which the first client leads an uplift, both get answers with the same parts. -/
structure SameAnswers (timed : Bool) (one two : Client) (policy : Policy)
    (before : List String) : Prop where
  base : one.apiBase = two.apiBase
  answers : ∀ stage request, Stage.Reached one policy before stage →
    stage.request? = some request → one.SameFor timed two (stage.asked one before) request

variable {timed : Bool} {one two : Client} {policy : Policy}

/-- The second client leads an uplift to a stage like every one to which the first one leads it. -/
theorem SameAnswers.reached {before : List String} {stage : Stage}
    (same : SameAnswers timed one two policy before)
    (reached : Stage.Reached one policy before stage) :
    ∃ other, Stage.Reached two policy before other ∧ Kin timed stage other := by
  induction reached with
  | refl => exact ⟨.computeRuntime, .refl, .computeRuntime⟩
  | @tail middle last reached passes ih =>
      obtain ⟨other, reachedOther, kin⟩ := ih
      obtain ⟨next, passesOther, kinNext⟩ :=
        kin.passes same.base passes fun request => same.answers middle request reached
      exact ⟨next, reachedOther.tail passesOther, kinNext⟩

/-- Both uplifts end alike, at stages that are alike. -/
theorem SameAnswers.ends {start : Trace} (same : SameAnswers timed one two policy start.requests) :
    ∃ last other, Kin timed last other ∧
      Stage.Ends one policy start last ((upliftPlatform one policy).after start) ∧
      Stage.Ends two policy start other ((upliftPlatform two policy).after start) ∧
      ((upliftPlatform one policy).after start).1 = ((upliftPlatform two policy).after start).1 ∧
      ((upliftPlatform one policy).after start).2.requests =
        ((upliftPlatform two policy).after start).2.requests := by
  obtain ⟨last, reached, ends⟩ := upliftPlatform_ends one policy start
  obtain ⟨other, reachedOther, kin⟩ := same.reached reached
  have begins := Stage.stands_computeRuntime two start
  refine ⟨last, other, kin, ends, ?_⟩
  generalize (upliftPlatform one policy).after start = ending at ends
  cases ends with
  | done isDone stands =>
      rw [kin.isDone_eq] at isDone
      obtain ⟨final, succeeded, standsOther⟩ :=
        Stage.after_rest_of_done reachedOther begins isDone
      rw [Stage.rest] at succeeded
      rw [succeeded]
      refine ⟨.done isDone standsOther, rfl, ?_⟩
      rw [stands.requests, standsOther.requests, kin.asked_eq same.base]
  | halted halts requests edits =>
      have haltsOther := kin.halts same.base halts fun request => same.answers last request reached
      obtain ⟨final, failed, requestsOther, editsOther⟩ :=
        Stage.after_rest_of_halts reachedOther begins haltsOther
      rw [Stage.rest] at failed
      rw [failed]
      refine ⟨.halted haltsOther requestsOther editsOther, rfl, ?_⟩
      rw [requests, requestsOther, kin.asked_eq same.base, kin.urls_eq same.base]

/-- If both uplifts succeed, the platforms are the same but for the time. -/
theorem SameAnswers.revise_eq {start trace otherTrace : Trace} (fresh : start.edits = [])
    (same : SameAnswers timed one two policy start.requests)
    (ok : (upliftPlatform one policy).after start = (.ok (), trace))
    (otherOk : (upliftPlatform two policy).after start = (.ok (), otherTrace))
    (before : Platform) :
    ∃ time, before.revise otherTrace.edits = (before.revise trace.edits).timed time ∧
      (timed = true → before.revise otherTrace.edits = before.revise trace.edits) := by
  obtain ⟨last, other, kin, ends, otherEnds, _⟩ := same.ends
  have revised := ends.revise_eq before
  have otherRevised := otherEnds.revise_eq before
  rw [ok, fresh] at revised
  rw [otherOk, fresh] at otherRevised
  rw [revised, otherRevised]
  rw [ok] at ends
  cases ends with
  | done isDone _ => exact kin.platform_eq isDone _

/-! ## Two runs -/

/--
Runs whose answers have the same parts have the same result, ask for the same addresses,
and write the same manifest but for the time of the nightly compiler.  If the time counts
as a part, they leave the same disk.
-/
theorem run_sameAnswers {config : Config}
    (same : SameAnswers timed one two config.policy []) (disk : Disk) :
    (run one config disk).result = (run two config disk).result ∧
      (run one config disk).trace.requests = (run two config disk).trace.requests ∧
      (timed = true → (run one config disk).disk = (run two config disk).disk) ∧
      (∀ failure, (run one config disk).result = .error failure →
        (run one config disk).disk = disk ∧ (run two config disk).disk = disk) ∧
      ∀ version, (run one config disk).result = .ok version →
        ∃ (manifest : Manifest) (before after : Platform) (time : String),
          prepare config (disk.read config.manifestPath) = .ok (manifest, before) ∧
          disk.write config.manifestPath
              (.text (manifest.withPlatform config.platform after).render) =
            .ok (run one config disk).disk ∧
          disk.write config.manifestPath
              (.text (manifest.withPlatform config.platform (after.timed time)).render) =
            .ok (run two config disk).disk := by
  obtain ⟨_, _, _, _, _, results, requests⟩ := @SameAnswers.ends timed one two config.policy
    (beginning config) same
  rcases prepared : prepare config (disk.read config.manifestPath) with failure | ⟨manifest, before⟩
  · rw [run_of_prepare_error prepared, run_of_prepare_error prepared]
    refine ⟨rfl, rfl, fun _ => rfl, fun _ _ => ⟨rfl, rfl⟩, ?_⟩
    intro version ok
    cases ok
  rcases uplifted : (upliftPlatform one config.policy).after (beginning config) with ⟨result, trace⟩
  rcases otherUplifted : (upliftPlatform two config.policy).after (beginning config) with
    ⟨otherResult, otherTrace⟩
  rw [uplifted, otherUplifted] at results requests
  obtain rfl : result = otherResult := results
  cases result with
  | error failure =>
      rw [run_of_uplift_error prepared uplifted, run_of_uplift_error prepared otherUplifted]
      refine ⟨rfl, requests, fun _ => rfl, fun _ _ => ⟨rfl, rfl⟩, ?_⟩
      intro version ok
      cases ok
  | ok done =>
      obtain ⟨text, read, parsed, decoded⟩ := prepare_eq_ok_iff.mp prepared
      let left : Completion one config disk :=
        ⟨text, manifest, before, trace, read, parsed, decoded, uplifted⟩
      let right : Completion two config disk :=
        ⟨text, manifest, before, otherTrace, read, parsed, decoded, otherUplifted⟩
      obtain ⟨time, differ, alike⟩ : ∃ time, right.revised = left.revised.timed time ∧
          (timed = true → right.revised = left.revised) :=
        SameAnswers.revise_eq rfl same uplifted otherUplifted before
      have versions : right.version = left.version := by
        rw [Completion.version, Completion.version, differ]
        rfl
      -- Only this write tells the runs apart, and only by the time.
      have wrote := right.write_eq
      rw [left.run_eq, right.run_eq, versions]
      refine ⟨rfl, requests, ?_, ?_, ?_⟩
      · intro counts
        rw [Completion.result, alike counts] at wrote
        exact Except.ok.inj (left.write_eq.symm.trans wrote)
      · intro failure failed
        cases failed
      · intro version _
        rw [Completion.result, differ] at wrote
        exact ⟨manifest, before, left.revised, time, rfl, left.write_eq, wrote⟩

namespace Sample

def releases : String :=
  "[\x7b\"tag_name\":\"v2\",\"assets\":" ++
    "[\x7b\"name\":\"a.sum\",\"browser_download_url\":\"sum\"\x7d]\x7d]"

def runs : String :=
  "\x7b\"workflow_runs\":[\x7b\"head_sha\":\"0123456789\",\"updated_at\":\"today\"\x7d]\x7d"

def artifacts : String :=
  "\x7b\"artifacts\":[\x7b\"name\":\"IGC_Ubuntu22.04_llvm14_clang-0123456\"," ++
    "\"archive_download_url\":\"zip\"\x7d]\x7d"

def moreReleases : String :=
  " [\x7b\"id\":1, \"tag_name\":\"v2\",\"assets\":" ++
    "[[\"b\",\"b\"],[\"a.sum\",\"sum\"]]\x7d,[\"v1\"]]"

def moreRuns : String :=
  "\x7b\"workflow_runs\":[[\"0123456789\",\"2024-05-01T12:00:00Z\"],[\"abc\",\"\"]]\x7d "

def moreArtifacts : String :=
  "[[[\"IGC\",\"\"],[\"IGC_Ubuntu22.04_llvm14_clang-0123456\",\"zip\"]," ++
    "[\"IGC_Ubuntu22.04_llvm14_clang-0123456\",\"\"]]]"

/-- A body with more in it, of which nothing counts but the time. -/
def more (body : String) : String :=
  if body = releases then moreReleases
  else if body = runs then moreRuns
  else if body = artifacts then moreArtifacts
  else body

def moreClient : Client :=
  ⟨.fixed fun url => (answer url).map more, "api"⟩

theorem sameFor_of_answer {request : Request} {body otherBody : String} {asked : List String}
    (answered : answer (request.url "api") = .ok body) (longer : more body = otherBody)
    (same : request.SameAnswer false (.ok body) (.ok otherBody)) :
    client.SameFor false moreClient asked request := by
  have answeredMore : (answer (request.url "api")).map more = .ok otherBody := by
    rw [answered, ← longer]
    rfl
  rw [← answered, ← answeredMore] at same
  exact same

theorem sameFor_releases {project : Project} {asked : List String}
    (answered : answer (project.releasesUrl "api") = .ok releases) :
    client.SameFor false moreClient asked (.releases project) := by
  have decoded : Github.decode (Json.listReader Release.layout.reader) releases =
      .ok [⟨"v2", [⟨"a.sum", "sum"⟩]⟩] := by
    decide +kernel
  have decodedMore : Github.decode (Json.listReader Release.layout.reader) moreReleases =
      .ok [⟨"v2", [⟨"b", "b"⟩, ⟨"a.sum", "sum"⟩]⟩, ⟨"v1", []⟩] := by
    decide +kernel
  exact sameFor_of_answer answered (if_pos rfl)
    (Request.sameAnswer_releases decoded decodedMore (.cons ⟨rfl, fun _ => by decide +kernel⟩))

theorem sameFor_runs {asked : List String} :
    client.SameFor false moreClient asked nightlyRequest := by
  have answered : answer (nightlyRequest.url "api") = .ok runs := by decide +kernel
  have decoded : Github.decode WorkflowRun.listLayout.reader runs =
      .ok [⟨"0123456789", "today"⟩] := by
    decide +kernel
  have decodedMore : Github.decode WorkflowRun.listLayout.reader moreRuns =
      .ok [⟨"0123456789", "2024-05-01T12:00:00Z"⟩, ⟨"abc", ""⟩] := by
    decide +kernel
  exact sameFor_of_answer answered (by decide +kernel)
    (Request.sameAnswer_runs decoded decodedMore (.cons ⟨rfl, by simp⟩))

theorem sameFor_artifacts {run : WorkflowRun} {asked : List String}
    (sha : run.sha = "0123456789") :
    client.SameFor false moreClient asked (artifactRequest run) := by
  rw [artifactRequest, sha]
  have answered : answer ((artifactRequest ⟨"0123456789", ""⟩).url "api") = .ok artifacts := by
    decide +kernel
  have decoded : Github.decode Artifact.listLayout.reader artifacts =
      .ok [⟨"IGC_Ubuntu22.04_llvm14_clang-0123456", "zip"⟩] := by
    decide +kernel
  have decodedMore : Github.decode Artifact.listLayout.reader moreArtifacts =
      .ok [⟨"IGC", ""⟩, ⟨"IGC_Ubuntu22.04_llvm14_clang-0123456", "zip"⟩,
        ⟨"IGC_Ubuntu22.04_llvm14_clang-0123456", ""⟩] := by
    decide +kernel
  exact sameFor_of_answer answered (by decide +kernel)
    (Request.sameAnswer_artifacts decoded decodedMore (by decide +kernel))

/-- The only download is that of the listing. -/
theorem sameFor_download {asked : List String} {release : Release} {read left : List Asset}
    {asset : Asset} (vain : Stage.ReadInVain client [] release read (asset :: left)) :
    client.SameFor false moreClient asked (.download asset.url) := by
  have newest : client.releaseAfter [] .computeRuntime = .ok ⟨"v2", [⟨"a.sum", "sum"⟩]⟩ := by
    decide +kernel
  obtain rfl := Except.ok.inj (vain.found.symm.trans newest)
  have listed : listings ⟨"v2", [⟨"a.sum", "sum"⟩]⟩ = [⟨"a.sum", "sum"⟩] := by decide +kernel
  have mem : asset ∈ read ++ asset :: left := by simp
  rw [← vain.split, listed] at mem
  obtain rfl := List.mem_singleton.mp mem
  exact sameFor_of_answer rfl (by decide +kernel) .same

theorem sha_of_reached {scan : Scan} {run : WorkflowRun}
    (reached : Stage.Reached client .lenient [] (.artifact scan run)) :
    run.sha = "0123456789" := by
  obtain same | ⟨stage, _, passes⟩ := reached.cases_tail
  · cases same
  · cases passes with
    | nightly found =>
        have newest : client.runAfter [] .graphicsCompiler Project.nightlyWorkflow =
            .ok ⟨"0123456789", "today"⟩ := by
          decide +kernel
        obtain rfl := Except.ok.inj (found.symm.trans newest)
        rfl

theorem sameAnswers : SameAnswers false client moreClient .lenient [] where
  base := rfl
  answers := by
    intro stage request reached asks
    cases stage with
    | computeRuntime =>
        obtain rfl := Option.some.inj asks
        exact sameFor_releases (by decide +kernel)
    | checksums release read left =>
        cases left with
        | nil => cases asks
        | cons asset left =>
            obtain rfl := Option.some.inj asks
            exact sameFor_download (Stage.readInVain_of_reached reached)
    | nightly scan =>
        obtain rfl := Option.some.inj asks
        exact sameFor_runs
    | artifact scan run =>
        obtain rfl := Option.some.inj asks
        exact sameFor_artifacts (sha_of_reached reached)
    | cm =>
        obtain rfl := Option.some.inj asks
        exact sameFor_releases (by decide +kernel)
    | levelZero =>
        obtain rfl := Option.some.inj asks
        exact sameFor_releases (by decide +kernel)
    | done => cases asks

end Sample

theorem run_sameAnswers_sample :
    (run Sample.client (Sample.config "linux") Sample.disk).result = .ok "v2" ∧
      (run Sample.moreClient (Sample.config "linux") Sample.disk).result = .ok "v2" ∧
      ∃ (after : Platform) (time : String),
        (run Sample.client (Sample.config "linux") Sample.disk).disk.read "manifest.json" =
          .ok (Sample.manifest.withPlatform "linux" after).render ∧
        (run Sample.moreClient (Sample.config "linux") Sample.disk).disk.read "manifest.json" =
          .ok (Sample.manifest.withPlatform "linux" (after.timed time)).render := by
  have ran : (run Sample.client (Sample.config "linux") Sample.disk).result = .ok "v2" :=
    Sample.run_eq rfl
  obtain ⟨results, _, _, _, written⟩ :=
    @run_sameAnswers _ _ _ (Sample.config "linux") Sample.sameAnswers Sample.disk
  obtain ⟨manifest, before, after, time, prepared, wrote, wroteMore⟩ := written "v2" ran
  obtain ⟨rfl, rfl⟩ := Prod.mk.inj (Except.ok.inj (prepared.symm.trans Sample.prepare_linux))
  exact ⟨ran, results.symm.trans ran, after, time, Disk.read_of_write Sample.read_disk wrote,
    Disk.read_of_write Sample.read_disk wroteMore⟩

end Uplift

end DriverUplift
