import DriverUplift.Proofs.Github.Request
import DriverUplift.Uplift.Steps
import Mathlib.Logic.Relation

/-!
# Stages of an uplift

An uplift goes through stages.  At each of them it makes at most one request; the
answer takes it to the next stage, or the uplift halts there.  A stage holds all
that was found on the way, so what has been asked and edited so far can be read
off it.
-/

namespace DriverUplift.Uplift

open Github (Asset Client Release Request WorkflowRun)

/-- The checksum listings that were read, and the compiler version that the last one names. -/
structure Scan where
  release : Release
  read : List Asset
  igcVersion? : Option String

inductive Stage where
  | computeRuntime
  /-- No listing that was read names the compiler, and some listings are left. -/
  | checksums (release : Release) (read left : List Asset)
  | nightly (scan : Scan)
  | artifact (scan : Scan) (run : WorkflowRun)
  | cm (scan : Scan) (run : WorkflowRun) (url : String)
  | levelZero (scan : Scan) (run : WorkflowRun) (url : String) (compiler : Release)
  | done (scan : Scan) (run : WorkflowRun) (url : String) (compiler loader : Release)

def nightlyRequest : Request :=
  .runs .graphicsCompiler Project.nightlyWorkflow

def artifactRequest (run : WorkflowRun) : Request :=
  .artifacts .graphicsCompiler (Tag.artifactName (Tag.shortSha run.sha))

def scanRequests (read : List Asset) : List Request :=
  .releases .computeRuntime :: read.map fun asset => .download asset.url

def Scan.edits (scan : Scan) : List Edit :=
  computeRuntimeEdits scan.release.tag ++ scan.igcVersion?.toList.flatMap igcEdits

namespace Stage

def request? : Stage → Option Request
  | computeRuntime => some (.releases .computeRuntime)
  | checksums _ _ (asset :: _) => some (.download asset.url)
  | checksums _ _ [] => none
  | nightly _ => some nightlyRequest
  | artifact _ run => some (artifactRequest run)
  | cm _ _ _ => some (.releases .cmCompiler)
  | levelZero _ _ _ _ => some (.releases .levelZero)
  | done _ _ _ _ _ => none

def requests : Stage → List Request
  | computeRuntime => []
  | checksums _ read _ => scanRequests read
  | nightly scan => scanRequests scan.read
  | artifact scan _ => scanRequests scan.read ++ [nightlyRequest]
  | cm scan run _ => scanRequests scan.read ++ [nightlyRequest, artifactRequest run]
  | levelZero scan run _ _ =>
      scanRequests scan.read ++ [nightlyRequest, artifactRequest run, .releases .cmCompiler]
  | done scan run _ _ _ =>
      scanRequests scan.read ++
        [nightlyRequest, artifactRequest run, .releases .cmCompiler, .releases .levelZero]

def edits : Stage → List Edit
  | computeRuntime => []
  | checksums release _ _ => computeRuntimeEdits release.tag
  | nightly scan => scan.edits
  | artifact scan run => scan.edits ++ igcDevEdits (Tag.shortSha run.sha) run.updatedAt
  | cm scan run url =>
      scan.edits ++ igcDevEdits (Tag.shortSha run.sha) run.updatedAt ++ [⟨.igcDev, .url, url⟩]
  | levelZero scan run url compiler =>
      scan.edits ++ igcDevEdits (Tag.shortSha run.sha) run.updatedAt ++ [⟨.igcDev, .url, url⟩] ++
        cmEdits compiler.tag
  | done scan run url compiler loader =>
      scan.edits ++ igcDevEdits (Tag.shortSha run.sha) run.updatedAt ++ [⟨.igcDev, .url, url⟩] ++
        cmEdits compiler.tag ++ levelZeroEdits loader.tag

def asked (client : Client) (before : List String) (stage : Stage) : List String :=
  client.asked before stage.requests

def isDone : Stage → Bool
  | done _ _ _ _ _ => true
  | _ => false

/-! ## From stage to stage -/

/-- The answers take an uplift from one stage to another. -/
inductive Passes (client : Client) (policy : Policy) (before : List String) :
    Stage → Stage → Prop where
  | computeRuntime {release : Release} :
      client.releaseAfter (asked client before computeRuntime) .computeRuntime = .ok release →
        Passes client policy before computeRuntime (checksums release [] (listings release))
  | named {release : Release} {read left : List Asset} {asset : Asset}
      {listing version : String} :
      client.transport.answer (asked client before (checksums release read (asset :: left)))
          asset.url = .ok listing →
        Checksums.igcVersion? listing = some version →
          Passes client policy before (checksums release read (asset :: left))
            (nightly ⟨release, read ++ [asset], some version⟩)
  | unnamed {release : Release} {read left : List Asset} {asset : Asset} {listing : String} :
      client.transport.answer (asked client before (checksums release read (asset :: left)))
          asset.url = .ok listing →
        Checksums.igcVersion? listing = none →
          Passes client policy before (checksums release read (asset :: left))
            (checksums release (read ++ [asset]) left)
  /-- A lenient uplift goes on if no listing names the compiler. -/
  | missed {release : Release} {read : List Asset} :
      policy = .lenient →
        Passes client policy before (checksums release read []) (nightly ⟨release, read, none⟩)
  | nightly {scan : Scan} {run : WorkflowRun} :
      client.runAfter (asked client before (nightly scan)) .graphicsCompiler
          Project.nightlyWorkflow = .ok run →
        Passes client policy before (nightly scan) (artifact scan run)
  | artifact {scan : Scan} {run : WorkflowRun} {url : String} :
      client.artifactAfter (asked client before (artifact scan run)) .graphicsCompiler
          (Tag.artifactName (Tag.shortSha run.sha)) = .ok url →
        Passes client policy before (artifact scan run) (cm scan run url)
  | cm {scan : Scan} {run : WorkflowRun} {url : String} {release : Release} :
      client.releaseAfter (asked client before (cm scan run url)) .cmCompiler = .ok release →
        Passes client policy before (cm scan run url) (levelZero scan run url release)
  | levelZero {scan : Scan} {run : WorkflowRun} {url : String} {compiler release : Release} :
      client.releaseAfter (asked client before (levelZero scan run url compiler)) .levelZero =
          .ok release →
        Passes client policy before (levelZero scan run url compiler)
          (done scan run url compiler release)

inductive Halts (client : Client) (policy : Policy) (before : List String) :
    Stage → Failure → Prop where
  | failed {stage : Stage} {request : Request} {failure : Failure} :
      stage.request? = some request → request.Fails client (asked client before stage) failure →
        Halts client policy before stage failure
  /-- A strict uplift ends if no listing names the compiler. -/
  | missed {release : Release} {read : List Asset} :
      policy = .strict →
        Halts client policy before (checksums release read []) (.igcVersionNotFound release.tag)

variable {client : Client} {policy : Policy} {before : List String} {stage next : Stage}

/-- Whether a stage is passed depends on what its request comes to. -/
theorem passes_or_halts_of_answer {α : Type} {request : Request} {answer : Except Failure α}
    (asks : stage.request? = some request)
    (fails_iff : ∀ {failure : Failure},
      request.Fails client (asked client before stage) failure ↔ answer = .error failure)
    (goesOn : ∀ value, answer = .ok value → ∃ next, Passes client policy before stage next) :
    (∃ next, Passes client policy before stage next) ∨
      ∃ failure, Halts client policy before stage failure := by
  cases answered : answer with
  | ok value => exact .inl (goesOn value answered)
  | error failure => exact .inr ⟨failure, .failed asks (fails_iff.mpr answered)⟩

/-- Every stage but the last one is passed or ends the uplift. -/
theorem passes_or_halts (client : Client) (policy : Policy) (before : List String)
    (stage : Stage) :
    stage.isDone = true ∨ (∃ next, Passes client policy before stage next) ∨
      ∃ failure, Halts client policy before stage failure := by
  cases stage with
  | computeRuntime =>
      refine .inr (passes_or_halts_of_answer rfl Request.fails_releases_iff fun _ found => ?_)
      exact ⟨_, .computeRuntime found⟩
  | checksums release read left =>
      cases left with
      | nil =>
          cases policy with
          | lenient => exact .inr (.inl ⟨_, .missed rfl⟩)
          | strict => exact .inr (.inr ⟨_, .missed rfl⟩)
      | cons asset left =>
          refine .inr (passes_or_halts_of_answer rfl Request.fails_download_iff
            fun listing answered => ?_)
          cases named : Checksums.igcVersion? listing with
          | some version => exact ⟨_, .named answered named⟩
          | none => exact ⟨_, .unnamed answered named⟩
  | nightly scan =>
      refine .inr (passes_or_halts_of_answer rfl Request.fails_runs_iff fun _ found => ?_)
      exact ⟨_, .nightly found⟩
  | artifact scan run =>
      refine .inr (passes_or_halts_of_answer rfl Request.fails_artifacts_iff fun _ found => ?_)
      exact ⟨_, .artifact found⟩
  | cm scan run url =>
      refine .inr (passes_or_halts_of_answer rfl Request.fails_releases_iff fun _ found => ?_)
      exact ⟨_, .cm found⟩
  | levelZero scan run url compiler =>
      refine .inr (passes_or_halts_of_answer rfl Request.fails_releases_iff fun _ found => ?_)
      exact ⟨_, .levelZero found⟩
  | done scan run url compiler loader => exact .inl rfl

/-- A stage that is passed has made its request, and no other. -/
theorem Passes.requests_eq (passes : Passes client policy before stage next) :
    next.requests = stage.requests ++ stage.request?.toList := by
  cases passes <;> simp [requests, request?, scanRequests]

theorem Passes.asked_eq (passes : Passes client policy before stage next) :
    asked client before next =
      client.asked (asked client before stage) stage.request?.toList := by
  rw [asked, passes.requests_eq, Client.asked_append, asked]

/-- The request of a stage that is passed has not failed. -/
theorem Passes.not_fails (passes : Passes client policy before stage next) {request : Request}
    (asks : stage.request? = some request) (failure : Failure) :
    ¬request.Fails client (asked client before stage) failure := by
  intro fails
  cases passes with
  | computeRuntime found | cm found | levelZero found =>
      obtain rfl := Option.some.inj asks
      simp [Request.fails_releases_iff, found] at fails
  | named answered _ | unnamed answered _ =>
      obtain rfl := Option.some.inj asks
      simp [Request.fails_download_iff, answered] at fails
  | missed _ => cases asks
  | nightly found =>
      obtain rfl := Option.some.inj asks
      simp [nightlyRequest, Request.fails_runs_iff, found] at fails
  | artifact found =>
      obtain rfl := Option.some.inj asks
      simp [artifactRequest, Request.fails_artifacts_iff, found] at fails

/-- A stage that is passed does not end the uplift. -/
theorem Passes.not_halts (passes : Passes client policy before stage next) (failure : Failure) :
    ¬Halts client policy before stage failure := by
  intro halts
  cases halts with
  | failed asks fails => exact passes.not_fails asks failure fails
  | missed strict =>
      cases passes with
      | missed lenient => cases strict.symm.trans lenient

theorem passes_rightUnique (client : Client) (policy : Policy) (before : List String) :
    Relator.RightUnique (Passes client policy before) := by
  intro stage first second one two
  cases one <;> cases two <;> simp_all

/-! ## The way to the last stage -/

/-- How far a stage is from the last one; listings count below all that is behind them. -/
def distance : Stage → Nat × Nat
  | computeRuntime => (6, 0)
  | checksums _ _ left => (5, left.length)
  | nightly _ => (4, 0)
  | artifact _ _ => (3, 0)
  | cm _ _ _ => (2, 0)
  | levelZero _ _ _ _ => (1, 0)
  | done _ _ _ _ _ => (0, 0)

theorem Passes.distance_lt (passes : Passes client policy before stage next) :
    Prod.Lex (· < ·) (· < ·) next.distance stage.distance := by
  cases passes with
  | unnamed _ _ => exact .right _ (Nat.lt_succ_self _)
  | _ => exact .left _ _ (by decide)

abbrev Reached (client : Client) (policy : Policy) (before : List String) : Stage → Prop :=
  Relation.ReflTransGen (Passes client policy before) computeRuntime

/-- Every stage leads to one where the uplift is done or halts. -/
theorem exists_last (client : Client) (policy : Policy) (before : List String) (stage : Stage) :
    ∃ last, Relation.ReflTransGen (Passes client policy before) stage last ∧
      (last.isDone = true ∨ ∃ failure, Halts client policy before last failure) := by
  rcases passes_or_halts client policy before stage with done | ⟨next, passes⟩ | halts
  · exact ⟨stage, .refl, .inl done⟩
  · obtain ⟨last, reached, ended⟩ := exists_last client policy before next
    exact ⟨last, .head passes reached, ended⟩
  · exact ⟨stage, .refl, .inr halts⟩
termination_by stage.distance
decreasing_by exact passes.distance_lt

/-- There is only one stage at which an uplift can halt. -/
theorem eq_of_halts {first second : Stage} {one two : Failure}
    (reachedFirst : Reached client policy before first)
    (reachedSecond : Reached client policy before second)
    (haltsFirst : Halts client policy before first one)
    (haltsSecond : Halts client policy before second two) : first = second := by
  -- One of the two lies behind the other, but from a stage that halts nothing leads on.
  rcases Relation.ReflTransGen.total_of_right_unique (passes_rightUnique client policy before)
    reachedFirst reachedSecond with onward | onward
  · rcases onward.cases_head with same | ⟨next, passes, _⟩
    · exact same
    · exact absurd haltsFirst (passes.not_halts one)
  · rcases onward.cases_head with same | ⟨next, passes, _⟩
    · exact same.symm
    · exact absurd haltsSecond (passes.not_halts two)

/-! ## Listings that were read in vain -/

def NamesNone (client : Client) (asked : List String) (asset : Asset) : Prop :=
  ∃ listing, client.transport.answer asked asset.url = .ok listing ∧
    Checksums.igcVersion? listing = none

/-- The release is the newest one, and of its listings the first few name no version. -/
structure ReadInVain (client : Client) (before : List String) (release : Release)
    (read left : List Asset) : Prop where
  found : client.releaseAfter before .computeRuntime = .ok release
  split : listings release = read ++ left
  unnamed : ∀ earlier asset later, read = earlier ++ asset :: later →
    NamesNone client (client.asked before (scanRequests earlier)) asset

theorem ReadInVain.one_more {release : Release} {read left : List Asset} {asset : Asset}
    (vain : ReadInVain client before release read (asset :: left))
    (unnamed : NamesNone client (client.asked before (scanRequests read)) asset) :
    ReadInVain client before release (read ++ [asset]) left where
  found := vain.found
  split := by rw [vain.split, List.append_cons]
  unnamed := by
    intro earlier other later same
    -- The asset is the one that was read last, or it is among those before.
    rcases List.eq_nil_or_concat later with rfl | ⟨init, last, rfl⟩
    · obtain ⟨rfl, last⟩ := List.append_inj' same rfl
      obtain rfl := List.singleton_inj.mp last
      exact unnamed
    · rw [List.concat_eq_append, ← List.cons_append, ← List.append_assoc] at same
      obtain ⟨rfl, -⟩ := List.append_inj' same rfl
      exact vain.unnamed earlier other init rfl

/-- When listings are read, those before were read in vain. -/
theorem readInVain_of_reached {release : Release} {read left : List Asset}
    (reached : Reached client policy before (checksums release read left)) :
    ReadInVain client before release read left := by
  generalize same : checksums release read left = stage at reached
  induction reached generalizing read left with
  | refl => cases same
  | tail _ passes ih =>
      subst same
      cases passes with
      | computeRuntime found =>
          rw [asked, requests, Client.asked_nil] at found
          refine ⟨found, rfl, ?_⟩
          intro earlier asset later same
          simp at same
      | unnamed answered unnamed => exact (ih rfl).one_more ⟨_, answered, unnamed⟩

end Stage

end DriverUplift.Uplift
