import DriverUplift.Proofs.Revision
import DriverUplift.Proofs.Uplift.Course
import DriverUplift.Uplift.InPlace
import DriverUplift.Uplift.Run

/-!
# Edits stand for what is done in place

A session only records its edits.  Applied to a platform they make of it what the same steps
make of it in place, and this also holds of what a failure leaves behind.
-/

namespace DriverUplift

/-! ## Computations in place -/

namespace Drafting

variable {σ α β : Type}

theorem on_bind (drafting : Drafting σ α) (next : α → Drafting σ β) (draft : Draft σ) :
    (drafting >>= next).on draft =
      match drafting.on draft with
      | (.ok value, between) => (next value).on between
      | (.error failure, between) => (.error failure, between) := by
  cases ran : drafting.on draft with
  | mk result between =>
      refine (Failure.run_bind drafting next draft ran).trans ?_
      cases result <;> rfl

variable (component : Component)

theorem on_focus (drafting : Drafting Dependency α) (draft : Draft Platform) :
    (focus component drafting).on draft =
      match drafting.on ⟨draft.content.get component, draft.requests, draft.events⟩ with
      | (result, revised) =>
          (result,
            ⟨draft.content.set component revised.content, revised.requests, revised.events⟩) :=
  rfl

/-- A computation on a component is done bit by bit on its platform. -/
theorem focus_bind (drafting : Drafting Dependency α) (next : α → Drafting Dependency β) :
    focus component (drafting >>= next) =
      focus component drafting >>= fun value => focus component (next value) := by
  funext draft
  show (focus component (drafting >>= next)).on draft =
    (focus component drafting >>= fun value => focus component (next value)).on draft
  rw [on_bind, on_focus, on_focus, on_bind]
  cases drafting.on ⟨draft.content.get component, draft.requests, draft.events⟩ with
  | mk result between =>
      cases result with
      | error failure => rfl
      | ok value =>
          simp only [on_focus, Platform.get_set, if_pos, Platform.set_set]

theorem focus_ask (session : Session α) : focus component (ask session) = ask session := by
  funext draft
  show (_, Draft.mk (draft.content.set component (draft.content.get component)) _ _) = _
  rw [Platform.set_get]
  rfl

theorem focus_say (level : Log.Level) (message : String) :
    focus component (say level message) = say level message :=
  focus_ask component (Session.say level message)

theorem focus_throw (failure : Failure) :
    focus component (throw failure : Drafting Dependency α) = throw failure :=
  focus_ask component (throw failure)

end Drafting

/-! ## Simulation -/

def Draft.ofTrace (platform : Platform) (trace : Trace) : Draft Platform :=
  ⟨platform.revise trace.edits, trace.requests, trace.events⟩

/-- What a computation does in place is what a session records. -/
def Simulates {α : Type} (drafting : Drafting Platform α) (session : Session α) : Prop :=
  ∀ platform trace, drafting.on (.ofTrace platform trace) =
    ((session.after trace).1, .ofTrace platform (session.after trace).2)

/-- A session that does not look at the edits so far and adds none. -/
def Session.Silent {α : Type} (session : Session α) : Prop :=
  ∀ requests events edits, session.after ⟨requests, events, edits⟩ =
    ((session.after ⟨requests, events, []⟩).1,
      { (session.after ⟨requests, events, []⟩).2 with edits })

theorem Session.silent_say (level : Log.Level) (message : String) :
    Silent (say level message) := by
  intro requests events edits
  rfl

theorem Github.Client.silent_download (client : Client) (url : String) :
    Session.Silent (client.download url) := by
  intro requests events edits
  rw [download, Session.after_fetch, Session.after_fetch]

theorem Github.Client.silent_lookup {α : Type} (client : Client) (url : String)
    (read : String → Except Failure α) :
    Session.Silent (client.download url >>= fun body => Session.ofExcept (read body)) := by
  intro requests events edits
  rw [Client.after_lookup, Client.after_lookup]
  rfl

namespace Simulates

open Drafting

variable {α β : Type} {drafting : Drafting Platform α} {session : Session α}

theorem ask (silent : session.Silent) : Simulates (ask session) session := by
  intro platform trace
  obtain ⟨requests, events, edits⟩ := trace
  rw [silent]
  rfl

theorem say (level : Log.Level) (message : String) :
    Simulates (Drafting.say level message) (Session.say level message) :=
  .ask (Session.silent_say level message)

theorem throw (failure : Failure) :
    Simulates (throw failure : Drafting Platform α) (throw failure) := by
  intro platform trace
  rfl

theorem bind {next : α → Drafting Platform β} {more : α → Session β}
    (first : Simulates drafting session) (rest : ∀ value, Simulates (next value) (more value)) :
    Simulates (drafting >>= next) (session >>= more) := by
  intro platform trace
  rw [on_bind, Session.after_bind, first platform trace]
  cases session.after trace with
  | mk result between =>
      cases result with
      | ok value => exact rest value platform between
      | error failure => rfl

/-- Changing a component is what edits of it stand for. -/
theorem change {component : Component} {edits : List Edit} {make : Dependency → Dependency}
    (confined : ∀ edit ∈ edits, edit.component = component)
    (made : ∀ dependency : Dependency, dependency.revise component edits = make dependency) :
    Simulates (focus component (Drafting.change make)) (Session.edit edits) := by
  intro platform trace
  show (_, Draft.mk _ _ _) = (_, Draft.mk (platform.revise (trace.edits ++ edits)) _ _)
  rw [Platform.revise_append, Platform.revise_eq_set confined, made]
  rfl

/-- What holds within every platform holds of the dependency alone. -/
theorem on_dependency {component : Component} {drafting : Drafting Dependency α}
    (simulates : Simulates (focus component drafting) session) (dependency : Dependency)
    (requests : List String) (events : List Log.Event) :
    drafting.on ⟨dependency, requests, events⟩ =
      match session.after ⟨requests, events, []⟩ with
      | (result, trace) =>
          (result, ⟨dependency.revise component trace.edits, trace.requests, trace.events⟩) := by
  -- Any platform that holds the dependency will do.
  let platform : Platform :=
    ⟨dependency, dependency, dependency, dependency, dependency, []⟩
  have here : platform.get component = dependency := by
    cases component <;> rfl
  have within : (focus component drafting).on ⟨platform, requests, events⟩ = (_, _) :=
    simulates platform ⟨requests, events, []⟩
  rw [on_focus] at within
  simp only [here] at within
  obtain ⟨result, left⟩ := Prod.mk.inj within
  obtain ⟨content, asked, reported⟩ := Draft.mk.inj left
  have own := congrArg (·.get component) content
  simp only [Platform.get_set, if_pos, Platform.get_revise_eq, here] at own
  exact Prod.ext result (Draft.ext own asked reported)

end Simulates

namespace Uplift.InPlace

open Drafting
open Github (Asset Client Release WorkflowRun)

/-! ## The steps -/

theorem simulates_takeRelease (component : Component) (project : Project) (tag version : String) :
    Simulates (focus component (change (takeRelease project tag version)))
      (Session.edit (releaseEdits component project tag version)) := by
  apply Simulates.change
  · simp [releaseEdits]
  · intro dependency
    simp [Dependency.revise, releaseEdits, takeRelease]

/-- It makes no difference that the compiler gets its address first. -/
theorem simulates_takeIgc (version : String) :
    Simulates (focus .igc (change (takeIgc version))) (Session.edit (igcEdits version)) := by
  apply Simulates.change
  · simp [igcEdits, releaseEdits]
  · intro dependency
    rfl

theorem simulates_set (component : Component) (attr : Attribute) (value : String) :
    Simulates (focus component (change (·.set attr value)))
      (Session.edit [⟨component, attr, value⟩]) := by
  apply Simulates.change
  · simp
  · intro dependency
    simp [Dependency.revise]

variable (client : Client) (policy : Policy)

/-- Listings are read in place as they are in search of a version that is then settled. -/
theorem simulates_scan (release : Release) (assets : List Asset) :
    Simulates (focus .igc (scan client release policy assets))
      (findIgcVersion client assets >>= settle release policy) := by
  induction assets with
  | nil =>
      rw [findIgcVersion, pure_bind]
      cases policy with
      | lenient =>
          rw [scan, focus_say]
          exact .say _ _
      | strict =>
          rw [scan, focus_throw]
          exact .throw _
  | cons asset rest ih =>
      rw [findIgcVersion, scan]
      simp only [focus_bind, focus_say, focus_ask, bind_assoc]
      refine .bind (.say _ _) fun _ => ?_
      refine .bind (.ask (client.silent_download asset.url)) fun listing => ?_
      cases Checksums.igcVersion? listing with
      | some version =>
          simp only [focus_bind, focus_say, pure_bind]
          exact .bind (simulates_takeIgc version) fun _ => .say _ _
      | none => exact ih

theorem simulates_upliftIgc (release : Release) :
    Simulates (focus .igc (upliftIgc client release policy))
      (Uplift.upliftIgc client release policy) := by
  rw [upliftIgc_eq]
  exact simulates_scan client policy release (listings release)

def setBuild (run : WorkflowRun) : Drafting Dependency Unit := do
  change (·.set .githubTag (Tag.igcDev (Tag.shortSha run.sha)))
  change (·.set .version (Tag.shortSha run.sha))
  change (·.set .updatedAt run.updatedAt)
  let url ← ask (client.artifactUrl .graphicsCompiler (Tag.artifactName (Tag.shortSha run.sha)))
  change (·.set .url url)
  say .info ("igc-dev: " ++ Tag.shortSha run.sha)

theorem simulates_setBuild (run : WorkflowRun) :
    Simulates (focus .igcDev (setBuild client run)) (recordBuild client run) := by
  simp only [setBuild, recordBuild, igcDevEdits, focus_bind, focus_ask, focus_say,
    Session.edit_cons_cons, bind_assoc]
  refine .bind (simulates_set _ _ _) fun _ => ?_
  refine .bind (simulates_set _ _ _) fun _ => ?_
  refine .bind (simulates_set _ _ _) fun _ => ?_
  refine .bind (.ask (client.silent_lookup _ _)) fun url => ?_
  exact .bind (simulates_set _ _ _) fun _ => .say _ _

theorem simulates_upliftIgcDev :
    Simulates (focus .igcDev (upliftIgcDev client)) (Uplift.upliftIgcDev client) := by
  rw [upliftIgcDev, focus_bind, focus_ask]
  refine .bind (.ask (client.silent_lookup _ _)) fun run => ?_
  -- The warning comes in between; what follows is the same either way.
  cases valid : Timestamp.isValid run.updatedAt with
  | true => exact simulates_setBuild client run
  | false =>
      show Simulates (focus .igcDev (say _ _ >>= fun _ => setBuild client run))
        (Session.say _ _ >>= fun _ => recordBuild client run)
      rw [focus_bind, focus_say]
      exact .bind (.say _ _) fun _ => simulates_setBuild client run

/-- The whole uplift in place is the uplift that records edits. -/
theorem simulates_upliftPlatform :
    Simulates (upliftPlatform client policy) (Uplift.upliftPlatform client policy) := by
  refine .bind (.ask (client.silent_lookup _ _)) fun computeRuntime => ?_
  refine .bind (simulates_takeRelease _ _ _ _) fun _ => .bind (.say _ _) fun _ => ?_
  refine .bind (simulates_upliftIgc client policy computeRuntime) fun _ => ?_
  refine .bind (simulates_upliftIgcDev client) fun _ => ?_
  refine .bind (.ask (client.silent_lookup _ _)) fun cm => ?_
  refine .bind (simulates_takeRelease _ _ _ _) fun _ => .bind (.say _ _) fun _ => ?_
  refine .bind (.ask (client.silent_lookup _ _)) fun levelZero => ?_
  exact .bind (simulates_takeRelease _ _ _ _) fun _ => .say _ _

/-! ## What is left behind -/

theorem upliftIgc_on (release : Release) (dependency : Dependency) (requests : List String)
    (events : List Log.Event) :
    (upliftIgc client release policy).on ⟨dependency, requests, events⟩ =
      match (Uplift.upliftIgc client release policy).after ⟨requests, events, []⟩ with
      | (result, trace) =>
          (result, ⟨dependency.revise .igc trace.edits, trace.requests, trace.events⟩) :=
  (simulates_upliftIgc client policy release).on_dependency dependency requests events

theorem upliftIgcDev_on (dependency : Dependency) (requests : List String)
    (events : List Log.Event) :
    (upliftIgcDev client).on ⟨dependency, requests, events⟩ =
      match (Uplift.upliftIgcDev client).after ⟨requests, events, []⟩ with
      | (result, trace) =>
          (result, ⟨dependency.revise .igcDev trace.edits, trace.requests, trace.events⟩) :=
  (simulates_upliftIgcDev client).on_dependency dependency requests events

/-- The platform that is left behind is the platform with the recorded edits, whether the
uplift has succeeded or not; the result, the requests and the events are the same. -/
theorem upliftPlatform_on (platform : Platform) (requests : List String)
    (events : List Log.Event) :
    (upliftPlatform client policy).on ⟨platform, requests, events⟩ =
      match (Uplift.upliftPlatform client policy).after ⟨requests, events, []⟩ with
      | (result, trace) => (result, ⟨platform.revise trace.edits, trace.requests, trace.events⟩) :=
  simulates_upliftPlatform client policy platform ⟨requests, events, []⟩

/-- What is stored after a revision is the platform as it was left behind in place. -/
theorem revise_eq_store {config : Config} {source : Except FileError String} {manifest : Manifest}
    {platform : Platform} (prepared : prepare config source = .ok (manifest, platform)) :
    ∃ result draft,
      (upliftPlatform client config.policy).on ⟨platform, [], [opening config]⟩ =
          (result, draft) ∧
        (revise client config source).1 =
          (result.bind fun _ => store config manifest draft.content) ∧
        (revise client config source).2.requests = draft.requests ∧
        (revise client config source).2.events = draft.events := by
  rw [upliftPlatform_on, revise, prepared]
  dsimp only
  cases (Uplift.upliftPlatform client config.policy).after ⟨[], [opening config], []⟩ with
  | mk result trace =>
      refine ⟨result, _, rfl, ?_⟩
      cases result with
      | ok done => exact ⟨rfl, rfl, rfl⟩
      | error failure => exact ⟨rfl, rfl, rfl⟩

end Uplift.InPlace

end DriverUplift
