import DriverUplift.Proofs.Github.Client
import DriverUplift.Proofs.Github.Written

/-!
# What a lookup comes to

From the list that the body of an answer tells, a lookup takes the first item, or the first one
of a name.  A list without one is empty for it, and a body that tells no list is faulty.
-/

namespace DriverUplift.Github

open Json (Outline SpellsWhole)

section Settles

variable {α β : Type} {tells : List α → Prop} {takes : List α → β → Prop} {lacks : List α → Prop}
  {missing : Failure} {result : Except Failure β}

/-- How a lookup ends with a body: it takes a value from the list that the body tells, or the
list lacks such a value, or the body tells no list. -/
structure Settles (tells : List α → Prop) (takes : List α → β → Prop) (lacks : List α → Prop)
    (missing : Failure) (result : Except Failure β) : Prop where
  ok : ∀ value, result = .ok value ↔ ∃ values, tells values ∧ takes values value
  empty : result = .error missing ↔ ∃ values, tells values ∧ lacks values
  json : (∃ error, result = .error (.json error)) ↔ ∀ values, ¬tells values

theorem Settles.congr (settles : Settles tells takes lacks missing result)
    {likeTakes : List α → β → Prop} {likeLacks : List α → Prop}
    (sameTakes : ∀ values value, takes values value ↔ likeTakes values value)
    (sameLacks : ∀ values, lacks values ↔ likeLacks values) :
    Settles tells likeTakes likeLacks missing result where
  ok value := by simp only [settles.ok, sameTakes]
  empty := by simp only [settles.empty, sameLacks]
  json := settles.json

def IsFirst (values : List α) (value : α) : Prop :=
  ∃ rest, values = value :: rest

/-- A lookup may select values from what is decoded and take the first one of these. -/
theorem settles_firstOf {reader : Json.Reader (List α)} {written : Outline → List α → Prop}
    (reads : reader.Reads written) (adequate : reader.Adequate) (select : List α → List β)
    (listing : Listing) (url body : String) :
    Settles (Tells written body) (fun values => IsFirst (select values))
      (fun values => select values = []) (.emptyList listing url)
      ((decode reader body).bind fun values => firstOf listing url (select values)) := by
  by_cases nothing : ∀ values, ¬Tells written body values
  · obtain ⟨error, failed⟩ := decode_eq_error reads adequate nothing
    rw [failed, Except.bind]
    exact ⟨by simp [nothing], by simp [nothing], by simp [nothing]⟩
  · obtain ⟨values, told⟩ := not_forall_not.mp nothing
    rw [(decode_eq_ok_iff reads adequate).mpr told, Except.bind]
    have only {P : List α → Prop} :
        (∃ others, Tells written body others ∧ P others) ↔ P values := by
      constructor
      · rintro ⟨others, toldOthers, is⟩
        exact toldOthers.unique reads adequate told ▸ is
      · exact fun is => ⟨values, told, is⟩
    refine ⟨fun value => ?_, ?_, ?_⟩
    · rw [only, firstOf_eq_ok_iff, IsFirst]
    · rw [only, firstOf_eq_error_iff, and_iff_left rfl]
    · refine ⟨?_, fun absent => absurd told (absent values)⟩
      rintro ⟨error, failed⟩
      cases (firstOf_eq_error_iff.mp failed).2

def IsFirstNamed (name : String) (artifacts : List Artifact) (url : String) : Prop :=
  ∃ before artifact after, artifacts = before ++ artifact :: after ∧
    (∀ earlier ∈ before, earlier.name ≠ name) ∧ artifact.name = name ∧ artifact.url = url

theorem isFirst_select_iff {name url : String} {artifacts : List Artifact} :
    IsFirst ((artifacts.filter (·.name == name)).map (·.url)) url ↔
      IsFirstNamed name artifacts url := by
  constructor
  · rintro ⟨rest, selected⟩
    obtain ⟨artifact, others, filtered, rfl, _⟩ := List.map_eq_cons_iff.mp selected
    obtain ⟨before, after, rfl, unnamed, named, _⟩ := List.filter_eq_cons_iff.mp filtered
    exact ⟨before, artifact, after, rfl, by simpa using unnamed, by simpa using named, rfl⟩
  · rintro ⟨before, artifact, after, rfl, unnamed, named, rfl⟩
    have none : before.filter (·.name == name) = [] := by
      simpa [List.filter_eq_nil_iff] using unnamed
    simp [IsFirst, none, named]

end Settles

/-! ## Lookups -/

theorem tells_nil_iff {α : Type} {written : Outline → α → Prop} {body : String} :
    Tells (Outline.IsList written) body [] ↔ SpellsWhole (.list []) body.toList := by
  constructor
  · rintro ⟨outline, spells, items, rfl, all⟩
    cases all
    exact spells
  · intro spells
    exact ⟨_, spells, [], rfl, .nil⟩

theorem latestRelease_settles (url body : String) :
    Settles (Tells (Outline.IsList Release.Written) body) IsFirst (· = [])
      (.emptyList .releases url) (latestRelease url body) := by
  have settles := settles_firstOf Release.reads.list Release.adequate.list id .releases url body
  unfold latestRelease
  cases read : decode (Json.listReader Release.layout.reader) body <;>
    · rw [read] at settles
      exact settles

/-- The fields in a list without the assets, and a null for the assets of a later release. -/
example :
    latestRelease "url" "[[\"v2\"], \x7b\"tag_name\": \"v1\"\x7d]" = .ok ⟨"v2", []⟩ ∧
      (latestRelease "url" "[[\"v2\"], \x7b\"tag_name\": \"v1\", \"assets\": null\x7d]").toOption =
        none := by
  decide +kernel

theorem latestRun_settles (url body : String) :
    Settles (Tells (Wraps "workflow_runs" WorkflowRun.Written) body) IsFirst (· = [])
      (.emptyList .workflowRuns url) (latestRun url body) := by
  have settles :=
    settles_firstOf WorkflowRun.reads_list WorkflowRun.adequate_list id .workflowRuns url body
  unfold latestRun
  cases read : decode WorkflowRun.listLayout.reader body <;>
    · rw [read] at settles
      exact settles

theorem artifactUrl_settles (name url body : String) :
    Settles (Tells (Wraps "artifacts" Artifact.Written) body) (IsFirstNamed name)
      (fun artifacts => ∀ artifact ∈ artifacts, artifact.name ≠ name) (.emptyList .artifacts url)
      (artifactUrl name url body) := by
  have settles := (settles_firstOf Artifact.reads_list Artifact.adequate_list
    (fun artifacts => (artifacts.filter (·.name == name)).map (·.url)) .artifacts url body).congr
    (fun _ _ => isFirst_select_iff)
    fun artifacts => by rw [List.map_eq_nil_iff, List.filter_eq_nil_iff]
  simp only [beq_iff_eq] at settles
  unfold artifactUrl
  cases read : decode Artifact.listLayout.reader body <;>
    · rw [read] at settles
      exact settles

/-- A lookup fails as its transport does, or it ends as the body settles it. -/
def Follows {α : Type} (answer : Except Failure String)
    (settled : String → Except Failure α → Prop) (result : Except Failure α) : Prop :=
  match answer with
  | .error failure => result = .error failure
  | .ok body => settled body result

theorem follows_lookup {α : Type} {client : Client} {url : String} {trace : Trace}
    {read : String → Except Failure α} {settled : String → Except Failure α → Prop}
    (settles : ∀ body, settled body (read body)) :
    Follows (client.transport.answer trace.requests url) settled
      ((client.download url >>= fun body => Session.ofExcept (read body)).after trace).1 := by
  rw [Client.after_lookup, Client.consult]
  cases client.transport.answer trace.requests url with
  | error failure => rfl
  | ok body => exact settles body

/--
A failure of the transport is that of the lookup.  With a body, the newest release is the first
item of the list of releases that the body is, and the newest run that of the list of runs that
it has; a list without items is empty.  The artifact is the first one of exactly that name in
the list that the body has; a list without one is empty for it.  All that tells no such list, at
whatever place its fault may be, is a fault of its JSON.
-/
theorem lookups_settle (client : Client) (trace : Trace) :
    (∀ project : Project,
      let url := project.releasesUrl client.apiBase
      Follows (client.transport.answer trace.requests url)
        (fun body result =>
          Settles (Tells (Outline.IsList Release.Written) body) IsFirst (· = [])
              (.emptyList .releases url) result ∧
            (result = .error (.emptyList .releases url) ↔ SpellsWhole (.list []) body.toList))
        ((client.latestRelease project).after trace).1) ∧
    (∀ (project : Project) (workflow : String),
      let url := project.successfulRunsUrl client.apiBase workflow
      Follows (client.transport.answer trace.requests url)
        (fun body => Settles (Tells (Wraps "workflow_runs" WorkflowRun.Written) body) IsFirst
          (· = []) (.emptyList .workflowRuns url))
        ((client.latestRun project workflow).after trace).1) ∧
    (∀ (project : Project) (name : String),
      let url := project.artifactsUrl client.apiBase name
      Follows (client.transport.answer trace.requests url)
        (fun body => Settles (Tells (Wraps "artifacts" Artifact.Written) body) (IsFirstNamed name)
          (fun artifacts => ∀ artifact ∈ artifacts, artifact.name ≠ name)
          (.emptyList .artifacts url))
        ((client.artifactUrl project name).after trace).1) := by
  refine ⟨fun project => follows_lookup fun body => ?_,
    fun project workflow => follows_lookup (latestRun_settles _),
    fun project name => follows_lookup (artifactUrl_settles name _)⟩
  have settles := latestRelease_settles (project.releasesUrl client.apiBase) body
  refine ⟨settles, ?_⟩
  rw [settles.empty, ← tells_nil_iff, exists_eq_right]

end DriverUplift.Github
