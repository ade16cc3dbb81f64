import DriverUplift.Checksums
import DriverUplift.Proofs.Github.Request
import DriverUplift.Proofs.Github.Written

/-!
# What is taken from an answer

An answer that can be decoded may be full of things that nobody asks for.  The parts of
its outline that count are the first of a list, or the first of a name, and in it the
texts under a few keys.  Answers with the same parts serve a request alike.
-/

namespace DriverUplift.Github

open Json (Outline SpellsWhole)

/-! ## Parts of outlines -/

section Parts

variable {outline : Outline}

def Asset.ofOutline? (outline : Outline) : Option Asset :=
  match outline.textAt? Asset.layout.keys "name",
    outline.textAt? Asset.layout.keys "browser_download_url" with
  | some name, some url => some ⟨name, url⟩
  | _, _ => none

theorem Asset.Written.ofOutline? {asset : Asset} (written : Asset.Written outline asset) :
    Asset.ofOutline? outline = some asset := by
  have name : outline.textAt? Asset.layout.keys "name" = some asset.name := written.text
  have url : outline.textAt? Asset.layout.keys "browser_download_url" = some asset.url :=
    written.otherText
  rw [Asset.ofOutline?, name, url]

def Release.tagOf (outline : Outline) : Option String :=
  outline.textAt? Release.layout.keys "tag_name"

def Release.listingsOf (outline : Outline) : List Asset :=
  match outline.part? Release.layout.keys "assets" with
  | some assets =>
      (assets.items.filterMap Asset.ofOutline?).filter fun asset => Checksums.isListing asset.name
  | none => []

theorem Release.Written.tagOf {release : Release} (written : Release.Written outline release) :
    Release.tagOf outline = some release.tag :=
  written.tag

theorem filterMap_ofOutline? {outlines : List Outline} {assets : List Asset}
    (written : List.Forall₂ Asset.Written outlines assets) :
    outlines.filterMap Asset.ofOutline? = assets := by
  induction written with
  | nil => rfl
  | cons first _ ih => rw [List.filterMap_cons_some first.ofOutline?, ih]

theorem Release.Written.listingsOf {release : Release} (written : Release.Written outline release) :
    Release.listingsOf outline =
      release.assets.filter fun asset => Checksums.isListing asset.name := by
  have assets := written.assets
  rw [show ["tag_name", "assets"] = Release.layout.keys from rfl] at assets
  unfold Release.listingsOf
  cases found : outline.part? Release.layout.keys "assets" with
  | none =>
      rw [found] at assets
      rw [assets]
      rfl
  | some list =>
      rw [found] at assets
      simp only [filterMap_ofOutline? assets.forall₂_items]

def WorkflowRun.shaOf (outline : Outline) : Option String :=
  outline.textAt? WorkflowRun.layout.keys "head_sha"

def WorkflowRun.updatedAtOf (outline : Outline) : Option String :=
  outline.textAt? WorkflowRun.layout.keys "updated_at"

def WorkflowRun.listOf (outline : Outline) : List Outline :=
  match outline.part? WorkflowRun.listLayout.keys "workflow_runs" with
  | some runs => runs.items
  | none => []

def Artifact.urlOf (name : String) (outline : Outline) : Option String :=
  (outline.part? Artifact.listLayout.keys "artifacts").bind fun artifacts =>
    (artifacts.items.find? fun artifact =>
      artifact.textAt? Artifact.layout.keys "name" = some name).bind fun artifact =>
        artifact.textAt? Artifact.layout.keys "archive_download_url"

theorem WorkflowRun.Written.shaOf {run : WorkflowRun} (written : WorkflowRun.Written outline run) :
    WorkflowRun.shaOf outline = some run.sha :=
  written.text

theorem WorkflowRun.Written.updatedAtOf {run : WorkflowRun}
    (written : WorkflowRun.Written outline run) :
    WorkflowRun.updatedAtOf outline = some run.updatedAt :=
  written.otherText

theorem WorkflowRun.forall₂_listOf {runs : List WorkflowRun}
    (wraps : Wraps "workflow_runs" WorkflowRun.Written outline runs) :
    List.Forall₂ WorkflowRun.Written (WorkflowRun.listOf outline) runs := by
  obtain ⟨list, found, is⟩ := wraps.list
  rw [show ["workflow_runs"] = WorkflowRun.listLayout.keys from rfl] at found
  rw [WorkflowRun.listOf, found]
  exact is.forall₂_items

theorem Artifact.find?_of_forall₂ (name : String) {outlines : List Outline}
    {artifacts : List Artifact}
    (written : List.Forall₂ Artifact.Written outlines artifacts) :
    ((outlines.find? fun artifact =>
        artifact.textAt? Artifact.layout.keys "name" = some name).bind fun artifact =>
          artifact.textAt? Artifact.layout.keys "archive_download_url") =
      (artifacts.find? fun artifact => artifact.name = name).map (·.url) := by
  induction written with
  | nil => rfl
  | @cons outline artifact _ _ first _ ih =>
      have named : outline.textAt? Artifact.layout.keys "name" = some artifact.name := first.text
      have linked : outline.textAt? Artifact.layout.keys "archive_download_url" =
          some artifact.url := first.otherText
      by_cases hit : artifact.name = name
      · simp [named, hit, linked]
      · simpa [named, hit] using ih

theorem Artifact.urlOf_eq (name : String) {artifacts : List Artifact}
    (wraps : Wraps "artifacts" Artifact.Written outline artifacts) :
    Artifact.urlOf name outline =
      (artifacts.find? fun artifact => artifact.name = name).map (·.url) := by
  obtain ⟨list, found, is⟩ := wraps.list
  rw [show ["artifacts"] = Artifact.listLayout.keys from rfl] at found
  rw [Artifact.urlOf, found, Option.bind_some]
  exact Artifact.find?_of_forall₂ name is.forall₂_items

end Parts

/-! ## Answers with the same parts -/

/-- Two results are the same failure, or two values that are related. -/
inductive Agree {α : Type} (same : α → α → Prop) : Except Failure α → Except Failure α → Prop where
  | ok {value other : α} : same value other → Agree same (.ok value) (.ok other)
  | error {failure : Failure} : Agree same (.error failure) (.error failure)

namespace Agree

variable {α : Type} {same : α → α → Prop} {one other : Except Failure α}

theorem exists_ok (agree : Agree same one other) {value : α} (found : one = .ok value) :
    ∃ next, other = .ok next ∧ same value next := by
  cases agree with
  | ok related =>
      obtain rfl := Except.ok.inj found
      exact ⟨_, rfl, related⟩
  | error => cases found

theorem error_eq (agree : Agree same one other) {failure : Failure}
    (failed : one = .error failure) : other = .error failure := by
  cases agree with
  | ok _ => cases failed
  | error => exact failed

theorem refl (reflexive : ∀ value, same value value) (result : Except Failure α) :
    Agree same result result := by
  cases result with
  | ok value => exact .ok (reflexive value)
  | error failure => exact .error

end Agree

/-- The releases have the same tag, and those of the compute runtime the same listings. -/
structure Release.Same (project : Project) (one other : Release) : Prop where
  tag : one.tag = other.tag
  listings : project = .computeRuntime →
    (one.assets.filter fun asset => Checksums.isListing asset.name) =
      other.assets.filter fun asset => Checksums.isListing asset.name

/-- The workflow runs have the same commit, and if the time counts, the same time. -/
structure WorkflowRun.Same (timed : Bool) (one other : WorkflowRun) : Prop where
  sha : one.sha = other.sha
  updatedAt : timed = true → one.updatedAt = other.updatedAt

/-- Two lists are both empty, or their first items are related. -/
inductive SameFirst {α : Type} (same : α → α → Prop) : List α → List α → Prop where
  | nil : SameFirst same [] []
  | cons {one other : α} {rest otherRest : List α} :
      same one other → SameFirst same (one :: rest) (other :: otherRest)

/-- Lists that correspond to lists with related first items have related first items. -/
theorem SameFirst.forall₂ {α β : Type} {corresponds : α → β → Prop} {parts : α → α → Prop}
    {same : β → β → Prop} {outlines others : List α} {values otherValues : List β}
    (first : SameFirst parts outlines others) (given : List.Forall₂ corresponds outlines values)
    (otherGiven : List.Forall₂ corresponds others otherValues)
    (related : ∀ {one other : α} {value next : β}, parts one other → corresponds one value →
      corresponds other next → same value next) :
    SameFirst same values otherValues := by
  cases first with
  | nil =>
      cases given
      cases otherGiven
      exact .nil
  | cons alike =>
      cases given with
      | cons one _ =>
          cases otherGiven with
          | cons next _ => exact .cons (related alike one next)

namespace Request

/--
The outlines of two answers have the same parts for a request.  Of releases these are the
tag of the first one and the checksum listings of the compute runtime; of workflow runs
the commit of the first one, and its time if that counts; of artifacts the address of the
first one of the name.  Of a download everything counts.
-/
def SameParts (timed : Bool) : Request → Outline → Outline → Prop
  | releases project, one, other =>
      SameFirst (fun release next => Release.tagOf release = Release.tagOf next ∧
        (project = .computeRuntime → Release.listingsOf release = Release.listingsOf next))
        one.items other.items
  | runs _ _, one, other =>
      SameFirst (fun run next => WorkflowRun.shaOf run = WorkflowRun.shaOf next ∧
        (timed = true → WorkflowRun.updatedAtOf run = WorkflowRun.updatedAtOf next))
        (WorkflowRun.listOf one) (WorkflowRun.listOf other)
  | artifacts _ name, one, other => Artifact.urlOf name one = Artifact.urlOf name other
  | download _, _, _ => False

/-- Two answers are the same, or both can be decoded and have the same parts. -/
inductive SameAnswer (timed : Bool) (request : Request) :
    Except Failure String → Except Failure String → Prop where
  | same {answer : Except Failure String} : SameAnswer timed request answer answer
  | parts {body otherBody : String} {hits otherHits : Nat} {outline otherOutline : Outline} :
      request.hits body = .ok hits → request.hits otherBody = .ok otherHits →
        SpellsWhole outline body.toList → SpellsWhole otherOutline otherBody.toList →
          request.SameParts timed outline otherOutline →
            SameAnswer timed request (.ok body) (.ok otherBody)

end Request

section Lookups

variable {timed : Bool} {project : Project} {workflow name url body otherBody : String}
  {outline otherOutline : Outline} {hits otherHits : Nat}

theorem exists_of_map {α : Type} {result : Except Failure α} {count : α → Nat}
    (counted : result.map count = .ok hits) : ∃ value, result = .ok value := by
  cases result with
  | ok value => exact ⟨value, rfl⟩
  | error failure => cases counted

theorem firstOf_eq_head? {α : Type} (listing : Listing) (url : String) (values : List α) :
    firstOf listing url values = values.head?.elim (.error (.emptyList listing url)) .ok := by
  cases values <;> rfl

/-- The first items are taken alike from lists whose first items are alike. -/
theorem firstOf_agree {α : Type} {same : α → α → Prop} {values others : List α}
    (first : SameFirst same values others) (listing : Listing) (url : String) :
    Agree same (firstOf listing url values) (firstOf listing url others) := by
  cases first with
  | nil => exact .error
  | cons alike => exact .ok alike

variable (spells : SpellsWhole outline body.toList)
  (otherSpells : SpellsWhole otherOutline otherBody.toList)

include spells otherSpells

theorem latestRelease_agree (counted : (Request.releases project).hits body = .ok hits)
    (otherCounted : (Request.releases project).hits otherBody = .ok otherHits)
    (parts : (Request.releases project).SameParts timed outline otherOutline) :
    Agree (Release.Same project) (latestRelease url body) (latestRelease url otherBody) := by
  obtain ⟨releases, decoded⟩ := exists_of_map counted
  obtain ⟨others, otherDecoded⟩ := exists_of_map otherCounted
  simp only [latestRelease, decoded, otherDecoded]
  refine firstOf_agree (SameFirst.forall₂ parts
    (written_of_decode Release.reads.list spells decoded).forall₂_items
    (written_of_decode Release.reads.list otherSpells otherDecoded).forall₂_items ?_) _ _
  rintro one other release next ⟨tag, listings⟩ written nextWritten
  rw [written.tagOf, nextWritten.tagOf] at tag
  rw [written.listingsOf, nextWritten.listingsOf] at listings
  exact ⟨Option.some.inj tag, listings⟩

theorem latestRun_agree (counted : (Request.runs project workflow).hits body = .ok hits)
    (otherCounted : (Request.runs project workflow).hits otherBody = .ok otherHits)
    (parts : (Request.runs project workflow).SameParts timed outline otherOutline) :
    Agree (WorkflowRun.Same timed) (latestRun url body) (latestRun url otherBody) := by
  obtain ⟨runs, decoded⟩ := exists_of_map counted
  obtain ⟨others, otherDecoded⟩ := exists_of_map otherCounted
  have reads := WorkflowRun.reads_list
  simp only [latestRun, decoded, otherDecoded]
  refine firstOf_agree (SameFirst.forall₂ parts
    (WorkflowRun.forall₂_listOf (written_of_decode reads spells decoded))
    (WorkflowRun.forall₂_listOf (written_of_decode reads otherSpells otherDecoded)) ?_) _ _
  rintro one other run next ⟨sha, updatedAt⟩ written nextWritten
  rw [written.shaOf, nextWritten.shaOf] at sha
  rw [written.updatedAtOf, nextWritten.updatedAtOf] at updatedAt
  exact ⟨Option.some.inj sha, fun counts => Option.some.inj (updatedAt counts)⟩

theorem artifactUrl_agree (counted : (Request.artifacts project name).hits body = .ok hits)
    (otherCounted : (Request.artifacts project name).hits otherBody = .ok otherHits)
    (parts : (Request.artifacts project name).SameParts timed outline otherOutline) :
    Agree Eq (artifactUrl name url body) (artifactUrl name url otherBody) := by
  obtain ⟨artifacts, decoded⟩ := exists_of_map counted
  obtain ⟨others, otherDecoded⟩ := exists_of_map otherCounted
  have reads := Artifact.reads_list
  rw [Request.SameParts, Artifact.urlOf_eq name (written_of_decode reads spells decoded),
    Artifact.urlOf_eq name (written_of_decode reads otherSpells otherDecoded)] at parts
  have first (found : List Artifact) :
      ((found.filter (·.name == name)).map (·.url)).head? =
        (found.find? fun artifact => artifact.name = name).map (·.url) := by
    rw [List.head?_map, List.head?_filter]
    rfl
  rw [← first, ← first] at parts
  simp only [artifactUrl, decoded, otherDecoded, firstOf_eq_head?, parts]
  exact .refl (fun _ => rfl) _

end Lookups

/-! ## Answers that were decoded -/

namespace Request

section Decoded

variable {timed : Bool} {project : Project} {workflow name body otherBody : String}

/-- Releases are answered alike if the first ones are the same as far as they count. -/
theorem sameAnswer_releases {releases others : List Release}
    (decoded : decode (Json.listReader Release.layout.reader) body = .ok releases)
    (otherDecoded : decode (Json.listReader Release.layout.reader) otherBody = .ok others)
    (first : SameFirst (Release.Same project) releases others) :
    (Request.releases project).SameAnswer timed (.ok body) (.ok otherBody) := by
  have tells {text : String} {found : List Release} :=
    @decode_eq_ok_iff _ _ _ text found Release.reads.list Release.adequate.list
  obtain ⟨outline, spells, written⟩ := tells.mp decoded
  obtain ⟨next, otherSpells, otherWritten⟩ := tells.mp otherDecoded
  refine .parts (congrArg (Except.map List.length) decoded)
    (congrArg (Except.map List.length) otherDecoded) spells otherSpells ?_
  refine first.forall₂ written.forall₂_items.flip otherWritten.forall₂_items.flip
    fun same (written : Release.Written _ _) (nextWritten : Release.Written _ _) => ?_
  rw [written.tagOf, nextWritten.tagOf, written.listingsOf, nextWritten.listingsOf]
  exact ⟨congrArg some same.tag, same.listings⟩

/-- Workflow runs are answered alike if the first ones are the same as far as they count. -/
theorem sameAnswer_runs {runs others : List WorkflowRun}
    (decoded : decode WorkflowRun.listLayout.reader body = .ok runs)
    (otherDecoded : decode WorkflowRun.listLayout.reader otherBody = .ok others)
    (first : SameFirst (WorkflowRun.Same timed) runs others) :
    (Request.runs project workflow).SameAnswer timed (.ok body) (.ok otherBody) := by
  have tells {text : String} {found : List WorkflowRun} :=
    @decode_eq_ok_iff _ _ _ text found WorkflowRun.reads_list WorkflowRun.adequate_list
  obtain ⟨outline, spells, wraps⟩ := tells.mp decoded
  obtain ⟨next, otherSpells, otherWraps⟩ := tells.mp otherDecoded
  refine .parts (congrArg (Except.map List.length) decoded)
    (congrArg (Except.map List.length) otherDecoded) spells otherSpells ?_
  refine first.forall₂ (WorkflowRun.forall₂_listOf wraps).flip
    (WorkflowRun.forall₂_listOf otherWraps).flip
    fun same (written : WorkflowRun.Written _ _) (nextWritten : WorkflowRun.Written _ _) => ?_
  rw [written.shaOf, nextWritten.shaOf, written.updatedAtOf, nextWritten.updatedAtOf]
  exact ⟨congrArg some same.sha, fun counts => congrArg some (same.updatedAt counts)⟩

/-- Artifacts are answered alike if the first ones of the name have the same address. -/
theorem sameAnswer_artifacts {artifacts others : List Artifact}
    (decoded : decode Artifact.listLayout.reader body = .ok artifacts)
    (otherDecoded : decode Artifact.listLayout.reader otherBody = .ok others)
    (first : (artifacts.find? fun artifact => artifact.name = name).map (·.url) =
      (others.find? fun artifact => artifact.name = name).map (·.url)) :
    (Request.artifacts project name).SameAnswer timed (.ok body) (.ok otherBody) := by
  have tells {text : String} {found : List Artifact} :=
    @decode_eq_ok_iff _ _ _ text found Artifact.reads_list Artifact.adequate_list
  obtain ⟨outline, spells, wraps⟩ := tells.mp decoded
  obtain ⟨next, otherSpells, otherWraps⟩ := tells.mp otherDecoded
  have counted {text : String} {found : List Artifact}
      (read : decode Artifact.listLayout.reader text = .ok found) :
      (Request.artifacts project name).hits text = .ok (found.countP (·.name == name)) := by
    rw [hits, read]
    rfl
  refine .parts (counted decoded) (counted otherDecoded) spells otherSpells ?_
  rw [SameParts, Artifact.urlOf_eq name wraps, Artifact.urlOf_eq name otherWraps]
  exact first

end Decoded

end Request

/-! ## Lookups that agree -/

namespace Client

/-- After the given earlier requests, the two clients get the same answers for a request. -/
def SameFor (one : Client) (timed : Bool) (other : Client) (asked : List String)
    (request : Request) : Prop :=
  request.SameAnswer timed (one.transport.answer asked (request.url one.apiBase))
    (other.transport.answer asked (request.url other.apiBase))

variable {timed : Bool} {one other : Client} {asked : List String} {project : Project}

theorem consult_agree {α : Type} {same : α → α → Prop} (reflexive : ∀ value, same value value)
    {request : Request} {url : String} {read : String → Except Failure α}
    (answers : request.SameAnswer timed (one.transport.answer asked url)
      (other.transport.answer asked url))
    (agree : ∀ {body otherBody : String} {hits otherHits : Nat} {outline otherOutline : Outline},
      SpellsWhole outline body.toList → SpellsWhole otherOutline otherBody.toList →
        request.hits body = .ok hits → request.hits otherBody = .ok otherHits →
          request.SameParts timed outline otherOutline → Agree same (read body) (read otherBody)) :
    Agree same (one.consult asked url read) (other.consult asked url read) := by
  unfold consult
  generalize one.transport.answer asked url = answer at answers
  generalize other.transport.answer asked url = next at answers
  cases answers with
  | same => exact .refl reflexive _
  | parts counted otherCounted spells otherSpells parts =>
      exact agree spells otherSpells counted otherCounted parts

/-- A download takes all of an answer. -/
theorem download_eq {url : String} (answers : one.SameFor timed other asked (.download url)) :
    one.transport.answer asked url = other.transport.answer asked url := by
  unfold SameFor Request.url at answers
  generalize one.transport.answer asked url = answer at answers ⊢
  generalize other.transport.answer asked url = next at answers ⊢
  cases answers with
  | same => rfl
  | parts _ _ _ _ parts => cases parts

variable (base : one.apiBase = other.apiBase)

include base

theorem releaseAfter_agree (answers : one.SameFor timed other asked (.releases project)) :
    Agree (Release.Same project) (one.releaseAfter asked project)
      (other.releaseAfter asked project) := by
  unfold SameFor at answers
  rw [releaseAfter, releaseAfter, ← base] at *
  exact consult_agree (fun _ => ⟨rfl, fun _ => rfl⟩) answers latestRelease_agree

theorem runAfter_agree {workflow : String}
    (answers : one.SameFor timed other asked (.runs project workflow)) :
    Agree (WorkflowRun.Same timed) (one.runAfter asked project workflow)
      (other.runAfter asked project workflow) := by
  unfold SameFor at answers
  rw [runAfter, runAfter, ← base] at *
  exact consult_agree (fun _ => ⟨rfl, fun _ => rfl⟩) answers latestRun_agree

theorem artifactAfter_agree {name : String}
    (answers : one.SameFor timed other asked (.artifacts project name)) :
    Agree Eq (one.artifactAfter asked project name) (other.artifactAfter asked project name) := by
  unfold SameFor at answers
  rw [artifactAfter, artifactAfter, ← base] at *
  exact consult_agree (fun _ => rfl) answers artifactUrl_agree

end Client

/-- A request fails alike for two clients that get the same answers. -/
theorem Request.Fails.of_sameFor {timed : Bool} {one other : Client} {asked : List String}
    {request : Request} {failure : Failure} (fails : request.Fails one asked failure)
    (base : one.apiBase = other.apiBase) (answers : one.SameFor timed other asked request) :
    request.Fails other asked failure := by
  cases request with
  | releases project =>
      rw [fails_releases_iff] at fails ⊢
      exact (Client.releaseAfter_agree base answers).error_eq fails
  | runs project workflow =>
      rw [fails_runs_iff] at fails ⊢
      exact (Client.runAfter_agree base answers).error_eq fails
  | artifacts project name =>
      rw [fails_artifacts_iff] at fails ⊢
      exact (Client.artifactAfter_agree base answers).error_eq fails
  | download url =>
      rw [fails_download_iff] at fails ⊢
      rw [← Client.download_eq answers, fails]

end DriverUplift.Github
