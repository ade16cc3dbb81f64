import DriverUplift.Github.Records
import DriverUplift.Proofs.Json.Decoding

/-!
# How the records of the API are written

The body of an answer tells a list of records, or it tells none.  It tells releases if it is a
list of them, and runs or artifacts if it is a record around such a list.  What it tells is
settled by its outline, down to the last item of the list.
-/

namespace DriverUplift.Github

open Json (Layout Outline PartIs SpellsWhole)

/-! ## How records are written -/

structure Texts (key other : String) (outline : Outline) (text otherText : String) : Prop where
  isRecord : outline.IsRecord [key, other]
  text : outline.textAt? [key, other] key = some text
  otherText : outline.textAt? [key, other] other = some otherText

structure Wraps {α : Type} (key : String) (written : Outline → α → Prop) (outline : Outline)
    (values : List α) : Prop where
  isRecord : outline.IsRecord [key]
  list : ∃ list, outline.part? [key] key = some list ∧ list.IsList written values

def Asset.Written (outline : Outline) (asset : Asset) : Prop :=
  Texts "name" "browser_download_url" outline asset.name asset.url

def WorkflowRun.Written (outline : Outline) (run : WorkflowRun) : Prop :=
  Texts "head_sha" "updated_at" outline run.sha run.updatedAt

def Artifact.Written (outline : Outline) (artifact : Artifact) : Prop :=
  Texts "name" "archive_download_url" outline artifact.name artifact.url

/-- A release is written as its tag and the list of its assets, which may be left out. -/
structure Release.Written (outline : Outline) (release : Release) : Prop where
  isRecord : outline.IsRecord ["tag_name", "assets"]
  tag : outline.textAt? ["tag_name", "assets"] "tag_name" = some release.tag
  assets :
    match outline.part? ["tag_name", "assets"] "assets" with
    | some list => list.IsList Asset.Written release.assets
    | none => release.assets = []

/-! ## What the readers read -/

theorem partIs_text_iff {keys : List String} {key blank value : String} {outline : Outline} :
    PartIs (fun part text => part.text? = some text) true blank (outline.part? keys key) value ↔
      outline.textAt? keys key = some value := by
  unfold PartIs Outline.textAt?
  cases outline.part? keys key <;> simp

section Readers

variable {α : Type} {name key other : String}

theorem reads_texts {blank : α} {store otherStore : String → α → α} {get otherGet : α → String}
    (different : key ≠ other) (sets : ∀ given record, get (store given record) = given)
    (keeps : ∀ given record, get (otherStore given record) = get record)
    (otherSets : ∀ given record, otherGet (otherStore given record) = given)
    (otherKeeps : ∀ given record, otherGet (store given record) = otherGet record)
    (determined : ∀ one next, get one = get next → otherGet one = otherGet next → one = next) :
    (Layout.reader ⟨name, blank, [.mandatory key Json.textReader store,
        .mandatory other Json.textReader otherStore]⟩).Reads
      fun outline record => Texts key other outline (get record) (otherGet record) := by
  refine (Layout.reads_two Json.reads_textReader Json.reads_textReader different sets keeps
    otherSets otherKeeps determined).congr fun outline record _ => ?_
  rw [partIs_text_iff, partIs_text_iff]
  exact ⟨fun ⟨isRecord, text, otherText⟩ => ⟨isRecord, text, otherText⟩,
    fun ⟨isRecord, text, otherText⟩ => ⟨isRecord, text, otherText⟩⟩

theorem reads_wraps {item : Json.Reader α} {written : Outline → α → Prop}
    (reads : item.Reads written) :
    (Layout.reader ⟨name, [], [.mandatory key (Json.listReader item)
        fun values _ => values]⟩).Reads (Wraps key written) := by
  have one : (Layout.reader ⟨name, [], [.mandatory key (Json.listReader item)
      fun values _ => values]⟩).Reads fun outline values => outline.IsRecord [key] ∧
        PartIs (Outline.IsList written) true [] (outline.part? [key] key) values :=
    Layout.reads_one reads.list (fun _ _ => rfl) fun _ _ same => same
  refine one.congr fun outline values _ => ?_
  constructor
  · rintro ⟨isRecord, is⟩
    refine ⟨isRecord, ?_⟩
    cases found : outline.part? [key] key with
    | none => cases (is.of_none found).1
    | some list => exact ⟨list, rfl, is.of_some found⟩
  · rintro ⟨isRecord, list, found, is⟩
    refine ⟨isRecord, ?_⟩
    rw [found]
    exact is

end Readers

theorem Asset.reads : Asset.layout.reader.Reads Asset.Written :=
  reads_texts (by decide) (fun _ _ => rfl) (fun _ _ => rfl) (fun _ _ => rfl) (fun _ _ => rfl)
    fun ⟨_, _⟩ ⟨_, _⟩ name url => congrArg₂ Asset.mk name url

theorem WorkflowRun.reads : WorkflowRun.layout.reader.Reads WorkflowRun.Written :=
  reads_texts (by decide) (fun _ _ => rfl) (fun _ _ => rfl) (fun _ _ => rfl) (fun _ _ => rfl)
    fun ⟨_, _⟩ ⟨_, _⟩ sha updatedAt => congrArg₂ WorkflowRun.mk sha updatedAt

theorem Artifact.reads : Artifact.layout.reader.Reads Artifact.Written :=
  reads_texts (by decide) (fun _ _ => rfl) (fun _ _ => rfl) (fun _ _ => rfl) (fun _ _ => rfl)
    fun ⟨_, _⟩ ⟨_, _⟩ name url => congrArg₂ Artifact.mk name url

theorem Release.reads : Release.layout.reader.Reads Release.Written := by
  have two : Release.layout.reader.Reads fun outline release =>
      outline.IsRecord ["tag_name", "assets"] ∧
        PartIs (fun part text => part.text? = some text) true ""
          (outline.part? ["tag_name", "assets"] "tag_name") release.tag ∧
        PartIs (Outline.IsList Asset.Written) false []
          (outline.part? ["tag_name", "assets"] "assets") release.assets :=
    Layout.reads_two Json.reads_textReader Asset.reads.list (by decide) (fun _ _ => rfl)
      (fun _ _ => rfl) (fun _ _ => rfl) (fun _ _ => rfl)
      fun ⟨_, _⟩ ⟨_, _⟩ tag assets => congrArg₂ Release.mk tag assets
  refine two.congr fun outline release _ => ?_
  rw [partIs_text_iff]
  constructor
  · rintro ⟨isRecord, tag, assets⟩
    refine ⟨isRecord, tag, ?_⟩
    unfold PartIs at assets
    split <;> simp_all
  · rintro ⟨isRecord, tag, assets⟩
    refine ⟨isRecord, tag, ?_⟩
    unfold PartIs
    split <;> simp_all

theorem WorkflowRun.reads_list :
    WorkflowRun.listLayout.reader.Reads (Wraps "workflow_runs" WorkflowRun.Written) :=
  reads_wraps WorkflowRun.reads

theorem Artifact.reads_list :
    Artifact.listLayout.reader.Reads (Wraps "artifacts" Artifact.Written) :=
  reads_wraps Artifact.reads

theorem Asset.adequate : Asset.layout.reader.Adequate :=
  Layout.adequate_two Json.adequate_textReader Json.adequate_textReader

theorem Release.adequate : Release.layout.reader.Adequate :=
  Layout.adequate_two Json.adequate_textReader Asset.adequate.list

theorem WorkflowRun.adequate : WorkflowRun.layout.reader.Adequate :=
  Layout.adequate_two Json.adequate_textReader Json.adequate_textReader

theorem WorkflowRun.adequate_list : WorkflowRun.listLayout.reader.Adequate :=
  Layout.adequate_one WorkflowRun.adequate.list

theorem Artifact.adequate : Artifact.layout.reader.Adequate :=
  Layout.adequate_two Json.adequate_textReader Json.adequate_textReader

theorem Artifact.adequate_list : Artifact.listLayout.reader.Adequate :=
  Layout.adequate_one Artifact.adequate.list

/-! ## What a body tells -/

section Tells

variable {α : Type} {reader : Json.Reader α} {written : Outline → α → Prop} {body : String}
  {value : α}

/-- The body spells an outline that is written for the value. -/
def Tells (written : Outline → α → Prop) (body : String) (value : α) : Prop :=
  ∃ outline, SpellsWhole outline body.toList ∧ written outline value

theorem decode_eq_ok_iff (reads : reader.Reads written) (adequate : reader.Adequate) :
    decode reader body = .ok value ↔ Tells written body value := by
  rw [Tells, ← reads.whole_iff adequate, decode]
  cases Json.whole reader body.toList <;> simp

/-- What is decoded is written as any outline of the body. -/
theorem written_of_decode (reads : reader.Reads written) {outline : Outline}
    (spells : SpellsWhole outline body.toList) (decoded : decode reader body = .ok value) :
    written outline value := by
  unfold decode at decoded
  split at decoded
  · rename_i read
    obtain rfl := Except.ok.inj decoded
    exact reads.of_whole spells read
  · cases decoded

/-- What tells nothing is a fault of its JSON. -/
theorem decode_eq_error (reads : reader.Reads written) (adequate : reader.Adequate)
    (nothing : ∀ value, ¬Tells written body value) :
    ∃ error, decode reader body = .error (.json error) := by
  cases read : Json.whole reader body.toList with
  | ok value =>
      exact absurd ((decode_eq_ok_iff reads adequate).mp (by rw [decode, read])) (nothing value)
  | error error => exact ⟨error, by rw [decode, read]⟩

/-- A body tells only one value. -/
theorem Tells.unique (reads : reader.Reads written) (adequate : reader.Adequate) {other : α}
    (one : Tells written body value) (two : Tells written body other) : value = other :=
  Except.ok.inj (((decode_eq_ok_iff reads adequate).mpr one).symm.trans
    ((decode_eq_ok_iff reads adequate).mpr two))

end Tells

end DriverUplift.Github
