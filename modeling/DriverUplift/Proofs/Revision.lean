import DriverUplift.Manifest
import DriverUplift.Proofs.Platform
import DriverUplift.Session

/-!
# Revisions

What edits do to a platform, and what the same edits do to a document when
each is a plain assignment to a path of keys.  Reading a section and revising
the platform comes to the same as assigning and then reading.
-/

namespace DriverUplift

/-! ## Revising a platform -/

namespace Edit

/-- The text that the last of the edits for an attribute of a component gives it. -/
def latest? (component : Component) (attr : Attribute) : List Edit → Option String
  | [] => none
  | edit :: edits =>
      match latest? component attr edits with
      | some value => some value
      | none => if edit.component = component ∧ edit.attr = attr then some edit.value else none

theorem get_apply (platform : Platform) (edit : Edit) (component : Component) (attr : Attribute) :
    ((edit.apply platform).get component).get attr =
      if edit.component = component ∧ edit.attr = attr then .text edit.value
      else (platform.get component).get attr := by
  by_cases same : edit.component = component
  · subst same
    by_cases sameAttr : edit.attr = attr
    · simp [Edit.apply, sameAttr]
    · simp [Edit.apply, sameAttr, Ne.symm sameAttr]
  · simp [Edit.apply, same, Ne.symm same]

theorem extra_get_apply (platform : Platform) (edit : Edit) (component : Component) :
    ((edit.apply platform).get component).extra = (platform.get component).extra := by
  by_cases same : component = edit.component <;> simp [Edit.apply, same]

theorem extra_apply (platform : Platform) (edit : Edit) :
    (edit.apply platform).extra = platform.extra := by
  simp [Edit.apply]

end Edit

namespace Platform

/-- An attribute has the text of its last edit, and is as it was if there is none. -/
theorem get_revise (platform : Platform) (edits : List Edit) (component : Component)
    (attr : Attribute) :
    ((platform.revise edits).get component).get attr =
      match Edit.latest? component attr edits with
      | some value => .text value
      | none => (platform.get component).get attr := by
  induction edits generalizing platform with
  | nil => rfl
  | cons edit edits ih =>
      rw [revise, List.foldl_cons, ← revise, ih, Edit.get_apply, Edit.latest?]
      cases Edit.latest? component attr edits with
      | some value => rfl
      | none =>
          by_cases hit : edit.component = component ∧ edit.attr = attr
          · simp [hit]
          · simp [hit]

theorem extra_get_revise (platform : Platform) (edits : List Edit) (component : Component) :
    ((platform.revise edits).get component).extra = (platform.get component).extra := by
  induction edits generalizing platform with
  | nil => rfl
  | cons edit edits ih => exact (ih (edit.apply platform)).trans (edit.extra_get_apply platform _)

theorem extra_revise (platform : Platform) (edits : List Edit) :
    (platform.revise edits).extra = platform.extra := by
  induction edits generalizing platform with
  | nil => rfl
  | cons edit edits ih => exact (ih (edit.apply platform)).trans (edit.extra_apply platform)

theorem revise_append (platform : Platform) (first second : List Edit) :
    platform.revise (first ++ second) = (platform.revise first).revise second :=
  List.foldl_append

/-- A component is revised by its own edits. -/
theorem get_revise_eq (platform : Platform) (edits : List Edit) (component : Component) :
    (platform.revise edits).get component = (platform.get component).revise component edits := by
  induction edits generalizing platform with
  | nil => rfl
  | cons edit edits ih =>
      rw [revise, List.foldl_cons, ← revise, ih, Edit.apply, get_set, Dependency.revise,
        Dependency.revise, List.filter_cons]
      by_cases own : component = edit.component
      · simp [own]
      · simp [own, Ne.symm own]

/-- Edits of one component leave everything else as it is. -/
theorem revise_eq_set {component : Component} {edits : List Edit}
    (confined : ∀ edit ∈ edits, edit.component = component) (platform : Platform) :
    platform.revise edits =
      platform.set component ((platform.get component).revise component edits) := by
  refine eq_of_get ?_ ?_
  · intro other
    rw [get_revise_eq, get_set]
    by_cases same : other = component
    · rw [if_pos same, same]
    · have none : edits.filter (·.component = other) = [] := by
        rw [List.filter_eq_nil_iff]
        intro edit mem
        simp [confined edit mem, Ne.symm same]
      rw [if_neg same, Dependency.revise, none, List.foldl_nil]
  · rw [extra_revise, extra_set]

/-- Making the same edits again changes nothing. -/
theorem revise_revise (platform : Platform) (edits : List Edit) :
    (platform.revise edits).revise edits = platform.revise edits := by
  refine eq_of_get (fun component => Dependency.eq_of_get (fun attr => ?_) ?_) ?_
  · rw [get_revise (platform.revise edits)]
    cases latest : Edit.latest? component attr edits with
    | none => rfl
    | some value => rw [get_revise, latest]
  · rw [extra_get_revise]
  · rw [extra_revise]

theorem Clean.revise {platform : Platform} (clean : platform.Clean) (edits : List Edit) :
    (platform.revise edits).Clean where
  entry component := by
    refine ⟨?_, ?_⟩
    · rw [extra_get_revise]
      exact (clean.entry component).nodup
    · rw [extra_get_revise]
      exact (clean.entry component).unmanaged
  nodup := by
    rw [extra_revise]
    exact clean.nodup
  unmanaged := by
    rw [extra_revise]
    exact clean.unmanaged

/-- A revised platform is written within the rules that its section obeyed. -/
theorem Describes.obeys_revise {rule : Json.Rule} (tolerant : rule.Tolerant)
    {members : Members Json} {platform : Platform} (describes : Describes members platform)
    {depth : Nat} (obeys : Json.Obeys rule depth (.obj members)) (edits : List Edit) :
    Json.Obeys rule depth (platform.revise edits).toJson := by
  refine Json.obeys_obj_iff.mpr
    ⟨tolerant.object obeys.here fun _ => nodup_toMembers _, fun member mem => ?_⟩
  rcases mem_toMembers mem with ⟨component, rfl⟩ | mem
  · obtain ⟨entry, found, _, same⟩ := describes.exists_entry component
    refine Dependency.obeys_toJson tolerant (obeys.get? found) fun member mem => ?_
    rw [extra_get_revise, same] at mem
    exact Dependency.mem_of_mem_extra mem
  · rw [extra_revise] at mem
    exact obeys.member (describes.mem_of_mem_extra mem)

end Platform

/-! ## Assigning in a document -/

namespace Members

def objectAt (key : String) (members : Members Json) : Members Json :=
  match get? key members with
  | some (.obj inner) => inner
  | _ => []

/-- Assign a value to a path of keys; objects that are missing on the way are made. -/
def assign (value : Json) : String → List String → Members Json → Members Json
  | key, [], members => put key value members
  | key, next :: path, members =>
      put key (.obj (assign value next path (objectAt key members))) members

theorem objectAt_eq {key : String} {members inner : Members Json}
    (found : get? key members = some (.obj inner)) : objectAt key members = inner := by
  simp [objectAt, found]

end Members

def Edit.assign (members : Members Json) (edit : Edit) : Members Json :=
  Members.assign (.str edit.value) edit.component.key [edit.attr.key] members

namespace Manifest

def assign (key : String) (manifest : Manifest) (edit : Edit) : Manifest :=
  ⟨Members.assign (.str edit.value) key [edit.component.key, edit.attr.key] manifest.platforms⟩

def assignAll (key : String) (manifest : Manifest) (edits : List Edit) : Manifest :=
  edits.foldl (assign key) manifest

end Manifest

namespace Platform.Describes

variable {members : Members Json} {platform : Platform}

/-- After an assignment the section describes the platform after the edit. -/
theorem assign (describes : Describes members platform) (edit : Edit) :
    Describes (edit.assign members) (edit.apply platform) := by
  obtain ⟨entry, found, sound, same⟩ := describes.exists_entry edit.component
  have assigned : edit.assign members =
      Members.put edit.component.key
        (.obj (Members.put edit.attr.key (.str edit.value) entry)) members := by
    simp [Edit.assign, Members.assign, Members.objectAt_eq found]
  have lookUp (component : Component) (other : component ≠ edit.component) :
      Members.get? component.key (edit.assign members) = Members.get? component.key members := by
    have distinct : component.key ≠ edit.component.key :=
      fun h => other (Component.key_injective h)
    rw [assigned, Members.get?_put, if_neg distinct]
  have here : Members.get? edit.component.key (edit.assign members) =
      some (.obj (Members.put edit.attr.key (.str edit.value) entry)) := by
    rw [assigned, Members.get?_put, if_pos rfl]
  refine ⟨fun component => ?_, fun member mem => ?_, ?_⟩
  · rw [assigned, Members.keys_put_of_mem (describes.complete edit.component)]
    exact describes.complete component
  · rw [assigned] at mem
    rcases Members.mem_of_mem_put mem with rfl | mem
    · exact memberProblem?_eq_none_iff.mpr
        ⟨_, rfl, Dependency.memberProblem?_put edit.attr edit.value sound⟩
    · exact describes.sound member mem
  · refine eq_of_get (fun component => ?_) ?_
    · rw [get_ofMembers, Edit.apply, get_set]
      by_cases hit : component = edit.component
      · rw [if_pos hit, hit, entry_eq here, Dependency.ofMembers_put, same]
      · rw [if_neg hit, Platform.entry, lookUp component hit, describes.eq, get_ofMembers,
          Platform.entry]
    · rw [Edit.extra_apply, describes.eq, assigned]
      exact (Members.filter_put (fun key => !Component.isKey key) members (by simp)).symm

theorem obeys_assign {rule : Json.Rule} (tolerant : rule.Tolerant)
    (describes : Describes members platform) {depth : Nat}
    (obeys : Json.Obeys rule depth (.obj members)) (edit : Edit) :
    Json.Obeys rule depth (.obj (edit.assign members)) := by
  obtain ⟨entry, found, _, _⟩ := describes.exists_entry edit.component
  have revised : Json.Obeys rule (depth + 1)
      (.obj (Members.put edit.attr.key (.str edit.value) entry)) :=
    (obeys.get? found).put tolerant (.text tolerant edit.value)
  rw [Edit.assign, Members.assign, Members.objectAt_eq found]
  exact obeys.put tolerant revised

/-- After all assignments the section describes the revised platform, within the same rules. -/
theorem assignAll {rule : Json.Rule} (tolerant : rule.Tolerant)
    (describes : Describes members platform) {depth : Nat}
    (obeys : Json.Obeys rule depth (.obj members)) (edits : List Edit) :
    Describes (edits.foldl (fun members edit => edit.assign members) members)
        (platform.revise edits) ∧
      Json.Obeys rule depth
        (.obj (edits.foldl (fun members edit => edit.assign members) members)) := by
  induction edits generalizing members platform with
  | nil => exact ⟨describes, obeys⟩
  | cons edit edits ih =>
      exact ih (describes.assign edit) (describes.obeys_assign tolerant obeys edit)

end Platform.Describes

namespace Manifest

/-- Assignments in the section of a platform leave everything else alone. -/
theorem assignAll_eq {key : String} {manifest : Manifest} {members : Members Json}
    (found : Members.get? key manifest.platforms = some (.obj members)) (edits : List Edit) :
    manifest.assignAll key edits =
      ⟨Members.put key (.obj (edits.foldl (fun members edit => edit.assign members) members))
        manifest.platforms⟩ := by
  induction edits generalizing manifest members with
  | nil =>
      rw [assignAll, List.foldl_nil, List.foldl_nil, Members.put_eq_self found]
  | cons edit edits ih =>
      have step : manifest.assign key edit =
          ⟨Members.put key (.obj (edit.assign members)) manifest.platforms⟩ := by
        rw [assign, Members.assign, Members.objectAt_eq found]
        rfl
      have next : Members.get? key (manifest.assign key edit).platforms =
          some (.obj (edit.assign members)) := by
        rw [step, Members.get?_put, if_pos rfl]
      rw [assignAll, List.foldl_cons, ← assignAll, ih next, List.foldl_cons, step,
        Members.put_put]

end Manifest

end DriverUplift
