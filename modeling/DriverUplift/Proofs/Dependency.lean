import DriverUplift.Dependency
import DriverUplift.Proofs.Json.Alike

/-!
# Reading and writing dependency entries

A clean entry, which carries along nothing under the key of an attribute, reads
back as it was written.  In the other direction an entry that was read is
written with the same values under the same keys.
-/

namespace DriverUplift

namespace Attribute

theorem key_injective : Function.Injective key := by
  intro first second same
  cases first <;> cases second <;> first | rfl | simp [key] at same

theorem mem_all (attr : Attribute) : attr ∈ all := by
  cases attr <;> decide

theorem nodup_all : all.Nodup := by
  decide

/-- The keys of the attributes are the managed keys. -/
theorem keyed : Members.Keyed key isKey all :=
  Members.keyed_any key_injective nodup_all mem_all

@[simp]
theorem isKey_key (attr : Attribute) : isKey attr.key = true :=
  keyed.managed_key attr

end Attribute

namespace Field

@[simp]
theorem ofJson?_toJson? (field : Field) : ofJson? field.toJson? = field := by
  cases field <;> rfl

/-- Without a problem the state of an attribute keeps all that its value says. -/
theorem toJson?_ofJson? {found : Option Json}
    (sound : ∀ value, found = some value → problem? value = none) :
    (ofJson? found).toJson? = found := by
  cases found with
  | none => rfl
  | some value =>
      have fine := sound value rfl
      cases value <;> simp_all [problem?, ofJson?, toJson?]

theorem toJson?_of_text? {field : Field} {value : String} (text : field.text? = some value) :
    field.toJson? = some (.str value) := by
  cases field <;> simp_all [text?, toJson?]

theorem problem?_toJson? {field : Field} {value : Json} (written : field.toJson? = some value) :
    problem? value = none := by
  cases field <;> simp [toJson?] at written <;> subst written <;> rfl

theorem obeys_toJson? {rule : Json.Rule} (tolerant : rule.Tolerant) {field : Field} {value : Json}
    (written : field.toJson? = some value) (depth : Nat) : Json.Obeys rule depth value := by
  cases field with
  | absent => simp [toJson?] at written
  | null =>
      obtain rfl : Json.null = value := by simpa [toJson?] using written
      exact .null tolerant
  | text text =>
      obtain rfl : Json.str text = value := by simpa [toJson?] using written
      exact .text tolerant text

end Field

namespace Dependency

theorem eq_of_get {one other : Dependency} (attributes : ∀ attr, one.get attr = other.get attr)
    (extra : one.extra = other.extra) : one = other := by
  have githubTag := attributes .githubTag
  have version := attributes .version
  have updatedAt := attributes .updatedAt
  have url := attributes .url
  cases one
  cases other
  simp_all [get]

/-- Nothing is carried along twice or under the key of an attribute. -/
structure Clean (dependency : Dependency) : Prop where
  nodup : (Members.keys dependency.extra).Nodup
  unmanaged : ∀ member ∈ dependency.extra, Attribute.isKey member.1 = false

/-! ## Writing -/

theorem nodup_toMembers (dependency : Dependency) : (Members.keys dependency.toMembers).Nodup :=
  Attribute.keyed.nodup_keys_putAll_table dependency.extra

/-- A written entry obeys a tolerant rule if it carries along members of an entry that does. -/
theorem obeys_toJson {rule : Json.Rule} (tolerant : rule.Tolerant) {dependency : Dependency}
    {members : Members Json} {depth : Nat} (obeys : Json.Obeys rule depth (.obj members))
    (carried : ∀ member ∈ dependency.extra, member ∈ members) :
    Json.Obeys rule depth dependency.toJson := by
  refine Json.obeys_obj_iff.mpr
    ⟨tolerant.object obeys.here fun _ => dependency.nodup_toMembers, fun member mem => ?_⟩
  rcases Members.mem_of_mem_putAll mem with mem | mem
  · obtain ⟨attr, _, written⟩ := Members.mem_table mem
    exact Field.obeys_toJson? tolerant written _
  · exact obeys.member (carried member mem)

section Clean

variable {dependency : Dependency} (clean : dependency.Clean)

include clean

theorem Clean.get?_toMembers_key (attr : Attribute) :
    Members.get? attr.key dependency.toMembers = (dependency.get attr).toJson? :=
  Attribute.keyed.get?_putAll_table_key clean.nodup clean.unmanaged attr

theorem Clean.get?_toMembers_unmanaged {key : String} (unmanaged : Attribute.isKey key = false) :
    Members.get? key dependency.toMembers = Members.get? key dependency.extra :=
  Attribute.keyed.get?_putAll_table_unmanaged clean.nodup clean.unmanaged unmanaged

theorem Clean.filter_toMembers :
    dependency.toMembers.filter (fun member => !Attribute.isKey member.1) = dependency.extra :=
  Attribute.keyed.filter_putAll_table clean.nodup clean.unmanaged

end Clean

/-! ## Reading -/

theorem get_ofMembers (members : Members Json) (attr : Attribute) :
    (ofMembers members).get attr = .ofJson? (Members.get? attr.key members) := by
  cases attr <;> rfl

theorem ofJson_eq_ok_iff {json : Json} {dependency : Dependency} :
    ofJson json = .ok dependency ↔
      ∃ members, json = .obj members ∧ (∀ member ∈ members, memberProblem? member = none) ∧
        dependency = ofMembers members := by
  cases json with
  | obj members =>
      simp only [ofJson, Json.obj.injEq, exists_eq_left', ← List.findSome?_eq_none_iff]
      cases members.findSome? memberProblem? <;> simp [eq_comm]
  | _ => simp [ofJson]

theorem clean_ofMembers {members : Members Json} (nodup : (Members.keys members).Nodup) :
    (ofMembers members).Clean where
  nodup := nodup.sublist ((List.filter_sublist ..).map _)
  unmanaged member mem := by
    simpa [ofMembers] using (List.mem_filter.mp mem).2

theorem mem_of_mem_extra {members : Members Json} {member : String × Json}
    (mem : member ∈ (ofMembers members).extra) : member ∈ members :=
  (List.mem_filter.mp mem).1

/-- A text that is put under the key of an attribute becomes the text of the attribute. -/
theorem ofMembers_put (members : Members Json) (attr : Attribute) (value : String) :
    ofMembers (Members.put attr.key (.str value) members) = (ofMembers members).set attr value := by
  refine eq_of_get (fun other => ?_) ?_
  · rw [get_set, get_ofMembers, get_ofMembers, Members.get?_put]
    by_cases same : other = attr
    · simp [same, Field.ofJson?]
    · have distinct : other.key ≠ attr.key := fun h => same (Attribute.key_injective h)
      simp [same, distinct]
  · rw [extra_set]
    exact Members.filter_put (fun key => !Attribute.isKey key) members (by simp)

theorem memberProblem?_put {members : Members Json} (attr : Attribute) (value : String)
    (sound : ∀ member ∈ members, memberProblem? member = none) :
    ∀ member ∈ Members.put attr.key (.str value) members, memberProblem? member = none := by
  intro member mem
  rcases Members.mem_of_mem_put mem with rfl | mem
  · simp [memberProblem?, Field.problem?]
  · exact sound member mem

/-! ## One after the other -/

/-- A clean entry reads back as it was written. -/
theorem Clean.ofMembers_toMembers {dependency : Dependency} (clean : dependency.Clean) :
    ofMembers dependency.toMembers = dependency := by
  refine eq_of_get (fun attr => ?_) clean.filter_toMembers
  rw [get_ofMembers, clean.get?_toMembers_key, Field.ofJson?_toJson?]

theorem Clean.memberProblem?_toMembers {dependency : Dependency} (clean : dependency.Clean) :
    ∀ member ∈ dependency.toMembers, memberProblem? member = none := by
  intro member mem
  rcases Members.mem_of_mem_putAll mem with mem | mem
  · obtain ⟨attr, isKey, written⟩ := Members.mem_table mem
    simp [memberProblem?, ← isKey, Field.problem?_toJson? written]
  · simp [memberProblem?, clean.unmanaged member mem]

/-- An entry that was read is written with the same value, or none, under every key. -/
theorem get?_toMembers_ofMembers {members : Members Json} (nodup : (Members.keys members).Nodup)
    (sound : ∀ member ∈ members, memberProblem? member = none) (key : String) :
    Members.get? key (ofMembers members).toMembers = Members.get? key members := by
  have clean := clean_ofMembers nodup
  cases managed : Attribute.isKey key with
  | true =>
      obtain ⟨attr, rfl⟩ := Attribute.keyed.managed_iff.mp managed
      rw [clean.get?_toMembers_key, get_ofMembers]
      refine Field.toJson?_ofJson? fun value found => ?_
      simpa [memberProblem?] using sound _ (Members.mem_of_get? found)
  | false =>
      rw [clean.get?_toMembers_unmanaged managed]
      have kept : (!Attribute.isKey key) = true := by rw [managed, Bool.not_false]
      exact Members.get?_filter (fun key => !Attribute.isKey key) kept members

/-- An entry that was read is written as the same entry, but for the order of its members. -/
theorem same_toJson_ofMembers {members : Members Json} {depth : Nat}
    (obeys : Json.Obeys Json.distinctKeys depth (.obj members))
    (sound : ∀ member ∈ members, memberProblem? member = none) :
    Json.same (ofMembers members).toJson (.obj members) = true := by
  refine Json.same_obj (nodup_toMembers _) obeys.here fun key => ?_
  rw [get?_toMembers_ofMembers obeys.here sound]
  exact Json.agree_refl fun value found => obeys.get? found

end Dependency

end DriverUplift
