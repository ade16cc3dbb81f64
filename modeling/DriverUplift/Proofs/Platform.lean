import DriverUplift.Platform
import DriverUplift.Proofs.Dependency

/-!
# Reading and writing platform sections

The laws of dependency entries one level further up: a clean section reads back
as it was written, and a section that was read is written with the same values
under the same keys.
-/

namespace DriverUplift

namespace Component

theorem key_injective : Function.Injective key := by
  intro first second same
  cases first <;> cases second <;> first | rfl | simp [key] at same

theorem mem_all (component : Component) : component ∈ all := by
  cases component <;> decide

theorem nodup_all : all.Nodup := by
  decide

/-- The keys of the components are the managed keys. -/
theorem keyed : Members.Keyed key isKey all :=
  Members.keyed_any key_injective nodup_all mem_all

@[simp]
theorem isKey_key (component : Component) : isKey component.key = true :=
  keyed.managed_key component

end Component

namespace Platform

theorem eq_of_get {one other : Platform}
    (components : ∀ component, one.get component = other.get component)
    (extra : one.extra = other.extra) : one = other := by
  have computeRuntime := components .computeRuntime
  have igc := components .igc
  have igcDev := components .igcDev
  have cm := components .cm
  have levelZero := components .levelZero
  cases one
  cases other
  simp_all [get]

theorem set_get (platform : Platform) (component : Component) :
    platform.set component (platform.get component) = platform := by
  cases component <;> rfl

theorem set_set (platform : Platform) (component : Component) (first second : Dependency) :
    (platform.set component first).set component second = platform.set component second := by
  cases component <;> rfl

/-- Nothing is carried along twice or under the key of a component, and no entry does either. -/
structure Clean (platform : Platform) : Prop where
  entry : ∀ component, (platform.get component).Clean
  nodup : (Members.keys platform.extra).Nodup
  unmanaged : ∀ member ∈ platform.extra, Component.isKey member.1 = false

/-! ## Writing -/

theorem managedMembers_eq (platform : Platform) :
    platform.managedMembers =
      Members.table Component.key (fun component => some (platform.get component).toJson)
        Component.all := by
  simp [managedMembers, Members.table, List.filterMap_eq_map']

theorem toMembers_eq (platform : Platform) :
    platform.toMembers =
      Members.putAll (Members.table Component.key
        (fun component => some (platform.get component).toJson) Component.all) platform.extra := by
  rw [toMembers, managedMembers_eq]

theorem nodup_toMembers (platform : Platform) : (Members.keys platform.toMembers).Nodup := by
  rw [toMembers_eq]
  exact Component.keyed.nodup_keys_putAll_table platform.extra

/-- What is written in a section is the entry of a component or was carried along. -/
theorem mem_toMembers {platform : Platform} {member : String × Json}
    (mem : member ∈ platform.toMembers) :
    (∃ component : Component, member = (component.key, (platform.get component).toJson)) ∨
      member ∈ platform.extra := by
  refine (Members.mem_of_mem_putAll mem).imp_left fun mem => ?_
  obtain ⟨component, _, rfl⟩ := List.mem_map.mp mem
  exact ⟨component, rfl⟩

section Clean

variable {platform : Platform} (clean : platform.Clean)

include clean

theorem Clean.get?_toMembers_key (component : Component) :
    Members.get? component.key platform.toMembers = some (platform.get component).toJson := by
  rw [toMembers_eq]
  exact Component.keyed.get?_putAll_table_key clean.nodup clean.unmanaged component

theorem Clean.get?_toMembers_unmanaged {key : String} (unmanaged : Component.isKey key = false) :
    Members.get? key platform.toMembers = Members.get? key platform.extra := by
  rw [toMembers_eq]
  exact Component.keyed.get?_putAll_table_unmanaged clean.nodup clean.unmanaged unmanaged

theorem Clean.filter_toMembers :
    platform.toMembers.filter (fun member => !Component.isKey member.1) = platform.extra := by
  rw [toMembers_eq]
  exact Component.keyed.filter_putAll_table clean.nodup clean.unmanaged

end Clean

/-! ## Reading -/

/-- A section with these members reads as the platform. -/
structure Describes (members : Members Json) (platform : Platform) : Prop where
  complete : ∀ component : Component, component.key ∈ Members.keys members
  sound : ∀ member ∈ members, memberProblem? member = none
  eq : platform = ofMembers members

theorem missing?_eq_none_iff {members : Members Json} :
    missing? (.obj members) = none ↔
      ∀ component : Component, component.key ∈ Members.keys members := by
  simp only [missing?, List.find?_eq_none, Members.has, Bool.not_eq_true', Bool.not_eq_false,
    Members.get?_isSome_iff]
  constructor
  · intro none component
    exact none component component.mem_all
  · intro all component _
    exact all component

/-- A section that lacks nothing and is read without a problem is described by its members. -/
theorem describes_iff {json : Json} {platform : Platform} :
    missing? json = none ∧ ofJson json = .ok platform ↔
      ∃ members, json = .obj members ∧ Describes members platform := by
  cases json with
  | obj members =>
      simp only [ofJson, Json.obj.injEq, exists_eq_left', missing?_eq_none_iff]
      constructor
      · rintro ⟨complete, read⟩
        cases problem : members.findSome? memberProblem? with
        | none =>
            rw [problem] at read
            exact ⟨complete, List.findSome?_eq_none_iff.mp problem, by simpa [eq_comm] using read⟩
        | some found => simp [problem] at read
      · rintro ⟨complete, sound, rfl⟩
        exact ⟨complete, by rw [List.findSome?_eq_none_iff.mpr sound]⟩
  | _ => simp [ofJson]

theorem get_ofMembers (members : Members Json) (component : Component) :
    (ofMembers members).get component = entry members component := by
  cases component <;> rfl

theorem entry_eq {members entry : Members Json} {component : Component}
    (found : Members.get? component.key members = some (.obj entry)) :
    Platform.entry members component = Dependency.ofMembers entry := by
  simp [Platform.entry, found]

theorem memberProblem?_eq_none_iff {component : Component} {json : Json} :
    memberProblem? (component.key, json) = none ↔
      ∃ entry, json = .obj entry ∧ ∀ member ∈ entry, Dependency.memberProblem? member = none := by
  simp only [memberProblem?, Component.isKey_key, if_true]
  cases read : Dependency.ofJson json with
  | error problem =>
      refine iff_of_false (by simp) ?_
      rintro ⟨entry, rfl, sound⟩
      have := Dependency.ofJson_eq_ok_iff.mpr ⟨entry, rfl, sound, rfl⟩
      rw [this] at read
      cases read
  | ok dependency =>
      obtain ⟨entry, rfl, sound, _⟩ := Dependency.ofJson_eq_ok_iff.mp read
      exact iff_of_true rfl ⟨entry, rfl, sound⟩

theorem memberProblem?_of_unmanaged {member : String × Json}
    (unmanaged : Component.isKey member.1 = false) : memberProblem? member = none := by
  simp [memberProblem?, unmanaged]

namespace Describes

variable {members : Members Json} {platform : Platform}

/-- Every component has an entry, and the platform holds what the entry says. -/
theorem exists_entry (describes : Describes members platform) (component : Component) :
    ∃ entry, Members.get? component.key members = some (.obj entry) ∧
      (∀ member ∈ entry, Dependency.memberProblem? member = none) ∧
      platform.get component = Dependency.ofMembers entry := by
  cases found : Members.get? component.key members with
  | none => exact absurd (describes.complete component) (Members.get?_eq_none_iff.mp found)
  | some json =>
      obtain ⟨entry, rfl, sound⟩ :=
        memberProblem?_eq_none_iff.mp (describes.sound _ (Members.mem_of_get? found))
      exact ⟨entry, rfl, sound, by rw [describes.eq, get_ofMembers, entry_eq found]⟩

theorem mem_of_mem_extra (describes : Describes members platform) {member : String × Json}
    (mem : member ∈ platform.extra) : member ∈ members := by
  rw [describes.eq] at mem
  exact (List.mem_filter.mp mem).1

theorem clean (describes : Describes members platform) {depth : Nat}
    (obeys : Json.Obeys Json.distinctKeys depth (.obj members)) : platform.Clean where
  entry component := by
    obtain ⟨entry, found, _, same⟩ := describes.exists_entry component
    rw [same]
    exact Dependency.clean_ofMembers (obeys.get? found).here
  nodup := by
    rw [describes.eq]
    exact obeys.here.sublist ((List.filter_sublist ..).map _)
  unmanaged member mem := by
    rw [describes.eq] at mem
    simpa using (List.mem_filter.mp mem).2

/-- The section is written with the same value, or none, under every key that is no component. -/
theorem get?_toMembers_unmanaged (describes : Describes members platform) {depth : Nat}
    (obeys : Json.Obeys Json.distinctKeys depth (.obj members)) {key : String}
    (unmanaged : Component.isKey key = false) :
    Members.get? key platform.toMembers = Members.get? key members := by
  rw [(describes.clean obeys).get?_toMembers_unmanaged unmanaged, describes.eq]
  have kept : (!Component.isKey key) = true := by rw [unmanaged, Bool.not_false]
  exact Members.get?_filter (fun key => !Component.isKey key) kept members

/-- A section that was read is written as the same section, but for the order of its members. -/
theorem same_toJson (describes : Describes members platform) {depth : Nat}
    (obeys : Json.Obeys Json.distinctKeys depth (.obj members)) :
    Json.same platform.toJson (.obj members) = true := by
  refine Json.same_obj platform.nodup_toMembers obeys.here fun key => ?_
  cases managed : Component.isKey key with
  | true =>
      obtain ⟨component, rfl⟩ := Component.keyed.managed_iff.mp managed
      obtain ⟨entry, found, sound, same⟩ := describes.exists_entry component
      rw [(describes.clean obeys).get?_toMembers_key, found, same]
      exact .some (Dependency.same_toJson_ofMembers (obeys.get? found) sound)
  | false =>
      rw [describes.get?_toMembers_unmanaged obeys managed]
      exact Json.agree_refl fun value found => obeys.get? found

end Describes

/-! ## One after the other -/

/-- A clean platform is what its own section describes. -/
theorem Clean.describes {platform : Platform} (clean : platform.Clean) :
    Describes platform.toMembers platform where
  complete component := by
    rw [← Members.get?_isSome_iff, clean.get?_toMembers_key]
    rfl
  sound member mem := by
    rcases mem_toMembers mem with ⟨component, rfl⟩ | mem
    · exact memberProblem?_eq_none_iff.mpr
        ⟨_, rfl, (clean.entry component).memberProblem?_toMembers⟩
    · exact memberProblem?_of_unmanaged (clean.unmanaged _ mem)
  eq := by
    refine eq_of_get (fun component => ?_) clean.filter_toMembers.symm
    rw [get_ofMembers, entry_eq (clean.get?_toMembers_key component)]
    exact (clean.entry component).ofMembers_toMembers.symm

end Platform

end DriverUplift
