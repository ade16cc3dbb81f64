import DriverUplift.Proofs.Manifest

/-!
# Shadowed members

What is carried along in an entry or in a section may have the key of a managed
member.  Such a member is shadowed: it is written with the value that is carried
along, and the platform is not what its own section reads as.  Without shadows
every platform reads back as it was stored.
-/

namespace DriverUplift

/-! ## Entries -/

namespace Dependency

def emitted (dependency : Dependency) : List String :=
  (Attribute.all.filter fun attr => dependency.get attr ≠ .absent).map Attribute.key

/--
How an entry is written.  The attributes that are not left out come first, and what is
carried along under other keys follows in its order.  A key that is carried along has the
value it is carried along with; any other attribute has the value that stands for its state.
-/
structure WrittenAs (dependency : Dependency) (members : Members Json) : Prop where
  nodup : (Members.keys members).Nodup
  keys_eq : Members.keys members =
    dependency.emitted ++
      (Members.keys dependency.extra).filter fun key => key ∉ dependency.emitted
  carried : ∀ key ∈ Members.keys dependency.extra,
    Members.get? key members = Members.get? key dependency.extra
  managed : ∀ attr : Attribute, attr.key ∉ Members.keys dependency.extra →
    match dependency.get attr with
    | .absent => Members.get? attr.key members = none
    | .null => Members.get? attr.key members = some .null
    | .text value => Members.get? attr.key members = some (.str value)

theorem keys_managedMembers (dependency : Dependency) :
    Members.keys dependency.managedMembers = dependency.emitted := by
  rw [managedMembers, ← Members.table, Members.keys_table, emitted]
  congr 2
  funext attr
  cases dependency.get attr <;> rfl

theorem get?_managedMembers (dependency : Dependency) (attr : Attribute) :
    Members.get? attr.key dependency.managedMembers = (dependency.get attr).toJson? := by
  rw [managedMembers, ← Members.table, Members.get?_table Attribute.key_injective,
    if_pos attr.mem_all]

/-- Every entry that carries along no key twice is written like this, shadowed or not. -/
theorem writtenAs_toMembers {dependency : Dependency}
    (nodup : (Members.keys dependency.extra).Nodup) :
    dependency.WrittenAs dependency.toMembers where
  nodup := dependency.nodup_toMembers
  keys_eq := by rw [toMembers, Members.keys_putAll nodup, keys_managedMembers]
  carried key mem := by
    obtain ⟨value, found⟩ := Option.isSome_iff_exists.mp (Members.get?_isSome_iff.mpr mem)
    rw [toMembers, Members.get?_putAll nodup, found, Option.some_or]
  managed attr fresh := by
    have absent := Members.get?_eq_none_iff.mpr fresh
    rw [toMembers, Members.get?_putAll nodup, absent, Option.none_or, get?_managedMembers]
    cases dependency.get attr <;> rfl

end Dependency

/-! ## Sections -/

namespace Platform

/-- How a section is written: like an entry, and every component that is not shadowed has an
entry of its own. -/
structure WrittenAs (platform : Platform) (members : Members Json) : Prop where
  nodup : (Members.keys members).Nodup
  keys_eq : Members.keys members =
    Component.all.map Component.key ++
      (Members.keys platform.extra).filter fun key => key ∉ Component.all.map Component.key
  carried : ∀ key ∈ Members.keys platform.extra,
    Members.get? key members = Members.get? key platform.extra
  managed : ∀ component : Component, component.key ∉ Members.keys platform.extra →
    ∃ entry, Members.get? component.key members = some (.obj entry) ∧
      (platform.get component).WrittenAs entry

structure Distinct (platform : Platform) : Prop where
  here : (Members.keys platform.extra).Nodup
  entry : ∀ component, (Members.keys (platform.get component).extra).Nodup

/-- No component is shadowed in the section, and no attribute in an entry of a component. -/
structure Unshadowed (platform : Platform) : Prop where
  here : ∀ component : Component, component.key ∉ Members.keys platform.extra
  entry : ∀ (component : Component) (attr : Attribute),
    attr.key ∉ Members.keys (platform.get component).extra

theorem Clean.unshadowed {platform : Platform} (clean : platform.Clean) : platform.Unshadowed where
  here := Component.keyed.unmanaged_iff.mp clean.unmanaged
  entry component := Attribute.keyed.unmanaged_iff.mp (clean.entry component).unmanaged

/-- Without shadows, and with distinct keys, a platform is clean. -/
theorem Unshadowed.clean {platform : Platform} (unshadowed : platform.Unshadowed)
    (distinct : platform.Distinct) : platform.Clean where
  entry component :=
    ⟨distinct.entry component,
      Attribute.keyed.unmanaged_iff.mpr (unshadowed.entry component)⟩
  nodup := distinct.here
  unmanaged := Component.keyed.unmanaged_iff.mpr unshadowed.here

/-- Whatever a section reads as has no shadows. -/
theorem Describes.unshadowed {members : Members Json} {platform : Platform}
    (describes : Describes members platform) : platform.Unshadowed where
  here := by
    refine Component.keyed.unmanaged_iff.mp fun member mem => ?_
    rw [describes.eq] at mem
    simpa using (List.mem_filter.mp mem).2
  entry component := by
    obtain ⟨entry, _, _, same⟩ := describes.exists_entry component
    refine Attribute.keyed.unmanaged_iff.mp fun member mem => ?_
    rw [same] at mem
    simpa using (List.mem_filter.mp mem).2

section Distinct

variable {platform : Platform} (distinct : platform.Distinct)

include distinct

theorem Distinct.get?_toMembers (key : String) :
    Members.get? key platform.toMembers =
      (Members.get? key platform.extra).or (Members.get? key platform.managedMembers) := by
  rw [toMembers, Members.get?_putAll distinct.here]

/-- A component that is not shadowed is written with its own entry. -/
theorem Distinct.get?_toMembers_key {component : Component}
    (fresh : component.key ∉ Members.keys platform.extra) :
    Members.get? component.key platform.toMembers = some (platform.get component).toJson := by
  have absent := Members.get?_eq_none_iff.mpr fresh
  rw [distinct.get?_toMembers, absent, Option.none_or, managedMembers_eq,
    Members.get?_table Component.key_injective, if_pos component.mem_all]

/-- Every platform that carries along no key twice is written like this, shadowed or not. -/
theorem Distinct.writtenAs_toMembers : platform.WrittenAs platform.toMembers where
  nodup := platform.nodup_toMembers
  keys_eq := by
    have managed : Members.keys platform.managedMembers = Component.all.map Component.key := by
      rw [managedMembers_eq, Members.keys_table]
      rfl
    rw [toMembers, Members.keys_putAll distinct.here, managed]
  carried key mem := by
    obtain ⟨value, found⟩ := Option.isSome_iff_exists.mp (Members.get?_isSome_iff.mpr mem)
    rw [distinct.get?_toMembers, found, Option.some_or]
  managed component fresh :=
    ⟨_, distinct.get?_toMembers_key fresh,
      Dependency.writtenAs_toMembers (distinct.entry component)⟩

/-- What the section of a platform reads as has the keys of the platform only without shadows. -/
theorem Distinct.unshadowed_of_same {found : Platform}
    (describes : Describes platform.toMembers found) (same : found.same platform = true) :
    platform.Unshadowed := by
  simp only [Platform.same, Bool.and_eq_true, List.all_eq_true] at same
  obtain ⟨entries, extra⟩ := same
  have here : ∀ component : Component, component.key ∉ Members.keys platform.extra := by
    have nodup : (Members.keys found.extra).Nodup := by
      rw [describes.eq]
      exact platform.nodup_toMembers.sublist ((List.filter_sublist ..).map _)
    intro component
    rw [← (Json.perm_keys_of_sameObject nodup extra).mem_iff]
    exact describes.unshadowed.here component
  refine ⟨here, fun component attr => ?_⟩
  -- Now that no component is shadowed, each is read from the entry it was written as.
  obtain ⟨entry, written, _, read⟩ := describes.exists_entry component
  rw [distinct.get?_toMembers_key (here component)] at written
  obtain rfl := Json.obj.inj (Option.some.inj written)
  have nodup : (Members.keys (found.get component).extra).Nodup := by
    rw [read]
    exact (Dependency.clean_ofMembers (Dependency.nodup_toMembers _)).nodup
  have entrySame := entries component component.mem_all
  rw [Dependency.same, Bool.and_eq_true] at entrySame
  rw [← (Json.perm_keys_of_sameObject nodup entrySame.2).mem_iff]
  exact describes.unshadowed.entry component attr

end Distinct

end Platform

/-! ## Stored platforms -/

namespace Manifest

/-- A stored platform is read from its section exactly if the section describes what is read. -/
theorem platform_withPlatform_iff {manifest : Manifest} {key : String} {stored found : Platform} :
    (manifest.withPlatform key stored).platform key = .ok found ↔
      Platform.Describes stored.toMembers found := by
  rw [platform_eq_ok_iff, get?_withPlatform, if_pos rfl]
  constructor
  · rintro ⟨members, written, describes⟩
    obtain rfl := Json.obj.inj (Option.some.inj written)
    exact describes
  · intro describes
    exact ⟨stored.toMembers, rfl, describes⟩

/--
A platform that is stored reads back as it was exactly if it has no shadows; with shadows
the section is not read at all, or as a platform that is not even the same up to the order
of what is carried along.  In any case a member that is carried along is written with its
own value, in the place of the managed member that it shadows if that is written too.
-/
theorem platform_setPlatform {platform : Platform} (distinct : platform.Distinct) :
    (∃ members, platform.toJson = .obj members ∧ platform.WrittenAs members) ∧
      ∀ (manifest : Manifest) (key : String), key ∈ manifest.keys →
        ∃ stored, manifest.setPlatform key platform = .ok stored ∧
          Members.get? key stored.platforms = some platform.toJson ∧
          (stored.platform key = .ok platform ↔ platform.Unshadowed) ∧
          ∀ found, stored.platform key = .ok found → found.same platform = true →
            platform.Unshadowed := by
  constructor
  · exact ⟨platform.toMembers, rfl, distinct.writtenAs_toMembers⟩
  intro manifest key present
  refine ⟨manifest.withPlatform key platform, setPlatform_of_mem_keys present platform, ?_, ?_, ?_⟩
  · rw [get?_withPlatform, if_pos rfl]
  · constructor
    · intro read
      exact (platform_withPlatform_iff.mp read).unshadowed
    · intro unshadowed
      exact platform_withPlatform_self (unshadowed.clean distinct)
  · intro found read same
    exact distinct.unshadowed_of_same (platform_withPlatform_iff.mp read) same

/-- A platform with a shadowed attribute, and with a component that is shadowed by its own entry. -/
def Sample.shadowed : Platform where
  computeRuntime := { version := .text "1", extra := [("root", .str "r"), ("version", .null)] }
  igc := {}
  igcDev := {}
  cm := {}
  levelZero := {}
  extra := [("cm", .obj []), ("tbb", .null)]

theorem platform_setPlatform_shadowed :
    Sample.shadowed.Distinct ∧
      (∃ members, Sample.shadowed.toJson = .obj members ∧ Sample.shadowed.WrittenAs members) ∧
      "b" ∈ Sample.document.keys ∧
      ∃ stored, Sample.document.setPlatform "b" Sample.shadowed = .ok stored ∧
        stored.platform "b" ≠ .ok Sample.shadowed := by
  have distinct : Sample.shadowed.Distinct := by
    constructor
    · decide
    · intro component
      cases component <;> decide
  have present : "b" ∈ Sample.document.keys := by decide
  obtain ⟨written, storing⟩ := platform_setPlatform distinct
  obtain ⟨stored, ok, _, reads, _⟩ := storing Sample.document "b" present
  refine ⟨distinct, written, present, stored, ok, ?_⟩
  intro read
  exact (reads.mp read).here .cm (by decide)

end Manifest

end DriverUplift
