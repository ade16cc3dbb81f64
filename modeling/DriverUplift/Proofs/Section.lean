import DriverUplift.Proofs.Manifest

/-!
# Which sections can be read

A section is read if it is an object with an entry for every component, and every entry is
an object whose attributes are nulls and texts.  A component that has no entry is reported
before anything that is wrong with the entries, and the first such component in the order
of the components; only after that does it matter what the entries are.
-/

namespace DriverUplift

namespace Field

def IsValue (json : Json) : Prop :=
  json = .null ∨ ∃ text, json = .str text

theorem problem?_eq_none_iff {json : Json} : problem? json = none ↔ IsValue json := by
  cases json <;> simp [problem?, IsValue]

end Field

namespace Dependency

/-- An object whose attributes, as far as they are there, are nulls and texts. -/
def IsEntry (json : Json) : Prop :=
  ∃ members, json = .obj members ∧
    ∀ (attr : Attribute) value, (attr.key, value) ∈ members → Field.IsValue value

theorem forall_memberProblem?_iff {members : Members Json} :
    (∀ member ∈ members, memberProblem? member = none) ↔
      ∀ (attr : Attribute) value, (attr.key, value) ∈ members → Field.IsValue value := by
  rw [Attribute.keyed.forall_mem_iff fun member plain => by simp [memberProblem?, plain]]
  simp only [memberProblem?, Attribute.isKey_key, if_true, Field.problem?_eq_none_iff]

theorem isEntry_iff {json : Json} :
    IsEntry json ↔
      ∃ members, json = .obj members ∧ ∀ member ∈ members, memberProblem? member = none := by
  simp only [forall_memberProblem?_iff, IsEntry]

end Dependency

namespace Platform

/-- An object that has entries for all components before this one, but none for it. -/
def LacksFirst (json : Json) (component : Component) : Prop :=
  ∃ members before after, json = .obj members ∧ Component.all = before ++ component :: after ∧
    (∀ earlier ∈ before, earlier.key ∈ Members.keys members) ∧
      component.key ∉ Members.keys members

def IsSection (json : Json) : Prop :=
  ∃ members, json = .obj members ∧
    (∀ component : Component, component.key ∈ Members.keys members) ∧
      ∀ (component : Component) entry, (component.key, entry) ∈ members →
        Dependency.IsEntry entry

/-- The first component that is lacking is the one that the search finds. -/
theorem missing?_eq_some_iff {json : Json} {component : Component} :
    missing? json = some component ↔ LacksFirst json component := by
  cases json with
  | obj members =>
      have lacks (other : Component) :
          (!Members.has other.key members) = true ↔ other.key ∉ Members.keys members := by
        rw [← Members.get?_isSome_iff, Bool.not_eq_true', ← Bool.not_eq_true, Members.has]
      have present (other : Component) :
          (!!Members.has other.key members) = true ↔ other.key ∈ Members.keys members := by
        rw [Bool.not_not, Members.has, Members.get?_isSome_iff]
      simp only [missing?, LacksFirst, List.find?_eq_some_iff_append, lacks, present]
      constructor
      · rintro ⟨absent, before, after, split, there⟩
        exact ⟨members, before, after, rfl, split, there, absent⟩
      · rintro ⟨_, before, after, ⟨⟩, split, there, absent⟩
        exact ⟨absent, before, after, split, there⟩
  | _ => simp [missing?, LacksFirst]

theorem forall_memberProblem?_iff {members : Members Json} :
    (∀ member ∈ members, memberProblem? member = none) ↔
      ∀ (component : Component) entry, (component.key, entry) ∈ members →
        Dependency.IsEntry entry := by
  rw [Component.keyed.forall_mem_iff fun _ => memberProblem?_of_unmanaged]
  simp only [memberProblem?_eq_none_iff, Dependency.isEntry_iff]

theorem describes_iff_isSection {members : Members Json} {platform : Platform} :
    Describes members platform ↔ IsSection (.obj members) ∧ platform = ofMembers members := by
  constructor
  · rintro ⟨complete, sound, eq⟩
    exact ⟨⟨members, rfl, complete, forall_memberProblem?_iff.mp sound⟩, eq⟩
  · rintro ⟨⟨_, ⟨⟩, complete, entries⟩, eq⟩
    exact ⟨complete, forall_memberProblem?_iff.mpr entries, eq⟩

theorem not_lacksFirst {members : Members Json}
    (complete : ∀ component : Component, component.key ∈ Members.keys members)
    (component : Component) : ¬LacksFirst (.obj members) component := by
  rintro ⟨_, _, _, ⟨⟩, _, _, absent⟩
  exact absent (complete component)

end Platform

namespace Manifest

variable {manifest : Manifest} {key : String}

/-- What becomes of the section of a key: it is not there, or it lacks a component, or else it
is malformed, or it is read. -/
inductive Reads (manifest : Manifest) (key : String) : Except ManifestError Platform → Prop where
  | absent : key ∉ manifest.keys → Reads manifest key (.error (.missingPlatform key))
  | lacking {found : Json} {component : Component} :
      Members.get? key manifest.platforms = some found →
        Platform.LacksFirst found component →
          Reads manifest key (.error (.missingDependency key component))
  | malformed {found : Json} {problem : Json.Problem} :
      Members.get? key manifest.platforms = some found →
        (∀ component, ¬Platform.LacksFirst found component) → ¬Platform.IsSection found →
          Reads manifest key (.error (.malformedPlatform key problem))
  | fine {members : Members Json} :
      Members.get? key manifest.platforms = some (.obj members) →
        Platform.IsSection (.obj members) → Reads manifest key (.ok (Platform.ofMembers members))

theorem reads_platform (manifest : Manifest) (key : String) :
    Reads manifest key (manifest.platform key) := by
  unfold Manifest.platform
  cases found : Members.get? key manifest.platforms with
  | none => exact .absent (Members.get?_eq_none_iff.mp found)
  | some json =>
      cases missing : Platform.missing? json with
      | some component =>
          simp only [missing]
          exact .lacking found (Platform.missing?_eq_some_iff.mp missing)
      | none =>
          cases read : Platform.ofJson json with
          | ok platform =>
              simp only [missing, read]
              obtain ⟨members, rfl, describes⟩ := Platform.describes_iff.mp ⟨missing, read⟩
              obtain ⟨isSection, rfl⟩ := Platform.describes_iff_isSection.mp describes
              exact .fine found isSection
          | error problem =>
              simp only [missing, read]
              refine .malformed found (fun component lacks => ?_) fun isSection => ?_
              · cases missing.symm.trans (Platform.missing?_eq_some_iff.mpr lacks)
              · obtain ⟨members, rfl, _⟩ := id isSection
                have describes := Platform.describes_iff_isSection.mpr ⟨isSection, rfl⟩
                obtain ⟨_, fine⟩ := Platform.describes_iff.mpr ⟨members, rfl, describes⟩
                cases read.symm.trans fine

theorem platform_eq_missingPlatform_iff :
    manifest.platform key = .error (.missingPlatform key) ↔ key ∉ manifest.keys := by
  constructor
  · intro missing
    have reads := reads_platform manifest key
    rw [missing] at reads
    cases reads with
    | absent absent => exact absent
  · intro absent
    rw [Manifest.platform, Members.get?_eq_none_iff.mpr absent]

theorem platform_eq_missingDependency_iff {component : Component} :
    manifest.platform key = .error (.missingDependency key component) ↔
      ∃ found, Members.get? key manifest.platforms = some found ∧
        Platform.LacksFirst found component := by
  constructor
  · intro missing
    have reads := reads_platform manifest key
    rw [missing] at reads
    cases reads with
    | lacking there lacks => exact ⟨_, there, lacks⟩
  · rintro ⟨found, there, lacks⟩
    rw [Manifest.platform, there]
    simp only [Platform.missing?_eq_some_iff.mpr lacks]

theorem platform_eq_ok_iff_isSection {platform : Platform} :
    manifest.platform key = .ok platform ↔
      ∃ members, Members.get? key manifest.platforms = some (.obj members) ∧
        Platform.IsSection (.obj members) ∧ platform = Platform.ofMembers members := by
  rw [platform_eq_ok_iff]
  exact exists_congr fun members => and_congr_right fun _ => Platform.describes_iff_isSection

/-- A section that lacks nothing and cannot be read is malformed. -/
theorem malformedPlatform_of_get? {found : Json}
    (there : Members.get? key manifest.platforms = some found)
    (complete : ∀ component, ¬Platform.LacksFirst found component)
    (bad : ¬Platform.IsSection found) :
    ∃ problem, manifest.platform key = .error (.malformedPlatform key problem) := by
  have reads := reads_platform manifest key
  generalize manifest.platform key = result at reads
  cases reads with
  | absent absent => cases there.symm.trans (Members.get?_eq_none_iff.mpr absent)
  | lacking other lacks =>
      obtain rfl := Option.some.inj (there.symm.trans other)
      exact absurd lacks (complete _)
  | malformed _ _ _ => exact ⟨_, rfl⟩
  | fine other isSection =>
      obtain rfl := Option.some.inj (there.symm.trans other)
      exact absurd isSection bad

theorem exists_malformedPlatform_iff :
    (∃ problem, manifest.platform key = .error (.malformedPlatform key problem)) ↔
      ∃ found, Members.get? key manifest.platforms = some found ∧
        (∀ component, ¬Platform.LacksFirst found component) ∧ ¬Platform.IsSection found := by
  constructor
  · rintro ⟨problem, malformed⟩
    have reads := reads_platform manifest key
    rw [malformed] at reads
    cases reads with
    | malformed there complete bad => exact ⟨_, there, complete, bad⟩
  · rintro ⟨found, there, complete, bad⟩
    exact malformedPlatform_of_get? there complete bad

/--
Every key has exactly one outcome.  Its platform is missing if the key is not there.  Else, if
the section is an object that lacks components, the first of them in their order is reported,
whatever the other entries are.  Else the platform that the members describe is read if all
entries are objects whose attributes are nulls and texts, and the section is malformed if not.
So it is malformed if it is no object, and if nothing is lacking and an entry is no object.
-/
theorem platform_exact (manifest : Manifest) (key : String) :
    (manifest.platform key = .error (.missingPlatform key) ↔ key ∉ manifest.keys) ∧
    (∀ component, manifest.platform key = .error (.missingDependency key component) ↔
      ∃ found, Members.get? key manifest.platforms = some found ∧
        Platform.LacksFirst found component) ∧
    (∀ platform, manifest.platform key = .ok platform ↔
      ∃ members, Members.get? key manifest.platforms = some (.obj members) ∧
        Platform.IsSection (.obj members) ∧ platform = Platform.ofMembers members) ∧
    ((∃ problem, manifest.platform key = .error (.malformedPlatform key problem)) ↔
      ∃ found, Members.get? key manifest.platforms = some found ∧
        (∀ component, ¬Platform.LacksFirst found component) ∧ ¬Platform.IsSection found) ∧
    (∀ found, Members.get? key manifest.platforms = some found →
      (∀ members, found ≠ .obj members) →
        ∃ problem, manifest.platform key = .error (.malformedPlatform key problem)) ∧
    (∀ members (component : Component) entry,
      Members.get? key manifest.platforms = some (.obj members) →
        (∀ other : Component, other.key ∈ Members.keys members) →
          (component.key, entry) ∈ members → (∀ inner, entry ≠ .obj inner) →
            ∃ problem, manifest.platform key = .error (.malformedPlatform key problem)) := by
  refine ⟨platform_eq_missingPlatform_iff, fun _ => platform_eq_missingDependency_iff,
    fun _ => platform_eq_ok_iff_isSection, exists_malformedPlatform_iff,
    fun found there noObject => ?_, fun members component entry there complete mem noObject => ?_⟩
  · refine malformedPlatform_of_get? there (fun component lacks => ?_) ?_
    · obtain ⟨members, _, _, object, _⟩ := lacks
      exact noObject members object
    · rintro ⟨members, object, _⟩
      exact noObject members object
  · refine malformedPlatform_of_get? there (Platform.not_lacksFirst complete) ?_
    rintro ⟨_, ⟨⟩, _, entries⟩
    obtain ⟨inner, object, _⟩ := entries component entry mem
    exact noObject inner object

/-- A component that is lacking is reported before an entry that is no object. -/
example :
    Manifest.platform ⟨[("linux", .obj [("compute_runtime", .arr []), ("igc", .null)])]⟩ "linux" =
      .error (.missingDependency "linux" .igcDev) :=
  rfl

end Manifest

end DriverUplift
