import DriverUplift.Proofs.Json.Place
import DriverUplift.Proofs.Json.Unambiguous
import DriverUplift.Proofs.Uplift.Placement
import Mathlib.Data.List.Perm.Basic

/-!
# Storing a platform as it was read

A section is written in an order of its own: the components first, and the attributes
first in each entry.  A platform that is stored as it was read leaves the document as it
is, text and all, exactly if the section and its entries had that order before.
-/

namespace DriverUplift

/-! ## Members in order -/

namespace Members

variable {α : Type} {listed added : List String} {old new members : Members α}

/-- The listed keys come first and in the order of the list. -/
def InOrder (listed : List String) (members : Members α) : Prop :=
  (keys members).Pairwise fun one other => listed.idxOf one ≤ listed.idxOf other

instance : Decidable (InOrder listed members) :=
  inferInstanceAs (Decidable (List.Pairwise _ _))

theorem keys_unlisted (listed : List String) (members : Members α) :
    keys (unlisted listed members) = (keys members).filter fun key => !listed.contains key := by
  rw [unlisted, keys, keys, List.filter_map]
  rfl

theorem idxOf_of_mem_unlisted {key : String} (mem : key ∈ keys (unlisted listed members)) :
    listed.idxOf key = listed.length := by
  rw [keys_unlisted] at mem
  exact List.idxOf_eq_length (by simpa using (List.mem_filter.mp mem).2)

/-- The keys of a list without repetitions are in its order. -/
theorem pairwise_idxOf (nodup : listed.Nodup) :
    listed.Pairwise fun one other => listed.idxOf one ≤ listed.idxOf other := by
  refine List.pairwise_iff_getElem.mpr fun i j inside insideToo before => ?_
  rw [nodup.idxOf_getElem i inside, nodup.idxOf_getElem j insideToo]
  exact Nat.le_of_lt before

/-- Rearranged members are in order. -/
theorem Rearranged.inOrder (rearranged : Rearranged listed added old new) (nodup : listed.Nodup) :
    InOrder listed new := by
  obtain ⟨front, rfl, sublist⟩ := rearranged.normal
  rw [InOrder, keys, List.map_append]
  refine List.pairwise_append.mpr ⟨(pairwise_idxOf nodup).sublist sublist, ?_, ?_⟩
  · refine List.pairwise_of_forall_mem_list fun one mem other memToo => ?_
    exact Nat.le_of_eq ((idxOf_of_mem_unlisted mem).trans (idxOf_of_mem_unlisted memToo).symm)
  · intro one _ other mem
    rw [idxOf_of_mem_unlisted mem]
    exact List.idxOf_le_length

/-- In order, the listed keys stand in front of the others. -/
theorem InOrder.keys_eq (ordered : InOrder listed members) :
    keys members = ((keys members).filter fun key => listed.contains key) ++
      keys (unlisted listed members) := by
  rw [keys_unlisted]
  unfold InOrder at ordered
  generalize keys members = all at ordered ⊢
  induction all with
  | nil => rfl
  | cons key more ih =>
      obtain ⟨first, ordered⟩ := List.pairwise_cons.mp ordered
      have inner := ih ordered
      by_cases mem : key ∈ listed
      · simpa [mem] using inner
      · -- Behind a key that is not listed no key is.
        have none (other : String) (inside : other ∈ more) : other ∉ listed := by
          intro listedToo
          have behind := first other inside
          rw [List.idxOf_of_notMem mem] at behind
          exact absurd (List.idxOf_lt_length_iff.mpr listedToo) (Nat.not_lt.mpr behind)
        have front : (more.filter fun other => listed.contains other) = [] :=
          List.filter_eq_nil_iff.mpr fun other inside => by simpa using none other inside
        rw [front, List.nil_append] at inner
        rw [List.filter_cons_of_neg (by simpa using mem), List.filter_cons_of_pos (by simpa using mem),
          front, List.nil_append, ← inner]

theorem Rearranged.unlisted_eq (rearranged : Rearranged listed added old new) :
    unlisted listed new = unlisted listed old := by
  obtain ⟨front, rfl, sublist⟩ := rearranged.normal
  have none : unlisted listed front = [] := by
    refine List.filter_eq_nil_iff.mpr fun member mem => ?_
    have inside : member.1 ∈ listed := sublist.mem (List.mem_map_of_mem mem)
    simpa using inside
  have twice : unlisted listed (unlisted listed old) = unlisted listed old := by
    simp [unlisted, List.filter_filter]
  rw [unlisted, List.filter_append]
  exact (congrArg₂ (· ++ ·) none twice).trans (List.nil_append _)

/-- Two lists of the same listed keys, both in order, are the same. -/
theorem filter_eq_of_inOrder (ordered : InOrder listed old) (orderedToo : InOrder listed new)
    (distinct : (keys old).Nodup) (distinctToo : (keys new).Nodup)
    (same : ∀ key, key ∈ keys new ↔ key ∈ keys old) :
    ((keys new).filter fun key => listed.contains key) =
      (keys old).filter fun key => listed.contains key := by
  refine List.Perm.eq_of_pairwise (fun one other mem _ before behind => ?_)
    (orderedToo.filter _) (ordered.filter _) ?_
  · have inside : one ∈ listed := by simpa using (List.mem_filter.mp mem).2
    exact (List.idxOf_inj inside).mp (Nat.le_antisymm before behind)
  · refine (List.perm_ext_iff_of_nodup (distinctToo.filter _) (distinct.filter _)).mpr fun key => ?_
    rw [List.mem_filter, List.mem_filter, same]

/-- Rearranging leaves the keys where they are exactly if they were in order. -/
theorem Rearranged.keys_eq_iff (rearranged : Rearranged listed [] old new) (nodup : listed.Nodup)
    (distinct : (keys old).Nodup) : keys new = keys old ↔ InOrder listed old := by
  have ordered := rearranged.inOrder nodup
  constructor
  · intro same
    rwa [InOrder, same] at ordered
  · intro orderedBefore
    have same (key : String) : key ∈ keys new ↔ key ∈ keys old := by
      simpa using rearranged.mem_iff key
    rw [ordered.keys_eq, orderedBefore.keys_eq, rearranged.unlisted_eq,
      filter_eq_of_inOrder orderedBefore ordered distinct rearranged.distinct same]

/-- Distinct keys and their look-ups make up the members. -/
theorem eq_filterMap_keys (distinct : (keys members).Nodup) :
    members = (keys members).filterMap fun key => (get? key members).map (key, ·) := by
  have found : ∀ member ∈ members,
      (get? member.1 members).map (member.1, ·) = some member := by
    rintro ⟨key, value⟩ mem
    rw [get?_of_mem distinct mem, Option.map_some]
  rw [keys, List.filterMap_map]
  exact (List.filterMap_some.symm.trans (List.filterMap_congr found).symm)

/-- Members with the same keys in the same order and the same look-ups are the same. -/
theorem eq_of_keys_of_get? (same : keys new = keys old) (distinct : (keys old).Nodup)
    (alike : ∀ key ∈ keys old, get? key new = get? key old) : new = old := by
  calc
    new = (keys new).filterMap fun key => (get? key new).map (key, ·) :=
      eq_filterMap_keys (same ▸ distinct)
    _ = (keys old).filterMap fun key => (get? key new).map (key, ·) := by rw [same]
    _ = (keys old).filterMap fun key => (get? key old).map (key, ·) :=
      List.filterMap_congr fun key mem => by rw [alike key mem]
    _ = old := (eq_filterMap_keys distinct).symm

end Members

/-! ## Entries in order -/

theorem Attribute.nodup_keys : (keys all).Nodup :=
  nodup_all.map key_injective

theorem Component.nodup_keys : (all.map key).Nodup :=
  nodup_all.map key_injective

namespace Dependency

variable {members : Members Json} (nodup : (Members.keys members).Nodup)

include nodup

/-- An entry that was read is written with its keys in their places if they were in order. -/
theorem keys_toMembers_ofMembers_iff :
    Members.keys (ofMembers members).toMembers = Members.keys members ↔
      Members.InOrder (Attribute.keys Attribute.all) members := by
  have rearranged : Members.Rearranged (Attribute.keys Attribute.all) (Attribute.keys []) members
      (ofMembers members).toMembers := by
    refine Dependency.rearranged nodup rfl fun attr => ?_
    rw [get_ofMembers, Ne, Field.ofJson?_eq_absent_iff, Members.get?_eq_none_iff]
    simp
  exact rearranged.keys_eq_iff Attribute.nodup_keys nodup

theorem toMembers_ofMembers (sound : ∀ member ∈ members, memberProblem? member = none)
    (ordered : Members.InOrder (Attribute.keys Attribute.all) members) :
    (ofMembers members).toMembers = members :=
  Members.eq_of_keys_of_get? ((keys_toMembers_ofMembers_iff nodup).mpr ordered) nodup
    fun key _ => get?_toMembers_ofMembers nodup sound key

end Dependency

/-! ## Sections in order -/

namespace Platform

/-- The components come first in a section and the attributes first in its entries, in order. -/
def Ordered (members : Members Json) : Prop :=
  Members.InOrder (Component.all.map Component.key) members ∧
    ∀ component entry, Members.get? (Component.key component) members = some (.obj entry) →
      Members.InOrder (Attribute.keys Attribute.all) entry

namespace Describes

variable {members : Members Json} {platform : Platform} {depth : Nat}
  (describes : Describes members platform)
  (obeys : Json.Obeys Json.distinctKeys depth (.obj members))

include describes obeys

/-- A section that was read is written with its keys in their places if they were in order. -/
theorem keys_toMembers_iff :
    Members.keys platform.toMembers = Members.keys members ↔
      Members.InOrder (Component.all.map Component.key) members := by
  have rearranged : Platform.Rearranged (fun _ => []) members (platform.revise []).toMembers :=
    describes.rearranged_revise obeys fun component attr => by simp [Edit.latest?]
  exact rearranged.here.keys_eq_iff Component.nodup_keys obeys.here

/-- What is written for a component is the entry that was read for it. -/
theorem exists_written (component : Component) :
    ∃ entry, Members.get? component.key members = some (.obj entry) ∧
      (∀ member ∈ entry, Dependency.memberProblem? member = none) ∧
      Members.get? component.key platform.toMembers =
        some (.obj (Dependency.ofMembers entry).toMembers) := by
  obtain ⟨entry, found, sound, same⟩ := describes.exists_entry component
  exact ⟨entry, found, sound, by rw [(describes.clean obeys).get?_toMembers_key, same]; rfl⟩

theorem toMembers_of_ordered (ordered : Ordered members) : platform.toMembers = members := by
  refine Members.eq_of_keys_of_get? ((describes.keys_toMembers_iff obeys).mpr ordered.1)
    obeys.here fun key _ => ?_
  cases managed : Component.isKey key with
  | true =>
      obtain ⟨component, rfl⟩ := Component.keyed.managed_iff.mp managed
      obtain ⟨entry, found, sound, written⟩ := describes.exists_written obeys component
      rw [found, written, Dependency.toMembers_ofMembers (obeys.get? found).here sound
        (ordered.2 component entry found)]
  | false => exact describes.get?_toMembers_unmanaged obeys managed

end Describes

end Platform

/-! ## Texts of documents -/

namespace Manifest

open Json

variable {manifest : Manifest} {key : String} {platform : Platform} {text : String}

theorem keys_eq_of_outline_eq {one other : Members Json}
    (same : (Json.obj one).outline = (Json.obj other).outline) :
    Members.keys one = Members.keys other := by
  have named := congrArg (Members.keys ∘ Outline.named) (Outline.object.inj same)
  simp only [Function.comp_apply, named_outlineMembers] at named
  rwa [Members.keys_map, Members.keys_map] at named

/-- Objects at one place of two manifests with the same text have the same keys. -/
theorem keys_eq_of_render_eq {other : Manifest} (same : manifest.render = other.render)
    {place : List Child} {one two : Members Json}
    (here : (Json.obj manifest.platforms).at? place = some (.obj one))
    (there : (Json.obj other.platforms).at? place = some (.obj two)) :
    Members.keys one = Members.keys two := by
  have spells := manifest.spellsWhole_render
  rw [same] at spells
  have outlines := congrArg (Outline.at? place) (spells.unique other.spellsWhole_render)
  rw [at?_outline, at?_outline, here, there] at outlines
  exact keys_eq_of_outline_eq (Option.some.inj outlines)

theorem at?_section {members : Members Json}
    (found : Members.get? key manifest.platforms = some (.obj members)) :
    (Json.obj manifest.platforms).at? [.member key] = some (.obj members) := by
  simp only [at?, child?, found, Option.bind_some]

theorem at?_entry {members entry : Members Json} {component : Component}
    (found : Members.get? key manifest.platforms = some (.obj members))
    (inside : Members.get? component.key members = some (.obj entry)) :
    (Json.obj manifest.platforms).at? [.member key, .member component.key] =
      some (.obj entry) := by
  simp only [at?, child?, found, inside, Option.bind_some]

/--
Storing a platform that was read, unchanged, always succeeds and gives the same document
but for the order of members.  The text is the same exactly if the section has its
components first and each entry of a component its attributes, in the order in which they
are written.
-/
theorem render_setPlatform_iff (parsed : parse text = .ok manifest)
    (read : manifest.platform key = .ok platform) :
    ∃ members stored, Members.get? key manifest.platforms = some (.obj members) ∧
      manifest.setPlatform key platform = .ok stored ∧ stored.same manifest = true ∧
      (stored.render = manifest.render ↔ Platform.Ordered members) := by
  obtain ⟨members, found, describes⟩ := platform_eq_ok_iff.mp read
  have distinct := distinctKeys_of_parse parsed
  have obeys := distinct.get? found
  have stored : Members.get? key (manifest.withPlatform key platform).platforms =
      some (.obj platform.toMembers) := by
    rw [get?_withPlatform, if_pos rfl]
    rfl
  refine ⟨members, _, found, setPlatform_of_platform read platform,
    same_withPlatform distinct read [], fun same => ⟨?_, fun component entry inside => ?_⟩,
    fun ordered => ?_⟩
  · exact (describes.keys_toMembers_iff obeys).mp
      (keys_eq_of_render_eq same (at?_section stored) (at?_section found))
  · obtain ⟨entryToo, insideToo, _, written⟩ := describes.exists_written obeys component
    obtain rfl := Json.obj.inj (Option.some.inj (inside.symm.trans insideToo))
    exact (Dependency.keys_toMembers_ofMembers_iff (obeys.get? inside).here).mp
      (keys_eq_of_render_eq same (at?_entry stored written) (at?_entry found inside))
  · have unchanged : manifest.withPlatform key platform = manifest := by
      rw [withPlatform, Platform.toJson, describes.toMembers_of_ordered obeys ordered,
        Members.put_eq_self found]
    rw [unchanged]

def Sample.early : String :=
  "\x7b\"linux\":\x7b\"tbb\":null,\"compute_runtime\":\x7b\x7d,\"igc\":\x7b\x7d," ++
    "\"igc_dev\":\x7b\x7d,\"cm\":\x7b\x7d,\"level_zero\":\x7b\x7d\x7d\x7d"

def Sample.members : Members Json :=
  [("tbb", .null), ("compute_runtime", .obj []), ("igc", .obj []), ("igc_dev", .obj []),
    ("cm", .obj []), ("level_zero", .obj [])]

def Sample.mixed : Manifest :=
  ⟨[("linux", .obj Sample.members)]⟩

def Sample.plain : Platform :=
  ⟨{}, {}, {}, {}, {}, [("tbb", .null)]⟩

theorem Sample.parse_early : parse Sample.early = .ok Sample.mixed := by
  set_option maxRecDepth 4000 in with_unfolding_all rfl

theorem Sample.platform_mixed : Sample.mixed.platform "linux" = .ok Sample.plain := by
  with_unfolding_all rfl

/-- Here the text is not the same. -/
theorem render_setPlatform_iff_sample :
    parse Sample.early = .ok Sample.mixed ∧
      Sample.mixed.platform "linux" = .ok Sample.plain ∧
      ∃ stored, Sample.mixed.setPlatform "linux" Sample.plain = .ok stored ∧
        stored.same Sample.mixed = true ∧ stored.render ≠ Sample.mixed.render := by
  obtain ⟨members, stored, found, set, same, kept⟩ :=
    render_setPlatform_iff Sample.parse_early Sample.platform_mixed
  obtain rfl := Json.obj.inj (Option.some.inj found)
  refine ⟨Sample.parse_early, Sample.platform_mixed, stored, set, same, fun unchanged => ?_⟩
  exact absurd (kept.mp unchanged).1 (by decide)

/-- Not every platform that is stored as it was read leaves the text as it was. -/
theorem not_all_renders_kept :
    ¬∀ (text key : String) (manifest stored : Manifest) (platform : Platform),
      parse text = .ok manifest → manifest.platform key = .ok platform →
        manifest.setPlatform key platform = .ok stored → stored.render = manifest.render := by
  intro kept
  have same := kept _ _ _ _ _ Sample.parse_early Sample.platform_mixed rfl
  exact absurd same (by decide +kernel)

end Manifest

end DriverUplift
