import DriverUplift.Proofs.Shadow
import Mathlib.Data.List.Induction

/-!
# Manifests as stores

A manifest is a store with a fixed list of keys.  Calls that store platforms
neither add a key nor move one; a call for a key that is not there fails and
changes nothing, and of several calls for one key the last one counts.  Storing
what was read changes a document in the order of its members only, and storing
it once more changes nothing.
-/

namespace DriverUplift.Manifest

/-! ## Calls -/

structure Call where
  key : String
  platform : Platform

def Call.latest? (key : String) (calls : List Call) : Option Platform :=
  (calls.reverse.find? fun call => call.key = key).map (·.platform)

theorem Call.latest?_append_singleton (key : String) (calls : List Call) (call : Call) :
    latest? key (calls ++ [call]) =
      if call.key = key then some call.platform else latest? key calls := by
  by_cases same : call.key = key
  · simp [latest?, same]
  · simp [latest?, same]

/-- What a call returns, and the manifest after it; a call that fails leaves it as it was. -/
def perform (manifest : Manifest) (call : Call) : Except ManifestError Unit × Manifest :=
  match manifest.setPlatform call.key call.platform with
  | .error error => (.error error, manifest)
  | .ok stored => (.ok (), stored)

def performAll (manifest : Manifest) (calls : List Call) : Manifest :=
  calls.foldl (fun current call => (current.perform call).2) manifest

section Calls

variable {start manifest : Manifest} {calls : List Call} {call : Call}

theorem performAll_append_singleton (start : Manifest) (calls : List Call) (call : Call) :
    start.performAll (calls ++ [call]) = ((start.performAll calls).perform call).2 := by
  rw [performAll, List.foldl_append, List.foldl_cons, List.foldl_nil, ← performAll]

theorem perform_of_mem (present : call.key ∈ manifest.keys) :
    manifest.perform call = (.ok (), manifest.withPlatform call.key call.platform) := by
  rw [perform, setPlatform_of_mem_keys present]

theorem perform_of_not_mem (absent : call.key ∉ manifest.keys) :
    manifest.perform call = (.error (.missingPlatform call.key), manifest) := by
  rw [perform, setPlatform_of_not_mem_keys absent]

/-- What calls have made of a manifest: its keys are as they were, and each has the section of
the last call for it. -/
structure Holds (start : Manifest) (calls : List Call) (manifest : Manifest) : Prop where
  keys_eq : manifest.keys = start.keys
  section_eq : ∀ key ∈ start.keys, Members.get? key manifest.platforms =
    match Call.latest? key calls with
    | some platform => some platform.toJson
    | none => Members.get? key start.platforms

theorem Holds.nil (start : Manifest) : Holds start [] start where
  keys_eq := rfl
  section_eq _ _ := rfl

/-- One more call, whether it fails or not. -/
theorem Holds.perform (holds : Holds start calls manifest) (call : Call) :
    Holds start (calls ++ [call]) (manifest.perform call).2 := by
  by_cases present : call.key ∈ start.keys
  · have here : call.key ∈ manifest.keys := holds.keys_eq ▸ present
    rw [perform_of_mem here]
    constructor
    · rw [keys_withPlatform here, holds.keys_eq]
    · intro key mem
      rw [Call.latest?_append_singleton]
      by_cases same : call.key = key
      · subst same
        rw [if_pos rfl, get?_withPlatform, if_pos rfl]
      · rw [if_neg same, get?_withPlatform, if_neg (Ne.symm same)]
        exact holds.section_eq key mem
  · have absent : call.key ∉ manifest.keys := holds.keys_eq ▸ present
    rw [perform_of_not_mem absent]
    constructor
    · exact holds.keys_eq
    · intro key mem
      have other : call.key ≠ key := by
        rintro rfl
        exact present mem
      rw [Call.latest?_append_singleton, if_neg other]
      exact holds.section_eq key mem

theorem holds_performAll (start : Manifest) (calls : List Call) :
    Holds start calls (start.performAll calls) := by
  induction calls using List.reverseRecOn with
  | nil => exact Holds.nil start
  | append_singleton calls call ih =>
      rw [performAll_append_singleton]
      exact ih.perform call

/--
After any calls that store platforms, a manifest that was parsed has the keys it had, in
their order and none twice.  The next call fails exactly if its key is not one of them, and
then leaves everything as it is; the section of a key is the platform of the last call for
it, as it is written, or the section that was parsed if there was none.
-/
theorem performAll_of_parse {text : String} (parsed : parse text = .ok start) :
    start.keys.Nodup ∧
      ∀ calls : List Call,
        (start.performAll calls).keys = start.keys ∧
        (∀ call, (start.performAll calls).perform call =
          if call.key ∈ start.keys then (.ok (), start.performAll (calls ++ [call]))
          else (.error (.missingPlatform call.key), start.performAll calls)) ∧
        ∀ key ∈ start.keys, Members.get? key (start.performAll calls).platforms =
          match Call.latest? key calls with
          | some platform => some platform.toJson
          | none => Members.get? key start.platforms := by
  refine ⟨(distinctKeys_of_parse parsed).here, fun calls => ?_⟩
  have holds := holds_performAll start calls
  refine ⟨holds.keys_eq, fun call => ?_, holds.section_eq⟩
  rw [performAll_append_singleton]
  by_cases present : call.key ∈ start.keys
  · have here : call.key ∈ (start.performAll calls).keys := holds.keys_eq ▸ present
    rw [if_pos present, perform_of_mem here]
  · have absent : call.key ∉ (start.performAll calls).keys := holds.keys_eq ▸ present
    rw [if_neg present, perform_of_not_mem absent]

end Calls

def Sample.repeatedKey : String :=
  "\x7b\"a\":1,\"b\":\x7b\x7d,\"a\":2\x7d"

def Sample.twoKeys : Manifest :=
  ⟨[("a", .num (.integer 2)), ("b", .obj [])]⟩

/-- Calls for two keys, one of which is not there. -/
def Sample.threeCalls : List Call :=
  [⟨"b", { Sample.shadowed with extra := [] }⟩, ⟨"c", Sample.shadowed⟩, ⟨"b", Sample.shadowed⟩]

theorem performAll_of_parse_sample :
    parse Sample.repeatedKey = .ok Sample.twoKeys ∧
      Sample.twoKeys.keys.Nodup ∧
      (Sample.twoKeys.performAll Sample.threeCalls).keys = ["a", "b"] ∧
      (Sample.twoKeys.performAll Sample.threeCalls).perform ⟨"c", Sample.shadowed⟩ =
        (.error (.missingPlatform "c"), Sample.twoKeys.performAll Sample.threeCalls) ∧
      Members.get? "a" (Sample.twoKeys.performAll Sample.threeCalls).platforms =
        some (.num (.integer 2)) ∧
      Members.get? "b" (Sample.twoKeys.performAll Sample.threeCalls).platforms =
        some Sample.shadowed.toJson := by
  have parsed : parse Sample.repeatedKey = .ok Sample.twoKeys := by
    with_unfolding_all rfl
  obtain ⟨nodup, after⟩ := performAll_of_parse parsed
  obtain ⟨keys, next, sections⟩ := after Sample.threeCalls
  refine ⟨parsed, nodup, keys, ?_, ?_, ?_⟩
  · rw [next, if_neg (by decide)]
  · exact sections "a" (by decide)
  · exact sections "b" (by decide)

/-! ## Storing what was read -/

/--
In a document whose keys are distinct, as in every one that was parsed, a platform that is
read carries along nothing under a managed key.  Storing it makes a document that is the same
as before but for the order of its members; the platform reads back as it was, and storing
that once more does not change the document, nor its text.
-/
theorem setPlatform_platform {manifest : Manifest} {key : String} {platform : Platform}
    (distinct : manifest.Obeys Json.distinctKeys) (read : manifest.platform key = .ok platform) :
    platform.Unshadowed ∧
      ∃ stored, manifest.setPlatform key platform = .ok stored ∧
        stored.same manifest = true ∧
        stored.platform key = .ok platform ∧
        stored.setPlatform key platform = .ok stored ∧
        (stored.setPlatform key platform).map render = .ok stored.render := by
  have clean := clean_of_platform distinct read
  have again : (manifest.withPlatform key platform).setPlatform key platform =
      .ok (manifest.withPlatform key platform) := by
    rw [setPlatform_of_platform (platform_withPlatform_self clean), withPlatform_withPlatform]
  refine ⟨clean.unshadowed, manifest.withPlatform key platform,
    setPlatform_of_platform read platform, ?_, platform_withPlatform_self clean, again, ?_⟩
  · exact same_withPlatform distinct read []
  · rw [again]
    rfl

def Sample.entries : Members Json :=
  [("tbb", .null), ("level_zero", .obj []),
    ("igc_dev", .obj [("size", .num (.real (Binary64.zero true)))]),
    ("cm", .obj [("root", .str ""), ("url", .null), ("version", .str "1")]),
    ("igc", .obj []), ("compute_runtime", .obj [])]

theorem setPlatform_platform_sample :
    let manifest : Manifest := ⟨[("windows", .null), ("linux", .obj Sample.entries)]⟩
    manifest.Obeys Json.distinctKeys ∧
      manifest.platform "linux" = .ok (Platform.ofMembers Sample.entries) ∧
      ∃ stored, manifest.setPlatform "linux" (Platform.ofMembers Sample.entries) = .ok stored ∧
        stored.same manifest = true ∧
        stored.setPlatform "linux" (Platform.ofMembers Sample.entries) = .ok stored := by
  intro manifest
  have distinct : manifest.Obeys Json.distinctKeys := by
    simp [manifest, Sample.entries, Manifest.Obeys, Json.obeys_obj_iff, Json.obeys_null_iff,
      Json.obeys_num_iff, Json.obeys_str_iff, Json.distinctKeys, Members.keys]
  have read : manifest.platform "linux" = .ok (Platform.ofMembers Sample.entries) := by
    refine platform_eq_ok_iff.mpr ⟨Sample.entries, rfl, ?_, by decide, rfl⟩
    intro component
    cases component <;> decide
  obtain ⟨_, stored, storing, same, _, again, _⟩ := setPlatform_platform distinct read
  exact ⟨distinct, read, stored, storing, same, again⟩

end DriverUplift.Manifest
