import DriverUplift.Proofs.Uplift.Completion

/-!
# Places in a written document

A run rewrites one section and moves nothing around it.  In the section, and in
the entries of its components, the managed members come first, in the order of
their table; what is carried along follows in the order in which it was read.
-/

namespace DriverUplift

/-! ## Rearranged members -/

namespace Members

variable {α : Type}

def unlisted (listed : List String) (members : Members α) : Members α :=
  members.filter fun member => !listed.contains member.1

/--
The members under listed keys come first, in the order of the list; the others
follow as they were.  No key is lost or there twice, and none is new but those
that were added.
-/
structure Rearranged (listed added : List String) (old new : Members α) : Prop where
  distinct : (keys new).Nodup
  normal : ∃ front, new = front ++ unlisted listed old ∧ (keys front).Sublist listed
  mem_iff : ∀ key, key ∈ keys new ↔ key ∈ keys old ∨ key ∈ added

theorem keys_table_sublist {ι : Type} (key : ι → String) (value : ι → Option α)
    (indices : List ι) : (keys (table key value indices)).Sublist (indices.map key) := by
  rw [keys_table]
  exact (List.filter_sublist ..).map key

namespace Keyed

variable {ι : Type} {key : ι → String} {value : ι → Option α} {indices : List ι}
  {managed : String → Bool} {old : Members α} (keyed : Keyed key managed indices)

include keyed

theorem contains_map (k : String) : (indices.map key).contains k = managed k := by
  rw [Bool.eq_iff_iff, keyed.managed_iff, List.contains_iff_mem, List.mem_map]
  constructor
  · rintro ⟨i, _, same⟩
    exact ⟨i, same⟩
  · rintro ⟨i, same⟩
    exact ⟨i, keyed.complete i, same⟩

theorem unlisted_eq (members : Members α) :
    unlisted (indices.map key) members = members.filter fun member => !managed member.1 := by
  simp only [unlisted, keyed.contains_map]

variable [DecidableEq ι]

/-- A table in front of the members that are not managed rearranges them. -/
theorem rearranged {added : List String} (nodup : (keys old).Nodup)
    (filled : ∀ i, (value i).isSome ↔ key i ∈ keys old ∨ key i ∈ added)
    (listed : ∀ k ∈ added, managed k = true) :
    Rearranged (indices.map key) added old
      (putAll (table key value indices) (old.filter fun member => !managed member.1)) := by
  have distinct : (keys (old.filter fun member => !managed member.1)).Nodup :=
    nodup.sublist ((List.filter_sublist ..).map _)
  have unmanaged : ∀ member ∈ old.filter (fun member => !managed member.1),
      managed member.1 = false := by
    intro member mem
    simpa using (List.mem_filter.mp mem).2
  refine ⟨keyed.nodup_keys_putAll_table _, ⟨table key value indices, ?_, ?_⟩, fun k => ?_⟩
  · rw [keyed.putAll_table distinct unmanaged, keyed.unlisted_eq]
  · exact keys_table_sublist key value indices
  · rw [← get?_isSome_iff]
    cases plain : managed k with
    | true =>
        obtain ⟨i, rfl⟩ := keyed.managed_iff.mp plain
        rw [keyed.get?_putAll_table_key distinct unmanaged, filled]
    | false =>
        have notAdded : k ∉ added := by
          intro mem
          rw [listed k mem] at plain
          cases plain
        rw [keyed.get?_putAll_table_unmanaged distinct unmanaged plain,
          get?_filter (fun k => !managed k) (by simp [plain]), get?_isSome_iff]
        simp [notAdded]

end Keyed

end Members

/-! ## Entries and sections -/

def Attribute.keys (attributes : List Attribute) : List String :=
  attributes.map key

theorem Field.isSome_toJson? (field : Field) : field.toJson?.isSome ↔ field ≠ .absent := by
  cases field <;> simp [toJson?]

theorem Field.ofJson?_eq_absent_iff {found : Option Json} :
    ofJson? found = .absent ↔ found = none := by
  cases found with
  | none => exact iff_of_true rfl rfl
  | some value => cases value <;> simp [ofJson?]

/-- A section was rearranged, and so was each component's entry, to which attributes were added. -/
structure Platform.Rearranged (added : Component → List Attribute) (old new : Members Json) :
    Prop where
  here : Members.Rearranged (Component.all.map Component.key) [] old new
  entry : ∀ component : Component, ∃ before after,
    Members.get? component.key old = some (.obj before) ∧
      Members.get? component.key new = some (.obj after) ∧
      Members.Rearranged (Attribute.keys Attribute.all) (Attribute.keys (added component))
        before after

/-- An entry that was read and revised is written rearranged. -/
theorem Dependency.rearranged {members : Members Json} {dependency : Dependency}
    {added : List Attribute} (nodup : (Members.keys members).Nodup)
    (extra : dependency.extra = (ofMembers members).extra)
    (filled : ∀ attr, dependency.get attr ≠ .absent ↔
      attr.key ∈ Members.keys members ∨ attr ∈ added) :
    Members.Rearranged (Attribute.keys Attribute.all) (Attribute.keys added) members
      dependency.toMembers := by
  rw [toMembers, extra]
  refine Attribute.keyed.rearranged nodup (fun attr => ?_) fun k mem => ?_
  · rw [Field.isSome_toJson?, filled, Attribute.keys,
      List.mem_map_of_injective Attribute.key_injective]
  · obtain ⟨attr, _, rfl⟩ := List.mem_map.mp mem
    exact attr.isKey_key

namespace Platform.Describes

variable {members : Members Json} {platform : Platform} {depth : Nat} {edits : List Edit}
  {added : Component → List Attribute}

/-- A section that was read and revised is written rearranged. -/
theorem rearranged_revise (describes : Describes members platform)
    (obeys : Json.Obeys Json.distinctKeys depth (.obj members))
    (assigned : ∀ component attr,
      (Edit.latest? component attr edits).isSome ↔ attr ∈ added component) :
    Platform.Rearranged added members (platform.revise edits).toMembers := by
  have clean := (describes.clean obeys).revise edits
  constructor
  · rw [toMembers_eq, extra_revise, describes.eq]
    refine Component.keyed.rearranged obeys.here (fun component => ?_) (by simp)
    simpa using describes.complete component
  · intro component
    obtain ⟨entry, found, _, same⟩ := describes.exists_entry component
    refine ⟨entry, _, found, clean.get?_toMembers_key component, ?_⟩
    refine Dependency.rearranged (obeys.get? found).here ?_ fun attr => ?_
    · rw [extra_get_revise, same]
    · rw [← assigned, get_revise]
      cases Edit.latest? component attr edits with
      | some value => simp
      | none =>
          rw [same, Dependency.get_ofMembers, Ne, Field.ofJson?_eq_absent_iff,
            Members.get?_eq_none_iff]
          simp

end Platform.Describes

/-! ## The written document -/

namespace Uplift

open Github (Client)

def Findings.assigned (findings : Findings) : Component → List Attribute
  | .igc => if findings.igcVersion?.isSome then [.githubTag, .version, .url] else []
  | .igcDev => Attribute.all
  | _ => [.githubTag, .version, .url]

theorem Findings.isSome_latest?_assignments (findings : Findings) (component : Component)
    (attr : Attribute) :
    (Edit.latest? component attr findings.assignments).isSome ↔
      attr ∈ findings.assigned component := by
  rw [latest?_assignments]
  cases found : findings.igcVersion? <;> cases component <;> cases attr <;>
    simp [text?, assigned, found, Attribute.all]

/--
The document that a successful run writes has the same platforms in the same order,
and the section of every other platform as it was.  The section of the run is
rearranged, and nothing is added to it but the attributes that the run assigns.
-/
theorem run_rearranged {client : Client} {config : Config} {disk : Disk} {text version : String}
    {manifest : Manifest} (read : disk.read config.manifestPath = .ok text)
    (parsed : Manifest.parse text = .ok manifest)
    (ok : (run client config disk).result = .ok version) :
    ∃ (findings : Findings) (written : Manifest) (before after : Members Json),
      findings.Reported client.transport.Answers client.apiBase ∧
      (revise client config (.ok text)).1 = .ok ⟨written, version⟩ ∧
      (run client config disk).disk.read config.manifestPath = .ok written.render ∧
      manifest.keys.Nodup ∧
      written.keys = manifest.keys ∧
      (∀ other, other ≠ config.platform →
        Members.get? other written.platforms = Members.get? other manifest.platforms) ∧
      Members.get? config.platform manifest.platforms = some (.obj before) ∧
      Members.get? config.platform written.platforms = some (.obj after) ∧
      Platform.Rearranged findings.assigned before after := by
  obtain ⟨done, rfl⟩ := Completion.exists_of_run ok
  obtain ⟨rfl, rfl⟩ := done.eq_of_read read parsed
  obtain ⟨findings, reported, edits⟩ := done.exists_findings
  obtain ⟨before, found, describes⟩ := Manifest.platform_eq_ok_iff.mp done.decoded
  have distinct := Manifest.distinctKeys_of_parse done.parsed
  have rearranged : Platform.Rearranged findings.assigned before done.revised.toMembers := by
    refine describes.rearranged_revise (distinct.get? found) fun component attr => ?_
    rw [edits]
    exact findings.isSome_latest?_assignments component attr
  rw [done.run_eq, ← read, done.revise_eq]
  refine ⟨findings, done.result, before, done.revised.toMembers, reported, rfl,
    done.read_written, distinct.here, done.keys_result, fun other different => ?_, found, ?_,
    rearranged⟩
  · rw [Completion.result, Manifest.withPlatform, Members.get?_put, if_neg different]
  · rw [Completion.result, Manifest.withPlatform, Members.get?_put, if_pos rfl]
    rfl

theorem run_rearranged_sample :
    (run Sample.client (Sample.config "linux") Sample.disk).result = .ok "v2" ∧
      ∃ (findings : Findings) (written : Manifest) (before after : Members Json),
        findings.Reported Sample.client.transport.Answers "api" ∧
        (revise Sample.client (Sample.config "linux") (.ok Sample.manifest.render)).1 =
          .ok ⟨written, "v2"⟩ ∧
        (run Sample.client (Sample.config "linux") Sample.disk).disk.read "manifest.json" =
          .ok written.render ∧
        Sample.manifest.keys.Nodup ∧
        written.keys = Sample.manifest.keys ∧
        (∀ other, other ≠ "linux" →
          Members.get? other written.platforms = Members.get? other Sample.manifest.platforms) ∧
        Members.get? "linux" Sample.manifest.platforms = some (.obj before) ∧
        Members.get? "linux" written.platforms = some (.obj after) ∧
        Platform.Rearranged findings.assigned before after := by
  have ran : (run Sample.client (Sample.config "linux") Sample.disk).result = .ok "v2" :=
    Sample.run_eq rfl
  exact ⟨ran, run_rearranged Sample.read_disk Sample.parse_render ran⟩

end Uplift

end DriverUplift
