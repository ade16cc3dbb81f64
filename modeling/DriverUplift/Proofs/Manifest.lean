import DriverUplift.Proofs.Json.Printed
import DriverUplift.Proofs.Revision

/-!
# Laws of manifests

A manifest that was read from a text and has whole numbers only reads back from
its own rendering.  Storing a revised platform keeps that, keeps the other
sections, and reads back as the platform; up to the order of members it is what
the same edits make of the document as plain assignments.
-/

namespace DriverUplift.Manifest

variable {manifest : Manifest} {key : String} {platform : Platform}

def Obeys (manifest : Manifest) (rule : Json.Rule) : Prop :=
  Json.Obeys rule 0 (.obj manifest.platforms)

/-! ## Reading and rendering -/

theorem parse_eq_ok_iff {text : String} :
    parse text = .ok manifest ↔ Json.parse text = .ok (.obj manifest.platforms) := by
  unfold parse
  constructor
  · intro parsed
    split at parsed
    · cases parsed
    · rename_i found
      obtain rfl := Except.ok.inj parsed
      exact found
    · cases parsed
  · intro parsed
    rw [parsed]

theorem accepted_of_parse {text : String} (parsed : parse text = .ok manifest) :
    manifest.Obeys Json.accepted :=
  Json.accepted_of_parse (parse_eq_ok_iff.mp parsed)

theorem distinctKeys_of_parse {text : String} (parsed : parse text = .ok manifest) :
    manifest.Obeys Json.distinctKeys :=
  (accepted_of_parse parsed).imp fun _ _ accepted => accepted.1

/-- What was parsed is legible if all of its numbers are whole. -/
theorem legible_of_parse {text : String} (parsed : parse text = .ok manifest)
    (whole : manifest.Obeys Json.wholeNumbers) : manifest.Obeys Json.legible :=
  (accepted_of_parse parsed).and whole

/-- The text of a manifest is a document of the grammar. -/
theorem spellsWhole_render (manifest : Manifest) :
    Json.SpellsWhole (Json.obj manifest.platforms).outline manifest.render.toList := by
  rw [render, String.toList_ofList]
  exact Json.spellsWhole_indented (.obj manifest.platforms)

/-- A legible manifest reads back from its own rendering. -/
theorem parse_render (legible : manifest.Obeys Json.legible) :
    parse manifest.render = .ok manifest :=
  parse_eq_ok_iff.mpr
    (Json.parse_indented legible (Json.delimited_cons (by decide) []) (by decide))

/--
A manifest that was parsed from a text with whole numbers only reads back from its
rendering as it is: the same keys in the same order, the same texts and the same
numbers, at every depth.  Rendering it once more therefore gives the same text.
-/
theorem parse_render_of_parse {text : String} (parsed : parse text = .ok manifest)
    (whole : manifest.Obeys Json.wholeNumbers) :
    parse manifest.render = .ok manifest ∧
      (parse manifest.render).map render = .ok manifest.render := by
  have back := parse_render (legible_of_parse parsed whole)
  constructor
  · exact back
  · rw [back]
    rfl

/-- A text with a key that comes twice, with escapes, and with both ends of the range. -/
def Sample.text : String :=
  "\x7b\"b\" : 0,\r\n\"\\u0041\\n\":\x7b\"k\":null, \"k\":\x7b\x7d\x7d , " ++
    "\"b\":[ -9223372036854775808 ,18446744073709551615, -0, \"\\ud83d\\ude00/\\u001f\"]\x7d"

def Sample.document : Manifest :=
  ⟨[("b", .arr [.num (.integer (-9223372036854775808)), .num (.integer 18446744073709551615),
      .num (.real (Binary64.zero true)), .str "😀/\x1f"]),
    ("A\n", .obj [("k", .obj [])])]⟩

theorem parse_render_of_parse_sample :
    parse Sample.text = .ok Sample.document ∧
      Sample.document.Obeys Json.wholeNumbers ∧
      parse Sample.document.render = .ok Sample.document ∧
      (parse Sample.document.render).map render = .ok Sample.document.render := by
  have parsed : parse Sample.text = .ok Sample.document := by
    set_option maxRecDepth 4000 in with_unfolding_all rfl
  have whole : Sample.document.Obeys Json.wholeNumbers := by
    simp [Manifest.Obeys, Sample.document, Json.obeys_obj_iff, Json.obeys_arr_iff,
      Json.obeys_num_iff, Json.obeys_str_iff, Json.wholeNumbers, Json.Number.IsWhole]
  exact ⟨parsed, whole, parse_render_of_parse parsed whole⟩

/-! ## Sections -/

/-- A platform is read exactly from a section that describes it. -/
theorem platform_eq_ok_iff :
    manifest.platform key = .ok platform ↔
      ∃ members, Members.get? key manifest.platforms = some (.obj members) ∧
        Platform.Describes members platform := by
  unfold Manifest.platform
  cases found : Members.get? key manifest.platforms with
  | none => simp
  | some json =>
      simp only [Option.some.injEq, ← Platform.describes_iff]
      cases missing : Platform.missing? json with
      | some component => simp
      | none => cases read : Platform.ofJson json <;> simp

theorem mem_keys_of_platform (read : manifest.platform key = .ok platform) :
    key ∈ manifest.keys := by
  obtain ⟨members, found, _⟩ := platform_eq_ok_iff.mp read
  rw [keys, ← Members.get?_isSome_iff, found]
  rfl

theorem clean_of_platform (distinct : manifest.Obeys Json.distinctKeys)
    (read : manifest.platform key = .ok platform) : platform.Clean := by
  obtain ⟨members, found, describes⟩ := platform_eq_ok_iff.mp read
  exact describes.clean (distinct.get? found)

/-! ## Storing a platform -/

def withPlatform (manifest : Manifest) (key : String) (platform : Platform) : Manifest :=
  ⟨Members.put key platform.toJson manifest.platforms⟩

theorem get?_withPlatform (manifest : Manifest) (key other : String) (stored : Platform) :
    Members.get? other (manifest.withPlatform key stored).platforms =
      if other = key then some stored.toJson else Members.get? other manifest.platforms := by
  rw [withPlatform, Members.get?_put]

theorem setPlatform_of_mem_keys (present : key ∈ manifest.keys) (stored : Platform) :
    manifest.setPlatform key stored = .ok (manifest.withPlatform key stored) := by
  have has : Members.has key manifest.platforms = true := Members.get?_isSome_iff.mpr present
  rw [setPlatform, if_pos has, withPlatform]

theorem setPlatform_of_not_mem_keys (absent : key ∉ manifest.keys) (stored : Platform) :
    manifest.setPlatform key stored = .error (.missingPlatform key) := by
  have missing : ¬ Members.has key manifest.platforms = true := by
    intro has
    exact absent (Members.get?_isSome_iff.mp has)
  rw [setPlatform, if_neg missing]

theorem setPlatform_of_platform (read : manifest.platform key = .ok platform)
    (stored : Platform) :
    manifest.setPlatform key stored = .ok (manifest.withPlatform key stored) :=
  setPlatform_of_mem_keys (mem_keys_of_platform read) stored

theorem keys_withPlatform (present : key ∈ manifest.keys) (stored : Platform) :
    (manifest.withPlatform key stored).keys = manifest.keys :=
  Members.keys_put_of_mem present

/-- A clean platform that was stored is read from its section. -/
theorem platform_withPlatform_self {stored : Platform} (clean : stored.Clean) :
    (manifest.withPlatform key stored).platform key = .ok stored := by
  refine platform_eq_ok_iff.mpr ⟨stored.toMembers, ?_, clean.describes⟩
  rw [get?_withPlatform, if_pos rfl]
  rfl

/-- Storing a platform does not change what is read from the other sections. -/
theorem platform_withPlatform_other {other : String} (distinct : other ≠ key)
    (stored : Platform) :
    (manifest.withPlatform key stored).platform other = manifest.platform other := by
  simp only [Manifest.platform, get?_withPlatform, if_neg distinct]

/-- The platform that was stored last stays. -/
theorem withPlatform_withPlatform (first second : Platform) :
    (manifest.withPlatform key first).withPlatform key second =
      manifest.withPlatform key second :=
  congrArg Manifest.mk (Members.put_put key _ _ _)

/-- Platforms under different keys that are there may be stored in either order. -/
theorem withPlatform_comm {other : String} (distinct : key ≠ other) (present : key ∈ manifest.keys)
    (otherPresent : other ∈ manifest.keys) (one two : Platform) :
    (manifest.withPlatform other two).withPlatform key one =
      (manifest.withPlatform key one).withPlatform other two :=
  congrArg Manifest.mk (Members.put_comm _ _ distinct present otherPresent)

/-- Storing a revised platform keeps every rule that is tolerant. -/
theorem obeys_withPlatform {rule : Json.Rule} (tolerant : rule.Tolerant)
    (obeys : manifest.Obeys rule) (read : manifest.platform key = .ok platform)
    (edits : List Edit) : (manifest.withPlatform key (platform.revise edits)).Obeys rule := by
  obtain ⟨members, found, describes⟩ := platform_eq_ok_iff.mp read
  exact Json.Obeys.put tolerant obeys
    (describes.obeys_revise tolerant (obeys.get? found) edits)

/-- Up to the order of members, storing a revised platform is assigning in the document. -/
theorem same_withPlatform (distinct : manifest.Obeys Json.distinctKeys)
    (read : manifest.platform key = .ok platform) (edits : List Edit) :
    (manifest.withPlatform key (platform.revise edits)).same (manifest.assignAll key edits) =
      true := by
  obtain ⟨members, found, describes⟩ := platform_eq_ok_iff.mp read
  obtain ⟨assigned, obeys⟩ :=
    describes.assignAll Json.tolerant_distinctKeys (distinct.get? found) edits
  rw [assignAll_eq found]
  refine Json.same_obj (Members.nodup_keys_put distinct.here)
    (Members.nodup_keys_put distinct.here) fun other => ?_
  simp only [withPlatform, Members.get?_put]
  split
  · exact .some (assigned.same_toJson obeys)
  · exact Json.agree_refl fun value there => distinct.get? there

end DriverUplift.Manifest
