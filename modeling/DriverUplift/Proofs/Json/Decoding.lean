import DriverUplift.Proofs.Json.Adequacy

/-!
# What is read from an outline, exactly

What is written as a reader expects it is read, and nothing else is.  A text is read as a
value if and only if it spells an outline that the value is written as, and which value that
is depends on nothing but the outline.  For a record this means that every key can be read,
that none of its own keys comes twice, and that a list holds no more than its fields.
-/

namespace DriverUplift.Json

/-! ## Readers and outlines -/

def Outline.Spelled (outline : Outline) : Prop :=
  ∃ text rest, Spells outline text rest ∧ Delimited rest

/-- From a text that spells an outline the reader reads the values that are written so. -/
structure Reader.Reads {α : Type} (reader : Reader α) (written : Outline → α → Prop) : Prop where
  skips : ∀ {text start : List Char}, Gap text start → reader.read text = reader.read start
  read_iff : ∀ {outline : Outline} {text rest behind : List Char} {value : α},
    Spells outline text rest → Delimited rest →
      (reader.read text = .ok (value, behind) ↔ behind = rest ∧ written outline value)

namespace Reader.Reads

variable {α β : Type} {reader : Reader α} {written : Outline → α → Prop} {outline : Outline}
  {value other : α} {text start rest : List Char} (reads : reader.Reads written)

include reads

theorem exact : reader.Exact where
  skips := reads.skips
  stops spells delimited read := ((reads.read_iff spells delimited).mp read).1

theorem read (gap : Gap text start) (spells : Spells outline start rest)
    (delimited : Delimited rest) (is : written outline value) :
    reader.read text = .ok (value, rest) := by
  rw [reads.skips gap]
  exact (reads.read_iff spells delimited).mpr ⟨rfl, is⟩

theorem gives_iff (spelled : outline.Spelled) :
    reader.Gives outline value ↔ written outline value := by
  constructor
  · rintro ⟨text, rest, spells, delimited, read⟩
    exact ((reads.read_iff spells delimited).mp read).2
  · intro is
    obtain ⟨text, rest, spells, delimited⟩ := spelled
    exact ⟨text, rest, spells, delimited, reads.read .none spells delimited is⟩

/-- What is written as an outline can be told from it. -/
theorem unique (spelled : outline.Spelled) (one : written outline value)
    (two : written outline other) : value = other := by
  obtain ⟨text, rest, spells, delimited⟩ := spelled
  have same := (reads.read .none spells delimited one).symm.trans
    (reads.read .none spells delimited two)
  exact (Prod.mk.inj (Except.ok.inj same)).1

/-- A reader reads what it gives. -/
theorem gives : reader.Reads reader.Gives where
  skips := reads.skips
  read_iff spells delimited := by
    rw [reads.read_iff spells delimited, reads.gives_iff ⟨_, _, spells, delimited⟩]

theorem map (f : α → β) :
    (reader.map f).Reads fun outline value => ∃ given, written outline given ∧ f given = value where
  skips := (reads.exact.map f).skips
  read_iff spells delimited := by
    constructor
    · intro mapped
      obtain ⟨given, found, rfl⟩ := Step.map_eq_ok mapped
      obtain ⟨rfl, is⟩ := (reads.read_iff spells delimited).mp found
      exact ⟨rfl, given, is, rfl⟩
    · rintro ⟨rfl, given, is, rfl⟩
      simp only [Reader.map, reads.read .none spells delimited is, Step.map]

/-- It is enough to know how the values are written in some text. -/
theorem congr {alike : Outline → α → Prop}
    (same : ∀ outline value, outline.Spelled → (written outline value ↔ alike outline value)) :
    reader.Reads alike where
  skips := reads.skips
  read_iff spells delimited := by
    rw [reads.read_iff spells delimited, same _ _ ⟨_, _, spells, delimited⟩]

/-- What is read from a whole text is written as any outline of it. -/
theorem of_whole {whole : List Char} (spells : SpellsWhole outline whole)
    (read : Json.whole reader whole = .ok value) : written outline value := by
  have given := reads.exact.whole spells read
  obtain ⟨start, rest, _, inside, end_⟩ := spells
  exact (reads.gives_iff ⟨start, rest, inside, end_.delimited delimited_nil⟩).mp given

/-- A whole text is read as a value if and only if it spells an outline of the value. -/
theorem whole_iff (adequate : reader.Adequate) {whole : List Char} :
    Json.whole reader whole = .ok value ↔
      ∃ outline, SpellsWhole outline whole ∧ written outline value := by
  constructor
  · intro read
    obtain ⟨outline, spells⟩ := adequate.whole read
    exact ⟨outline, spells, reads.of_whole spells read⟩
  · rintro ⟨outline, ⟨start, rest, gap, spells, end_⟩, is⟩
    have nothing : skipBlanks rest = [] := end_.skipBlanks_eq
    rw [Json.whole, reads.read gap spells (end_.delimited delimited_nil) is]
    simp only [nothing]

end Reader.Reads

/-! ## Texts -/

theorem textBody_of_meaning? {raw : List Char} {value : String}
    (meant : meaning? raw = some value) (rest : List Char) :
    (textBody (raw ++ '"' :: rest)).map String.ofList = .ok (value, rest) := by
  unfold meaning? at meant
  split at meant
  · rename_i chars read
    obtain rfl := Option.some.inj meant
    obtain ⟨used, same, taken⟩ := textBody_takesFront read
    rw [List.append_nil] at same
    have split : raw ++ '"' :: rest = used ++ rest := by
      rw [← same, List.append_assoc]
      rfl
    rw [split, taken rest]
    rfl
  · cases meant

theorem reads_textReader : textReader.Reads fun outline value => outline.text? = some value where
  skips := exact_textReader.skips
  read_iff {outline text rest behind value} spells _ := by
    constructor
    · exact textReader_read spells
    · rintro ⟨rfl, is⟩
      have found := spells.skipBlanks_eq
      cases spells with
      | text _ =>
          simp only [textReader, found, if_true]
          exact textBody_of_meaning? is behind
      | _ => cases is

/-! ## Lists -/

section Lists

variable {α : Type} {reader : Reader α} {written : Outline → α → Prop}

def Outline.IsList (written : Outline → α → Prop) (outline : Outline) (values : List α) : Prop :=
  ∃ items, outline = .list items ∧ List.Forall₂ written items values

theorem Outline.IsList.forall₂_items {outline : Outline} {values : List α}
    (isList : outline.IsList written values) : List.Forall₂ written outline.items values := by
  obtain ⟨items, rfl, all⟩ := isList
  exact all

theorem moreItems_of_forall₂ (reads : reader.Reads written) {items : List Outline}
    {values : List α} {text rest : List Char} (spells : SpellsItems items text rest)
    (all : List.Forall₂ written items values) :
    moreItems reader text = .ok (values, rest) := by
  induction all generalizing text with
  | nil =>
      cases spells with
      | close gap => exact moreItems_of_close gap.nextItem_close
  | cons is _ ih =>
      cases spells with
      | next comma gap first more =>
          rw [moreItems_of_enter (comma.nextItem gap first)
            (reads.read .none first more.delimited is), ih more]
          rfl

theorem SpellsItems.spelled {items : List Outline} {text rest : List Char}
    (spells : SpellsItems items text rest) : ∀ item ∈ items, item.Spelled := by
  induction items generalizing text with
  | nil => simp
  | cons item items ih =>
      cases spells with
      | next _ _ first more =>
          exact List.forall_mem_cons.mpr ⟨⟨_, _, first, more.delimited⟩, ih more⟩

theorem Spells.spelled_items {items : List Outline} {text rest : List Char}
    (spells : Spells (.list items) text rest) : ∀ item ∈ items, item.Spelled := by
  cases spells with
  | emptyList _ => simp
  | list _ first more =>
      exact List.forall_mem_cons.mpr ⟨⟨_, _, first, more.delimited⟩, more.spelled⟩

theorem Reader.Reads.forall₂_of_gives (reads : reader.Reads written) {items : List Outline}
    {values : List α} (spelled : ∀ item ∈ items, item.Spelled)
    (given : List.Forall₂ reader.Gives items values) : List.Forall₂ written items values := by
  induction given with
  | nil => exact .nil
  | cons one _ ih =>
      obtain ⟨first, more⟩ := List.forall_mem_cons.mp spelled
      exact .cons ((reads.gives_iff first).mp one) (ih more)

theorem Reader.Reads.list (reads : reader.Reads written) :
    (listReader reader).Reads (Outline.IsList written) where
  skips := reads.exact.list.skips
  read_iff {outline text rest behind values} spells _ := by
    constructor
    · intro read
      obtain ⟨rfl, items, rfl, given⟩ := listReader_read reads.exact spells read
      exact ⟨rfl, items, rfl, reads.forall₂_of_gives spells.spelled_items given⟩
    · rintro ⟨rfl, items, rfl, all⟩
      have found := spells.skipBlanks_eq
      cases spells with
      | emptyList gap =>
          cases all
          simp only [listReader, found, if_true, Json.items, gap.firstItem_close]
      | list gap first more =>
          cases all with
          | cons is all =>
              simp only [listReader, found, if_true, Json.items, gap.firstItem first,
                reads.read .none first more.delimited is, moreItems_of_forall₂ reads more all,
                Step.map]

end Lists

/-! ## Records -/

theorem SpellsMember.spelled {raw : List Char} {value : Outline} {text rest : List Char}
    (spells : SpellsMember raw value text rest) (delimited : Delimited rest) : value.Spelled := by
  cases spells with
  | member _ _ _ value => exact ⟨_, _, value, delimited⟩

theorem SpellsMembers.spelled {members : List (List Char × Outline)} {text rest : List Char}
    (spells : SpellsMembers members text rest) : ∀ member ∈ members, member.2.Spelled := by
  induction members generalizing text with
  | nil => simp
  | cons member members ih =>
      cases spells with
      | next _ _ first more =>
          exact List.forall_mem_cons.mpr ⟨first.spelled more.delimited, ih more⟩

theorem Spells.spelled_members {members : List (List Char × Outline)} {text rest : List Char}
    (spells : Spells (.object members) text rest) : ∀ member ∈ members, member.2.Spelled := by
  cases spells with
  | emptyObject _ => simp
  | object _ first more =>
      exact List.forall_mem_cons.mpr ⟨first.spelled more.delimited, more.spelled⟩

/-- The values of a record are written in the text of the record. -/
theorem Outline.Spelled.field {outline : Outline} (spelled : outline.Spelled)
    {keys : List String} {field : String × Outline} (mem : field ∈ outline.fields keys) :
    field.2.Spelled := by
  obtain ⟨text, rest, spells, _⟩ := spelled
  cases outline with
  | list items => exact spells.spelled_items _ (List.of_mem_zip mem).2
  | object members =>
      obtain ⟨member, inside, named⟩ := List.mem_filterMap.mp mem
      obtain ⟨key, _, rfl⟩ := Option.map_eq_some_iff.mp named
      exact spells.spelled_members member inside
  | _ => cases mem

theorem Outline.Spelled.part {outline part : Outline} (spelled : outline.Spelled)
    {keys : List String} {key : String} (found : outline.part? keys key = some part) :
    part.Spelled :=
  spelled.field (Members.mem_of_get? found)

namespace Layout

variable {α : Type} {layout : Layout α} {text start rest : List Char} {record final : α}
  {seen all : List String}

section Read

variable (reads : ∀ slot ∈ layout.slots, slot.value.Reads slot.value.Gives)

include reads

theorem member_of_takes {state after : α × List String} {key : String} {next : List Char}
    {value : Outline} (colon : Gap text (':' :: next)) (gap : Gap next start)
    (spells : Spells value start rest) (delimited : Delimited rest)
    (takes : layout.Takes key value state after) :
    (layout.member state key).read text = .ok (after, rest) := by
  cases takes with
  | unknown missing =>
      simp only [member, missing, Reader.map, behindColon_read colon,
        skip_read gap spells delimited, Step.map]
  | known found fresh given =>
      have stored := (reads _ (List.mem_of_find?_eq_some found)).read gap spells delimited given
      simp only [member, found, List.contains_eq_mem, decide_eq_true_eq, fresh, if_false,
        Reader.map, behindColon_read colon, stored, Step.map]

theorem memberStep_of_takes {state after : α × List String} {raw : List Char} {key : String}
    {value : Outline} (spells : SpellsMember raw value text rest) (delimited : Delimited rest)
    (meant : meaning? raw = some key) (takes : layout.Takes key value state after) :
    memberStep layout.member state text = .ok (after, rest) := by
  cases spells with
  | @member _ behindKey next _ _ _ isRaw colon gap value =>
      obtain ⟨chars, body, rfl⟩ := Step.map_eq_ok (textBody_of_meaning? meant behindKey)
      simp only [memberStep, body, member_of_takes reads colon gap value delimited takes]

theorem moreMembers_of_fills {state after : α × List String}
    {members : List (List Char × Outline)} (spells : SpellsMembers members text rest)
    (known : ∀ member ∈ members, (meaning? member.1).isSome = true)
    (fills : layout.Fills state (Outline.named members) after) :
    moreMembers layout.member state text = .ok (after, rest) := by
  induction members generalizing text state with
  | nil =>
      cases fills
      cases spells with
      | close gap => exact moreMembers_of_close gap.nextKey_close
  | cons member members ih =>
      obtain ⟨named, others⟩ := List.forall_mem_cons.mp known
      obtain ⟨key, meant⟩ := Option.isSome_iff_exists.mp named
      simp only [Outline.named, List.filterMap_cons, meant, Option.map_some] at fills
      cases fills with
      | cons takes fills =>
          cases spells with
          | next comma gap first more =>
              rw [moreMembers_of_enter (comma.nextKey gap)
                (memberStep_of_takes reads first more.delimited meant takes)]
              exact ih more others fills

theorem members_of_fills {state after : α × List String} {members : List (List Char × Outline)}
    (spells : Spells (.object members) ('\x7b' :: text) rest)
    (known : ∀ member ∈ members, (meaning? member.1).isSome = true)
    (fills : layout.Fills state (Outline.named members) after) :
    Json.members layout.member state text = .ok (after, rest) := by
  cases spells with
  | emptyObject gap =>
      cases fills
      simp only [Json.members, gap.firstKey_close]
  | object gap first more =>
      obtain ⟨named, others⟩ := List.forall_mem_cons.mp known
      obtain ⟨key, meant⟩ := Option.isSome_iff_exists.mp named
      simp only [Outline.named, List.filterMap_cons, meant, Option.map_some] at fills
      cases fills with
      | cons takes fills =>
          simp only [Json.members, gap.firstKey,
            memberStep_of_takes reads first more.delimited meant takes,
            moreMembers_of_fills reads more others fills]

theorem fromObject_of_records {members : List (List Char × Outline)}
    (spells : Spells (.object members) ('\x7b' :: text) rest)
    (isRecord : (Outline.object members).IsRecord layout.keys)
    (records : layout.Records (.object members) record) :
    layout.fromObject text = .ok (record, rest) := by
  obtain ⟨seen, fills, complete⟩ := records
  cases isRecord with
  | object known _ =>
      have found : (layout.slots.find? fun slot => slot.required && !seen.contains slot.key) =
          none := by
        refine List.find?_eq_none.mpr fun slot mem => ?_
        have present := complete slot mem
        simpa using present
      simp only [fromObject, members_of_fills reads spells known fills, found]

end Read

theorem closeItems_of_spellsFrom {index : Nat} (spells : SpellsFrom index [] text rest) :
    closeItems record text = .ok (record, rest) := by
  have gap : Gap text (']' :: rest) := by
    unfold SpellsFrom at spells
    split at spells
    · cases spells with
      | emptyList gap => exact gap
    · cases spells with
      | close gap => exact gap
  simp only [closeItems, gap.skipBlanks_cons (by decide), if_true]

theorem fromItems_of_fills {expected : String} {slots : List (Slot α)}
    (reads : ∀ slot ∈ slots, slot.value.Reads slot.value.Gives)
    (nodup : (slots.map (·.key)).Nodup)
    (found : ∀ slot ∈ slots, layout.slots.find? (·.key == slot.key) = some slot)
    {index : Nat} {items : List Outline} (fresh : ∀ slot ∈ slots, slot.key ∉ seen)
    (spells : SpellsFrom index items text rest) (short : items.length ≤ slots.length)
    (fills : layout.Fills (record, seen) ((slots.map (·.key)).zip items) (final, all))
    (complete : ∀ slot ∈ slots, slot.required = true → slot.key ∈ all) :
    fromItems expected record index slots text = .ok (final, rest) := by
  induction slots generalizing index items record seen text with
  | nil =>
      obtain rfl := List.length_eq_zero_iff.mp (Nat.le_zero.mp short)
      cases fills
      exact closeItems_of_spellsFrom spells
  | cons slot more ih =>
      rw [fromItems]
      cases items with
      | nil =>
          cases fills
          -- A required slot would be among all keys, and so among those that were seen.
          have optional : (slot :: more).findIdx? (·.required) = none := by
            refine List.findIdx?_eq_none_iff.mpr fun other mem => ?_
            cases required : other.required with
            | true => exact absurd (complete other mem required) (fresh other mem)
            | false => rfl
          simp only [turn_of_nil spells, optional]
      | cons item items =>
          obtain ⟨start, between, turn, first, others⟩ := turn_of_cons spells
          obtain ⟨readsHere, readsMore⟩ := List.forall_mem_cons.mp reads
          obtain ⟨foundHere, foundMore⟩ := List.forall_mem_cons.mp found
          obtain ⟨unused, nodupMore⟩ := List.nodup_cons.mp nodup
          cases fills with
          | cons takes fills =>
              obtain ⟨_, store, given, rfl⟩ := takes.of_slot foundHere
              have stored := readsHere.read .none first others.delimited given
              have spellsMore : SpellsFrom (index + 1) items between rest := by
                simpa [SpellsFrom] using others
              simp only [turn, stored]
              exact ih readsMore nodupMore foundMore (fresh_next unused fresh) spellsMore
                (Nat.le_of_succ_le_succ short) fills
                fun other mem => complete other (List.mem_cons_of_mem _ mem)

/-- A record is read from what is a record of it and from nothing else. -/
theorem reads_reader (reads : ∀ slot ∈ layout.slots, slot.value.Reads slot.value.Gives)
    (nodup : layout.keys.Nodup) :
    layout.reader.Reads fun outline record =>
      outline.IsRecord layout.keys ∧ layout.Records outline record := by
  have regular : layout.Regular := ⟨fun slot mem => (reads slot mem).exact, nodup⟩
  refine ⟨regular.exact_reader.skips, fun {outline text rest behind record} spells _ =>
    ⟨regular.read spells, ?_⟩⟩
  rintro ⟨rfl, isRecord, records⟩
  have start := spells.skipBlanks_eq
  cases isRecord with
  | object known once =>
      obtain ⟨inside, rfl⟩ : ∃ inside, text = '\x7b' :: inside := by
        cases spells <;> exact ⟨_, rfl⟩
      simp only [reader, start, if_true]
      exact fromObject_of_records reads spells (.object known once) records
  | @list items short =>
      obtain ⟨inside, rfl⟩ : ∃ inside, text = '[' :: inside := by
        cases spells <;> exact ⟨_, rfl⟩
      obtain ⟨all, fills, complete⟩ := records
      simp only [reader, start, show ('[' : Char) ≠ '\x7b' by decide, if_false, if_true]
      exact fromItems_of_fills reads nodup (fun slot mem => regular.find?_eq mem)
        (fun slot _ => List.not_mem_nil) (by simpa [SpellsFrom] using spells)
        (by rwa [keys, List.length_map] at short) fills complete

/-! ### Parts of records -/

/-- If all values under the keys of a record can be read, and none of the keys comes twice, then
the values make up a record. -/
theorem exists_fills {fields : Members Outline} (state : α × List String)
    (given : ∀ field ∈ fields, ∀ slot, layout.slots.find? (·.key == field.1) = some slot →
      ∃ store, slot.value.Gives field.2 store)
    (once : layout.Unrepeated state.2 fields) :
    ∃ after : α × List String, layout.Fills state fields after ∧ (∀ key ∈ state.2, key ∈ after.2) ∧
      ∀ key ∈ layout.keys, key ∈ Members.keys fields → key ∈ after.2 := by
  induction fields generalizing state with
  | nil => exact ⟨state, .nil, fun _ mem => mem, by simp [Members.keys]⟩
  | cons field fields ih =>
      obtain ⟨key, value⟩ := field
      obtain ⟨record, seen⟩ := state
      obtain ⟨first, others⟩ := List.forall_mem_cons.mp given
      cases found : layout.slots.find? (·.key == key) with
      | none =>
          have unknown := not_mem_keys_of_find? found
          obtain ⟨after, fills, kept, there⟩ := ih (record, seen) others
            ((unrepeated_unknown_iff unknown).mp once)
          refine ⟨after, .cons (.unknown found) fills, kept, fun other known mem => ?_⟩
          rcases List.mem_cons.mp mem with rfl | mem
          · exact absurd known unknown
          · exact there other known mem
      | some slot =>
          obtain ⟨store, stored⟩ := first slot found
          obtain ⟨fresh, once⟩ := (unrepeated_known_iff (mem_keys_of_find? found)).mp once
          obtain ⟨after, fills, kept, there⟩ := ih (store record, key :: seen) others once
          refine ⟨after, .cons (.known found fresh stored) fills,
            fun other mem => kept other (List.mem_cons_of_mem _ mem), fun other known mem => ?_⟩
          rcases List.mem_cons.mp mem with rfl | mem
          · exact kept _ (List.mem_cons_self ..)
          · exact there other known mem

theorem sublist_keys_zip (keys : List String) (items : List Outline) :
    (Members.keys (keys.zip items)).Sublist keys := by
  induction keys generalizing items with
  | nil => exact List.nil_sublist _
  | cons key keys ih =>
      cases items with
      | nil => exact List.nil_sublist _
      | cons item items => exact (ih items).cons_cons key

/-- The keys of a record come once each in an outline of it. -/
theorem unrepeated_fields (nodup : layout.keys.Nodup) {outline : Outline}
    (isRecord : outline.IsRecord layout.keys) :
    layout.Unrepeated [] (outline.fields layout.keys) := by
  intro key known
  refine ⟨?_, nofun⟩
  cases isRecord with
  | object _ once => exact once key known
  | list _ => exact List.nodup_iff_count_le_one.mp (nodup.sublist (sublist_keys_zip ..)) key

/-- If all parts of a record can be read, and only parts are missing that may be left out, then
there is a record. -/
theorem exists_records (nodup : layout.keys.Nodup) {outline : Outline}
    (isRecord : outline.IsRecord layout.keys)
    (given : ∀ slot ∈ layout.slots, ∀ part, outline.part? layout.keys slot.key = some part →
      ∃ store, slot.value.Gives part store)
    (complete : ∀ slot ∈ layout.slots, outline.part? layout.keys slot.key = none →
      slot.required = false) :
    ∃ record, layout.Records outline record := by
  have once := unrepeated_fields nodup isRecord
  obtain ⟨⟨record, seen⟩, fills, -, there⟩ := exists_fills (layout.blank, [])
    (fun field mem slot found => by
      have named : slot.key = field.1 := by simpa using List.find?_some found
      refine given slot (List.mem_of_find?_eq_some found) field.2 ?_
      rw [named]
      exact Members.get?_of_mem_of_count (once _ (mem_keys_of_find? found)).1 mem) once
  refine ⟨record, seen, fills, fun slot mem required => ?_⟩
  refine there slot.key (List.mem_map_of_mem mem) ?_
  by_contra absent
  have missing := complete slot mem (Members.get?_eq_none_iff.mpr absent)
  rw [required] at missing
  cases missing

end Layout

/-- A part is what is written for it; if it may be left out, it is that of a blank record then. -/
def PartIs {β : Type} (written : Outline → β → Prop) (required : Bool) (blank : β)
    (part? : Option Outline) (value : β) : Prop :=
  match part? with
  | some part => written part value
  | none => required = false ∧ value = blank

namespace PartIs

variable {α β : Type} {reader : Reader β} {written : Outline → β → Prop} {required : Bool}
  {blank value other : β} {part? : Option Outline} {part : Outline}

theorem of_some (is : PartIs written required blank part? value) (found : part? = some part) :
    written part value := by
  subst found
  exact is

theorem of_none (is : PartIs written required blank part? value) (missing : part? = none) :
    required = false ∧ value = blank := by
  subst missing
  exact is

theorem unique (reads : reader.Reads written)
    (spelled : ∀ part, part? = some part → part.Spelled)
    (one : PartIs written required blank part? value)
    (two : PartIs written required blank part? other) : value = other := by
  cases found : part? with
  | none => rw [(one.of_none found).2, (two.of_none found).2]
  | some part => exact reads.unique (spelled part found) (one.of_some found) (two.of_some found)

theorem exists_gives (is : PartIs written required blank part? value)
    (reads : reader.Reads written) (spelled : part.Spelled) (found : part? = some part)
    (store : β → α → α) : ∃ stored, (reader.map store).Gives part stored :=
  ⟨store value, Reader.gives_map_iff.mpr
    ⟨value, (reads.gives_iff spelled).mpr (is.of_some found), rfl⟩⟩

end PartIs

namespace Layout

variable {α β γ : Type} {layout : Layout α}

theorem Owns.partIs {key : String} {required : Bool} {reader : Reader β} {get : α → β}
    (owns : layout.Owns key required reader get) {written : Outline → β → Prop}
    (reads : reader.Reads written) {outline : Outline} (spelled : outline.Spelled) {record : α}
    (records : layout.Records outline record) :
    PartIs written required (get layout.blank) (outline.part? layout.keys key) (get record) := by
  cases found : outline.part? layout.keys key with
  | none => exact owns.eq_blank records found
  | some part => exact (reads.gives_iff (spelled.part found)).mp (owns.gives records found)

section Few

variable {name key other : String} {blank : α} {required otherRequired : Bool}
  {reader : Reader β} {otherReader : Reader γ} {written : Outline → β → Prop}
  {otherWritten : Outline → γ → Prop} {store : β → α → α} {otherStore : γ → α → α}
  {get : α → β} {otherGet : α → γ}

/-- A record with one part is read from what is written for the part. -/
theorem reads_one (reads : reader.Reads written)
    (sets : ∀ given record, get (store given record) = given)
    (determined : ∀ one next, get one = get next → one = next) :
    (Layout.reader ⟨name, blank, [⟨key, required, reader.map store⟩]⟩).Reads
      fun outline record => outline.IsRecord [key] ∧
        PartIs written required (get blank) (outline.part? [key] key) (get record) := by
  have owns : Owns ⟨name, blank, [⟨key, required, reader.map store⟩]⟩ key required reader get :=
    owns_one sets
  have slots : ∀ slot ∈ [(⟨key, required, reader.map store⟩ : Slot α)],
      slot.value.Reads slot.value.Gives := by
    intro slot mem
    obtain rfl := List.mem_singleton.mp mem
    exact (reads.map store).gives
  have regular : Regular ⟨name, blank, [⟨key, required, reader.map store⟩]⟩ :=
    regular_one reads.exact
  refine (reads_reader slots regular.nodup).congr fun outline record spelled =>
    and_congr_right fun isRecord => ⟨fun records => owns.partIs reads spelled records, fun is => ?_⟩
  obtain ⟨found, records⟩ := exists_records regular.nodup isRecord
    (fun slot mem part there => by
      obtain rfl := List.mem_singleton.mp mem
      exact is.exists_gives reads (spelled.part there) there store)
    (fun slot mem missing => by
      obtain rfl := List.mem_singleton.mp mem
      exact (is.of_none missing).1)
  have same := (owns.partIs reads spelled records).unique reads (fun _ => spelled.part) is
  exact determined _ _ same ▸ records

/-- A record with two parts is read from what is written for the parts. -/
theorem reads_two (reads : reader.Reads written) (otherReads : otherReader.Reads otherWritten)
    (different : key ≠ other) (sets : ∀ given record, get (store given record) = given)
    (keeps : ∀ given record, get (otherStore given record) = get record)
    (otherSets : ∀ given record, otherGet (otherStore given record) = given)
    (otherKeeps : ∀ given record, otherGet (store given record) = otherGet record)
    (determined : ∀ one next, get one = get next → otherGet one = otherGet next → one = next) :
    (Layout.reader ⟨name, blank, [⟨key, required, reader.map store⟩,
        ⟨other, otherRequired, otherReader.map otherStore⟩]⟩).Reads
      fun outline record => outline.IsRecord [key, other] ∧
        PartIs written required (get blank) (outline.part? [key, other] key) (get record) ∧
        PartIs otherWritten otherRequired (otherGet blank) (outline.part? [key, other] other)
          (otherGet record) := by
  have owns : Owns ⟨name, blank, [⟨key, required, reader.map store⟩,
      ⟨other, otherRequired, otherReader.map otherStore⟩]⟩ key required reader get :=
    owns_first sets keeps
  have otherOwns : Owns ⟨name, blank, [⟨key, required, reader.map store⟩,
      ⟨other, otherRequired, otherReader.map otherStore⟩]⟩ other otherRequired otherReader
      otherGet :=
    owns_second different otherSets otherKeeps
  have slots : ∀ slot ∈ [(⟨key, required, reader.map store⟩ : Slot α),
      ⟨other, otherRequired, otherReader.map otherStore⟩],
      slot.value.Reads slot.value.Gives := by
    intro slot mem
    rcases List.mem_pair.mp mem with rfl | rfl
    · exact (reads.map store).gives
    · exact (otherReads.map otherStore).gives
  have regular : Regular ⟨name, blank, [⟨key, required, reader.map store⟩,
      ⟨other, otherRequired, otherReader.map otherStore⟩]⟩ :=
    regular_two reads.exact otherReads.exact different
  -- A record that is read has both parts; back from the parts some record is read, and as it has
  -- the same parts, it is the one in question.
  refine (reads_reader slots regular.nodup).congr fun outline record spelled =>
    and_congr_right fun isRecord => ⟨fun records => ⟨owns.partIs reads spelled records,
      otherOwns.partIs otherReads spelled records⟩, fun ⟨is, otherIs⟩ => ?_⟩
  obtain ⟨found, records⟩ := exists_records regular.nodup isRecord
    (fun slot mem part there => by
      rcases List.mem_pair.mp mem with rfl | rfl
      · exact is.exists_gives reads (spelled.part there) there store
      · exact otherIs.exists_gives otherReads (spelled.part there) there otherStore)
    (fun slot mem missing => by
      rcases List.mem_pair.mp mem with rfl | rfl
      · exact (is.of_none missing).1
      · exact (otherIs.of_none missing).1)
  have same := (owns.partIs reads spelled records).unique reads (fun _ => spelled.part) is
  have otherSame := (otherOwns.partIs otherReads spelled records).unique otherReads
    (fun _ => spelled.part) otherIs
  exact determined _ _ same otherSame ▸ records

end Few

end Layout

end DriverUplift.Json
