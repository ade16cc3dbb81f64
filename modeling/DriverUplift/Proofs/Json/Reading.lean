import DriverUplift.Json.Record
import DriverUplift.Proofs.Json.Outline
import DriverUplift.Proofs.Members

/-!
# Reading what spells an outline

A reader that succeeds at a text that spells an outline reads just that, and what it
gives can be told from the outline: blanks play no part.  A record is given by the
values under its keys; whatever stands under other keys plays no part either.
-/

namespace DriverUplift.Json

/-! ## Exact readers -/

/-- The reader passes over blanks, and it stops where the value ends that it reads. -/
structure Reader.Exact {α : Type} (reader : Reader α) : Prop where
  skips : ∀ {text start : List Char}, Gap text start → reader.read text = reader.read start
  stops : ∀ {outline : Outline} {text rest behind : List Char} {value : α},
    Spells outline text rest → Delimited rest → reader.read text = .ok (value, behind) →
      behind = rest

/-- The reader gives the value for some text that spells the outline. -/
def Reader.Gives {α : Type} (reader : Reader α) (outline : Outline) (value : α) : Prop :=
  ∃ text rest, Spells outline text rest ∧ Delimited rest ∧ reader.read text = .ok (value, rest)

section Exact

variable {α β : Type} {reader : Reader α} {outline : Outline} {value : α}
  {text start rest behind : List Char}

theorem Reader.Exact.read (exact : reader.Exact) (gap : Gap text start)
    (spells : Spells outline start rest) (delimited : Delimited rest)
    (read : reader.read text = .ok (value, behind)) :
    behind = rest ∧ reader.Gives outline value := by
  rw [exact.skips gap] at read
  obtain rfl := exact.stops spells delimited read
  exact ⟨rfl, start, behind, spells, delimited, read⟩

/-- What is read from a whole text can be told from its outline. -/
theorem Reader.Exact.whole (exact : reader.Exact) (spells : SpellsWhole outline text)
    (read : whole reader text = .ok value) : reader.Gives outline value := by
  obtain ⟨start, rest, gap, spells, end_⟩ := spells
  unfold Json.whole at read
  split at read
  · cases read
  · rename_i found behind reading
    obtain ⟨_, given⟩ := exact.read gap spells (end_.delimited delimited_nil) reading
    split at read
    · obtain rfl := Except.ok.inj read
      exact given
    · cases read

theorem Reader.Exact.map (exact : reader.Exact) (f : α → β) : (reader.map f).Exact where
  skips gap := by simp only [Reader.map, exact.skips gap]
  stops spells delimited read := by
    obtain ⟨given, read, _⟩ := Step.map_eq_ok read
    exact exact.stops spells delimited read

theorem Reader.gives_map_iff {f : α → β} {value : β} :
    (reader.map f).Gives outline value ↔ ∃ given, reader.Gives outline given ∧ f given = value := by
  constructor
  · rintro ⟨text, rest, spells, delimited, read⟩
    obtain ⟨given, read, same⟩ := Step.map_eq_ok read
    exact ⟨given, ⟨text, rest, spells, delimited, read⟩, same⟩
  · rintro ⟨given, ⟨text, rest, spells, delimited, read⟩, rfl⟩
    exact ⟨text, rest, spells, delimited, by simp only [Reader.map, read, Step.map]⟩

end Exact

/-! ## Values under keys -/

namespace Outline

def text? : Outline → Option String
  | text raw => meaning? raw
  | _ => none

def items : Outline → List Outline
  | list items => items
  | _ => []

def named (members : List (List Char × Outline)) : Members Outline :=
  members.filterMap fun member => (meaning? member.1).map fun key => (key, member.2)

/-- The values of a record under their keys; a list has them in the order of the keys. -/
def fields (keys : List String) : Outline → Members Outline
  | list items => keys.zip items
  | object members => named members
  | _ => []

/-- The outline may be that of a record with these keys: an object whose keys can be read and
among which none of these comes twice, or a list with no more items than there are keys. -/
inductive IsRecord (keys : List String) : Outline → Prop where
  | object {members : List (List Char × Outline)} :
      (∀ member ∈ members, (meaning? member.1).isSome = true) →
        (∀ key ∈ keys, (Members.keys (named members)).count key ≤ 1) →
          IsRecord keys (object members)
  | list {items : List Outline} : items.length ≤ keys.length → IsRecord keys (list items)

def part? (keys : List String) (key : String) (outline : Outline) : Option Outline :=
  Members.get? key (outline.fields keys)

def textAt? (keys : List String) (key : String) (outline : Outline) : Option String :=
  (outline.part? keys key).bind text?

end Outline

/-! ## Texts -/

theorem textReader_read {outline : Outline} {text rest behind : List Char} {value : String}
    (spells : Spells outline text rest) (read : textReader.read text = .ok (value, behind)) :
    behind = rest ∧ outline.text? = some value := by
  have found := spells.skipBlanks_eq
  cases spells with
  | scalar scalar =>
      obtain ⟨c, more, rfl, starts⟩ := scalar.exists_cons
      have quote := starts.solid.2.2.2.2
      rw [List.cons_append] at found
      simp [textReader, found, quote] at read
  | text isRaw =>
      simp only [textReader, found, if_true] at read
      obtain ⟨chars, body, rfl⟩ := Step.map_eq_ok read
      exact isRaw.textBody body
  | _ => simp [textReader, found] at read

theorem exact_textReader : textReader.Exact where
  skips gap := by simp only [textReader, gap.skipBlanks_eq]
  stops spells _ read := (textReader_read spells read).1

/-! ## Lists -/

section Lists

variable {α : Type} {reader : Reader α} {item outline : Outline} {items : List Outline}
  {text next start rest behind : List Char} {values : List α}

theorem Gap.firstItem_close (gap : Gap text (']' :: rest)) :
    firstItem text = .ok (.close rest) := by
  rw [firstItem, gap.skipBlanks_cons (by decide)]
  simp

theorem Gap.firstItem (gap : Gap text start) (spells : Spells item start rest) :
    firstItem text = .ok (.enter start) := by
  obtain ⟨c, more, rfl, solid, open_⟩ := spells.exists_cons
  rw [Json.firstItem, gap.skipBlanks_cons solid]
  simp [open_]

theorem Gap.nextItem_close (gap : Gap text (']' :: rest)) :
    nextItem text = .ok (.close rest) := by
  rw [nextItem, gap.skipBlanks_cons (by decide)]
  simp

theorem Gap.nextItem (comma : Gap text (',' :: next)) (gap : Gap next start)
    (spells : Spells item start rest) : nextItem text = .ok (.enter start) := by
  obtain ⟨c, more, rfl, solid, open_⟩ := spells.exists_cons
  rw [Json.nextItem, comma.skipBlanks_cons (by decide)]
  simp [gap.skipBlanks_cons solid, open_]

theorem moreItems_ok (turn : Json.nextItem text = .ok (.enter start))
    (read : moreItems reader text = .ok (values, behind)) :
    ∃ value between others, reader.read start = .ok (value, between) ∧
      moreItems reader between = .ok (others, behind) ∧ values = value :: others := by
  cases reading : reader.read start with
  | error fault =>
      rw [moreItems] at read
      split at read
      · cases read
      · simp_all
      · split at read <;> simp_all
  | ok found =>
      obtain ⟨value, between⟩ := found
      rw [moreItems_of_enter turn reading] at read
      obtain ⟨others, more, rfl⟩ := Step.map_eq_ok read
      exact ⟨value, between, others, rfl, more, rfl⟩

theorem moreItems_read (exact : reader.Exact) (spells : SpellsItems items text rest)
    (read : moreItems reader text = .ok (values, behind)) :
    behind = rest ∧ List.Forall₂ reader.Gives items values := by
  induction items generalizing text values with
  | nil =>
      cases spells with
      | close gap =>
          rw [moreItems_of_close gap.nextItem_close] at read
          obtain ⟨rfl, rfl⟩ := Prod.mk.inj (Except.ok.inj read)
          exact ⟨rfl, .nil⟩
  | cons item items ih =>
      cases spells with
      | next comma gap first more =>
          obtain ⟨value, between, others, one, tail, rfl⟩ :=
            moreItems_ok (comma.nextItem gap first) read
          obtain ⟨rfl, given⟩ := exact.read .none first more.delimited one
          obtain ⟨same, all⟩ := ih more tail
          exact ⟨same, .cons given all⟩

theorem items_ok (turn : Json.firstItem text = .ok (.enter start))
    (read : Json.items reader text = .ok (values, behind)) :
    ∃ value between others, reader.read start = .ok (value, between) ∧
      moreItems reader between = .ok (others, behind) ∧ values = value :: others := by
  simp only [Json.items, turn] at read
  split at read
  · cases read
  · rename_i value between reading
    obtain ⟨others, more, rfl⟩ := Step.map_eq_ok read
    exact ⟨value, between, others, reading, more, rfl⟩

theorem items_read (exact : reader.Exact) (spells : Spells (.list items) ('[' :: text) rest)
    (read : Json.items reader text = .ok (values, behind)) :
    behind = rest ∧ List.Forall₂ reader.Gives items values := by
  cases spells with
  | emptyList gap =>
      simp only [Json.items, gap.firstItem_close] at read
      obtain ⟨rfl, rfl⟩ := Prod.mk.inj (Except.ok.inj read)
      exact ⟨rfl, .nil⟩
  | list gap first more =>
      obtain ⟨value, between, others, one, tail, rfl⟩ := items_ok (gap.firstItem first) read
      obtain ⟨rfl, given⟩ := exact.read .none first more.delimited one
      obtain ⟨same, all⟩ := moreItems_read exact more tail
      exact ⟨same, .cons given all⟩

/-- The text of a list starts with its bracket. -/
theorem Spells.list_cons (spells : Spells (.list items) text rest) :
    ∃ inside, text = '[' :: inside := by
  cases spells <;> exact ⟨_, rfl⟩

theorem listReader_read (exact : reader.Exact) (spells : Spells outline text rest)
    (read : (listReader reader).read text = .ok (values, behind)) :
    behind = rest ∧ ∃ items, outline = .list items ∧ List.Forall₂ reader.Gives items values := by
  have found := spells.skipBlanks_eq
  cases outline with
  | scalar chars =>
      cases spells with
      | scalar scalar =>
          obtain ⟨c, more, rfl, starts⟩ := scalar.exists_cons
          have bracket := starts.solid.2.2.1
          rw [List.cons_append] at found
          simp [listReader, found, bracket] at read
  | list items =>
      obtain ⟨inside, rfl⟩ := spells.list_cons
      simp only [listReader, found, if_true] at read
      obtain ⟨same, all⟩ := items_read exact spells read
      exact ⟨same, items, rfl, all⟩
  | text raw =>
      cases spells
      simp [listReader, found] at read
  | object members =>
      cases spells <;> simp [listReader, found] at read

theorem Reader.Exact.list (exact : reader.Exact) : (listReader reader).Exact where
  skips gap := by simp only [listReader, gap.skipBlanks_eq]
  stops spells _ read := (listReader_read exact spells read).1

end Lists

/-! ## Keys -/

section Keys

variable {text next start rest : List Char}

theorem Gap.firstKey_close (gap : Gap text ('\x7d' :: rest)) :
    firstKey text = .ok (.close rest) := by
  rw [firstKey, gap.skipBlanks_cons (by decide)]
  simp

theorem Gap.firstKey (gap : Gap text ('"' :: start)) : firstKey text = .ok (.enter start) := by
  rw [Json.firstKey, gap.skipBlanks_cons (by decide)]
  simp

theorem Gap.nextKey_close (gap : Gap text ('\x7d' :: rest)) :
    nextKey text = .ok (.close rest) := by
  rw [nextKey, gap.skipBlanks_cons (by decide)]
  simp

theorem Gap.nextKey (comma : Gap text (',' :: next)) (gap : Gap next ('"' :: start)) :
    nextKey text = .ok (.enter start) := by
  rw [Json.nextKey, comma.skipBlanks_cons (by decide)]
  simp [gap.skipBlanks_cons, isBlank]

end Keys

/-! ## Objects -/

section Objects

variable {σ : Type} {member : σ → String → Reader σ}
  {takes : String → Outline → σ → σ → Prop} {state final : σ}
  {text next start rest behind : List Char} {value : Outline}
  {members : List (List Char × Outline)}

/-- Behind a key the reader reads the colon and the value, and the state changes as told. -/
def ExactMember (member : σ → String → Reader σ) (takes : String → Outline → σ → σ → Prop) :
    Prop :=
  ∀ {state final : σ} {key : String} {value : Outline} {text next start rest behind : List Char},
    Gap text (':' :: next) → Gap next start → Spells value start rest → Delimited rest →
      (member state key).read text = .ok (final, behind) →
        behind = rest ∧ takes key value state final

inductive Folds (takes : String → Outline → σ → σ → Prop) : σ → Members Outline → σ → Prop where
  | nil {state : σ} : Folds takes state [] state
  | cons {state between final : σ} {key : String} {value : Outline} {fields : Members Outline} :
      takes key value state between → Folds takes between fields final →
        Folds takes state ((key, value) :: fields) final

theorem behindColon_read {β : Type} {reader : Reader β} (gap : Gap text (':' :: next)) :
    (behindColon reader).read text = reader.read next := by
  simp only [behindColon, colon_gap gap]

theorem moreMembers_ok (turn : nextKey text = .ok (.enter start))
    (read : moreMembers member state text = .ok (final, behind)) :
    ∃ next between, memberStep member state start = .ok (next, between) ∧
      moreMembers member next between = .ok (final, behind) := by
  cases reading : memberStep member state start with
  | error fault =>
      rw [moreMembers] at read
      split at read
      · cases read
      · simp_all
      · split at read <;> simp_all
  | ok found =>
      obtain ⟨next, between⟩ := found
      rw [moreMembers_of_enter turn reading] at read
      exact ⟨next, between, rfl, read⟩

variable (exact : ExactMember member takes)

include exact

theorem memberStep_read {raw : List Char} (spells : SpellsMember raw value text rest)
    (delimited : Delimited rest) (read : memberStep member state text = .ok (final, behind)) :
    behind = rest ∧ ∃ key, meaning? raw = some key ∧ takes key value state final := by
  cases spells with
  | member isRaw colon gap value =>
      unfold memberStep at read
      split at read
      · cases read
      · rename_i key behindKey body
        obtain ⟨rfl, meant⟩ := isRaw.textBody body
        obtain ⟨same, taken⟩ := exact colon gap value delimited read
        exact ⟨same, _, meant, taken⟩

theorem moreMembers_read (spells : SpellsMembers members text rest)
    (read : moreMembers member state text = .ok (final, behind)) :
    behind = rest ∧ (∀ member ∈ members, (meaning? member.1).isSome = true) ∧
      Folds takes state (Outline.named members) final := by
  induction members generalizing text state with
  | nil =>
      cases spells with
      | close gap =>
          rw [moreMembers_of_close gap.nextKey_close] at read
          obtain ⟨rfl, rfl⟩ := Prod.mk.inj (Except.ok.inj read)
          exact ⟨rfl, by simp, .nil⟩
  | cons member members ih =>
      cases spells with
      | next comma gap first more =>
          obtain ⟨next, between, one, tail⟩ := moreMembers_ok (comma.nextKey gap) read
          obtain ⟨rfl, key, meant, taken⟩ := memberStep_read exact first more.delimited one
          obtain ⟨same, known, folds⟩ := ih more tail
          refine ⟨same, List.forall_mem_cons.mpr ⟨by rw [meant]; rfl, known⟩, ?_⟩
          simp only [Outline.named, List.filterMap_cons, meant, Option.map_some]
          exact .cons taken folds

theorem members_read (spells : Spells (.object members) ('\x7b' :: text) rest)
    (read : Json.members member state text = .ok (final, behind)) :
    behind = rest ∧ (∀ member ∈ members, (meaning? member.1).isSome = true) ∧
      Folds takes state (Outline.named members) final := by
  cases spells with
  | emptyObject gap =>
      simp only [Json.members, gap.firstKey_close] at read
      obtain ⟨rfl, rfl⟩ := Prod.mk.inj (Except.ok.inj read)
      exact ⟨rfl, by simp, .nil⟩
  | object gap first more =>
      simp only [Json.members, gap.firstKey] at read
      split at read
      · cases read
      · rename_i next between one
        obtain ⟨rfl, key, meant, taken⟩ := memberStep_read exact first more.delimited one
        obtain ⟨same, known, folds⟩ := moreMembers_read exact more read
        refine ⟨same, List.forall_mem_cons.mpr ⟨by rw [meant]; rfl, known⟩, ?_⟩
        simp only [Outline.named, List.filterMap_cons, meant, Option.map_some]
        exact .cons taken folds

omit exact

/-- The text of an object starts with its brace. -/
theorem Spells.object_cons (spells : Spells (.object members) text rest) :
    ∃ inside, text = '\x7b' :: inside := by
  cases spells <;> exact ⟨_, rfl⟩

end Objects

/-! ## Records -/

namespace Layout

variable {α : Type} {layout : Layout α} {text start rest behind : List Char}

def keys (layout : Layout α) : List String :=
  layout.slots.map (·.key)

inductive Takes (layout : Layout α) (key : String) (value : Outline) :
    α × List String → α × List String → Prop where
  | unknown {state : α × List String} :
      layout.slots.find? (·.key == key) = none → Takes layout key value state state
  | known {slot : Slot α} {store : α → α} {record : α} {seen : List String} :
      layout.slots.find? (·.key == key) = some slot → key ∉ seen → slot.value.Gives value store →
        Takes layout key value (record, seen) (store record, key :: seen)

inductive Fills (layout : Layout α) :
    α × List String → Members Outline → α × List String → Prop where
  | nil {state : α × List String} : Fills layout state [] state
  | cons {state between final : α × List String} {key : String} {value : Outline}
      {fields : Members Outline} :
      layout.Takes key value state between → Fills layout between fields final →
        Fills layout state ((key, value) :: fields) final

/-- The outline has a value for each required field, and its values make up the record. -/
def Records (layout : Layout α) (outline : Outline) (record : α) : Prop :=
  ∃ seen, layout.Fills (layout.blank, []) (outline.fields layout.keys) (record, seen) ∧
    ∀ slot ∈ layout.slots, slot.required = true → slot.key ∈ seen

/-- Under the key of a field a value does what the field makes of it. -/
theorem Takes.of_slot {key : String} {value : Outline} {state final : α × List String}
    {slot : Slot α} (takes : layout.Takes key value state final)
    (found : layout.slots.find? (·.key == key) = some slot) :
    key ∉ state.2 ∧ ∃ store, slot.value.Gives value store ∧
      final = (store state.1, key :: state.2) := by
  cases takes with
  | unknown missing => cases found.symm.trans missing
  | known foundAgain fresh given =>
      obtain rfl := Option.some.inj (found.symm.trans foundAgain)
      exact ⟨fresh, _, given, rfl⟩

theorem mem_keys_of_find? {key : String} {slot : Slot α}
    (found : layout.slots.find? (·.key == key) = some slot) : key ∈ layout.keys := by
  have named : slot.key = key := by simpa using List.find?_some found
  exact List.mem_map.mpr ⟨slot, List.mem_of_find?_eq_some found, named⟩

theorem not_mem_keys_of_find? {key : String}
    (missing : layout.slots.find? (·.key == key) = none) : key ∉ layout.keys := by
  intro known
  obtain ⟨slot, mem, named⟩ := List.mem_map.mp known
  exact List.find?_eq_none.mp missing slot mem (by simpa using named)

/-- Of the keys of the record none comes twice, and none comes that was seen before. -/
def Unrepeated (layout : Layout α) (seen : List String) (fields : Members Outline) : Prop :=
  ∀ key ∈ layout.keys, (Members.keys fields).count key ≤ 1 ∧
    (key ∈ seen → (Members.keys fields).count key = 0)

section Unrepeated

variable {key : String} {value : Outline} {seen : List String} {fields : Members Outline}

theorem unrepeated_unknown_iff (unknown : key ∉ layout.keys) :
    layout.Unrepeated seen ((key, value) :: fields) ↔ layout.Unrepeated seen fields := by
  refine forall₂_congr fun other known => ?_
  have different : key ≠ other := fun same => unknown (same ▸ known)
  rw [Members.keys, List.map_cons, List.count_cons_of_ne different, ← Members.keys]

theorem unrepeated_known_iff (known : key ∈ layout.keys) :
    layout.Unrepeated seen ((key, value) :: fields) ↔
      key ∉ seen ∧ layout.Unrepeated (key :: seen) fields := by
  have first : (Members.keys ((key, value) :: fields)).count key =
      (Members.keys fields).count key + 1 := List.count_cons_self
  have others {other : String} (different : key ≠ other) :
      (Members.keys ((key, value) :: fields)).count other = (Members.keys fields).count other :=
    List.count_cons_of_ne different
  constructor
  · intro once
    obtain ⟨one, never⟩ := once key known
    rw [first] at one never
    refine ⟨fun seen => absurd (never seen) (Nat.succ_ne_zero _), fun other mem => ?_⟩
    by_cases same : key = other
    · subst same
      exact ⟨by omega, fun _ => by omega⟩
    · rw [← others same]
      refine ⟨(once other mem).1, fun seen => (once other mem).2 ?_⟩
      exact (List.mem_cons.mp seen).resolve_left (Ne.symm same)
  · rintro ⟨fresh, once⟩ other mem
    by_cases same : key = other
    · subst same
      rw [first, (once key mem).2 (List.mem_cons_self ..)]
      exact ⟨Nat.le_refl _, fun seen => absurd seen fresh⟩
    · rw [others same]
      exact ⟨(once other mem).1, fun seen => (once other mem).2 (List.mem_cons_of_mem _ seen)⟩

end Unrepeated

theorem Fills.unrepeated {state final : α × List String} {fields : Members Outline}
    (fills : layout.Fills state fields final) : layout.Unrepeated state.2 fields := by
  induction fills with
  | nil => exact fun _ _ => ⟨Nat.zero_le _, fun _ => rfl⟩
  | cons takes _ ih =>
      cases takes with
      | unknown missing => exact (unrepeated_unknown_iff (not_mem_keys_of_find? missing)).mpr ih
      | known found fresh _ =>
          exact (unrepeated_known_iff (mem_keys_of_find? found)).mpr ⟨fresh, ih⟩

theorem skip_read (gap : Gap text start) {outline : Outline} (spells : Spells outline start rest)
    (delimited : Delimited rest) : skip.read text = .ok ((), rest) := by
  simp only [skip, skipWithin_gap gap, skipWithin_spells [] delimited spells, skipBehind_nil,
    Except.map]

/-! ### Records that are written as objects -/

theorem fills_of_folds {state final : α × List String} {fields : Members Outline}
    (folds : Folds layout.Takes state fields final) : layout.Fills state fields final := by
  induction folds with
  | nil => exact .nil
  | cons takes _ ih => exact .cons takes ih

section Objects

variable (exact : ∀ slot ∈ layout.slots, slot.value.Exact)

include exact

theorem exactMember : ExactMember layout.member layout.Takes := by
  intro state final key value text next start rest behind colon gap spells delimited read
  obtain ⟨record, seen⟩ := state
  unfold member at read
  split at read
  · rename_i unknown
    obtain ⟨_, skipped, rfl⟩ := Step.map_eq_ok read
    rw [behindColon_read colon, skip_read gap spells delimited] at skipped
    obtain ⟨_, rfl⟩ := Prod.mk.inj (Except.ok.inj skipped)
    exact ⟨rfl, .unknown unknown⟩
  · rename_i slot found
    split at read
    · cases read
    · rename_i fresh
      obtain ⟨store, stored, rfl⟩ := Step.map_eq_ok read
      rw [behindColon_read colon] at stored
      have mem := List.mem_of_find?_eq_some found
      obtain ⟨same, given⟩ := (exact slot mem).read gap spells delimited stored
      exact ⟨same, .known found (by simpa using fresh) given⟩

theorem fromObject_read {members : List (List Char × Outline)} {record : α}
    (spells : Spells (.object members) ('\x7b' :: text) rest)
    (read : layout.fromObject text = .ok (record, behind)) :
    behind = rest ∧ (Outline.object members).IsRecord layout.keys ∧
      layout.Records (.object members) record := by
  unfold fromObject at read
  split at read
  · cases read
  · rename_i found seen between inside
    obtain ⟨rfl, known, folds⟩ := members_read (exactMember exact) spells inside
    have fills := fills_of_folds folds
    split at read
    · cases read
    · rename_i complete
      obtain ⟨rfl, rfl⟩ := Prod.mk.inj (Except.ok.inj read)
      refine ⟨rfl, .object known fun key mem => (fills.unrepeated key mem).1, seen, fills,
        fun slot mem required => ?_⟩
      simpa [required] using List.find?_eq_none.mp complete slot mem

end Objects

/-! ### Records that are written as lists -/

section Lists

/-- The items from an index on, of a list whose first items have been read. -/
def SpellsFrom (index : Nat) (items : List Outline) (text rest : List Char) : Prop :=
  if index = 0 then Spells (.list items) ('[' :: text) rest else SpellsItems items text rest

theorem turn_of_nil {index : Nat} (spells : SpellsFrom index [] text rest) :
    (if index = 0 then firstItem text else nextItem text) = .ok (.close rest) := by
  unfold SpellsFrom at spells
  split at spells
  · rename_i zero
    cases spells with
    | emptyList gap => rw [if_pos zero, gap.firstItem_close]
  · rename_i zero
    cases spells with
    | close gap => rw [if_neg zero, gap.nextItem_close]

theorem turn_of_cons {index : Nat} {item : Outline} {items : List Outline}
    (spells : SpellsFrom index (item :: items) text rest) :
    ∃ start between, (if index = 0 then firstItem text else nextItem text) = .ok (.enter start) ∧
      Spells item start between ∧ SpellsItems items between rest := by
  unfold SpellsFrom at spells
  split at spells
  · rename_i zero
    cases spells with
    | list gap first more => exact ⟨_, _, by rw [if_pos zero, gap.firstItem first], first, more⟩
  · rename_i zero
    cases spells with
    | next comma gap first more =>
        exact ⟨_, _, by rw [if_neg zero, comma.nextItem gap first], first, more⟩

theorem closeItems_ok {record final : α} (read : closeItems record text = .ok (final, rest)) :
    skipBlanks text = ']' :: rest ∧ final = record := by
  unfold closeItems at read
  split at read
  · cases read
  · split at read
    · rename_i c tail start close
      obtain ⟨rfl, rfl⟩ := Prod.mk.inj (Except.ok.inj read)
      exact ⟨by rw [start, close], rfl⟩
    · split at read
      · split at read <;> cases read
      · cases read

theorem closeItems_read {items : List Outline} {index : Nat} {record final : α}
    (spells : SpellsFrom index items text rest)
    (read : closeItems record text = .ok (final, behind)) :
    behind = rest ∧ items = [] ∧ final = record := by
  obtain ⟨close, rfl⟩ := closeItems_ok read
  cases items with
  | nil =>
      have turn := turn_of_nil spells
      simp [firstItem, nextItem, close] at turn
      exact ⟨turn, rfl, rfl⟩
  | cons item items =>
      obtain ⟨start, between, turn, _⟩ := turn_of_cons spells
      simp [firstItem, nextItem, close] at turn

/-- The keys of the fields behind the first one are still fresh when that one was seen. -/
theorem fresh_next {slot : Slot α} {more : List (Slot α)} {seen : List String}
    (unused : slot.key ∉ more.map (·.key)) (fresh : ∀ other ∈ slot :: more, other.key ∉ seen) :
    ∀ other ∈ more, other.key ∉ slot.key :: seen := by
  intro other mem inside
  rcases List.mem_cons.mp inside with same | inside
  · exact unused (List.mem_map.mpr ⟨other, mem, same⟩)
  · exact fresh other (List.mem_cons_of_mem _ mem) inside

theorem fromItems_read {expected : String} {slots : List (Slot α)}
    (exact : ∀ slot ∈ slots, slot.value.Exact) (nodup : (slots.map (·.key)).Nodup)
    (found : ∀ slot ∈ slots, layout.slots.find? (·.key == slot.key) = some slot)
    {index : Nat} {items : List Outline} {record final : α} {seen : List String}
    (fresh : ∀ slot ∈ slots, slot.key ∉ seen) (spells : SpellsFrom index items text rest)
    (read : fromItems expected record index slots text = .ok (final, behind)) :
    behind = rest ∧ items.length ≤ slots.length ∧ ∃ all,
      layout.Fills (record, seen) ((slots.map (·.key)).zip items) (final, all) ∧
      (∀ key ∈ seen, key ∈ all) ∧ ∀ slot ∈ slots, slot.required = true → slot.key ∈ all := by
  -- Slot by slot: the keys of the slots that are left have not been seen yet.
  induction slots generalizing index items record seen text with
  | nil =>
      obtain ⟨rfl, rfl, rfl⟩ := closeItems_read spells read
      exact ⟨rfl, Nat.le_refl _, seen, .nil, fun _ mem => mem, by simp⟩
  | cons slot more ih =>
      rw [fromItems] at read
      cases items with
      | nil =>
          simp only [turn_of_nil spells] at read
          split at read
          · cases read
          · rename_i complete
            obtain ⟨rfl, rfl⟩ := Prod.mk.inj (Except.ok.inj read)
            refine ⟨rfl, Nat.zero_le _, seen, .nil, fun _ mem => mem, fun other mem required => ?_⟩
            have optional := List.findIdx?_eq_none_iff.mp complete other mem
            rw [required] at optional
            cases optional
      | cons item items =>
          obtain ⟨start, between, turn, first, others⟩ := turn_of_cons spells
          simp only [turn] at read
          split at read
          · cases read
          · rename_i store behindItem one
            obtain ⟨rfl, given⟩ := (exact slot (List.mem_cons_self ..)).read .none first
              others.delimited one
            obtain ⟨unused, nodup⟩ := List.nodup_cons.mp nodup
            obtain ⟨same, shorter, all, fills, kept, required⟩ := ih
              (fun other mem => exact other (List.mem_cons_of_mem _ mem)) nodup
              (fun other mem => found other (List.mem_cons_of_mem _ mem)) (fresh_next unused fresh)
              (by simpa [SpellsFrom] using others) read
            have takes : layout.Takes slot.key item (record, seen)
                (store record, slot.key :: seen) :=
              .known (found slot (List.mem_cons_self ..)) (fresh slot (List.mem_cons_self ..)) given
            refine ⟨same, Nat.succ_le_succ shorter, all, .cons takes fills, fun key mem => ?_,
              fun other mem => ?_⟩
            · exact kept key (List.mem_cons_of_mem _ mem)
            · rcases List.mem_cons.mp mem with rfl | mem
              · exact fun _ => kept _ (List.mem_cons_self ..)
              · exact required other mem

end Lists

/-! ### Records in either form -/

/-- All fields are read exactly, and no two of them have the same key. -/
structure Regular (layout : Layout α) : Prop where
  exact : ∀ slot ∈ layout.slots, slot.value.Exact
  nodup : layout.keys.Nodup

theorem Regular.find?_eq (regular : layout.Regular) {slot : Slot α} (mem : slot ∈ layout.slots) :
    layout.slots.find? (·.key == slot.key) = some slot := by
  have nodup := regular.nodup
  rw [keys] at nodup
  generalize layout.slots = slots at mem nodup
  induction slots with
  | nil => cases mem
  | cons first more ih =>
      obtain ⟨unused, nodup⟩ := List.nodup_cons.mp nodup
      rcases List.mem_cons.mp mem with rfl | mem
      · simp
      · have other : first.key ≠ slot.key := by
          intro same
          exact unused (List.mem_map.mpr ⟨slot, mem, same.symm⟩)
        simp only [List.find?_cons, beq_eq_false_iff_ne.mpr other]
        exact ih mem nodup

theorem Regular.read (regular : layout.Regular) {outline : Outline} {record : α}
    (spells : Spells outline text rest)
    (read : layout.reader.read text = .ok (record, behind)) :
    behind = rest ∧ outline.IsRecord layout.keys ∧ layout.Records outline record := by
  have found := spells.skipBlanks_eq
  cases outline with
  | scalar chars =>
      cases spells with
      | scalar scalar =>
          obtain ⟨c, more, rfl, starts⟩ := scalar.exists_cons
          obtain ⟨_, _, bracket, brace, _⟩ := starts.solid
          rw [List.cons_append] at found
          simp [reader, found, bracket, brace] at read
  | text raw =>
      cases spells with
      | text _ => simp [reader, found] at read
  | list items =>
      obtain ⟨inside, rfl⟩ := spells.list_cons
      have from_ : SpellsFrom 0 items inside rest := by simpa [SpellsFrom] using spells
      simp only [reader, found, show ('[' : Char) ≠ '\x7b' by decide, if_false, if_true] at read
      obtain ⟨same, short, all, fills, _, required⟩ := fromItems_read regular.exact regular.nodup
        (fun slot mem => regular.find?_eq mem) (fun slot _ => List.not_mem_nil) from_ read
      exact ⟨same, .list (by rwa [keys, List.length_map]), all, fills, required⟩
  | object members =>
      obtain ⟨inside, rfl⟩ := spells.object_cons
      simp only [reader, found, if_true] at read
      exact fromObject_read regular.exact spells read

theorem Regular.exact_reader (regular : layout.Regular) : layout.reader.Exact where
  skips gap := by simp only [reader, gap.skipBlanks_eq]
  stops spells _ read := (regular.read spells read).1

/-! ### Fields of records -/

/-- A part of the records that is set by what is read under the key, and by nothing else. -/
structure Owns {β : Type} (layout : Layout α) (key : String) (required : Bool)
    (reader : Reader β) (get : α → β) : Prop where
  sets : ∃ slot, layout.slots.find? (·.key == key) = some slot ∧ slot.required = required ∧
    ∀ value store, slot.value.Gives value store →
      ∃ given, reader.Gives value given ∧ ∀ record, get (store record) = given
  keeps : ∀ slot ∈ layout.slots, slot.key ≠ key → ∀ value store, slot.value.Gives value store →
    ∀ record, get (store record) = get record

section Owns

variable {β : Type} {key : String} {required : Bool} {reader : Reader β} {get : α → β}
  {state final : α × List String} {value : Outline} {fields : Members Outline}

theorem Owns.takes (owns : layout.Owns key required reader get)
    (takes : layout.Takes key value state final) :
    key ∉ state.2 ∧ key ∈ final.2 ∧ reader.Gives value (get final.1) := by
  obtain ⟨slot, found, _, sets⟩ := owns.sets
  obtain ⟨fresh, store, stored, rfl⟩ := takes.of_slot found
  obtain ⟨given, gives, same⟩ := sets _ _ stored
  exact ⟨fresh, List.mem_cons_self .., by rw [same]; exact gives⟩

theorem Owns.takes_other (owns : layout.Owns key required reader get) {other : String}
    (different : other ≠ key) (takes : layout.Takes other value state final) :
    get final.1 = get state.1 ∧ (key ∈ final.2 ↔ key ∈ state.2) := by
  cases takes with
  | unknown _ => exact ⟨rfl, Iff.rfl⟩
  | @known slot store record seen found _ given =>
      have named : slot.key = other := by simpa using List.find?_some found
      constructor
      · exact owns.keeps slot (List.mem_of_find?_eq_some found) (named ▸ different) _ _ given record
      · simp [different.symm]

/-- Once it is set, the part stays as it is. -/
theorem Owns.fills_seen (owns : layout.Owns key required reader get)
    (fills : layout.Fills state fields final) (seen : key ∈ state.2) :
    get final.1 = get state.1 := by
  induction fills with
  | nil => rfl
  | @cons _ between _ other _ _ takes _ ih =>
      by_cases same : other = key
      · subst same
        exact absurd seen (owns.takes takes).1
      · obtain ⟨kept, seen_iff⟩ := owns.takes_other same takes
        rw [ih (seen_iff.mpr seen), kept]

/-- The first value under the key becomes the part; without one it is left as it was. -/
theorem Owns.fills (owns : layout.Owns key required reader get)
    (fills : layout.Fills state fields final) (fresh : key ∉ state.2) :
    (∀ value, Members.get? key fields = some value → reader.Gives value (get final.1)) ∧
      (Members.get? key fields = none → get final.1 = get state.1 ∧ key ∉ final.2) := by
  induction fills with
  | nil =>
      constructor
      · intro value found
        cases found
      · intro _
        exact ⟨rfl, fresh⟩
  | @cons _ between _ other value fields takes more ih =>
      by_cases same : other = key
      · subst same
        obtain ⟨_, seen, given⟩ := owns.takes takes
        rw [← owns.fills_seen more seen] at given
        constructor
        · intro found first
          simp only [Members.get?, if_true, Option.some.injEq] at first
          exact first ▸ given
        · intro missing
          simp [Members.get?] at missing
      · obtain ⟨kept, seen_iff⟩ := owns.takes_other same takes
        simp only [Members.get?, same, if_false]
        rw [← kept]
        exact ih (fun seen => fresh (seen_iff.mp seen))

/-- The part of a record is what is given under its key. -/
theorem Owns.gives (owns : layout.Owns key required reader get) {outline : Outline} {record : α}
    (records : layout.Records outline record) (found : outline.part? layout.keys key = some value) :
    reader.Gives value (get record) := by
  obtain ⟨seen, fills, _⟩ := records
  exact (owns.fills fills List.not_mem_nil).1 value found

/-- If a required part is missing, there is no record. -/
theorem Owns.eq_blank (owns : layout.Owns key required reader get) {outline : Outline} {record : α}
    (records : layout.Records outline record) (missing : outline.part? layout.keys key = none) :
    required = false ∧ get record = get layout.blank := by
  obtain ⟨seen, fills, complete⟩ := records
  obtain ⟨slot, found, rfl, _⟩ := owns.sets
  obtain ⟨same, unseen⟩ := (owns.fills fills List.not_mem_nil).2 missing
  have named : slot.key = key := by simpa using List.find?_some found
  refine ⟨?_, same⟩
  by_contra required
  have mem := complete slot (List.mem_of_find?_eq_some found) (by simpa using required)
  exact unseen (named ▸ mem)

end Owns

/-! ### Records with one field or two -/

section Few

variable {β γ : Type} {name key other : String} {blank : α} {required otherRequired : Bool}
  {reader : Reader β} {otherReader : Reader γ} {store : β → α → α} {otherStore : γ → α → α}
  {get : α → β} {otherGet : α → γ}

theorem regular_one (exact : reader.Exact) :
    Regular ⟨name, blank, [⟨key, required, reader.map store⟩]⟩ where
  exact := by
    intro slot mem
    obtain rfl := List.mem_singleton.mp mem
    exact exact.map store
  nodup := List.nodup_singleton key

theorem regular_two (exact : reader.Exact) (otherExact : otherReader.Exact)
    (different : key ≠ other) :
    Regular ⟨name, blank, [⟨key, required, reader.map store⟩,
      ⟨other, otherRequired, otherReader.map otherStore⟩]⟩ where
  exact := by
    intro slot mem
    rcases List.mem_pair.mp mem with rfl | rfl
    · exact exact.map store
    · exact otherExact.map otherStore
  nodup := by simpa [keys] using different

theorem owns_one (sets : ∀ given record, get (store given record) = given) :
    Owns ⟨name, blank, [⟨key, required, reader.map store⟩]⟩ key required reader get where
  sets := by
    refine ⟨⟨key, required, reader.map store⟩, by simp, rfl, fun value stored gives => ?_⟩
    obtain ⟨given, found, rfl⟩ := Reader.gives_map_iff.mp gives
    exact ⟨given, found, sets given⟩
  keeps := by
    intro slot mem different
    obtain rfl := List.mem_singleton.mp mem
    exact absurd rfl different

theorem owns_first (sets : ∀ given record, get (store given record) = given)
    (keeps : ∀ given record, get (otherStore given record) = get record) :
    Owns ⟨name, blank, [⟨key, required, reader.map store⟩,
      ⟨other, otherRequired, otherReader.map otherStore⟩]⟩ key required reader get where
  sets := by
    refine ⟨⟨key, required, reader.map store⟩, by simp, rfl, fun value stored gives => ?_⟩
    obtain ⟨given, found, rfl⟩ := Reader.gives_map_iff.mp gives
    exact ⟨given, found, sets given⟩
  keeps := by
    intro slot mem different value stored gives record
    rcases List.mem_pair.mp mem with rfl | rfl
    · exact absurd rfl different
    · obtain ⟨given, _, rfl⟩ := Reader.gives_map_iff.mp gives
      exact keeps given record

theorem owns_second (different : key ≠ other)
    (sets : ∀ given record, otherGet (otherStore given record) = given)
    (keeps : ∀ given record, otherGet (store given record) = otherGet record) :
    Owns ⟨name, blank, [⟨key, required, reader.map store⟩,
      ⟨other, otherRequired, otherReader.map otherStore⟩]⟩ other otherRequired otherReader
      otherGet where
  sets := by
    refine ⟨⟨other, otherRequired, otherReader.map otherStore⟩, by simp [different], rfl,
      fun value stored gives => ?_⟩
    obtain ⟨given, found, rfl⟩ := Reader.gives_map_iff.mp gives
    exact ⟨given, found, sets given⟩
  keeps := by
    intro slot mem unlike value stored gives record
    rcases List.mem_pair.mp mem with rfl | rfl
    · obtain ⟨given, _, rfl⟩ := Reader.gives_map_iff.mp gives
      exact keeps given record
    · exact absurd rfl unlike

end Few

end Layout

end DriverUplift.Json
