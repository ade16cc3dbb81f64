import DriverUplift.Members
import Mathlib.Data.List.Nodup

/-!
# Laws of objects

What `get?`, `put` and `putAll` do to one another.  Two lists of members with
the same look-ups may differ in their order only, and a list that is put behind
members with other keys is appended as it is.
-/

namespace DriverUplift.Members

variable {α : Type}

/-! ## Looking up -/

theorem get?_append (key : String) (front back : Members α) :
    get? key (front ++ back) = (get? key front).or (get? key back) := by
  induction front with
  | nil => simp
  | cons member front ih =>
      obtain ⟨k, value⟩ := member
      by_cases same : k = key
      · simp [get?, same]
      · simp [get?, same, ih]

theorem mem_of_get? {key : String} {value : α} {members : Members α}
    (found : get? key members = some value) : (key, value) ∈ members := by
  induction members with
  | nil => simp at found
  | cons member members ih =>
      obtain ⟨k, old⟩ := member
      by_cases same : k = key
      · simp only [get?, same, if_true, Option.some.injEq] at found
        simp [same, found]
      · simp only [get?, same, if_false] at found
        exact List.mem_cons_of_mem _ (ih found)

theorem get?_isSome_iff {key : String} {members : Members α} :
    (get? key members).isSome ↔ key ∈ keys members := by
  induction members with
  | nil => simp [keys]
  | cons member members ih =>
      obtain ⟨k, value⟩ := member
      by_cases same : k = key
      · simp [get?, keys, same]
      · have other : key ≠ k := fun h => same h.symm
        simpa [get?, keys, same, other] using ih

theorem get?_eq_none_iff {key : String} {members : Members α} :
    get? key members = none ↔ key ∉ keys members := by
  rw [← get?_isSome_iff, Bool.not_eq_true, Option.isSome_eq_false_iff, Option.isNone_iff_eq_none]

/-- If a key comes only once, a member under it is the one that is found. -/
theorem get?_of_mem_of_count {key : String} {value : α} {members : Members α}
    (once : (keys members).count key ≤ 1) (mem : (key, value) ∈ members) :
    get? key members = some value := by
  induction members with
  | nil => simp at mem
  | cons member members ih =>
      obtain ⟨k, old⟩ := member
      rcases List.mem_cons.mp mem with same | mem
      · simp only [Prod.mk.injEq] at same
        simp [get?, same.1, same.2]
      · have inside : key ∈ keys members := List.mem_map_of_mem (f := Prod.fst) mem
        have further := List.count_pos_iff.mpr inside
        rw [keys, List.map_cons, List.count_cons, ← keys] at once
        have other : k ≠ key := by
          rintro rfl
          simp only [beq_self_eq_true, if_true] at once
          omega
        simp only [get?, other, if_false]
        exact ih (by omega) mem

/-- Among distinct keys every member is the one that is found. -/
theorem get?_of_mem {key : String} {value : α} {members : Members α}
    (nodup : (keys members).Nodup) (mem : (key, value) ∈ members) :
    get? key members = some value :=
  get?_of_mem_of_count (List.nodup_iff_count_le_one.mp nodup key) mem

/-- Sorting members out by their key leaves the look-ups of the keys that are kept. -/
theorem get?_filter (keep : String → Bool) {key : String} (kept : keep key = true)
    (members : Members α) :
    get? key (members.filter fun member => keep member.1) = get? key members := by
  induction members with
  | nil => rfl
  | cons member members ih =>
      obtain ⟨k, value⟩ := member
      by_cases same : k = key
      · simp [get?, same, kept]
      · by_cases keptToo : keep k = true
        · simp [get?, same, keptToo, ih]
        · simp [get?, same, keptToo, ih]

theorem keys_map {β : Type} (f : α → β) (members : Members α) :
    keys (members.map fun member => (member.1, f member.2)) = keys members := by
  rw [keys, List.map_map]
  rfl

/-- A look-up finds the image of what it found before. -/
theorem get?_map {β : Type} (key : String) (f : α → β) (members : Members α) :
    get? key (members.map fun member => (member.1, f member.2)) = (get? key members).map f := by
  induction members with
  | nil => rfl
  | cons member members ih =>
      obtain ⟨k, value⟩ := member
      by_cases same : k = key
      · simp [get?, same]
      · simp [get?, same, ih]

/-! ## Putting -/

/-- Putting what is there already changes nothing. -/
theorem put_eq_self {key : String} {value : α} {members : Members α}
    (found : get? key members = some value) : put key value members = members := by
  induction members with
  | nil => simp at found
  | cons member members ih =>
      obtain ⟨k, old⟩ := member
      by_cases same : k = key
      · simp only [get?, same, if_true, Option.some.injEq] at found
        simp [put, same, found]
      · simp only [get?, same, if_false] at found
        simp [put, same, ih found]

/-- The later of two values for one key stays. -/
theorem put_put (key : String) (first second : α) (members : Members α) :
    put key second (put key first members) = put key second members := by
  induction members with
  | nil => simp [put]
  | cons member members ih =>
      obtain ⟨k, old⟩ := member
      by_cases same : k = key
      · simp [put, same]
      · simp [put, same, ih]

/-- Values for two keys that are both there may be put in either order. -/
theorem put_comm {one other : String} (first second : α) {members : Members α}
    (distinct : one ≠ other) (hasOne : one ∈ keys members) (hasOther : other ∈ keys members) :
    put one first (put other second members) = put other second (put one first members) := by
  induction members with
  | nil => simp [keys] at hasOne
  | cons member members ih =>
      obtain ⟨k, old⟩ := member
      by_cases isOne : k = one
      · subst isOne
        simp [put, distinct]
      · by_cases isOther : k = other
        · subst isOther
          simp [put, isOne]
        · have deepOne : one ∈ keys members := by
            simpa [keys, Ne.symm isOne] using hasOne
          have deepOther : other ∈ keys members := by
            simpa [keys, Ne.symm isOther] using hasOther
          simp [put, isOne, isOther, ih deepOne deepOther]

theorem put_of_not_mem {key : String} {value : α} {members : Members α}
    (fresh : key ∉ keys members) : put key value members = members ++ [(key, value)] := by
  induction members with
  | nil => rfl
  | cons member members ih =>
      obtain ⟨k, old⟩ := member
      simp only [keys, List.map_cons, List.mem_cons, not_or] at fresh
      simp [put, Ne.symm fresh.1, ih fresh.2]

theorem mem_of_mem_put {key : String} {value : α} {members : Members α} {member : String × α}
    (mem : member ∈ put key value members) : member = (key, value) ∨ member ∈ members := by
  induction members with
  | nil => exact .inl (by simpa [put] using mem)
  | cons first members ih =>
      obtain ⟨k, old⟩ := first
      by_cases same : k = key
      · simp only [put, same, if_true, List.mem_cons] at mem
        rcases mem with mem | mem
        · exact .inl mem
        · exact .inr (List.mem_cons_of_mem _ mem)
      · simp only [put, same, if_false, List.mem_cons] at mem
        rcases mem with mem | mem
        · exact .inr (by simp [mem])
        · exact (ih mem).imp id (List.mem_cons_of_mem _)

theorem keys_put_of_mem {key : String} {value : α} {members : Members α}
    (mem : key ∈ keys members) : keys (put key value members) = keys members := by
  rw [keys_put, if_pos mem]

theorem nodup_keys_put {key : String} {value : α} {members : Members α}
    (nodup : (keys members).Nodup) : (keys (put key value members)).Nodup := by
  rw [keys_put]
  split
  · exact nodup
  · rename_i fresh
    exact List.nodup_append.mpr ⟨nodup, by simp, by
      intro k mem k' mem' same
      rw [List.mem_singleton.mp mem'] at same
      exact fresh (same ▸ mem)⟩

/-- Sorting out the key that is put undoes the putting. -/
theorem filter_put (keep : String → Bool) {key : String} {value : α} (members : Members α)
    (dropped : keep key = false) :
    (put key value members).filter (fun member => keep member.1) =
      members.filter fun member => keep member.1 := by
  induction members with
  | nil => simp [put, dropped]
  | cons member members ih =>
      obtain ⟨k, old⟩ := member
      by_cases same : k = key
      · simp [put, same, dropped]
      · simp [put, same, List.filter_cons, ih]

/-! ## Putting a list -/

theorem putAll_cons (members : Members α) (member : String × α) (added : Members α) :
    putAll members (member :: added) = putAll (put member.1 member.2 members) added := rfl

/-- Members with new, distinct keys are appended. -/
theorem putAll_eq_append {members added : Members α}
    (nodup : (keys (members ++ added)).Nodup) : putAll members added = members ++ added := by
  induction added generalizing members with
  | nil => simp [putAll]
  | cons member added ih =>
      have fresh : member.1 ∉ keys members := by
        have disjoint := (List.nodup_append.mp (by simpa [keys] using nodup)).2.2
        intro mem
        exact disjoint _ mem _ (List.mem_cons_self ..) rfl
      rw [putAll_cons, put_of_not_mem fresh, ih (by simpa [keys] using nodup)]
      simp

theorem nodup_keys_putAll {members : Members α} (added : Members α)
    (nodup : (keys members).Nodup) : (keys (putAll members added)).Nodup := by
  induction added generalizing members with
  | nil => simpa [putAll] using nodup
  | cons member added ih => exact ih (nodup_keys_put nodup)

theorem mem_of_mem_putAll {members added : Members α} {member : String × α}
    (mem : member ∈ putAll members added) : member ∈ members ∨ member ∈ added := by
  induction added generalizing members with
  | nil => exact .inl (by simpa [putAll] using mem)
  | cons first added ih =>
      rcases ih mem with mem | mem
      · rcases mem_of_mem_put mem with rfl | mem
        · exact .inr (List.mem_cons_self ..)
        · exact .inl mem
      · exact .inr (List.mem_cons_of_mem _ mem)

/-- What was put wins, and among distinct keys each has only one value that is put. -/
theorem get?_putAll {key : String} {members added : Members α} (nodup : (keys added).Nodup) :
    get? key (putAll members added) = (get? key added).or (get? key members) := by
  induction added generalizing members with
  | nil => simp [putAll]
  | cons member added ih =>
      obtain ⟨k, value⟩ := member
      obtain ⟨fresh, nodup⟩ := List.nodup_cons.mp nodup
      rw [putAll_cons, ih nodup, get?_put]
      by_cases same : k = key
      · subst same
        have absent : get? k added = none := get?_eq_none_iff.mpr fresh
        simp [get?, absent]
      · simp [get?, same, Ne.symm same]

/-- Keys that are there keep their places, and the new ones follow in their order. -/
theorem keys_putAll {members added : Members α} (nodup : (keys added).Nodup) :
    keys (putAll members added) =
      keys members ++ (keys added).filter fun key => key ∉ keys members := by
  induction added generalizing members with
  | nil => simp [putAll, keys]
  | cons member added ih =>
      obtain ⟨k, value⟩ := member
      obtain ⟨fresh, nodup⟩ := List.nodup_cons.mp nodup
      have first : keys ((k, value) :: added) = k :: keys added := rfl
      rw [putAll_cons, ih nodup, keys_put, first]
      by_cases known : k ∈ keys members
      · rw [if_pos known, List.filter_cons_of_neg (by simpa using known)]
      · have others : ((keys added).filter fun key => key ∉ keys members ++ [k]) =
            (keys added).filter fun key => key ∉ keys members := by
          refine List.filter_congr fun key mem => ?_
          have distinct : key ≠ k := by
            rintro rfl
            exact fresh mem
          simp [distinct]
        rw [if_neg known, others, List.filter_cons_of_pos (by simpa using known),
          List.append_assoc, List.singleton_append]

/-! ## Members with keys from a table -/

/-- The values of those indices that have one, under the keys of the indices. -/
def table {ι : Type} (key : ι → String) (value : ι → Option α) (indices : List ι) : Members α :=
  indices.filterMap fun i => (value i).map (key i, ·)

section Table

variable {ι : Type} {key : ι → String} {value : ι → Option α} {indices : List ι}

theorem mem_table {member : String × α} (mem : member ∈ table key value indices) :
    ∃ i, key i = member.1 ∧ value i = some member.2 := by
  obtain ⟨i, _, written⟩ := List.mem_filterMap.mp mem
  obtain ⟨found, has, rfl⟩ := Option.map_eq_some_iff.mp written
  exact ⟨i, rfl, has⟩

theorem keys_table (key : ι → String) (value : ι → Option α) (indices : List ι) :
    keys (table key value indices) = (indices.filter fun i => (value i).isSome).map key := by
  induction indices with
  | nil => rfl
  | cons i indices ih =>
      rw [table] at ih ⊢
      cases found : value i with
      | none => simpa [found] using ih
      | some v => simpa [found, keys] using ih

theorem get?_table [DecidableEq ι] (injective : Function.Injective key) (i : ι) :
    get? (key i) (table key value indices) = if i ∈ indices then value i else none := by
  induction indices with
  | nil => rfl
  | cons j indices ih =>
      rw [table] at ih ⊢
      by_cases same : i = j
      · subst same
        cases found : value i with
        | none =>
            simp only [List.filterMap_cons, found, Option.map_none, ih]
            simp
        | some v => simp [found, get?]
      · have other : key j ≠ key i := fun h => same (injective h).symm
        cases found : value j with
        | none => simp [found, ih, same]
        | some v => simp [found, get?, other, ih, same]

theorem nodup_keys_table [DecidableEq ι] (injective : Function.Injective key)
    (nodup : indices.Nodup) : (keys (table key value indices)).Nodup := by
  induction indices with
  | nil => simp [table, keys]
  | cons j indices ih =>
      obtain ⟨fresh, nodup⟩ := List.nodup_cons.mp nodup
      have inner := ih nodup
      have absent : key j ∉ keys (table key value indices) := by
        rw [← get?_eq_none_iff, get?_table injective, if_neg fresh]
      rw [table] at inner absent ⊢
      cases found : value j with
      | none => simpa [found] using inner
      | some v => simpa [found, keys] using List.nodup_cons.mpr ⟨absent, inner⟩

end Table

/-! ## Managed keys -/

/-- The managed keys are the keys of some indices, all of which are listed once. -/
structure Keyed {ι : Type} (key : ι → String) (managed : String → Bool) (indices : List ι) :
    Prop where
  injective : Function.Injective key
  nodup : indices.Nodup
  complete : ∀ i, i ∈ indices
  managed_iff : ∀ {k : String}, managed k = true ↔ ∃ i, key i = k

/-- A key is managed if it is the key of any of the indices. -/
theorem keyed_any {ι : Type} {key : ι → String} {indices : List ι}
    (injective : Function.Injective key) (nodup : indices.Nodup) (complete : ∀ i, i ∈ indices) :
    Keyed key (fun k => indices.any fun i => key i == k) indices where
  injective := injective
  nodup := nodup
  complete := complete
  managed_iff := by
    intro k
    constructor
    · intro managed
      obtain ⟨i, _, same⟩ := List.any_eq_true.mp managed
      exact ⟨i, beq_iff_eq.mp same⟩
    · rintro ⟨i, rfl⟩
      exact List.any_eq_true.mpr ⟨i, complete i, beq_iff_eq.mpr rfl⟩

/-! ## A table and what is carried along behind it -/

namespace Keyed

variable {ι : Type} {key : ι → String} {value : ι → Option α} {indices : List ι}
  {managed : String → Bool} {extra : Members α} (keyed : Keyed key managed indices)

include keyed

theorem managed_key (i : ι) : managed (key i) = true :=
  keyed.managed_iff.mpr ⟨i, rfl⟩

/-- Nothing has a managed key if none of the indices' keys is there. -/
theorem unmanaged_iff :
    (∀ member ∈ extra, managed member.1 = false) ↔ ∀ i, key i ∉ keys extra := by
  constructor
  · intro unmanaged i mem
    obtain ⟨member, mem, same⟩ := List.mem_map.mp mem
    have plain := unmanaged member mem
    rw [same, keyed.managed_key] at plain
    cases plain
  · intro absent member mem
    cases plain : managed member.1 with
    | false => rfl
    | true =>
        obtain ⟨i, same⟩ := keyed.managed_iff.mp plain
        exact absurd (List.mem_map_of_mem (f := Prod.fst) mem) (same ▸ absent i)

/-- What holds of all members without a managed key holds of all members if it does of the others. -/
theorem forall_mem_iff {holds : String × α → Prop}
    (plain : ∀ member, managed member.1 = false → holds member) :
    (∀ member ∈ extra, holds member) ↔ ∀ i v, (key i, v) ∈ extra → holds (key i, v) := by
  constructor
  · intro all i v mem
    exact all _ mem
  · rintro all ⟨k, v⟩ mem
    cases found : managed k with
    | true =>
        obtain ⟨i, rfl⟩ := keyed.managed_iff.mp found
        exact all i v mem
    | false => exact plain _ found

/-- No key of the table is looked for under a key that is not managed. -/
theorem get?_table_unmanaged {other : String} (unmanaged : managed other = false) :
    get? other (table key value indices) = none := by
  cases found : get? other (table key value indices) with
  | none => rfl
  | some v =>
      obtain ⟨i, rfl, _⟩ := mem_table (mem_of_get? found)
      rw [keyed.managed_key] at unmanaged
      cases unmanaged

variable [DecidableEq ι]

theorem nodup_keys_putAll_table (extra : Members α) :
    (keys (putAll (table key value indices) extra)).Nodup :=
  nodup_keys_putAll extra (nodup_keys_table keyed.injective keyed.nodup)

variable (nodup : (keys extra).Nodup) (unmanaged : ∀ member ∈ extra, managed member.1 = false)

include nodup unmanaged

theorem putAll_table :
    putAll (table key value indices) extra = table key value indices ++ extra := by
  refine putAll_eq_append ?_
  rw [keys, List.map_append]
  refine List.nodup_append.mpr ⟨nodup_keys_table keyed.injective keyed.nodup, nodup, ?_⟩
  rintro _ front other back rfl
  obtain ⟨first, firstMem, rfl⟩ := List.mem_map.mp front
  obtain ⟨second, secondMem, same⟩ := List.mem_map.mp back
  obtain ⟨i, isKey, _⟩ := mem_table firstMem
  have plain := unmanaged second secondMem
  rw [same, ← isKey, keyed.managed_key] at plain
  cases plain

theorem get?_putAll_table_key (i : ι) :
    get? (key i) (putAll (table key value indices) extra) = value i := by
  have absent : get? (key i) extra = none := by
    cases found : get? (key i) extra with
    | none => rfl
    | some v =>
        have plain := unmanaged _ (mem_of_get? found)
        rw [keyed.managed_key] at plain
        cases plain
  rw [keyed.putAll_table nodup unmanaged, get?_append, get?_table keyed.injective,
    if_pos (keyed.complete i), absent, Option.or_none]

theorem get?_putAll_table_unmanaged {other : String} (plain : managed other = false) :
    get? other (putAll (table key value indices) extra) = get? other extra := by
  rw [keyed.putAll_table nodup unmanaged, get?_append, keyed.get?_table_unmanaged plain,
    Option.none_or]

/-- What is carried along is what is left when the managed keys are sorted out. -/
theorem filter_putAll_table :
    (putAll (table key value indices) extra).filter (fun member => !managed member.1) = extra := by
  have front : (table key value indices).filter (fun member => !managed member.1) = [] := by
    refine List.filter_eq_nil_iff.mpr fun member mem => ?_
    obtain ⟨i, isKey, _⟩ := mem_table mem
    simp [← isKey, keyed.managed_key]
  have back : extra.filter (fun member => !managed member.1) = extra :=
    List.filter_eq_self.mpr fun member mem => by simp [unmanaged member mem]
  rw [keyed.putAll_table nodup unmanaged, List.filter_append, front, back, List.nil_append]

end Keyed

end DriverUplift.Members
