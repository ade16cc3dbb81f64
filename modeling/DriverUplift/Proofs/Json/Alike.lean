import DriverUplift.Proofs.Json.Rule
import Mathlib.Data.List.Perm.Subperm
import Mathlib.Data.Option.Basic

/-!
# Equality up to the order of members

Objects with distinct keys are the same if every key has the same value in
both, so the order of members plays no part; and every document is the same as
itself.
-/

namespace DriverUplift.Json

theorem Number.same_refl (number : Number) : number.same number = true := by
  cases number <;> simp [Number.same, Binary64.same]

theorem sameItems_refl {items : List Json} (each : ∀ item ∈ items, same item item = true) :
    sameItems items items = true := by
  induction items with
  | nil => rfl
  | cons item items ih =>
      simp only [sameItems, Bool.and_eq_true]
      exact ⟨each item (List.mem_cons_self ..),
        ih fun other mem => each other (List.mem_cons_of_mem _ mem)⟩

theorem sameMembers_iff {members others : Members Json} :
    sameMembers members others = true ↔
      ∀ member ∈ members, ∃ value, Members.get? member.1 others = some value ∧
        same member.2 value = true := by
  induction members with
  | nil => simp [sameMembers]
  | cons member members ih =>
      obtain ⟨key, value⟩ := member
      rw [sameMembers, Bool.and_eq_true, ih, List.forall_mem_cons]
      refine and_congr_left fun _ => ?_
      cases found : Members.get? key others with
      | none => simp
      | some other => simp

/-- The values under a key in two objects are the same, or both are missing. -/
abbrev Agree (found other : Option Json) : Prop :=
  Option.Rel (fun value other => same value other = true) found other

theorem Agree.isSome_eq {found other : Option Json} (agree : Agree found other) :
    found.isSome = other.isSome := by
  cases agree <;> rfl

theorem Agree.exists_same {value : Json} {other : Option Json} (agree : Agree (some value) other) :
    ∃ found, other = some found ∧ same value found = true := by
  cases agree with
  | some same => exact ⟨_, rfl, same⟩

theorem same_obj {members others : Members Json} (nodup : (Members.keys members).Nodup)
    (nodupOthers : (Members.keys others).Nodup)
    (agree : ∀ key, Agree (Members.get? key members) (Members.get? key others)) :
    same (.obj members) (.obj others) = true := by
  have keysAgree : ∀ key, key ∈ Members.keys members ↔ key ∈ Members.keys others := by
    intro key
    rw [← Members.get?_isSome_iff, ← Members.get?_isSome_iff, (agree key).isSome_eq]
  have length : members.length = others.length := by
    simpa [Members.keys] using
      ((List.perm_ext_iff_of_nodup nodup nodupOthers).mpr keysAgree).length_eq
  have values : sameMembers members others = true := by
    refine sameMembers_iff.mpr fun member mem => ?_
    have found := Members.get?_of_mem nodup (show (member.1, member.2) ∈ members from mem)
    exact (found ▸ agree member.1).exists_same
  simp [same, length, values]

/-- An object with distinct keys is the same as another one only if both have the same keys. -/
theorem perm_keys_of_sameObject {members others : Members Json}
    (nodup : (Members.keys members).Nodup) (same : sameObject members others = true) :
    (Members.keys members).Perm (Members.keys others) := by
  rw [sameObject, Json.same, Bool.and_eq_true, beq_iff_eq] at same
  obtain ⟨length, values⟩ := same
  have inside : Members.keys members ⊆ Members.keys others := by
    intro key mem
    obtain ⟨member, memberMem, rfl⟩ := List.mem_map.mp mem
    obtain ⟨value, found, _⟩ := sameMembers_iff.mp values member memberMem
    rw [← Members.get?_isSome_iff, found]
    rfl
  apply (List.subperm_of_subset nodup inside).perm_of_length_le
  simp [Members.keys, length]

/-- A document with distinct keys is the same as itself. -/
theorem same_refl {json : Json} {depth : Nat} (obeys : Obeys distinctKeys depth json) :
    same json json = true := by
  induction obeys with
  | @intro depth json here _ ih =>
      cases json with
      | null => rfl
      | bool value => simp [same]
      | num value => exact value.same_refl
      | str value => simp [same]
      | arr items => exact sameItems_refl ih
      | obj members =>
          refine same_obj here here fun key => ?_
          cases found : Members.get? key members with
          | none => exact .none
          | some value =>
              exact .some (ih value (List.mem_map_of_mem (f := Prod.snd)
                (Members.mem_of_get? found)))

theorem agree_refl {found : Option Json} {depth : Nat}
    (obeys : ∀ value, found = some value → Obeys distinctKeys depth value) :
    Agree found found := by
  cases found with
  | none => exact .none
  | some value => exact .some (same_refl (obeys value rfl))

end DriverUplift.Json
