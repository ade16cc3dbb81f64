import DriverUplift.Proofs.Json.Printed
import DriverUplift.Proofs.Json.Value

/-!
# Places in documents

A place is the way to it from the top: into an item by its index, into a member by its
key.  A printed value has at every place what the value has there.
-/

namespace DriverUplift.Json

inductive Child where
  | item (index : Nat)
  | member (key : String)
  deriving DecidableEq, Repr

namespace Outline

/-- What is written directly inside, one step away; of equal keys the first counts. -/
def child? : Child → Outline → Option Outline
  | .item index, list items => items[index]?
  | .member key, object members => Members.get? key (named members)
  | _, _ => none

def at? : List Child → Outline → Option Outline
  | [], outline => some outline
  | child :: place, outline => (outline.child? child).bind (at? place)

/-- No object repeats a key, whatever escapes the keys are written with. -/
def Unrepeated (outline : Outline) : Prop :=
  ∀ place members, outline.at? place = some (object members) →
    (Members.keys (named members)).Nodup

theorem at?_cons {child : Child} {place : List Child} {outline part : Outline}
    (found : outline.child? child = some part) :
    outline.at? (child :: place) = part.at? place := by
  rw [at?, found, Option.bind_some]

theorem Unrepeated.child {outline part : Outline} (unrepeated : outline.Unrepeated)
    {child : Child} (found : outline.child? child = some part) : part.Unrepeated :=
  fun place members inside => unrepeated (child :: place) members (at?_cons found ▸ inside)

theorem unrepeated_scalar (chars : List Char) : (scalar chars).Unrepeated := by
  intro place members found
  cases place with
  | nil => cases found
  | cons child place => cases child <;> cases found

theorem unrepeated_list {items : List Outline} (all : ∀ item ∈ items, item.Unrepeated) :
    (list items).Unrepeated := by
  intro place members found
  match place with
  | [] => cases found
  | .member key :: place => cases found
  | .item index :: place =>
      obtain ⟨item, there, inside⟩ := Option.bind_eq_some_iff.mp found
      exact all item (List.mem_of_getElem? there) place members inside

theorem unrepeated_object {members : List (List Char × Outline)}
    (nodup : (Members.keys (named members)).Nodup)
    (all : ∀ field ∈ named members, field.2.Unrepeated) : (object members).Unrepeated := by
  intro place others found
  match place with
  | [] =>
      obtain rfl := Outline.object.inj (Option.some.inj found)
      exact nodup
  | .item index :: place => cases found
  | .member key :: place =>
      obtain ⟨value, there, inside⟩ := Option.bind_eq_some_iff.mp found
      exact all _ (Members.mem_of_get? there) place others inside

end Outline

def child? : Child → Json → Option Json
  | .item index, arr items => items[index]?
  | .member key, obj members => Members.get? key members
  | _, _ => none

def at? : List Child → Json → Option Json
  | [], json => some json
  | child :: place, json => (json.child? child).bind (at? place)

theorem child?_outline (child : Child) (json : Json) :
    json.outline.child? child = (json.child? child).map outline := by
  cases json with
  | arr items => cases child <;> simp [outline, Outline.child?, child?]
  | obj members =>
      cases child with
      | item index => rfl
      | member key =>
          simp only [outline, Outline.child?, child?, named_outlineMembers]
          exact Members.get?_map key outline members
  | _ => cases child <;> rfl

/-- A printed value has at every place what the value has there. -/
theorem at?_outline (place : List Child) (json : Json) :
    json.outline.at? place = (json.at? place).map outline := by
  induction place generalizing json with
  | nil => rfl
  | cons child place ih =>
      rw [Outline.at?, at?, child?_outline]
      cases json.child? child with
      | none => rfl
      | some inside => exact ih inside

/-! ## Rules -/

section Rules

variable {rule : Rule} {depth : Nat} {json inside : Json} {place : List Child}

theorem Obeys.child {step : Child} (obeys : Obeys rule depth json)
    (found : json.child? step = some inside) : Obeys rule (depth + 1) inside := by
  cases json with
  | arr items =>
      cases step with
      | item index => exact obeys.item (List.mem_of_getElem? found)
      | member key => cases found
  | obj members =>
      cases step with
      | item index => cases found
      | member key => exact obeys.get? found
  | _ => cases step <;> cases found

/-- What is at a place obeys a rule of the whole. -/
theorem Obeys.exists_at (obeys : Obeys rule depth json) (found : json.at? place = some inside) :
    ∃ deeper, Obeys rule deeper inside := by
  induction place generalizing json depth with
  | nil => exact ⟨depth, Option.some.inj found ▸ obeys⟩
  | cons step place ih =>
      obtain ⟨between, first, rest⟩ := Option.bind_eq_some_iff.mp found
      exact ih (obeys.child first) rest

/-- A value with distinct keys is printed without repeating one. -/
theorem unrepeated_outline (distinct : Obeys distinctKeys depth json) :
    json.outline.Unrepeated := by
  intro place members found
  rw [at?_outline] at found
  obtain ⟨inside, there, printed⟩ := Option.map_eq_some_iff.mp found
  obtain ⟨_, obeys⟩ := distinct.exists_at there
  cases inside with
  | obj fields =>
      obtain rfl := Outline.object.inj printed
      rw [named_outlineMembers, Members.keys_map]
      exact obeys.here
  | _ => cases printed

end Rules

/-! ## Reading -/

section Reading

variable {levels : Nat} {outline part : Outline} {json : Json} {child : Child}

theorem exists_getElem?_of_forall₂ {α β : Type} {related : α → β → Prop} {items : List α}
    {values : List β} (all : List.Forall₂ related items values) {index : Nat} {item : α}
    (found : items[index]? = some item) :
    ∃ value, values[index]? = some value ∧ related item value := by
  induction all generalizing index with
  | nil => cases found
  | cons first _ ih =>
      cases index with
      | zero =>
          obtain rfl := Option.some.inj found
          exact ⟨_, rfl, first⟩
      | succ index => exact ih found

section Fields

variable {related : Outline → Json → Prop} {fields : Members Outline} {values : Members Json}
  (all : List.Forall₂ (fun field value => field.1 = value.1 ∧ related field.2 value.2)
    fields values)

include all

theorem keys_eq_of_forall₂ : Members.keys fields = Members.keys values := by
  induction all with
  | nil => rfl
  | cons first _ ih =>
      rw [Members.keys, Members.keys] at ih ⊢
      rw [List.map_cons, List.map_cons, first.1, ih]

theorem exists_get?_of_forall₂ {key : String} (found : Members.get? key fields = some outline) :
    ∃ value, Members.get? key values = some value ∧ related outline value := by
  induction all with
  | nil => cases found
  | @cons field value _ _ first _ ih =>
      obtain ⟨k, inside⟩ := field
      obtain ⟨k, json⟩ := value
      obtain ⟨rfl, given⟩ := first
      by_cases same : k = key
      · subst same
        simp only [Members.get?, if_true, Option.some.injEq] at found ⊢
        exact ⟨json, rfl, found ▸ given⟩
      · simp only [Members.get?, same, if_false] at found ⊢
        exact ih found

end Fields

theorem exists_value_of_inner {reader : Reader Json} (inner : innerReader? levels = some reader) :
    ∃ fewer, reader = value fewer := by
  cases levels with
  | zero => cases inner
  | succ levels => exact ⟨levels, (Option.some.inj inner).symm⟩

/-- What is written directly inside is read to the value that is directly inside. -/
theorem exists_child_of_gives (unrepeated : outline.Unrepeated)
    (given : (value levels).Gives outline json) (found : outline.child? child = some part) :
    ∃ fewer inside, json.child? child = some inside ∧ (value fewer).Gives part inside := by
  cases readAs_of_gives given with
  | scalar _ _ | text _ => cases child <;> cases found
  | list inner all =>
      obtain ⟨fewer, rfl⟩ := exists_value_of_inner inner
      cases child with
      | member key => cases found
      | item index => exact ⟨fewer, exists_getElem?_of_forall₂ all found⟩
  | @object _ members values inner all =>
      obtain ⟨fewer, rfl⟩ := exists_value_of_inner inner
      cases child with
      | item index => cases found
      | member key =>
          have nodup : (Members.keys values).Nodup :=
            keys_eq_of_forall₂ all ▸ unrepeated [] members rfl
          have whole : Members.putAll [] values = values := Members.putAll_eq_append nodup
          rw [whole]
          exact ⟨fewer, exists_get?_of_forall₂ all found⟩

/-- What is written at a place is read to the value at that place. -/
theorem exists_at_of_gives {place : List Child} (unrepeated : outline.Unrepeated)
    (given : (value levels).Gives outline json) (found : outline.at? place = some part) :
    ∃ fewer inside, json.at? place = some inside ∧ (value fewer).Gives part inside := by
  induction place generalizing levels outline json with
  | nil =>
      obtain rfl := Option.some.inj found
      exact ⟨levels, json, rfl, given⟩
  | cons child place ih =>
      rw [Outline.at?] at found
      obtain ⟨between, first, rest⟩ := Option.bind_eq_some_iff.mp found
      obtain ⟨fewer, inside, step, given⟩ := exists_child_of_gives unrepeated given first
      rw [at?, step, Option.bind_some]
      exact ih (unrepeated.child first) given rest

end Reading

end DriverUplift.Json
