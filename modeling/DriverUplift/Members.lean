/-!
# Members of an object

An object is a list of keys with values, each key at most once, in the order
in which the keys were first written.  `put` replaces a value where it stands
and appends a new key at the end.
-/

namespace DriverUplift

abbrev Members (α : Type) := List (String × α)

namespace Members

variable {α : Type}

def keys (members : Members α) : List String :=
  members.map (·.1)

def get? (key : String) : Members α → Option α
  | [] => none
  | (k, value) :: rest => if k = key then some value else get? key rest

def has (key : String) (members : Members α) : Bool :=
  (get? key members).isSome

/-- Give a key a value: in place if it is there already, else at the end. -/
def put (key : String) (value : α) : Members α → Members α
  | [] => [(key, value)]
  | (k, old) :: rest =>
      if k = key then (k, value) :: rest else (k, old) :: put key value rest

def putAll (members added : Members α) : Members α :=
  added.foldl (fun all member => put member.1 member.2 all) members

@[simp]
theorem get?_nil (key : String) : get? key ([] : Members α) = none := rfl

theorem get?_put (key other : String) (value : α) (members : Members α) :
    get? other (put key value members) =
      if other = key then some value else get? other members := by
  induction members with
  | nil =>
      by_cases h : other = key
      · simp [put, get?, h]
      · simp [put, get?, h, Ne.symm h]
  | cons member rest ih =>
      obtain ⟨k, old⟩ := member
      by_cases hk : k = key
      · by_cases ho : other = key
        · simp [put, get?, hk, ho]
        · simp [put, get?, hk, ho, Ne.symm ho]
      · by_cases ho : k = other
        · subst ho
          simp [put, get?, hk]
        · simp [put, get?, hk, ho, ih]

/-- A key that is there keeps its place, and a new one goes last. -/
theorem keys_put (key : String) (value : α) (members : Members α) :
    keys (put key value members) =
      if key ∈ keys members then keys members else keys members ++ [key] := by
  induction members with
  | nil => simp [put, keys]
  | cons member rest ih =>
      obtain ⟨k, old⟩ := member
      by_cases hk : k = key
      · simp [put, keys, hk]
      · have hne : key ≠ k := fun h => hk h.symm
        simp only [put, hk, if_false, keys, List.map_cons, List.mem_cons, hne, false_or] at ih ⊢
        rw [ih]
        by_cases mem : key ∈ rest.map (·.1) <;> simp [mem]

end Members

end DriverUplift
