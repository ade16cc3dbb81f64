import DriverUplift.Json.Parser
import DriverUplift.Proofs.Members

/-!
# Rules for the values of a document

A rule says what is asked of a value, given how many containers are around it,
and a document obeys a rule if all of its values do.  Whatever the parser
accepts has distinct keys in every object and is nested no deeper than the
limit.
-/

namespace DriverUplift.Json

def children : Json → List Json
  | arr items => items
  | obj members => members.map (·.2)
  | _ => []

def isContainer : Json → Bool
  | arr _ => true
  | obj _ => true
  | _ => false

/-- What is asked of a value that has so many containers around it. -/
abbrev Rule := Nat → Json → Prop

inductive Obeys (rule : Rule) : Nat → Json → Prop where
  | intro {depth : Nat} {json : Json} (here : rule depth json)
      (inside : ∀ child ∈ json.children, Obeys rule (depth + 1) child) : Obeys rule depth json

namespace Obeys

variable {rule other : Rule} {depth : Nat} {json child : Json} {items : List Json}
  {members : Members Json} {key : String}

theorem here (obeys : Obeys rule depth json) : rule depth json := by
  cases obeys with
  | intro here _ => exact here

theorem inside (obeys : Obeys rule depth json) (mem : child ∈ json.children) :
    Obeys rule (depth + 1) child := by
  cases obeys with
  | intro _ inside => exact inside child mem

/-- Two rules can be obeyed at once. -/
theorem and (first : Obeys rule depth json) (second : Obeys other depth json) :
    Obeys (fun depth json => rule depth json ∧ other depth json) depth json := by
  induction first with
  | intro here _ ih =>
      exact .intro ⟨here, second.here⟩ fun child mem => ih child mem (second.inside mem)

theorem imp (implies : ∀ depth json, rule depth json → other depth json)
    (obeys : Obeys rule depth json) : Obeys other depth json := by
  induction obeys with
  | intro here _ ih => exact .intro (implies _ _ here) ih

theorem of_scalar (scalar : json.isContainer = false) (here : rule depth json) :
    Obeys rule depth json := by
  refine .intro here fun child mem => ?_
  cases json <;> simp_all [isContainer, children]

theorem item (obeys : Obeys rule depth (.arr items)) (mem : child ∈ items) :
    Obeys rule (depth + 1) child :=
  obeys.inside mem

theorem member (obeys : Obeys rule depth (.obj members)) (mem : (key, child) ∈ members) :
    Obeys rule (depth + 1) child :=
  obeys.inside (List.mem_map_of_mem (f := Prod.snd) mem)

/-- What is found under a key of an object obeys the rule. -/
theorem get? (obeys : Obeys rule depth (.obj members))
    (found : Members.get? key members = some child) : Obeys rule (depth + 1) child :=
  obeys.member (Members.mem_of_get? found)

end Obeys

theorem obeys_iff_of_scalar {rule : Rule} {depth : Nat} {json : Json}
    (scalar : json.isContainer = false) : Obeys rule depth json ↔ rule depth json :=
  ⟨Obeys.here, .of_scalar scalar⟩

theorem obeys_null_iff {rule : Rule} {depth : Nat} : Obeys rule depth .null ↔ rule depth .null :=
  obeys_iff_of_scalar rfl

theorem obeys_bool_iff {rule : Rule} {depth : Nat} {value : Bool} :
    Obeys rule depth (.bool value) ↔ rule depth (.bool value) :=
  obeys_iff_of_scalar rfl

theorem obeys_num_iff {rule : Rule} {depth : Nat} {value : Number} :
    Obeys rule depth (.num value) ↔ rule depth (.num value) :=
  obeys_iff_of_scalar rfl

theorem obeys_str_iff {rule : Rule} {depth : Nat} {value : String} :
    Obeys rule depth (.str value) ↔ rule depth (.str value) :=
  obeys_iff_of_scalar rfl

theorem obeys_arr_iff {rule : Rule} {depth : Nat} {items : List Json} :
    Obeys rule depth (.arr items) ↔
      rule depth (.arr items) ∧ ∀ item ∈ items, Obeys rule (depth + 1) item := by
  constructor
  · intro obeys
    exact ⟨obeys.here, fun item mem => obeys.item mem⟩
  · rintro ⟨here, inside⟩
    exact .intro here inside

theorem obeys_obj_iff {rule : Rule} {depth : Nat} {members : Members Json} :
    Obeys rule depth (.obj members) ↔
      rule depth (.obj members) ∧ ∀ member ∈ members, Obeys rule (depth + 1) member.2 := by
  constructor
  · intro obeys
    exact ⟨obeys.here, fun member mem => obeys.member mem⟩
  · rintro ⟨here, inside⟩
    refine .intro here fun child found => ?_
    obtain ⟨member, mem, rfl⟩ := List.mem_map.mp found
    exact inside member mem

/-! ## The rules -/

def distinctKeys : Rule := fun _ json =>
  match json with
  | obj members => (Members.keys members).Nodup
  | _ => True

def shallow (limit : Nat) : Rule := fun depth json =>
  json.isContainer = true → depth < limit

/-- An integer from `-2^63` on and below `2^64`, or the zero that is written `-0`. -/
def Number.IsWhole : Number → Prop
  | integer value => -9223372036854775808 ≤ value ∧ value < 18446744073709551616
  | real value => value = Binary64.zero true

def wholeNumbers : Rule := fun _ json =>
  match json with
  | num value => value.IsWhole
  | _ => True

/-- What the parser sees to. -/
def accepted : Rule := fun depth json =>
  distinctKeys depth json ∧ shallow depthLimit depth json

/-- What makes a text read back as the value that it was printed from. -/
def legible : Rule := fun depth json =>
  accepted depth json ∧ wholeNumbers depth json

/--
A rule that leaves nulls and texts alone, and asks no more of the members of an
object than to have distinct keys.
-/
structure Rule.Tolerant (rule : Rule) : Prop where
  null : ∀ depth, rule depth .null
  text : ∀ depth value, rule depth (.str value)
  object : ∀ {depth members other}, rule depth (.obj members) →
    ((Members.keys members).Nodup → (Members.keys other).Nodup) → rule depth (.obj other)

theorem tolerant_distinctKeys : Rule.Tolerant distinctKeys where
  null _ := trivial
  text _ _ := trivial
  object here keep := keep here

theorem tolerant_legible : Rule.Tolerant legible where
  null _ := ⟨⟨trivial, fun h => by simp [isContainer] at h⟩, trivial⟩
  text _ _ := ⟨⟨trivial, fun h => by simp [isContainer] at h⟩, trivial⟩
  object here keep := ⟨⟨keep here.1.1, here.1.2⟩, trivial⟩

section Tolerant

variable {rule : Rule} {depth : Nat} {members : Members Json}

theorem Obeys.null (tolerant : rule.Tolerant) : Obeys rule depth .null :=
  .of_scalar rfl (tolerant.null depth)

theorem Obeys.text (tolerant : rule.Tolerant) (value : String) : Obeys rule depth (.str value) :=
  .of_scalar rfl (tolerant.text depth value)

/-- A member can be put into an object that obeys a tolerant rule. -/
theorem Obeys.put {key : String} {value : Json} (tolerant : rule.Tolerant)
    (obeys : Obeys rule depth (.obj members)) (fits : Obeys rule (depth + 1) value) :
    Obeys rule depth (.obj (Members.put key value members)) := by
  refine obeys_obj_iff.mpr ⟨tolerant.object obeys.here Members.nodup_keys_put, ?_⟩
  intro member mem
  rcases Members.mem_of_mem_put mem with rfl | mem
  · exact fits
  · exact obeys.member mem

end Tolerant

/-! ## What the parser accepts -/

/-- The items of a list that is read are what the reader of an item gives. -/
theorem forall_of_moreItems {α : Type} {good : α → Prop} {item : Reader α}
    (one : ∀ {text value rest}, item.read text = .ok (value, rest) → good value)
    {text rest : List Char} {values : List α} (read : moreItems item text = .ok (values, rest)) :
    ∀ value ∈ values, good value := by
  fun_induction moreItems item text generalizing values rest with
  | case1 => simp at read
  | case2 =>
      simp only [Except.ok.injEq, Prod.mk.injEq] at read
      simp [← read.1]
  | case3 => simp at read
  | case4 text next turn value behind first ih =>
      obtain ⟨more, tail, rfl⟩ := Step.map_eq_ok read
      rintro v mem
      rcases List.mem_cons.mp mem with rfl | mem
      · exact one first
      · exact ih tail v mem

theorem forall_of_items {α : Type} {good : α → Prop} {item : Reader α}
    (one : ∀ {text value rest}, item.read text = .ok (value, rest) → good value)
    {text rest : List Char} {values : List α} (read : items item text = .ok (values, rest)) :
    ∀ value ∈ values, good value := by
  unfold items at read
  split at read
  · simp at read
  · simp only [Except.ok.injEq, Prod.mk.injEq] at read
    simp [← read.1]
  · split at read
    · simp at read
    · rename_i first
      obtain ⟨more, tail, rfl⟩ := Step.map_eq_ok read
      rintro v mem
      rcases List.mem_cons.mp mem with rfl | mem
      · exact one first
      · exact forall_of_moreItems one tail v mem

section Invariant

variable {σ : Type} {invariant : σ → Prop} {member : σ → String → Reader σ}

/-- What one member keeps, reading the key and then the value, the step keeps. -/
theorem invariant_memberStep
    (one : ∀ {state key text after rest}, invariant state →
      (member state key).read text = .ok (after, rest) → invariant after)
    {state after : σ} {text rest : List Char} (start : invariant state)
    (read : memberStep member state text = .ok (after, rest)) : invariant after := by
  unfold memberStep at read
  split at read
  · simp at read
  · exact one start read

/-- What one member keeps, the members up to the closing brace keep. -/
theorem invariant_moreMembers
    (one : ∀ {state key text after rest}, invariant state →
      (member state key).read text = .ok (after, rest) → invariant after)
    {state after : σ} {text rest : List Char} (start : invariant state)
    (read : moreMembers member state text = .ok (after, rest)) : invariant after := by
  fun_induction moreMembers member state text with
  | case1 => simp at read
  | case2 =>
      simp only [Except.ok.injEq, Prod.mk.injEq] at read
      exact read.1 ▸ start
  | case3 => simp at read
  | case4 state text next turn inner behind first ih =>
      exact ih (invariant_memberStep one start first) read

theorem invariant_members
    (one : ∀ {state key text after rest}, invariant state →
      (member state key).read text = .ok (after, rest) → invariant after)
    {state after : σ} {text rest : List Char} (start : invariant state)
    (read : members member state text = .ok (after, rest)) : invariant after := by
  unfold members at read
  split at read
  · simp at read
  · simp only [Except.ok.injEq, Prod.mk.injEq] at read
    exact read.1 ▸ start
  · split at read
    · simp at read
    · rename_i first
      exact invariant_moreMembers one (invariant_memberStep one start first) read

end Invariant

/-- A value that is no list and no object is accepted at any depth. -/
theorem accepted_of_scalar {depth : Nat} {json : Json} (scalar : json.isContainer = false) :
    Obeys accepted depth json := by
  refine .of_scalar scalar ⟨?_, fun container => by simp [scalar] at container⟩
  cases json <;> simp_all [isContainer, distinctKeys]

theorem isContainer_of_scalar {text rest : List Char} {json : Json}
    (read : scalar text = .ok (json, rest)) : json.isContainer = false := by
  unfold scalar at read
  cases text with
  | nil => simp at read
  | cons c text =>
      have ofWord : ∀ {expected : List Char} {value : Json}, value.isContainer = false →
          (word expected text).map (value, ·) = .ok (json, rest) → json.isContainer = false := by
        intro expected value plain h
        cases matched : word expected text with
        | error => simp [matched, Except.map] at h
        | ok behind =>
            simp only [matched, Except.map, Except.ok.injEq, Prod.mk.injEq] at h
            exact h.1 ▸ plain
      simp only at read
      split at read
      · exact ofWord rfl read
      split at read
      · exact ofWord rfl read
      split at read
      · exact ofWord rfl read
      split at read
      · obtain ⟨_, _, rfl⟩ := Step.map_eq_ok read
        rfl
      split at read
      · obtain ⟨_, _, rfl⟩ := Step.map_eq_ok read
        rfl
      · simp at read

/-- The members read so far have distinct keys and accepted values. -/
theorem putMember_keeps {depth : Nat} {reader : Reader Json}
    (one : ∀ {text json rest}, reader.read text = .ok (json, rest) →
      Obeys accepted (depth + 1) json)
    {known after : Members Json} {key : String} {text rest : List Char}
    (start : (Members.keys known).Nodup ∧ ∀ member ∈ known, Obeys accepted (depth + 1) member.2)
    (read : (putMember reader known key).read text = .ok (after, rest)) :
    (Members.keys after).Nodup ∧ ∀ member ∈ after, Obeys accepted (depth + 1) member.2 := by
  obtain ⟨json, found, rfl⟩ := Step.map_eq_ok read
  refine ⟨Members.nodup_keys_put start.1, fun member mem => ?_⟩
  rcases Members.mem_of_mem_put mem with rfl | mem
  · simp only [behindColon] at found
    split at found
    · simp at found
    · exact one found
  · exact start.2 member mem

/-- A reader for so many more levels accepts nothing that is nested deeper. -/
theorem accepted_of_value {levels depth : Nat} (bound : depth + levels = depthLimit)
    {text rest : List Char} {json : Json} (read : (value levels).read text = .ok (json, rest)) :
    Obeys accepted depth json := by
  induction levels generalizing depth text rest json with
  | zero =>
      simp only [value, valueWith] at read
      split at read
      · simp at read
      · split at read
        · simp at read
        · exact accepted_of_scalar (isContainer_of_scalar read)
  | succ levels ih =>
      have room : depth < depthLimit := by omega
      have deeper : ∀ {text json rest}, (value levels).read text = .ok (json, rest) →
          Obeys accepted (depth + 1) json := fun read => ih (by omega) read
      simp only [value, valueWith] at read
      split at read
      · simp at read
      · split at read
        · split at read
          · obtain ⟨items, inner, rfl⟩ := Step.map_eq_ok read
            exact obeys_arr_iff.mpr ⟨⟨trivial, fun _ => room⟩, forall_of_items deeper inner⟩
          · obtain ⟨members, inner, rfl⟩ := Step.map_eq_ok read
            have kept := invariant_members (putMember_keeps deeper)
              ⟨by simp [Members.keys], by simp⟩ inner
            exact obeys_obj_iff.mpr ⟨⟨kept.1, fun _ => room⟩, kept.2⟩
        · exact accepted_of_scalar (isContainer_of_scalar read)

/-- What is parsed has distinct keys everywhere and is not too deep. -/
theorem accepted_of_parse {text : String} {json : Json} (parsed : parse text = .ok json) :
    Obeys accepted 0 json := by
  unfold parse whole at parsed
  split at parsed
  · simp at parsed
  · rename_i read
    split at parsed
    · simp only [Except.ok.injEq] at parsed
      exact parsed ▸ accepted_of_value (by simp [depthLimit]) read
    · simp at parsed

end DriverUplift.Json
