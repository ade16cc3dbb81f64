import DriverUplift.Checksums
import Mathlib.Data.List.TakeWhile

/-!
# Names in checksum listings

A listing names a version wherever the stem of the package name, the version and the
mark of the architecture stand one behind the other.  The scan finds the leftmost of
these places and misses none.  No name goes over the end of a line, so the scan of
several listings one below the other ends in the first of them that names a version.
-/

namespace DriverUplift.Checksums

/-! ## Places of names -/

/-- A package name with the version stands in the text behind the front part. -/
def NamesAt (text front version : List Char) : Prop :=
  (∀ c ∈ version, isVersionChar c = true) ∧
    ∃ rest, text = front ++ (packageStem ++ (version ++ (architectureMark ++ rest)))

/-- No name stands further to the left than this one. -/
def NamesFirst (text front version : List Char) : Prop :=
  NamesAt text front version ∧
    ∀ nearer other, NamesAt text nearer other → front.length ≤ nearer.length

section Front

variable {text version : List Char}

theorem packageStem_eq :
    packageStem = ['i', 'n', 't', 'e', 'l', '-', 'i', 'g', 'c', '-', 'c', 'o', 'r', 'e', '_'] := by
  decide

theorem architectureMark_eq : architectureMark = ['_', 'a', 'm', 'd', '6', '4'] := by
  decide

/-- The version ends where the mark begins, since the mark begins with no version character. -/
theorem takeWhile_version (all : ∀ c ∈ version, isVersionChar c = true) (rest : List Char) :
    (version ++ (architectureMark ++ rest)).takeWhile isVersionChar = version ∧
      (version ++ (architectureMark ++ rest)).dropWhile isVersionChar =
        architectureMark ++ rest := by
  have stop : isVersionChar '_' = false := by decide
  rw [List.takeWhile_append_of_pos all, List.dropWhile_append_of_pos all, architectureMark_eq,
    List.cons_append]
  simp only [List.takeWhile_cons, List.dropWhile_cons, stop, Bool.false_eq_true, if_false,
    List.append_nil, and_self]

theorem versionAtFront?_eq_some_iff :
    versionAtFront? text = some version ↔ NamesAt text [] version := by
  unfold versionAtFront?
  constructor
  · intro found
    split at found
    · cases found
    · rename_i behind stem
      split at found
      · cases found
      · rename_i rest mark
        obtain rfl := Option.some.inj found
        refine ⟨fun c mem => List.mem_takeWhile_imp mem, rest, ?_⟩
        rw [List.nil_append, Text.strip?_eq_some_iff.mp stem, ← Text.strip?_eq_some_iff.mp mark,
          List.takeWhile_append_dropWhile]
  · rintro ⟨all, rest, rfl⟩
    obtain ⟨taken, left⟩ := takeWhile_version all rest
    simp only [List.nil_append, Text.strip?_append, taken, left]

end Front

section Places

variable {c : Char} {text front version : List Char}

theorem not_namesAt_nil (front version : List Char) : ¬NamesAt [] front version := by
  rintro ⟨_, rest, empty⟩
  simp [packageStem_eq] at empty

/-- A name stands at the front of a text, or in what follows its first character. -/
theorem namesAt_cons_iff :
    NamesAt (c :: text) front version ↔
      front = [] ∧ versionAtFront? (c :: text) = some version ∨
        ∃ tail, front = c :: tail ∧ NamesAt text tail version := by
  cases front with
  | nil => simp [versionAtFront?_eq_some_iff]
  | cons d tail =>
      simp only [NamesAt, List.cons_append, List.cons.injEq, reduceCtorEq, false_and, false_or]
      constructor
      · rintro ⟨all, rest, rfl, split⟩
        exact ⟨tail, ⟨rfl, rfl⟩, all, rest, split⟩
      · rintro ⟨_, ⟨rfl, rfl⟩, all, rest, split⟩
        exact ⟨all, rest, rfl, split⟩

theorem leftmostVersion?_eq_none_iff :
    leftmostVersion? text = none ↔ ∀ front version, ¬NamesAt text front version := by
  induction text with
  | nil => simp [leftmostVersion?, not_namesAt_nil]
  | cons c text ih =>
      rw [leftmostVersion?]
      cases here : versionAtFront? (c :: text) with
      | some version =>
          refine iff_of_false (by simp) fun absent => ?_
          exact absent [] version (versionAtFront?_eq_some_iff.mp here)
      | none =>
          rw [ih]
          constructor
          · intro absent front version named
            rcases namesAt_cons_iff.mp named with ⟨_, front⟩ | ⟨tail, _, named⟩
            · cases here.symm.trans front
            · exact absent tail version named
          · intro absent tail version named
            exact absent (c :: tail) version (namesAt_cons_iff.mpr (.inr ⟨tail, rfl, named⟩))

theorem exists_namesFirst (found : leftmostVersion? text = some version) :
    ∃ front, NamesFirst text front version := by
  induction text with
  | nil => cases found
  | cons c text ih =>
      rw [leftmostVersion?] at found
      cases here : versionAtFront? (c :: text) with
      | some first =>
          rw [here] at found
          obtain rfl := Option.some.inj found
          exact ⟨[], versionAtFront?_eq_some_iff.mp here, fun _ _ _ => Nat.zero_le _⟩
      | none =>
          rw [here] at found
          obtain ⟨tail, named, first⟩ := ih found
          refine ⟨c :: tail, namesAt_cons_iff.mpr (.inr ⟨tail, rfl, named⟩), ?_⟩
          intro nearer other otherNamed
          rcases namesAt_cons_iff.mp otherNamed with ⟨_, front⟩ | ⟨further, rfl, behind⟩
          · cases here.symm.trans front
          · exact Nat.succ_le_succ (first further other behind)

/-- Two names at the same place have the same version. -/
theorem namesAt_unique {other : List Char} (one : NamesAt text front version)
    (two : NamesAt text front other) : version = other := by
  obtain ⟨all, rest, rfl⟩ := one
  obtain ⟨otherAll, otherRest, same⟩ := two
  have behind := List.append_cancel_left (List.append_cancel_left same)
  rw [← (takeWhile_version all rest).1, behind, (takeWhile_version otherAll otherRest).1]

/-- There is one leftmost place at most, and one version there. -/
theorem namesFirst_unique {otherFront other : List Char} (one : NamesFirst text front version)
    (two : NamesFirst text otherFront other) : front = otherFront ∧ version = other := by
  have length := Nat.le_antisymm (one.2 _ _ two.1) (two.2 _ _ one.1)
  obtain ⟨_, rest, split⟩ := one.1
  obtain ⟨_, otherRest, otherSplit⟩ := two.1
  obtain ⟨rfl, _⟩ := List.append_inj (split.symm.trans otherSplit) length
  exact ⟨rfl, namesAt_unique one.1 two.1⟩

theorem leftmostVersion?_eq_some_iff :
    leftmostVersion? text = some version ↔ ∃ front, NamesFirst text front version := by
  constructor
  · exact exists_namesFirst
  · rintro ⟨front, first⟩
    cases found : leftmostVersion? text with
    | none => exact absurd first.1 (leftmostVersion?_eq_none_iff.mp found front version)
    | some other =>
        obtain ⟨otherFront, otherFirst⟩ := exists_namesFirst found
        rw [(namesFirst_unique otherFirst first).2]

end Places

/-! ## Listings -/

/-- The listing goes on behind the front part with a package name that has the version. -/
def Names (listing front version : String) : Prop :=
  (∀ c ∈ version.toList, c.isDigit = true ∨ c = '.') ∧
    ∃ rest, listing = front ++ "intel-igc-core_" ++ version ++ "_amd64" ++ rest

theorem names_iff {listing front version : String} :
    Names listing front version ↔ NamesAt listing.toList front.toList version.toList := by
  have stem : "intel-igc-core_".toList = packageStem := rfl
  have mark : "_amd64".toList = architectureMark := rfl
  simp only [Names, NamesAt, isVersionChar, Bool.or_eq_true, beq_iff_eq]
  refine and_congr_right fun _ => ⟨?_, ?_⟩
  · rintro ⟨rest, rfl⟩
    refine ⟨rest.toList, ?_⟩
    simp only [String.toList_append, List.append_assoc, stem, mark]
  · rintro ⟨rest, split⟩
    refine ⟨String.ofList rest, String.toList_injective ?_⟩
    simp only [split, String.toList_append, String.toList_ofList, List.append_assoc, stem, mark]

/-- A name in the characters of a listing is a name in the listing. -/
theorem names_ofList {listing : String} {front version : List Char}
    (named : NamesAt listing.toList front version) :
    Names listing (String.ofList front) (String.ofList version) := by
  rw [names_iff, String.toList_ofList, String.toList_ofList]
  exact named

theorem namesFirst_iff {listing front version : String} :
    NamesFirst listing.toList front.toList version.toList ↔
      Names listing front version ∧
        ∀ nearer other, Names listing nearer other → front.length ≤ nearer.length := by
  rw [NamesFirst, ← names_iff]
  refine and_congr_right fun _ => ⟨fun first nearer other named => ?_, fun first => ?_⟩
  · rw [← String.length_toList, ← String.length_toList]
    exact first _ _ (names_iff.mp named)
  · intro nearer other named
    have bound := first _ _ (names_ofList named)
    rwa [← String.length_toList, String.length_ofList] at bound

theorem igcVersion?_eq_some_iff {listing version : String} :
    igcVersion? listing = some version ↔
      leftmostVersion? listing.toList = some version.toList := by
  rw [igcVersion?, Option.map_eq_some_iff]
  constructor
  · rintro ⟨found, same, rfl⟩
    rw [same, String.toList_ofList]
  · intro found
    exact ⟨version.toList, found, String.ofList_toList⟩

theorem igcVersion?_eq_none_iff {listing : String} :
    igcVersion? listing = none ↔ ∀ front version, ¬Names listing front version := by
  rw [igcVersion?, Option.map_eq_none_iff, leftmostVersion?_eq_none_iff]
  constructor
  · intro absent front version named
    exact absent _ _ (names_iff.mp named)
  · intro absent front version named
    exact absent _ _ (names_ofList named)

/--
The version of a listing is that of its leftmost package name: the name stands behind some
front part, and none stands behind a shorter one.  At one place there is one version only,
and a listing without a version has no package name anywhere.
-/
theorem igcVersion?_leftmost (listing : String) :
    (∀ version, igcVersion? listing = some version ↔
      ∃ front, Names listing front version ∧
        ∀ nearer other, Names listing nearer other → front.length ≤ nearer.length) ∧
    (∀ front version other, Names listing front version → Names listing front other →
      version = other) ∧
    (igcVersion? listing = none ↔ ∀ front version, ¬Names listing front version) := by
  refine ⟨fun version => ?_, fun front version other one two => ?_, igcVersion?_eq_none_iff⟩
  · rw [igcVersion?_eq_some_iff, leftmostVersion?_eq_some_iff]
    constructor
    · rintro ⟨front, first⟩
      refine ⟨String.ofList front, namesFirst_iff.mp ?_⟩
      rwa [String.toList_ofList]
    · rintro ⟨front, first⟩
      exact ⟨front.toList, namesFirst_iff.mpr first⟩
  · exact String.toList_injective (namesAt_unique (names_iff.mp one) (names_iff.mp two))

/-- A stem inside of a name that is broken off, another architecture and a digit that is none. -/
example : igcVersion? "intel-igc-core_1.intel-igc-core_2_arm64 intel-igc-core_3_amd64" = some "3" ∧
    igcVersion? "intel-igc-core_٣_amd64 intel-igc-core__amd64" = some "" := by
  decide +kernel

/-! ## Listings one below the other -/

section Joined

variable {version : List Char}

/-- There is no line end in a package name. -/
theorem not_mem_name (all : ∀ c ∈ version, isVersionChar c = true) :
    '\n' ∉ packageStem ++ (version ++ architectureMark) := by
  have solid : '\n' ∉ version := by
    intro mem
    have plain := all _ mem
    simp [isVersionChar] at plain
  rw [packageStem_eq, architectureMark_eq]
  simp [solid]

/-- A name at the front of a text is in its first line. -/
theorem versionAtFront?_newline (one two : List Char) :
    versionAtFront? (one ++ '\n' :: two) = versionAtFront? one := by
  refine Option.ext fun version => ?_
  rw [versionAtFront?_eq_some_iff, versionAtFront?_eq_some_iff]
  refine and_congr_right fun all => ⟨?_, ?_⟩
  · rintro ⟨rest, split⟩
    have name : one ++ '\n' :: two = (packageStem ++ (version ++ architectureMark)) ++ rest := by
      simpa using split
    rcases List.append_eq_append_iff.mp name with ⟨behind, longer, inside⟩ | ⟨behind, rfl, _⟩
    · cases behind with
      | nil => exact ⟨[], by simpa using longer.symm⟩
      | cons c behind =>
          obtain ⟨rfl, _⟩ := List.cons.inj inside
          exact absurd (by simp [longer]) (not_mem_name all)
    · exact ⟨behind, by simp⟩
  · rintro ⟨rest, rfl⟩
    exact ⟨rest ++ '\n' :: two, by simp⟩

theorem leftmostVersion?_newline (one two : List Char) :
    leftmostVersion? (one ++ '\n' :: two) =
      (leftmostVersion? one).or (leftmostVersion? two) := by
  induction one with
  | nil =>
      have front : versionAtFront? ('\n' :: two) = none := versionAtFront?_newline [] two
      have empty : leftmostVersion? [] = none := rfl
      rw [empty, Option.none_or, List.nil_append, leftmostVersion?, front]
  | cons c one ih =>
      have front := versionAtFront?_newline (c :: one) two
      rw [List.cons_append] at front ⊢
      rw [leftmostVersion?, front, leftmostVersion?]
      cases versionAtFront? (c :: one) with
      | some version => rfl
      | none => exact ih

end Joined

/-- One scan of all listings joined by line ends finds what the first of them names. -/
theorem igcVersion?_intercalate (texts : List String) :
    igcVersion? ("\n".intercalate texts) = texts.findSome? igcVersion? := by
  induction texts with
  | nil => rfl
  | cons text texts ih =>
      cases texts with
      | nil => cases found : igcVersion? text <;> simp [found]
      | cons next texts =>
          have joined : ("\n".intercalate (text :: next :: texts)).toList =
              text.toList ++ '\n' :: ("\n".intercalate (next :: texts)).toList := by
            simp [String.intercalate_cons_cons]
          rw [igcVersion?, joined, leftmostVersion?_newline, List.findSome?_cons, ← ih, igcVersion?,
            igcVersion?]
          cases leftmostVersion? text.toList <;> rfl

end DriverUplift.Checksums
