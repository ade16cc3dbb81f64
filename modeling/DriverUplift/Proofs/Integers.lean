import DriverUplift.Proofs.Json.Integer
import DriverUplift.Proofs.Json.Unambiguous
import DriverUplift.Proofs.Manifest

/-!
# Integers in manifests

Reading a manifest and rendering it again keeps an integer literal as it is, at whatever
place it stands, if its number fits into 64 bits with or without a sign.  Any other integer
literal, and `-0`, becomes the text of a double.
-/

namespace DriverUplift.Manifest

open Json

variable {manifest : Manifest} {text : String}

/-- What is accepted spells one outline, and the members of the manifest are read from it. -/
theorem exists_source (parsed : parse text = .ok manifest) :
    ∃ source, SpellsWhole source text.toList ∧
      (Json.value depthLimit).Gives source (.obj manifest.platforms) := by
  have read := parse_eq_ok_iff.mp parsed
  obtain ⟨source, spells⟩ := exists_outline_of_parse read
  exact ⟨source, spells, (exact_value depthLimit).whole spells read⟩

/-- An integer literal of the source is rendered as it is, or as a double. -/
theorem exists_rendered {source : Outline} (unrepeated : source.Unrepeated)
    (given : (Json.value depthLimit).Gives source (.obj manifest.platforms))
    {place : List Child} {literal : List Char} {value : Int}
    (there : source.at? place = some (.scalar literal)) (writes : WritesInteger literal value) :
    ∃ chars, (Json.obj manifest.platforms).outline.at? place = some (.scalar chars) ∧
      (IsExact literal value ∧ chars = literal ∨
        ¬IsExact literal value ∧ ∃ x : Binary64, chars = x.text) := by
  obtain ⟨levels, json, found, inside⟩ := exists_at_of_gives unrepeated given there
  rw [at?_outline, found]
  rcases writes.gives inside with ⟨exact, rfl, printed⟩ | ⟨inexact, x, rfl⟩
  · exact ⟨literal, by rw [printed]; rfl, .inl ⟨exact, rfl⟩⟩
  · exact ⟨x.text, rfl, .inr ⟨inexact, x, rfl⟩⟩

/--
An accepted text spells one outline, and so does the text that the manifest is rendered as.
If no object of the first repeats a key, every integer literal of it is, in the second and at
the same place, again a scalar.  That is an integer literal of the same value exactly if the
value fits into 64 bits, with or without a sign, and the literal is not `-0`; then it is the
same literal, and otherwise it is no integer literal at all.
-/
theorem writesInteger_render_iff (parsed : parse text = .ok manifest) :
    ∃ source written, (∀ outline, SpellsWhole outline text.toList ↔ outline = source) ∧
      (∀ outline, SpellsWhole outline manifest.render.toList ↔ outline = written) ∧
      (source.Unrepeated → ∀ place literal value, source.at? place = some (.scalar literal) →
        WritesInteger literal value →
          ∃ chars, written.at? place = some (.scalar chars) ∧
            (WritesInteger chars value ↔
              literal ≠ ['-', '0'] ∧ -2 ^ 63 ≤ value ∧ value < 2 ^ 64) ∧
            ∀ other, WritesInteger chars other → chars = literal) := by
  obtain ⟨source, spells, given⟩ := exists_source parsed
  have rendered := manifest.spellsWhole_render
  refine ⟨source, _, fun outline => ⟨fun also => also.unique spells, fun same => same ▸ spells⟩,
    fun outline => ⟨fun also => also.unique rendered, fun same => same ▸ rendered⟩,
    fun unrepeated place literal value there writes => ?_⟩
  obtain ⟨chars, found, which⟩ := exists_rendered unrepeated given there writes
  refine ⟨chars, found, ?_⟩
  rcases which with ⟨exact, rfl⟩ | ⟨inexact, x, rfl⟩
  · exact ⟨⟨fun _ => exact, fun _ => writes⟩, fun _ _ => rfl⟩
  · exact ⟨⟨fun writesToo => absurd writesToo (not_writesInteger_text x value),
      fun exact => absurd exact inexact⟩,
      fun other writesToo => absurd writesToo (not_writesInteger_text x other)⟩

/-- Two integers in a list: the least with a sign that fits, and the least without one that
does not. -/
def Sample.integers : String :=
  "\x7b\"a\":[-9223372036854775808,18446744073709551616]\x7d"

def Sample.least : List Char := "9223372036854775808".toList

def Sample.large : List Char := "18446744073709551616".toList

def Sample.items : Outline := .list [.scalar ('-' :: Sample.least), .scalar Sample.large]

def Sample.numbers : Manifest :=
  ⟨[("a", .arr [.num (.integer (-9223372036854775808)),
    .num (.real ⟨false, 4503599627370496, 12⟩)])]⟩

theorem Sample.parse_integers : parse Sample.integers = .ok Sample.numbers := by
  set_option maxRecDepth 4000 in with_unfolding_all rfl

theorem Sample.isInteger_least : IsInteger Sample.least :=
  Decimal.isInteger_toString 9223372036854775808

theorem Sample.isInteger_large : IsInteger Sample.large :=
  Decimal.isInteger_toString 18446744073709551616

theorem Sample.spellsWhole_items :
    SpellsWhole (.object [(['a'], Sample.items)]) Sample.integers.toList := by
  have key : IsRaw ['a'] := .plain (by decide) (by decide) (by decide) .nil
  have items : Spells Sample.items
      ('[' :: (('-' :: Sample.least) ++ ',' :: (Sample.large ++ ']' :: ['\x7d']))) ['\x7d'] :=
    .list .none (.scalar Sample.isInteger_least.isScalar_negative)
      (.next .none .none (.scalar Sample.isInteger_large.isScalar) (.close .none))
  exact ⟨_, [], .none, .object .none (.member key .none .none items) (.close .none), .none⟩

theorem Sample.named_items : Outline.named [(['a'], Sample.items)] = [("a", Sample.items)] := by
  have meant : meaning? ['a'] = some "a" := meaning?_printed "a"
  simp only [Outline.named, List.filterMap_cons, meant, Option.map_some, List.filterMap_nil]

theorem Sample.unrepeated_items : (Outline.object [(['a'], Sample.items)]).Unrepeated := by
  refine Outline.unrepeated_object (by rw [Sample.named_items]; decide) fun field mem => ?_
  rw [Sample.named_items] at mem
  obtain rfl := List.mem_singleton.mp mem
  refine Outline.unrepeated_list fun item mem => ?_
  rcases List.mem_pair.mp mem with rfl | rfl <;> exact Outline.unrepeated_scalar _

theorem Sample.at?_items (index : Nat) :
    (Outline.object [(['a'], Sample.items)]).at? [.member "a", .item index] =
      [Outline.scalar ('-' :: Sample.least), .scalar Sample.large][index]? := by
  have list : (Outline.object [(['a'], Sample.items)]).child? (.member "a") = some Sample.items := by
    rw [Outline.child?, Sample.named_items]
    rfl
  rw [Outline.at?_cons list]
  simp [Outline.at?, Outline.child?, Sample.items]

/-- The first of the two integers is kept, and the second is not. -/
theorem writesInteger_render_iff_sample :
    parse Sample.integers = .ok Sample.numbers ∧
      ∃ written, SpellsWhole written Sample.numbers.render.toList ∧
        (∃ chars, written.at? [.member "a", .item 0] = some (.scalar chars) ∧
          WritesInteger chars (-2 ^ 63)) ∧
        ∃ chars, written.at? [.member "a", .item 1] = some (.scalar chars) ∧
          ¬WritesInteger chars (2 ^ 64) := by
  obtain ⟨source, written, isSource, isWritten, kept⟩ :=
    writesInteger_render_iff Sample.parse_integers
  obtain rfl := (isSource _).mp Sample.spellsWhole_items
  obtain ⟨first, thereFirst, exactFirst, _⟩ := kept Sample.unrepeated_items
    [.member "a", .item 0] _ (-2 ^ 63) (Sample.at?_items 0) (.negative Sample.isInteger_least)
  obtain ⟨second, thereSecond, exactSecond, _⟩ := kept Sample.unrepeated_items
    [.member "a", .item 1] _ (2 ^ 64) (Sample.at?_items 1) (.positive Sample.isInteger_large)
  refine ⟨Sample.parse_integers, written, (isWritten written).mpr rfl,
    ⟨first, thereFirst, exactFirst.mpr (by decide)⟩, second, thereSecond, fun writes => ?_⟩
  exact absurd (exactSecond.mp writes).2.2 (by decide)

/-- Not every integer literal is rendered as one of the same value. -/
theorem not_all_integers_rendered :
    ¬∀ (text : String) (manifest : Manifest) (source written : Outline),
      parse text = .ok manifest → SpellsWhole source text.toList → source.Unrepeated →
        SpellsWhole written manifest.render.toList →
          ∀ place literal value, source.at? place = some (.scalar literal) →
            WritesInteger literal value →
              ∃ chars, written.at? place = some (.scalar chars) ∧ WritesInteger chars value := by
  intro kept
  obtain ⟨source, spells, given⟩ := exists_source Sample.parse_integers
  obtain rfl := spells.unique Sample.spellsWhole_items
  have writes : WritesInteger Sample.large (2 ^ 64) := .positive Sample.isInteger_large
  obtain ⟨chars, found, same⟩ := kept _ _ _ _ Sample.parse_integers spells
    Sample.unrepeated_items Sample.numbers.spellsWhole_render [.member "a", .item 1] _ _
    (Sample.at?_items 1) writes
  obtain ⟨others, there, which⟩ :=
    exists_rendered Sample.unrepeated_items given (Sample.at?_items 1) writes
  obtain rfl := Outline.scalar.inj (Option.some.inj (found.symm.trans there))
  rcases which with ⟨exact, _⟩ | ⟨_, x, rfl⟩
  · exact absurd exact.2.2 (by decide)
  · exact not_writesInteger_text x _ same

end DriverUplift.Manifest
