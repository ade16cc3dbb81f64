import DriverUplift.Proofs.Text.Interruption
import DriverUplift.Session
import DriverUplift.Uplift.Steps

/-!
# Versions made from tags

The version of a CM compiler release is its tag without the marks in it.  Marks do not
overlap, so each of them is taken away for itself, and the version is what stands between
them.  A version holds a mark nevertheless if the tag holds one that other marks interrupt.
-/

namespace DriverUplift.Tag

/-- The mark ends with its only hyphen, so none of its proper parts both starts and ends it. -/
theorem unbordered_cmMark : Text.Unbordered "cmclang-".toList := by
  decide

theorem toList_cmVersion (tag : String) :
    (cmVersion tag).toList = Text.remove "cmclang-".toList tag.toList := by
  rw [cmVersion, String.toList_ofList, cmMark]

/--
The version of a tag that is cut at any mark is made from the versions of the two sides; a tag
stays as it is exactly if no mark occurs in it.  In general the version is made of the pieces of
the tag between all its marks, none of which overlap.
-/
theorem cmVersion_pieces (front rest tag : String) :
    cmVersion (front ++ "cmclang-" ++ rest) = cmVersion front ++ cmVersion rest ∧
      (cmVersion tag = tag ↔ ¬"cmclang-".toList <:+: tag.toList) ∧
      (cmVersion tag).toList = (Text.pieces "cmclang-".toList tag.toList).flatten ∧
      "cmclang-".toList.intercalate (Text.pieces "cmclang-".toList tag.toList) = tag.toList ∧
      (¬∃ piece ∈ Text.pieces "cmclang-".toList tag.toList, "cmclang-".toList <:+: piece) ∧
      (Text.places "cmclang-".toList tag.toList).Pairwise
        fun place next => place + "cmclang-".length ≤ next := by
  refine ⟨?_, ?_, ?_, ?_, ?_, ?_⟩
  · apply String.toList_injective
    simp only [toList_cmVersion, String.toList_append, List.append_assoc,
      unbordered_cmMark.remove_cut]
  · rw [← String.toList_inj, toList_cmVersion,
      Text.remove_eq_self_iff unbordered_cmMark.ne_nil]
  · rw [toList_cmVersion, unbordered_cmMark.remove_eq_flatten_pieces]
  · exact unbordered_cmMark.intercalate_pieces tag.toList
  · rintro ⟨piece, mem, occurs⟩
    exact unbordered_cmMark.not_infix_of_mem_pieces mem occurs
  · exact unbordered_cmMark.places_apart tag.toList

/--
The version that is recorded for the CM compiler holds a mark exactly if the tag of the release
holds a mark in parts with whole marks between them.  Exactly for the other tags the version of
the version is the version again.
-/
theorem cmVersion_marked_iff (platform : Platform) (tag : String) :
    (platform.revise (Uplift.cmEdits tag)).cm.version = .text (cmVersion tag) ∧
      ("cmclang-".toList <:+: (cmVersion tag).toList ↔
        Text.Interrupted "cmclang-".toList tag.toList) ∧
      (cmVersion (cmVersion tag) = cmVersion tag ↔
        ¬Text.Interrupted "cmclang-".toList tag.toList) := by
  refine ⟨rfl, ?_, ?_⟩
  · rw [toList_cmVersion, unbordered_cmMark.infix_remove_iff]
  · rw [← String.toList_inj, toList_cmVersion, toList_cmVersion,
      unbordered_cmMark.remove_remove_eq_iff]

/-- One mark interrupts another, which stands in the version as a whole. -/
theorem cmVersion_marked_sample :
    cmVersion "cmcmclang-clang-1" = "cmclang-1" ∧
      "cmclang-".toList <:+: (cmVersion "cmcmclang-clang-1").toList ∧
      cmVersion (cmVersion "cmcmclang-clang-1") ≠ cmVersion "cmcmclang-clang-1" := by
  decide

end DriverUplift.Tag
