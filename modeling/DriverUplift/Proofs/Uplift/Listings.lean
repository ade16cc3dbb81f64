import DriverUplift.Proofs.Checksums
import DriverUplift.Proofs.Uplift.Partial

/-!
# Reading the checksum listings of a release

With a transport whose answers depend on the address alone, the listings are read in
their order up to the first one that names a version or that cannot be had.  If all of
them can be had, this comes to one scan of the listings joined by line ends.  Only a
version that was found changes the compiler.
-/

namespace DriverUplift.Uplift

open Github (Asset Client Release)

/-! ## How the compiler step ends -/

/-- The step has succeeded, and has set the compiler and nothing else from the version. -/
structure SetsCompiler (version : String) (start : Trace)
    (ending : Except Failure Unit × Trace) : Prop where
  result : ending.1 = .ok ()
  edits : ending.2.edits = start.edits ++ igcEdits version
  platform : ∀ platform : Platform,
    platform.revise ending.2.edits =
      { platform.revise start.edits with
        igc := (platform.revise start.edits).igc.released ("igc-" ++ version) version
          (Project.graphicsCompiler.releaseUrl ("igc-" ++ version)) }

/-- No version was found: nothing is set, and the policy decides whether that is a failure. -/
structure MissesVersion (release : Release) (policy : Policy) (start : Trace)
    (ending : Except Failure Unit × Trace) : Prop where
  result : ending.1 =
    match policy with
    | .lenient => .ok ()
    | .strict => .error (.igcVersionNotFound release.tag)
  edits : ending.2.edits = start.edits

theorem SetsCompiler.of_edits {version : String} {start : Trace}
    {ending : Except Failure Unit × Trace} (result : ending.1 = .ok ())
    (edits : ending.2.edits = start.edits ++ igcEdits version) :
    SetsCompiler version start ending where
  result := result
  edits := edits
  platform platform := by
    rw [edits, Platform.revise_append]
    rfl

/-- The version can be told from what is set. -/
theorem SetsCompiler.version_unique {one two : String} {start : Trace}
    {ending : Except Failure Unit × Trace} (first : SetsCompiler one start ending)
    (second : SetsCompiler two start ending) : one = two := by
  have same := List.append_cancel_left (first.edits.symm.trans second.edits)
  simp only [igcEdits, releaseEdits, List.cons.injEq, Edit.mk.injEq] at same
  exact same.2.1.2.2

theorem SetsCompiler.not_misses {version : String} {release : Release} {policy : Policy}
    {start : Trace} {ending : Except Failure Unit × Trace}
    (sets : SetsCompiler version start ending) :
    ¬MissesVersion release policy start ending := by
  intro misses
  have same := sets.edits.symm.trans misses.edits
  simp [igcEdits, releaseEdits] at same

/-! ## One listing after the other -/

variable {client : Client} {release : Release} {policy : Policy} {trace start : Trace}

section Scan

variable (fixed : client.transport.IsFixed)

include fixed

/-- Listings that name no version are passed over. -/
theorem findIgcVersion_passes {passed : List Asset} (left : List Asset) (trace : Trace)
    (unnamed : ∀ asset ∈ passed, Stage.NamesNone client [] asset) :
    GoesOn (findIgcVersion client (passed ++ left)) trace (passed.map (·.url)) []
      (findIgcVersion client left) := by
  induction passed generalizing trace with
  | nil => exact ⟨trace, rfl, (List.append_nil _).symm, (List.append_nil _).symm⟩
  | cons asset passed ih =>
      obtain ⟨listing, answered, none⟩ := unnamed asset (List.mem_cons_self ..)
      have scanned := findIgcVersion_goesOn client asset (passed ++ left) trace
      simp only [fixed trace.requests, answered, none] at scanned
      exact scanned.trans fun between =>
        ih between fun other mem => unnamed other (List.mem_cons_of_mem _ mem)

/-- If all listings can be had, the first version that one of them names is found. -/
theorem findIgcVersion_all {assets : List Asset} {texts : List String} (trace : Trace)
    (answered : List.Forall₂ (fun asset text => client.transport.answer [] asset.url = .ok text)
      assets texts) :
    ∃ urls, GoesOn (findIgcVersion client assets) trace urls []
      (pure (texts.findSome? Checksums.igcVersion?)) := by
  induction answered generalizing trace with
  | nil => exact ⟨[], trace, rfl, (List.append_nil _).symm, (List.append_nil _).symm⟩
  | @cons asset text assets texts answered _ ih =>
      have scanned := findIgcVersion_goesOn client asset assets trace
      simp only [fixed trace.requests, answered] at scanned
      cases named : Checksums.igcVersion? text with
      | some version =>
          simp only [named] at scanned
          exact ⟨_, by simpa [named] using scanned⟩
      | none =>
          simp only [named] at scanned
          obtain ⟨between, same, requests, edits⟩ := scanned
          obtain ⟨urls, final, found, more, unchanged⟩ := ih between
          refine ⟨asset.url :: urls, final, ?_, ?_, ?_⟩
          · rw [same, found, List.findSome?_cons, named]
          · rw [more, requests, List.append_assoc, List.singleton_append]
          · rw [unchanged, edits, List.append_nil]

end Scan

/-- Either no listing that can be had names a version, or there is a first one that decides. -/
theorem exists_decisive (client : Client) (assets : List Asset) :
    (∀ asset ∈ assets, Stage.NamesNone client [] asset) ∨
      ∃ passed asset left, assets = passed ++ asset :: left ∧
        (∀ earlier ∈ passed, Stage.NamesNone client [] earlier) ∧
        ((∃ text version, client.transport.answer [] asset.url = .ok text ∧
            Checksums.igcVersion? text = some version) ∨
          ∃ failure, client.transport.answer [] asset.url = .error failure) := by
  induction assets with
  | nil => exact .inl (by simp)
  | cons asset assets ih =>
      cases answered : client.transport.answer [] asset.url with
      | error failure => exact .inr ⟨[], asset, assets, rfl, by simp, .inr ⟨failure, answered⟩⟩
      | ok text =>
          cases named : Checksums.igcVersion? text with
          | some version =>
              exact .inr ⟨[], asset, assets, rfl, by simp, .inl ⟨text, version, answered, named⟩⟩
          | none =>
              have here : Stage.NamesNone client [] asset := ⟨text, answered, named⟩
              rcases ih with all | ⟨passed, other, left, rfl, unnamed, decides⟩
              · exact .inl (List.forall_mem_cons.mpr ⟨here, all⟩)
              · exact .inr ⟨asset :: passed, other, left, rfl,
                  List.forall_mem_cons.mpr ⟨here, unnamed⟩, decides⟩

/-! ## The compiler step -/

theorem upliftIgc_some {urls : List String} {version : String}
    (found : GoesOn (findIgcVersion client (listings release)) trace urls []
      (pure (some version))) :
    GoesOn (upliftIgc client release policy) trace urls (igcEdits version) (pure ()) := by
  have settled := (found.bind_pure (settle release policy)).trans
    (announce_goesOn (igcEdits version) ("igc: " ++ version))
  rw [upliftIgc_eq]
  simpa using settled

theorem upliftIgc_none {urls : List String}
    (missed : GoesOn (findIgcVersion client (listings release)) trace urls [] (pure none)) :
    MissesVersion release policy trace ((upliftIgc client release policy).after trace) := by
  have settled := missed.bind_pure (settle release policy)
  rw [upliftIgc_eq]
  obtain ⟨between, same, _, edits⟩ := settled
  rw [same]
  cases policy with
  | lenient => exact ⟨rfl, edits.trans (List.append_nil _)⟩
  | strict => exact ⟨rfl, edits.trans (List.append_nil _)⟩

theorem GoesOn.setsCompiler {session : Session Unit} {urls : List String} {version : String}
    (goesOn : GoesOn session trace urls (igcEdits version) (pure ())) :
    SetsCompiler version trace (session.after trace) ∧
      (session.after trace).2.requests = trace.requests ++ urls := by
  obtain ⟨between, same, requests, edits⟩ := goesOn
  rw [same]
  exact ⟨.of_edits rfl edits, requests⟩

section Step

variable (fixed : client.transport.IsFixed) {passed left : List Asset} {asset : Asset}
  (split : listings release = passed ++ asset :: left)
  (unnamed : ∀ earlier ∈ passed, Stage.NamesNone client [] earlier)

include fixed split unnamed

/-- The first listing that names a version decides, and no later one is asked for. -/
theorem upliftIgc_named {text version : String}
    (answered : client.transport.answer [] asset.url = .ok text)
    (named : Checksums.igcVersion? text = some version) :
    SetsCompiler version start ((upliftIgc client release policy).after start) ∧
      ((upliftIgc client release policy).after start).2.requests =
        start.requests ++ (passed ++ [asset]).map (·.url) := by
  have found := (findIgcVersion_passes fixed (asset :: left) start unnamed).trans fun between => by
    have scanned := findIgcVersion_goesOn client asset left between
    simp only [fixed between.requests, answered, named] at scanned
    exact scanned
  rw [← split] at found
  rw [List.map_append]
  exact (upliftIgc_some found).setsCompiler

/-- A listing that cannot be had before that ends the step with its failure. -/
theorem upliftIgc_failed {failure : Failure}
    (failed : client.transport.answer [] asset.url = .error failure) :
    ((upliftIgc client release policy).after start).1 = .error failure ∧
      ((upliftIgc client release policy).after start).2.requests =
        start.requests ++ (passed ++ [asset]).map (·.url) ∧
      ((upliftIgc client release policy).after start).2.edits = start.edits := by
  have found := (findIgcVersion_passes fixed (asset :: left) start unnamed).trans fun between => by
    have scanned := findIgcVersion_goesOn client asset left between
    simp only [fixed between.requests, failed] at scanned
    exact scanned
  rw [← split] at found
  rw [upliftIgc_eq, List.map_append]
  obtain ⟨between, same, requests, edits⟩ := found.bind_throw (settle release policy)
  rw [same]
  exact ⟨rfl, requests, edits.trans (List.append_nil _)⟩

end Step

/-- The step settles what one scan of all listings joined by line ends would find. -/
theorem upliftIgc_all (fixed : client.transport.IsFixed) {texts : List String}
    (answered : List.Forall₂ (fun asset text => client.transport.answer [] asset.url = .ok text)
      (listings release) texts) :
    (∀ version, SetsCompiler version start ((upliftIgc client release policy).after start) ↔
      Checksums.igcVersion? ("\n".intercalate texts) = some version) ∧
    (MissesVersion release policy start ((upliftIgc client release policy).after start) ↔
      Checksums.igcVersion? ("\n".intercalate texts) = none) := by
  rw [Checksums.igcVersion?_intercalate]
  obtain ⟨urls, found⟩ := findIgcVersion_all fixed start answered
  cases first : texts.findSome? Checksums.igcVersion? with
  | some version =>
      rw [first] at found
      have sets : SetsCompiler version start ((upliftIgc client release policy).after start) :=
        (upliftIgc_some found).setsCompiler.1
      refine ⟨fun other => ⟨fun setsOther => ?_, ?_⟩, fun misses => ?_, nofun⟩
      · rw [sets.version_unique setsOther]
      · rintro ⟨⟩
        exact sets
      · exact absurd misses sets.not_misses
  | none =>
      rw [first] at found
      have misses : MissesVersion release policy start
          ((upliftIgc client release policy).after start) := upliftIgc_none found
      exact ⟨fun version => ⟨fun sets => absurd misses sets.not_misses, nofun⟩,
        fun _ => rfl, fun _ => misses⟩

/-- The step sets nothing, or it sets the compiler to the version that some listing names. -/
theorem upliftIgc_edits (fixed : client.transport.IsFixed) :
    ((upliftIgc client release policy).after start).2.edits = start.edits ∨
      ∃ asset ∈ listings release, ∃ text version,
        client.transport.answer [] asset.url = .ok text ∧
        Checksums.igcVersion? text = some version ∧
        SetsCompiler version start ((upliftIgc client release policy).after start) := by
  rcases exists_decisive client (listings release) with
    unnamed | ⟨passed, asset, left, split, unnamed, decides⟩
  · have missed := findIgcVersion_passes fixed [] start unnamed
    rw [List.append_nil] at missed
    exact .inl (upliftIgc_none missed).edits
  · rcases decides with ⟨text, version, answered, named⟩ | ⟨failure, failed⟩
    · exact .inr ⟨asset, by simp [split], text, version, answered, named,
        (upliftIgc_named fixed split unnamed answered named).1⟩
    · exact .inl (upliftIgc_failed fixed split unnamed failed).2.2

/--
Answers depend on the address alone.  If all listings can be had, then the step sets the
compiler to a version, or misses one, as a single scan of all listings joined by line ends
finds it or not.  In any case the first listing that names a version decides, whatever is
behind it, and no later one is asked for; one before it that cannot be had ends the step with
its failure.  Nothing is ever set but the compiler, and only to a version that a listing names.
-/
theorem upliftIgc_scans (fixed : client.transport.IsFixed) (release : Release) (policy : Policy)
    (start : Trace) :
    let ending := (upliftIgc client release policy).after start
    (∀ texts,
      List.Forall₂ (fun asset text => client.transport.answer [] asset.url = .ok text)
          (listings release) texts →
        (∀ version, SetsCompiler version start ending ↔
          Checksums.igcVersion? ("\n".intercalate texts) = some version) ∧
        (MissesVersion release policy start ending ↔
          Checksums.igcVersion? ("\n".intercalate texts) = none)) ∧
    (∀ passed asset left, listings release = passed ++ asset :: left →
      (∀ earlier ∈ passed, Stage.NamesNone client [] earlier) →
        (∀ text version, client.transport.answer [] asset.url = .ok text →
          Checksums.igcVersion? text = some version →
            SetsCompiler version start ending ∧
              ending.2.requests = start.requests ++ (passed ++ [asset]).map (·.url)) ∧
        (∀ failure, client.transport.answer [] asset.url = .error failure →
          ending.1 = .error failure ∧
            ending.2.requests = start.requests ++ (passed ++ [asset]).map (·.url) ∧
              ending.2.edits = start.edits)) ∧
    (ending.2.edits = start.edits ∨
      ∃ asset ∈ listings release, ∃ text version,
        client.transport.answer [] asset.url = .ok text ∧
        Checksums.igcVersion? text = some version ∧ SetsCompiler version start ending) := by
  intro ending
  refine ⟨fun texts => upliftIgc_all fixed, fun passed asset left split unnamed => ⟨?_, ?_⟩,
    upliftIgc_edits fixed⟩
  · exact fun text version => upliftIgc_named fixed split unnamed
  · exact fun failure => upliftIgc_failed fixed split unnamed

namespace Sample

/-- A listing that breaks off inside of a name, and one that starts like its end. -/
def listingAnswer (url : String) : Except Failure String :=
  if url = "first" then .ok "intel-igc-core_"
  else if url = "second" then .ok "9_amd64\nintel-igc-core_1.2_amd64"
  else .error (.http (.status 404))

def listingClient : Client :=
  ⟨.fixed listingAnswer, "api"⟩

def listingRelease (more : List Asset) : Release :=
  ⟨"v2", [⟨"a.sum", "first"⟩, ⟨"notes", "notes"⟩, ⟨"b.sum", "second"⟩] ++ more⟩

end Sample

theorem upliftIgc_scans_sample :
    Sample.listingClient.transport.IsFixed ∧
      SetsCompiler "1.2" {}
        ((upliftIgc Sample.listingClient (Sample.listingRelease []) .strict).after {}) ∧
      SetsCompiler "1.2" {}
        ((upliftIgc Sample.listingClient (Sample.listingRelease [⟨"c.sum", "third"⟩])
          .strict).after {}) ∧
      ((upliftIgc Sample.listingClient (Sample.listingRelease [⟨"c.sum", "third"⟩])
        .strict).after {}).2.requests = ["first", "second"] := by
  have fixed : Sample.listingClient.transport.IsFixed :=
    Transport.isFixed_fixed Sample.listingAnswer
  have scanned := upliftIgc_scans fixed (Sample.listingRelease []) .strict {}
  have stopped := upliftIgc_scans fixed (Sample.listingRelease [⟨"c.sum", "third"⟩]) .strict {}
  have all := scanned.1 ["intel-igc-core_", "9_amd64\nintel-igc-core_1.2_amd64"]
    (.cons rfl (.cons rfl .nil))
  have second := stopped.2.1 [⟨"a.sum", "first"⟩] ⟨"b.sum", "second"⟩ [⟨"c.sum", "third"⟩]
    (by decide +kernel) (List.forall_mem_singleton.mpr ⟨_, rfl, by decide +kernel⟩)
  obtain ⟨sets, requests⟩ := second.1 _ "1.2" rfl (by decide +kernel)
  exact ⟨fixed, (all.1 "1.2").mpr (by decide +kernel), sets, requests⟩

end DriverUplift.Uplift
