import DriverUplift.Proofs.Uplift.InPlace

/-!
# What an uplift leaves behind

The edits of an uplift stay where it fails.  The stage where it halts therefore
says which components are up to date by then, which one is in the middle of it,
and which ones are as they were.
-/

namespace DriverUplift

def Dependency.released (dependency : Dependency) (tag version url : String) : Dependency :=
  { dependency with githubTag := .text tag, version := .text version, url := .text url }

/-- The dependency with the commit and the time of a build; its address is the old one. -/
def Dependency.built (dependency : Dependency) (short updatedAt : String) : Dependency :=
  { dependency with
    githubTag := .text ("igc-dev-" ++ short)
    version := .text short
    updatedAt := .text updatedAt }

def Dependency.linked (dependency : Dependency) (url : String) : Dependency :=
  { dependency with url := .text url }

namespace Uplift

open Github (Client Release WorkflowRun)

/-! ## Platforms at the stages -/

def shortOf (run : WorkflowRun) : String :=
  String.ofList (run.sha.toList.take 7)

def withRuntime (start : Platform) (release : Release) : Platform :=
  { start with
    computeRuntime := start.computeRuntime.released release.tag release.tag
      (Project.computeRuntime.releaseUrl release.tag) }

def Scan.platform (start : Platform) (scan : Scan) : Platform :=
  { withRuntime start scan.release with
    igc :=
      match scan.igcVersion? with
      | some version =>
          start.igc.released ("igc-" ++ version) version
            (Project.graphicsCompiler.releaseUrl ("igc-" ++ version))
      | none => start.igc }

def withCompiler (start : Platform) (scan : Scan) (run : WorkflowRun) (url : String)
    (release : Release) : Platform :=
  { scan.platform start with
    igcDev := (start.igcDev.built (shortOf run) run.updatedAt).linked url
    cm := start.cm.released release.tag
      (String.ofList (Text.remove "cmclang-".toList release.tag.toList))
      (Project.cmCompiler.releaseUrl release.tag) }

namespace Stage

/-- What becomes of a platform up to a stage. -/
def platform (start : Platform) : Stage → Platform
  | computeRuntime => start
  | checksums release _ _ => withRuntime start release
  | nightly scan => scan.platform start
  | artifact scan run =>
      { scan.platform start with igcDev := start.igcDev.built (shortOf run) run.updatedAt }
  | cm scan run url =>
      { scan.platform start with
        igcDev := (start.igcDev.built (shortOf run) run.updatedAt).linked url }
  | levelZero scan run url compiler => withCompiler start scan run url compiler
  | done scan run url compiler loader =>
      { withCompiler start scan run url compiler with
        levelZero := start.levelZero.released loader.tag loader.tag
          (Project.levelZero.releaseUrl loader.tag) }

/-- The edits up to a stage make the platform what it is there. -/
theorem revise_edits (start : Platform) (stage : Stage) :
    start.revise stage.edits = stage.platform start := by
  cases stage with
  | computeRuntime | checksums => rfl
  | nightly scan | artifact scan _ | cm scan _ _ | levelZero scan _ _ _ | done scan _ _ _ _ =>
      obtain ⟨release, read, igcVersion?⟩ := scan
      cases igcVersion? <;> rfl

variable {client : Client} {policy : Policy} {start : Trace} {last : Stage}

/-- The platform that an uplift leaves behind is that of its last stage. -/
theorem Ends.revise_eq {ending : Except Failure Unit × Trace}
    (ends : Ends client policy start last ending) (platform : Platform) :
    platform.revise ending.2.edits = last.platform (platform.revise start.edits) := by
  have edits : ending.2.edits = start.edits ++ last.edits := by
    cases ends with
    | done _ stands => exact stands.edits
    | halted _ _ edits => exact edits
  rw [edits, Platform.revise_append, revise_edits]

/-- Only the nightly compiler has a time that changes. -/
theorem updatedAt_platform (start : Platform) (stage : Stage) {component : Component}
    (other : component ≠ .igcDev) :
    ((stage.platform start).get component).updatedAt = (start.get component).updatedAt := by
  cases component with
  | igcDev => exact absurd rfl other
  | igc =>
      cases stage with
      | computeRuntime | checksums => rfl
      | nightly scan | artifact scan _ | cm scan _ _ | levelZero scan _ _ _ | done scan _ _ _ _ =>
          obtain ⟨release, read, igcVersion?⟩ := scan
          cases igcVersion? <;> rfl
  | computeRuntime | cm | levelZero => cases stage <;> rfl

end Stage

/-! ## The platform that is left behind -/

/--
An uplift in place leaves behind the platform with the recorded edits, which is
that of its last stage.  One that fails halts there, and there is no other stage
at which it could.  However it ends, nothing that is carried along changes, and
no time but that of the nightly compiler.
-/
theorem upliftPlatform_leaves (client : Client) (policy : Policy) (trace : Trace)
    (platform : Platform) :
    let ending := (upliftPlatform client policy).after trace
    let start := platform.revise trace.edits
    let final := platform.revise ending.2.edits
    (InPlace.upliftPlatform client policy).on ⟨start, trace.requests, trace.events⟩ =
        (ending.1, ⟨final, ending.2.requests, ending.2.events⟩) ∧
      (∃ last, Stage.Reached client policy trace.requests last ∧ final = last.platform start ∧
        match ending.1 with
        | .ok () => last.isDone = true
        | .error failure =>
            Stage.Halts client policy trace.requests last failure ∧
              ∀ other fault, Stage.Reached client policy trace.requests other →
                Stage.Halts client policy trace.requests other fault → other = last) ∧
      final.extra = start.extra ∧
      (∀ component, (final.get component).extra = (start.get component).extra) ∧
      ∀ component, component ≠ .igcDev →
        (final.get component).updatedAt = (start.get component).updatedAt := by
  have inPlace := InPlace.simulates_upliftPlatform client policy platform trace
  obtain ⟨last, reached, ends⟩ := upliftPlatform_ends client policy trace
  generalize (upliftPlatform client policy).after trace = ending at inPlace ends
  intro ending start final
  have left : final = last.platform start := ends.revise_eq platform
  refine ⟨inPlace, ⟨last, reached, left, ?_⟩, ?_, fun component => ?_, fun component other => ?_⟩
  · cases ends with
    | done isDone _ => exact isDone
    | halted halts _ _ =>
        exact ⟨halts, fun other fault reachedOther haltsOther =>
          Stage.eq_of_halts reachedOther reached haltsOther halts⟩
  · rw [left, ← Stage.revise_edits, Platform.extra_revise]
  · rw [left, ← Stage.revise_edits, Platform.extra_get_revise]
  · rw [left, Stage.updatedAt_platform start last other]

end Uplift

end DriverUplift
