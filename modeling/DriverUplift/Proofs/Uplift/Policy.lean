import DriverUplift.Proofs.Uplift.Partial

/-!
# Strict and lenient uplifts

A lenient uplift passes every stage that a strict one passes, and one more: the
stage where all listings have been read and none names the compiler.  The two
therefore end alike unless the strict one halts there, and from there on the
lenient one leaves the compiler alone.
-/

namespace DriverUplift.Uplift

open Github (Asset Client Release)

namespace Stage

variable {client : Client} {policy : Policy} {before : List String} {stage next last : Stage}

/-! ## Onward -/

/-- What was asked for at first stays in front. -/
theorem requests_prefix
    (onward : Relation.ReflTransGen (Passes client policy before) stage last) :
    stage.requests <+: last.requests := by
  induction onward with
  | refl => exact List.prefix_rfl
  | tail _ passes ih =>
      rw [passes.requests_eq]
      exact ih.trans (List.prefix_append _ _)

/-- What reading the listings has come to, from the stage on where that is known. -/
def scan? : Stage → Option Scan
  | computeRuntime => none
  | checksums _ _ _ => none
  | nightly scan => some scan
  | artifact scan _ => some scan
  | cm scan _ _ => some scan
  | levelZero scan _ _ _ => some scan
  | done scan _ _ _ _ => some scan

theorem scan?_of_reached {scan : Scan}
    (onward : Relation.ReflTransGen (Passes client policy before) stage last)
    (known : stage.scan? = some scan) : last.scan? = some scan := by
  induction onward with
  | refl => exact known
  | tail _ passes ih =>
      rw [← ih]
      cases passes with
      | computeRuntime | unnamed | named | missed => cases ih
      | nightly | artifact | cm | levelZero => rfl

/-- The compiler is left alone if no listing names its version. -/
theorem igc_platform (start : Platform) {scan : Scan} (known : stage.scan? = some scan)
    (unnamed : scan.igcVersion? = none) : (stage.platform start).igc = start.igc := by
  have unchanged : (scan.platform start).igc = start.igc := by rw [Scan.platform, unnamed]
  cases stage with
  | computeRuntime | checksums => cases known
  | nightly | artifact | cm | levelZero | done =>
      obtain rfl := Option.some.inj known
      exact unchanged

/-- Everything asked for before the last stage has been asked for in the end. -/
theorem Ends.asked_prefix {start : Trace} {ending : Except Failure Unit × Trace}
    (ends : Ends client policy start last ending) :
    last.asked client start.requests <+: ending.2.requests := by
  cases ends with
  | done _ stands => exact stands.requests ▸ List.prefix_rfl
  | halted _ requests _ =>
      rw [requests]
      exact List.prefix_append _ _

/-! ## From strict to lenient -/

theorem Passes.lenient (passes : Passes client policy before stage next) :
    Passes client .lenient before stage next := by
  cases passes with
  | computeRuntime found => exact .computeRuntime found
  | named answered named => exact .named answered named
  | unnamed answered unnamed => exact .unnamed answered unnamed
  | missed _ => exact .missed rfl
  | nightly found => exact .nightly found
  | artifact found => exact .artifact found
  | cm found => exact .cm found
  | levelZero found => exact .levelZero found

/-- A lenient uplift comes to every stage to which a strict one comes. -/
theorem Reached.lenient (reached : Reached client policy before stage) :
    Reached client .lenient before stage :=
  Relation.ReflTransGen.mono (fun _ _ => Passes.lenient) _ _ reached

end Stage

/-! ## Both from the same start -/

/--
Two uplifts have the same result, have asked for the same and made the same edits,
which leave the same of any platform.
-/
structure Alike (one other : Except Failure Unit × Trace) : Prop where
  result : one.1 = other.1
  requests : one.2.requests = other.2.requests
  edits : one.2.edits = other.2.edits

/-- An uplift that comes to the last stage of another one, and halts there if that one fails,
ends alike. -/
theorem Stage.Ends.alike {client : Client} {policy otherPolicy : Policy} {start other : Trace}
    {last : Stage} {ending : Except Failure Unit × Trace}
    (ends : Stage.Ends client policy start last ending)
    (reached : Stage.Reached client otherPolicy other.requests last)
    (requests : start.requests = other.requests) (edits : start.edits = other.edits)
    (halts : ∀ failure, ending.1 = .error failure →
      Stage.Halts client policy start.requests last failure →
        Stage.Halts client otherPolicy other.requests last failure) :
    Alike ending ((upliftPlatform client otherPolicy).after other) := by
  have begins := Stage.stands_computeRuntime client other
  cases ends with
  | done isDone stands =>
      obtain ⟨final, same, stood⟩ := Stage.after_rest_of_done reached begins isDone
      rw [Stage.rest] at same
      rw [same]
      refine ⟨rfl, ?_, ?_⟩
      · rw [stands.requests, stood.requests, requests]
      · rw [stands.edits, stood.edits, edits]
  | halted halted asked edited =>
      obtain ⟨final, same, askedOther, editedOther⟩ :=
        Stage.after_rest_of_halts reached begins (halts _ rfl halted)
      rw [Stage.rest] at same
      rw [same]
      refine ⟨rfl, ?_, ?_⟩
      · rw [asked, askedOther, requests]
      · rw [edited, editedOther, edits]

/-- No listing names the compiler: the strict uplift fails, and the lenient one goes on. -/
structure Missed (client : Client) (start : Trace) (release : Release)
    (strict lenient : Except Failure Unit × Trace) : Prop where
  vain : Stage.ReadInVain client start.requests release (listings release) []
  result : strict.1 = .error (.igcVersionNotFound release.tag)
  requests : strict.2.requests <+: lenient.2.requests
  /-- The strict uplift has changed the compute runtime and nothing else. -/
  platform : ∀ platform : Platform,
    platform.revise strict.2.edits = withRuntime (platform.revise start.edits) release
  /-- The lenient uplift leaves the compiler as it is, however it ends. -/
  igc : ∀ platform : Platform,
    (platform.revise lenient.2.edits).igc = (platform.revise start.edits).igc

variable {client : Client} {start : Trace}

/-- A strict uplift that halts without a failed request has missed the version. -/
theorem missed_of_ends {release : Release} {read : List Asset}
    {strict : Except Failure Unit × Trace}
    (reached : Stage.Reached client .strict start.requests (.checksums release read []))
    (ends : Stage.Ends client .strict start (.checksums release read []) strict)
    (failed : strict.1 = .error (.igcVersionNotFound release.tag))
    (requests : strict.2.requests = (Stage.checksums release read []).asked client start.requests) :
    Missed client start release strict ((upliftPlatform client .lenient).after start) := by
  have vain := Stage.readInVain_of_reached reached
  obtain rfl : listings release = read := vain.split.trans (List.append_nil read)
  -- The lenient uplift passes the stage where the strict one halts.
  obtain ⟨last, onward, endsLenient⟩ := upliftPlatform_ends_of_reached
    (reached.lenient.tail (.missed rfl))
  refine ⟨vain, failed, ?_, ends.revise_eq, fun platform => ?_⟩
  · rw [requests]
    refine List.IsPrefix.trans ?_ endsLenient.asked_prefix
    exact Client.asked_prefix (Stage.requests_prefix (.head (.missed rfl) onward))
  · rw [endsLenient.revise_eq]
    exact Stage.igc_platform _ (Stage.scan?_of_reached onward rfl) rfl

/-- Strict and lenient uplifts end alike, or the version is missed. -/
theorem alike_or_missed (client : Client) (start : Trace) :
    (Alike ((upliftPlatform client .strict).after start)
          ((upliftPlatform client .lenient).after start) ∧
        ∀ tag, ((upliftPlatform client .strict).after start).1 =
            .error (.igcVersionNotFound tag) →
          ∃ asked url, client.transport.answer asked url = .error (.igcVersionNotFound tag)) ∨
      ∃ release, Missed client start release ((upliftPlatform client .strict).after start)
        ((upliftPlatform client .lenient).after start) := by
  obtain ⟨last, reached, ends⟩ := upliftPlatform_ends client .strict start
  have alike := ends.alike reached.lenient rfl rfl
  generalize (upliftPlatform client .strict).after start = strict at ends alike ⊢
  cases ends with
  | done _ _ =>
      refine .inl ⟨alike fun failure failed _ => ?_, fun tag failed => ?_⟩
      · cases failed
      · cases failed
  | halted halts requests edits =>
      -- A failure of the transport may look like a missed version, but both policies meet it.
      cases halts with
      | failed asks fails =>
          refine .inl ⟨alike fun failure failed _ => ?_, fun tag failed => ?_⟩
          · obtain rfl := Except.error.inj failed
            exact .failed asks fails
          · obtain rfl := Except.error.inj failed
            exact ⟨_, _, fails.answer_eq⟩
      | @missed release read strict =>
          have last := requests.trans (List.append_nil _)
          exact .inr ⟨release, missed_of_ends reached (.halted (.missed strict) requests edits)
            rfl last⟩

/-- A lenient uplift does not fail with a miss of its own. -/
theorem answer_of_lenient {tag : String}
    (failed : ((upliftPlatform client .lenient).after start).1 =
      .error (.igcVersionNotFound tag)) :
    ∃ asked url, client.transport.answer asked url = .error (.igcVersionNotFound tag) := by
  obtain ⟨last, _, ends⟩ := upliftPlatform_ends client .lenient start
  generalize (upliftPlatform client .lenient).after start = lenient at ends failed
  cases ends with
  | done => cases failed
  | halted halts _ _ =>
      obtain rfl := Except.error.inj failed
      cases halts with
      | failed _ fails => exact ⟨_, _, fails.answer_eq⟩
      | missed strict => cases strict

/--
A strict uplift that does not miss the version ends like a lenient one.  One that
misses it has read all listings in vain and has changed nothing but the compute
runtime; the lenient uplift goes on from there and leaves the compiler as it is.
A lenient uplift never fails with a miss, unless the transport itself does.
-/
theorem upliftPlatform_policies (client : Client) (start : Trace) :
    let strict := (upliftPlatform client .strict).after start
    let lenient := (upliftPlatform client .lenient).after start
    ((∀ tag, strict.1 ≠ .error (.igcVersionNotFound tag)) → Alike strict lenient) ∧
      (∀ tag, strict.1 = .error (.igcVersionNotFound tag) →
        (∃ release, tag = release.tag ∧ Missed client start release strict lenient) ∨
          Alike strict lenient ∧
            ∃ asked url, client.transport.answer asked url = .error (.igcVersionNotFound tag)) ∧
      ∀ tag, lenient.1 = .error (.igcVersionNotFound tag) →
        ∃ asked url, client.transport.answer asked url = .error (.igcVersionNotFound tag) := by
  intro strict lenient
  refine ⟨fun found => ?_, fun tag failed => ?_, fun tag => answer_of_lenient⟩
  · rcases alike_or_missed client start with ⟨alike, _⟩ | ⟨release, missed⟩
    · exact alike
    · exact absurd missed.result (found release.tag)
  · rcases alike_or_missed client start with ⟨alike, answered⟩ | ⟨release, missed⟩
    · exact .inr ⟨alike, answered tag failed⟩
    · have same := Except.error.inj (failed.symm.trans missed.result)
      exact .inl ⟨release, Failure.igcVersionNotFound.inj same, missed⟩

/-- Without any listing the version is missed. -/
example :
    ((upliftPlatform ⟨.fixed fun _ => .ok "[\x7b\"tag_name\":\"v2\",\"assets\":[]\x7d]", "api"⟩
      .strict).after {}).1 = .error (.igcVersionNotFound "v2") := by
  decide +kernel

end DriverUplift.Uplift
